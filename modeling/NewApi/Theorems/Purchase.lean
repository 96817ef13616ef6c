import NewApi.Model.Purchase

/-!
# The purchase limit of a plan, where no count is stale

`CreateUserSubscriptionFromPlanTx` counts the user's subscriptions to the plan and inserts one more later. The lock of a trade number
orders only the callbacks of one order, and nothing covers the count, so two orders of one user that complete at once exceed the limit
(`two_orders_exceed_limit`). There is no other way (`purchase_limit_holds`).
-/

namespace NewApi

open Threads Run Tx PurchaseDb

namespace PurchaseAux

/-! ## Where a call stands -/

/-- The transaction's plan is the plan of its id. -/
def Known (env : PurchaseEnv) (tx : PurchaseTx) : Prop := env.plans tx.plan.id = some tx.plan

/-- The count that was read leaves room for one more. -/
def Room (tx : PurchaseTx) (n : Nat) : Prop := 0 < tx.plan.maxPurchasePerUser → (n : Int) < tx.plan.maxPurchasePerUser

/-- What a call knows where it stands. -/
def Phase (env : PurchaseEnv) : PurchaseState → Prop
  | .ready => True
  | .locked => True
  | .debiting tx => Known env tx
  | .creating tx => Known env tx
  | .counted tx n => Known env tx ∧ Room tx n
  | .regrouping tx n _ _ _ => Known env tx ∧ Room tx n
  | .placing tx n _ _ _ => Known env tx ∧ Room tx n
  | .inserted tx n => Known env tx ∧ Room tx n
  | .closing tx n => Known env tx ∧ Room tx n
  | .done _ => True

/-- The user and the plan of the row a call has inserted and not committed. -/
def placed : PurchaseState → List (Int × Int)
  | .inserted tx _ => [(tx.userId, tx.plan.id)]
  | .closing tx _ => [(tx.userId, tx.plan.id)]
  | _ => []

def parties (r : PurchasedSubscription) : Int × Int := (r.userId, r.planId)

variable {ι : Type} [DecidableEq ι] {env : PurchaseEnv} {i : ι}

/-- The ways a statement can go, as far as the subscriptions are concerned. -/
inductive Goes (env : PurchaseEnv) (e : PurchaseEvent ι) (db : PurchaseDb ι) :
    PurchaseState → PurchaseDb ι → PurchaseState → Prop where
  | keeps (s s' : PurchaseState) (db' : PurchaseDb ι) (hsubs : db'.subs = db.subs) (hplaced : placed s' = placed s)
      (hphase : Phase env s → Phase env s') : Goes env e db s db' s'
  | ends (s : PurchaseState) (result : Except String Unit) : Goes env e db s (db.close e.caller) (.done result)
  | inserts (tx : PurchaseTx) (n : Nat) (now endUnix : Int) (prev : String) (r : PurchasedSubscription) (db' : PurchaseDb ι)
      (hr : parties r = (tx.userId, tx.plan.id)) (hsubs : db'.subs = db.subs.insert e.caller r) :
      Goes env e db (.placing tx n now endUnix prev) db' (.inserted tx n)
  | commits (tx : PurchaseTx) (n : Nat) (hok : e.fault = none) :
      Goes env e db (.closing tx n) (db.commit e.caller tx) (.done (.ok ()))

theorem goes_waits (e : PurchaseEvent ι) (db : PurchaseDb ι) (s : PurchaseState) : Goes env e db s db s :=
  .keeps s s db rfl rfl id

/-- A plan that was read is a plan of the shop. -/
theorem known_of_getPlan {id : Int} {plan : PurchasePlan} (h : env.getSubscriptionPlanById id = .ok plan) (userId charge : Int)
    (regroup : Bool) (order : Option SubscriptionOrder) : Known env ⟨userId, plan, charge, regroup, order⟩ := by
  unfold PurchaseEnv.getSubscriptionPlanById at h
  split at h
  · cases h
  split at h
  · cases h
  rename_i plan' hplan
  cases h
  have hid := env.plans_id id plan hplan
  unfold Known
  rw [hid]
  exact hplan

/-- The order is read under its lock. -/
theorem readOrder_goes (tradeNo provider method : String) (e : PurchaseEvent ι) (db : PurchaseDb ι) :
    Goes env e db .locked (readOrder env tradeNo provider method e db).1 (readOrder env tradeNo provider method e db).2 := by
  unfold readOrder
  split
  · exact .ends _ _
  split
  · exact .ends _ _
  split
  · exact .ends _ _
  split
  · exact .ends _ _
  split
  · exact .ends _ _
  split
  · exact .ends _ _
  · rename_i plan hplan
    exact .keeps _ _ _ rfl rfl fun _ => known_of_getPlan hplan _ _ _ _

/-- The wallet is read. -/
theorem readWallet_goes (userId planId : Int) (tradeNo : String) (e : PurchaseEvent ι) (db : PurchaseDb ι) :
    Goes env e db .ready (readWallet env userId planId tradeNo e db).1 (readWallet env userId planId tradeNo e db).2 := by
  unfold readWallet
  split
  · exact .ends _ _
  rename_i plan hplan
  split
  · exact .ends _ _
  split
  · exact .ends _ _
  split
  · exact .ends _ _
  split
  · exact .ends _ _
  split
  · exact .ends _ _
  split
  · exact .ends _ _
  have hknown := known_of_getPlan hplan
  refine .keeps _ _ _ rfl ?_ fun _ => ?_
  · split <;> rfl
  · split <;> exact hknown _ _ _ _

/-- A call begins. -/
theorem purchaseBegins_goes (call : PurchaseCall) (e : PurchaseEvent ι) (db : PurchaseDb ι) :
    Goes env e db .ready (purchaseBegins env call e db).1 (purchaseBegins env call e db).2 := by
  unfold purchaseBegins
  cases call with
  | order tradeNo provider method =>
    simp only
    split
    · exact .keeps _ _ _ rfl rfl fun _ => trivial
    · exact goes_waits e db _
  | admin userId planId =>
    simp only
    split
    · exact .ends _ _
    split
    · exact .ends _ _
    · rename_i plan hplan
      exact .keeps _ _ _ rfl rfl fun _ => known_of_getPlan hplan _ _ _ _
  | balance userId planId tradeNo =>
    simp only
    split
    · exact .ends _ _
    · exact readWallet_goes userId planId tradeNo e db

/-- The subscriptions of the plan are counted. -/
theorem countPurchases_goes (tx : PurchaseTx) (e : PurchaseEvent ι) (db : PurchaseDb ι) :
    Goes env e db (.creating tx) (countPurchases tx e db).1 (countPurchases tx e db).2 := by
  unfold countPurchases
  split
  · exact .ends _ _
  split
  · exact .ends _ _
  split
  · simp only
    split
    · exact .ends _ _
    · rename_i hcount
      exact .keeps _ _ _ rfl rfl fun hknown => ⟨hknown, fun _ => not_le.1 hcount⟩
  · rename_i hlimit
    exact .keeps _ _ _ rfl rfl fun hknown => ⟨hknown, fun h => absurd h hlimit⟩

/-- What every statement does. -/
theorem purchaseStatement_goes (call : PurchaseCall) (e : PurchaseEvent ι) (db : PurchaseDb ι) (s : PurchaseState) :
    Goes env e db s (purchaseStatement env call e db s).1 (purchaseStatement env call e db s).2 := by
  unfold purchaseStatement
  split
  · exact goes_waits e db _
  · split
    · exact readOrder_goes _ _ _ e db
    · exact goes_waits e db _
  · exact .ends _ _
  · exact purchaseBegins_goes call e db
  · split
    · exact .keeps _ _ _ rfl rfl id
    · exact goes_waits e db _
  · exact countPurchases_goes _ e db
  · unfold readGroup
    split
    · exact .ends _ _
    · simp only
      split <;> exact .keeps _ _ _ rfl rfl id
  · split
    · exact .keeps _ _ _ rfl rfl id
    · exact goes_waits e db _
  · exact .inserts _ _ _ _ _ _ _ rfl rfl
  · exact .keeps _ _ _ rfl rfl id
  · rename_i hfault
    exact .commits _ _ hfault

/-! ## The invariant -/

/-- What one call's part of the database looks like: it knows what it must where it stands, and the rows it has not committed
are the one it inserted. -/
structure CallOk (env : PurchaseEnv) (db : PurchaseDb ι) (i : ι) (s : PurchaseState) : Prop where
  phase : Phase env s
  rows : (db.subs.pending i).map parties = placed s

/-- The invariant of a run: the limit holds and every call is in order. -/
structure PurchaseInv (env : PurchaseEnv) (c : Conf (PurchaseDb ι) ι PurchaseState) : Prop where
  limit : LimitHolds env c.shared
  calls : ∀ i, CallOk env c.shared i (c.threads i)

theorem CallOk.congr {db db' : PurchaseDb ι} {s : PurchaseState} (h : CallOk env db i s)
    (hrows : db'.subs.pending i = db.subs.pending i) : CallOk env db' i s :=
  ⟨h.phase, by rw [hrows]; exact h.rows⟩

omit [DecidableEq ι] in
/-- The limit is on the committed rows. -/
theorem limitHolds_congr {db db' : PurchaseDb ι} (h : LimitHolds env db) (hsubs : db'.subs.committed = db.subs.committed) :
    LimitHolds env db' := by
  intro planId plan userId hplan hpos
  have hle := h planId plan userId hplan hpos
  unfold owned at hle ⊢
  rw [hsubs]
  exact hle

/-- A commit that meets the condition keeps the limit: the count it read had room, and has not grown. -/
theorem limit_commit {db : PurchaseDb ι} {tx : PurchaseTx} {n : Nat} (h : LimitHolds env db) (hcall : CallOk env db i (.closing tx n))
    (hfresh : 0 < tx.plan.maxPurchasePerUser → db.owned tx.userId tx.plan.id ≤ n) : LimitHolds env (db.commit i tx) := by
  intro planId plan userId hplan hpos
  obtain ⟨⟨hknown, hroom⟩, hrows⟩ := hcall
  have hbefore := h planId plan userId hplan hpos
  have howned : (db.commit i tx).owned userId planId =
      db.owned userId planId + (placed (.closing tx n)).countP (fun p => decide (p = (userId, planId))) := by
    calc (db.commit i tx).owned userId planId = ((db.subs.commit i).rollback i).committed.countP (isOf userId planId) := rfl
      _ = db.owned userId planId + (db.subs.pending i).countP (isOf userId planId) := by
        rw [Rows.committed_rollback, Rows.countP_committed_commit]
        rfl
      _ = _ := by
        rw [← hrows, List.countP_map]
        refine congrArg _ (List.countP_congr fun r _ => ?_)
        simp [isOf, parties]
  rw [howned]
  by_cases hsame : (tx.userId, tx.plan.id) = (userId, planId)
  · obtain ⟨rfl, rfl⟩ := Prod.ext_iff.1 hsame
    -- the plan of the row is the plan the transaction knows
    have hp : plan = tx.plan := Option.some.inj (hplan.symm.trans hknown)
    subst hp
    have hlt := hroom hpos
    have hle := hfresh hpos
    simp only [placed, List.countP_singleton, decide_true, if_true]
    omega
  · simp only [placed, List.countP_singleton, hsame, decide_false, Bool.false_eq_true, if_false, Nat.add_zero]
    exact hbefore

variable {c : Conf (PurchaseDb ι) ι PurchaseState}

theorem calls_update {db' : PurchaseDb ι} {s' : PurchaseState} (h : PurchaseInv env c) (hself : CallOk env db' i s')
    (hrows : ∀ j, j ≠ i → db'.subs.pending j = c.shared.subs.pending j) : ∀ j, CallOk env db' j (Function.update c.threads i s' j) := by
  refine (Function.forall_update_iff c.threads (p := fun j s => CallOk env db' j s)).2 ⟨hself, ?_⟩
  intro j hj
  exact (h.calls j).congr (hrows j hj)

/-- A step whose count is fresh keeps the invariant. -/
theorem purchaseInv_step {calls : ι → PurchaseCall} {e : PurchaseEvent ι} (hok : CountFresh c e) (h : PurchaseInv env c) :
    PurchaseInv env (purchaseStep env calls c e) := by
  have hgoes : Goes env e c.shared (c.threads e.caller) _ _ := purchaseStatement_goes (calls e.caller) e c.shared _
  refine Conf.act_of_ways hgoes ?_
  intro s db' s' hs hgoes
  have hcall := h.calls e.caller
  rw [hs] at hcall
  cases hgoes with
  | keeps s s' db' hsubs hplaced hphase =>
    refine ⟨limitHolds_congr h.limit (by rw [hsubs]), calls_update h ⟨hphase hcall.phase, ?_⟩ fun j _ => by rw [hsubs]⟩
    rw [hsubs, hplaced]
    exact hcall.rows
  | ends s result =>
    refine ⟨limitHolds_congr h.limit (Rows.committed_rollback _ _), calls_update h ⟨trivial, ?_⟩ fun j hj => Rows.pending_rollback_ne _ hj⟩
    exact congrArg (List.map parties) (Rows.pending_rollback_self _ _)
  | inserts tx n now endUnix prev r db' hr hsubs =>
    refine ⟨limitHolds_congr h.limit (by rw [hsubs, Rows.committed_insert]), calls_update h ⟨hcall.phase, ?_⟩ fun j hj => ?_⟩
    · rw [hsubs, Rows.pending_insert_self, List.map_append, hcall.rows]
      exact congrArg (fun p => [p]) hr
    · rw [hsubs]
      exact Rows.pending_insert_ne _ r hj
  | commits tx n hfault =>
    have hfresh := hok (tx, n) (by rw [hs]; rfl) hfault
    refine ⟨limit_commit h.limit hcall hfresh, calls_update h ⟨trivial, ?_⟩ fun j hj => ?_⟩
    · exact congrArg (List.map parties) (Rows.pending_rollback_self _ _)
    · exact (Rows.pending_rollback_ne _ hj).trans (Rows.pending_commit_ne _ hj)

end PurchaseAux

open PurchaseAux

/-- From a database without open transactions in which the limits hold, in every run of concurrent completions, grants and
wallet purchases whose commits meet no count that has grown since it was read, no user ever owns more subscriptions to a plan
than its limit. -/
theorem purchase_limit_holds {ι : Type} [DecidableEq ι] (env : PurchaseEnv) (calls : ι → PurchaseCall)
    (subs : List PurchasedSubscription) (orders : String → Option SubscriptionOrder) (users : Int → Option PurchaseUser)
    (hstart : LimitHolds env (purchaseStart subs orders users : Conf (PurchaseDb ι) ι PurchaseState).shared)
    (es : List (PurchaseEvent ι)) (hfresh : Along (purchaseStep env calls) CountFresh (purchaseStart subs orders users) es) :
    ∀ pre, pre <+: es → LimitHolds env (exec (purchaseStep env calls) (purchaseStart subs orders users) pre).shared := by
  intro pre hpre
  have h0 : PurchaseInv env (purchaseStart subs orders users : Conf (PurchaseDb ι) ι PurchaseState) := by
    refine ⟨hstart, fun i => ⟨trivial, ?_⟩⟩
    exact congrArg (List.map parties) (Rows.pending_ofList subs i)
  exact (hfresh.invariant_reached (P := PurchaseInv env) (fun _ _ hok h => purchaseInv_step hok h) h0 pre hpre).limit

/-! ## Two orders at once -/

def samplePlan : PurchasePlan :=
  { id := 1, title := "basic", quotaResetPeriod := "never", quotaResetCustomSeconds := 0, priceAmount := 10
    durationUnit := "day", durationValue := 30, customSeconds := 0, enabled := true, allowBalancePay := none
    allowWalletOverflow := none, maxPurchasePerUser := 1, upgradeGroup := "", downgradeGroup := "", totalAmount := 1000 }

def sampleShop : PurchaseEnv where
  plans id := if id = 1 then some samplePlan else none
  plans_id := by
    intro id plan h
    split at h
    · rename_i hid
      cases h
      exact hid.symm
    · cases h
  calendar := Calendar.utc
  zoneOffset _ := 0
  quotaPerUnit := 500000

/-- A pending order of user 5 for the plan. -/
def sampleOrder (tradeNo : String) : SubscriptionOrder := ⟨tradeNo, 5, 1, "stripe", "stripe", "pending", 0⟩

/-- Two pending orders of the user, and their completions. -/
def sampleOrders (tradeNo : String) : Option SubscriptionOrder :=
  if tradeNo = "A" ∨ tradeNo = "B" then some (sampleOrder tradeNo) else none

def sampleCompletions (i : Fin 2) : PurchaseCall := .order (if i = 0 then "A" else "B") "stripe" ""

def samplePurchases : Conf (PurchaseDb (Fin 2)) (Fin 2) PurchaseState := purchaseStart [] sampleOrders fun _ => some ⟨0, "default"⟩

def purchaseTurns (i : Fin 2) (n : Nat) : List (PurchaseEvent (Fin 2)) := List.replicate n ⟨i, 100, none⟩

/-- The first completion counts; the second runs to its end; then the first goes on. The user owns two subscriptions to a plan
that allows one. -/
theorem two_orders_exceed_limit :
    let run := exec (purchaseStep sampleShop sampleCompletions) samplePurchases
      (purchaseTurns 0 3 ++ purchaseTurns 1 7 ++ purchaseTurns 0 4)
    LimitHolds sampleShop samplePurchases.shared ∧ run.shared.owned 5 1 = 2 ∧ ¬ LimitHolds sampleShop run.shared := by
  refine ⟨fun planId plan userId hplan hpos => hpos.le, by decide, fun h => ?_⟩
  have hle := h 1 samplePlan 5 rfl (by decide)
  revert hle
  decide

theorem purchase_limit_holds_sample :
    let run := exec (purchaseStep sampleShop sampleCompletions) samplePurchases (purchaseTurns 0 7 ++ purchaseTurns 1 3)
    run.shared.owned 5 1 = 1 ∧ LimitHolds sampleShop run.shared := by
  refine ⟨by decide, ?_⟩
  exact purchase_limit_holds sampleShop sampleCompletions [] sampleOrders (fun _ => some ⟨0, "default"⟩)
    (fun planId plan userId hplan hpos => hpos.le) _ (by decide) _ List.prefix_rfl

end NewApi
