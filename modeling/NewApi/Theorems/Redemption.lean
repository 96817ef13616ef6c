import Mathlib
import NewApi.Model.Redemption

/-!
# A redemption code pays once, where no save is stale

`Redeem` decides on a row it read without a lock, and its save does not ask for the status again. Two calls that both read the enabled row
both pay: the second save only waits until the first transaction is over (`two_redeems_pay_twice`). There is no other way
(`redeem_pays_once`).
-/

namespace NewApi

open Threads Run RedeemDb Tx

namespace RedemptionAux

variable {ι : Type} {i : ι} {db' : RedeemDb ι} {r : Redemption} {e : RedeemEvent ι} (db : RedeemDb ι)

@[simp] theorem lockUser_keeps (i : ι) (u : Int) : (db.lockUser i u).code = db.code ∧ (db.lockUser i u).balance = db.balance ∧
    (db.lockUser i u).codeLock = db.codeLock := by
  unfold lockUser
  split <;> exact ⟨rfl, rfl, rfl⟩

variable [DecidableEq ι]

/-! ## What one statement does -/

inductive Goes (userId : Int) (e : RedeemEvent ι) (db : RedeemDb ι) : RedeemState → RedeemDb ι → RedeemState → Prop where
  | waits (s : RedeemState) : Goes userId e db s db s
  | fails (s : RedeemState) (db' : RedeemDb ι) (msg : String) (h : db' = db ∨ db' = db.release e.caller) :
      Goes userId e db s db' (.done (.error msg))
  | selects (r : Redemption) (hrow : db.code = some r) (hr : r.status = .enabled) : Goes userId e db .ready db (.selected r)
  | credits (r : Redemption) : Goes userId e db (.selected r) (db.lockUser e.caller userId) (.credited r)
  | saves (r : Redemption) (hok : e.refused = false) (hfree : free db.codeLock e.caller) :
      Goes userId e db (.credited r) { db with codeLock := some e.caller }
        (.saved { r with redeemedTime := e.now, status := .used, usedUserId := userId })
  | commits (r : Redemption) : Goes userId e db (.saved r) (db.commit e.caller userId r) (.done (.ok r.quota))

/-- What every statement does. -/
theorem redeemStatement_goes (key : String) (userId : Int) (e : RedeemEvent ι) (db : RedeemDb ι) (s : RedeemState) :
    Goes userId e db s (redeemStatement key userId e db s).1 (redeemStatement key userId e db s).2 := by
  cases s with
  | ready =>
    simp only [redeemStatement]
    split
    · exact .fails _ _ _ (.inl rfl)
    split
    · exact .fails _ _ _ (.inl rfl)
    split
    · exact .fails _ _ _ (.inl rfl)
    rename_i r hread
    have hrow : db.code = some r := by
      split at hread
      · cases hread
      · exact hread
    split
    · exact .fails _ _ _ (.inl rfl)
    rename_i hstatus
    split
    · exact .fails _ _ _ (.inl rfl)
    · exact .selects r hrow (not_not.1 hstatus)
  | selected r =>
    simp only [redeemStatement]
    split
    · exact .fails _ _ _ (.inr rfl)
    split
    · exact .credits r
    · exact .waits _
  | credited r =>
    simp only [redeemStatement]
    split
    · exact .fails _ _ _ (.inr rfl)
    rename_i hok
    split
    · rename_i hfree
      exact .saves r (by simpa using hok) hfree
    · exact .waits _
  | saved r =>
    simp only [redeemStatement]
    split
    · exact .fails _ _ _ (.inr rfl)
    · exact .commits r
  | done result => exact .waits _

/-! ## The invariant -/

/-- What a call's own state says about the code: the row it read is the code's first row, and a row it saved is locked by it. -/
def CallOk (db0 db : RedeemDb ι) (i : ι) : RedeemState → Prop
  | .ready => True
  | .selected r => db0.code = some r
  | .credited r => db0.code = some r
  | .saved r => db.codeLock = some i ∧ r.status = .used ∧ db0.code.map Redemption.quota = some r.quota
  | .done _ => True

/-- The code has not paid: nothing is changed and no call has returned success. -/
structure Unpaid (db0 : RedeemDb ι) (c : Conf (RedeemDb ι) ι RedeemState) : Prop where
  code : c.shared.code = db0.code
  balance : c.shared.balance = db0.balance
  none : ∀ i q, c.threads i ≠ .done (.ok q)

/-- The code has paid its quota to one user, in one call; its row is used up and no other call has saved it. -/
structure Paid (db0 : RedeemDb ι) (c : Conf (RedeemDb ι) ι RedeemState) : Prop where
  code : ∀ r, c.shared.code = some r → r.status ≠ .enabled
  balance : ∃ u q, db0.code.map Redemption.quota = some q ∧ c.shared.balance = credit db0.balance u q
  one : ∃ i, ∀ j q, c.threads j = .done (.ok q) → j = i
  none : ∀ i r, c.threads i ≠ .saved r

/-- The invariant of a run: every call is in order, and the code has paid once or not at all. -/
structure RedeemInv (db0 : RedeemDb ι) (c : Conf (RedeemDb ι) ι RedeemState) : Prop where
  calls : ∀ i, CallOk db0 c.shared i (c.threads i)
  paid : Unpaid db0 c ∨ Paid db0 c

omit [DecidableEq ι] in
theorem CallOk.mono {db0 db : RedeemDb ι} {s : RedeemState} (h : CallOk db0 db i s)
    (hlock : db.codeLock = some i → db'.codeLock = some i) : CallOk db0 db' i s := by
  cases s with
  | ready | done _ => trivial
  | selected _ | credited _ => exact h
  | saved r => exact ⟨hlock h.1, h.2⟩

variable {db0 : RedeemDb ι} {c : Conf (RedeemDb ι) ι RedeemState}

section

variable (h : RedeemInv db0 c) {s' : RedeemState}

include h

/-- The calls after a statement of `i`: its own is in order, and no other lost its lock. -/
theorem calls_update (hself : CallOk db0 db' i s') (hlock : ∀ j, j ≠ i → c.shared.codeLock = some j → db'.codeLock = some j) :
    ∀ j, CallOk db0 db' j (Function.update c.threads i s' j) := by
  refine (Function.forall_update_iff c.threads (p := fun j s => CallOk db0 db' j s)).2 ⟨hself, ?_⟩
  intro j hj
  exact (h.calls j).mono (hlock j hj)

/-- A statement that changes no committed row, and neither saves nor returns success, leaves what was paid. -/
theorem paid_quiet (hcode : db'.code = c.shared.code)
    (hbal : db'.balance = c.shared.balance) (hdone : ∀ q, s' ≠ .done (.ok q)) (hsaved : ∀ r, s' ≠ .saved r) :
    Unpaid db0 ⟨db', Function.update c.threads i s'⟩ ∨ Paid db0 ⟨db', Function.update c.threads i s'⟩ := by
  rcases h.paid with hu | hp
  · refine .inl ⟨hcode.trans hu.code, hbal.trans hu.balance, ?_⟩
    intro j q
    by_cases hj : j = i
    · subst hj
      simpa using hdone q
    · simpa [hj] using hu.none j q
  · obtain ⟨u, q, hq, hb⟩ := hp.balance
    obtain ⟨i0, hi0⟩ := hp.one
    refine .inr ⟨?_, ⟨u, q, hq, hbal.trans hb⟩, ⟨i0, ?_⟩, ?_⟩
    · intro r hr
      exact hp.code r (hcode ▸ hr)
    · intro j q' hjq
      by_cases hj : j = i
      · subst hj
        exact absurd (by simpa using hjq) (hdone q')
      · exact hi0 j q' (by simpa [hj] using hjq)
    · intro j r
      by_cases hj : j = i
      · subst hj
        simpa using hsaved r
      · simpa [hj] using hp.none j r

omit [DecidableEq ι] in
/-- A code that is enabled was not paid out. -/
theorem unpaid_of_enabled (hrow : c.shared.code = some r) (hr : r.status = .enabled) : Unpaid db0 c := by
  rcases h.paid with hu | hp
  · exact hu
  · exact absurd hr (hp.code r hrow)

/-- A save made while the committed row is enabled: the row is locked, and nothing is paid yet. -/
theorem redeemInv_saves {r' : Redemption} (hu : Unpaid db0 c)
    (hcall : db0.code = some r) (hstatus : r'.status = .used) (hquota : r'.quota = r.quota) (hfree : free c.shared.codeLock e.caller) :
    RedeemInv db0 ⟨{ c.shared with codeLock := some e.caller }, Function.update c.threads e.caller (.saved r')⟩ := by
  refine ⟨calls_update h ?_ ?_, .inl ⟨hu.code, hu.balance, ?_⟩⟩
  · exact ⟨rfl, hstatus, by rw [hcall, hquota]; rfl⟩
  · intro j hj hlock
    rcases hfree with hn | hs
    · rw [hn] at hlock
      cases hlock
    · rw [hs] at hlock
      exact absurd (Option.some.inj hlock).symm hj
  · intro j q
    by_cases hj : j = e.caller
    · subst hj
      simp
    · simpa [hj] using hu.none j q

/-- A commit pays: no call had paid before, and no other call holds the lock it would need to pay again. -/
theorem redeemInv_commits {userId : Int} (hs : c.threads e.caller = .saved r) :
    RedeemInv db0 ⟨c.shared.commit e.caller userId r, Function.update c.threads e.caller (.done (.ok r.quota))⟩ := by
  have hcall := h.calls e.caller
  rw [hs] at hcall
  obtain ⟨hlock, hstatus, hquota⟩ := hcall
  have hu : Unpaid db0 c := h.paid.resolve_right (fun hp => hp.none e.caller r hs)
  refine ⟨calls_update h trivial fun j hj hjl => unlock_eq_some hj hjl, .inr ⟨?_, ?_, ⟨e.caller, ?_⟩, ?_⟩⟩
  · intro row hrow
    cases hrow
    rw [hstatus]
    nofun
  · refine ⟨userId, r.quota, hquota, ?_⟩
    rw [← hu.balance]
    rfl
  · intro j q hj
    by_contra hne
    exact hu.none j q (by simpa [hne] using hj)
  · intro j row hj
    by_cases hne : j = e.caller
    · subst hne
      simp at hj
    have hj : c.threads j = .saved row := by simpa [hne] using hj
    have hcallj := h.calls j
    rw [hj] at hcallj
    exact hne (Option.some.inj (hcallj.1.symm.trans hlock))

/-- A step whose save is fresh keeps the invariant. -/
theorem redeemInv_step {key : String} {user : ι → Int} (hok : SaveFresh c e) : RedeemInv db0 (redeemStep key user c e) := by
  have hgoes := redeemStatement_goes key (user e.caller) e c.shared (c.threads e.caller)
  refine Conf.act_of_ways hgoes ?_
  intro s db' s' hs hgoes
  have hcall := h.calls e.caller
  rw [hs] at hcall
  cases hgoes with
  | waits s =>
    subst hs
    rw [Function.update_eq_self]
    exact h
  | fails s db' msg hdb =>
    rcases hdb with rfl | rfl
    · exact ⟨calls_update h trivial fun j _ hlock => hlock, paid_quiet h rfl rfl nofun nofun⟩
    · exact ⟨calls_update h trivial fun j hj hlock => unlock_eq_some hj hlock, paid_quiet h rfl rfl nofun nofun⟩
  | selects r hrow hr =>
    have hread : db0.code = some r := (unpaid_of_enabled h hrow hr).code.symm.trans hrow
    exact ⟨calls_update h hread fun j _ hlock => hlock, paid_quiet h rfl rfl nofun nofun⟩
  | credits r =>
    obtain ⟨hcode, hbalance, hlocked⟩ := lockUser_keeps c.shared e.caller (user e.caller)
    exact ⟨calls_update h hcall fun j _ hlock => hlocked.trans hlock, paid_quiet h hcode hbalance nofun nofun⟩
  | saves r hfault hfree =>
    obtain ⟨row, hrow, hr⟩ := Option.map_eq_some_iff.1 (hok (by rw [hs]; rfl) hfault hfree)
    exact redeemInv_saves h (unpaid_of_enabled h hrow hr) hcall rfl rfl hfree
  | commits r => exact redeemInv_commits h hs

/-! ## What the invariant says about payments -/

end

/-- One credit moves the balances of any set of users by the credited quota at most. -/
theorem sum_credit_le (balance : Int → Option Int) (u q : Int) (users : Finset Int) :
    ∑ v ∈ users, ((credit balance u q v).getD 0 - (balance v).getD 0) ≤ max 0 q := by
  have hterm : ∀ v, (credit balance u q v).getD 0 - (balance v).getD 0 =
      if v = u then ((balance u).map fun _ => q).getD 0 else 0 := by
    intro v
    unfold credit
    by_cases hv : v = u
    · subst hv
      cases balance v with
      | none | some _ => simp
    · simp [hv]
  have hgain : ((balance u).map fun _ => q).getD 0 ≤ max 0 q := by
    cases balance u with
    | none => exact le_max_left 0 q
    | some b => exact le_max_right 0 q
  calc ∑ v ∈ users, ((credit balance u q v).getD 0 - (balance v).getD 0)
      = ∑ v ∈ users, if v = u then ((balance u).map fun _ => q).getD 0 else 0 := Finset.sum_congr rfl fun v _ => hterm v
    _ = if u ∈ users then ((balance u).map fun _ => q).getD 0 else 0 := Finset.sum_ite_eq' users u _
    _ ≤ max 0 q := by
        split
        · exact hgain
        · exact le_max_left 0 q

omit [DecidableEq ι] in
/-- Under the invariant a code pays once. -/
theorem RedeemInv.paysOnce (h : RedeemInv db0 c) : PaysOnce db0 c := by
  rcases h.paid with hu | hp
  · refine ⟨fun users => ?_, fun i j q q' hi => absurd hi (hu.none i q)⟩
    rw [hu.balance]
    simp
  · obtain ⟨u, q, hq, hb⟩ := hp.balance
    obtain ⟨i0, hi0⟩ := hp.one
    refine ⟨fun users => ?_, fun i j q q' hi hj => (hi0 i q hi).trans (hi0 j q' hj).symm⟩
    rw [hb, hq]
    exact sum_credit_le db0.balance u q users

end RedemptionAux

open RedemptionAux

variable {ι : Type} [DecidableEq ι]

/-- In every run of concurrent `Redeem` calls with one key, from any committed state, whose saves all go out while the committed
row is still enabled, the code has paid at most once in every state on the way. -/
theorem redeem_pays_once (key : String) (user : ι → Int) (db : RedeemDb ι) (es : List (RedeemEvent ι))
    (hfresh : Along (redeemStep key user) SaveFresh (redeemStart db) es) :
    ∀ pre, pre <+: es → PaysOnce db (exec (redeemStep key user) (redeemStart db) pre) := by
  intro pre hpre
  have hstart : RedeemInv db (redeemStart db) := ⟨fun _ => trivial, .inl ⟨rfl, rfl, fun _ _ => nofun⟩⟩
  have hinv := hfresh.invariant_reached (fun _ _ hok h => redeemInv_step h hok) hstart pre hpre
  exact hinv.paysOnce

/-! ## Two calls at once -/

/-- A code of 100, and two users of 500 each. -/
def sampleRedeemDb : RedeemDb (Fin 2) := ⟨some ⟨1, .enabled, 100, 0, 0, 0⟩, fun _ => some 500, none, fun _ => none⟩

def sampleRedeemers (i : Fin 2) : Int := if i.val = 0 then 1 else 2

/-- Four statements of one call, one after the other. -/
def redeemTurns (i : Fin 2) : List (RedeemEvent (Fin 2)) := [⟨i, 10, false⟩, ⟨i, 10, false⟩, ⟨i, 10, false⟩, ⟨i, 10, false⟩]

/-- Both users read the enabled row; then the first call goes to its end, and the second goes on from what it read. Both
return success and each user has 100 more. -/
theorem two_redeems_pay_twice :
    let run := exec (redeemStep "k" sampleRedeemers) (redeemStart sampleRedeemDb) (⟨1, 10, false⟩ :: redeemTurns 0 ++ redeemTurns 1)
    run.threads 0 = .done (.ok 100) ∧ run.threads 1 = .done (.ok 100) ∧
      run.shared.balance 1 = some 600 ∧ run.shared.balance 2 = some 600 ∧ ¬ PaysOnce sampleRedeemDb run := by
  refine ⟨by decide, by decide, by decide, by decide, fun h => ?_⟩
  have := h.success 0 1 100 100 (by decide) (by decide)
  exact absurd this (by decide)

theorem redeem_pays_once_sample :
    let es := redeemTurns 0 ++ redeemTurns 1
    let run := exec (redeemStep "k" sampleRedeemers) (redeemStart sampleRedeemDb) es
    run.threads 0 = .done (.ok 100) ∧ run.threads 1 = redeemFailed ∧ PaysOnce sampleRedeemDb run := by
  exact ⟨by decide, by decide, redeem_pays_once "k" sampleRedeemers sampleRedeemDb _ (by decide) _ List.prefix_rfl⟩

end NewApi
