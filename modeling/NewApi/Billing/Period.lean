import NewApi.Billing.Store
import NewApi.Lib.Run

/-!
# The periods of a subscription

What `model/subscription.go` does to the used amount of a subscription: pre-charges, their refunds and settlements, and the resets, made
by the next pre-charge (`PreConsumeUserSubscription`) or the periodic job (`ResetDueSubscriptions`), whichever is first.

Calls run to their end, none refused by the database (`Billing.RefundRetry` has the retries). Beside the tables a run keeps what the
requests of the current period have consumed of one subscription.
-/

namespace NewApi

/-! ## The periodic job -/

/-- The rows `ResetDueSubscriptions` selects, before the limit. -/
def Store.dueSubs (st : Store) (now : Int) : List UserSubscription :=
  st.subs.rows.filter (fun s => decide (0 < s.nextResetTime ∧ s.nextResetTime ≤ now ∧ s.status = "active"))

/-- The order of the selected rows. -/
def resetsBefore (a b : UserSubscription) : Prop := a.nextResetTime ≤ b.nextResetTime

instance : DecidableRel resetsBefore := fun a b => inferInstanceAs (Decidable (a.nextResetTime ≤ b.nextResetTime))

/-- The rows of one batch: 200 where no limit is given. -/
def resetBatch (limit : Int) : Nat := if limit ≤ 0 then 200 else limit.toNat

/-- The tables after the reset of a row, if it is written. -/
def Store.saveReset (st : Store) (reset : UserSubscription × Bool) : Store :=
  if reset.2 then { st with subs := st.subs.save reset.1 } else st

variable (cfg : Config)

/-- One selected row: it is read again, and reset if it is still due. A plan that cannot be read is passed over. -/
def resetDueSubscription (now : Int) (acc : Store × Nat) (sub : UserSubscription) : Store × Nat :=
  match cfg.planById sub.planId with
  | .error _ => acc
  | .ok plan =>
    match acc.1.subs.lookup sub.id with
    | none => acc
    | some locked =>
      if 0 < locked.nextResetTime ∧ locked.nextResetTime ≤ now then
        (acc.1.saveReset (maybeResetUserSubscription cfg.calendar locked plan now), acc.2 + 1)
      else acc

/-- `ResetDueSubscriptions`: the tables afterwards and the number of rows it counts as reset. -/
def resetDueSubscriptions (st : Store) (limit now : Int) : Store × Nat :=
  (((st.dueSubs now).insertionSort resetsBefore).take (resetBatch limit)).foldl (resetDueSubscription cfg now) (st, 0)

/-! ## Calls -/

/-- A call on the subscriptions. A settlement carries the request it settles, which `PostConsumeUserSubscriptionDelta` is not told. -/
inductive SubOp where
  | preConsume (requestId : String) (userId amount : Int)
  | postConsume (requestId : String) (userSubscriptionId delta : Int)
  | refund (requestId : String)
  | resetDue (limit : Int)
  deriving DecidableEq, Repr

/-- A call and the time the database tells it. -/
structure SubEvent where
  now : Int
  op : SubOp
  deriving DecidableEq, Repr

/-- A call, run to its end: the tables afterwards and what it returns. -/
def subCall (e : SubEvent) (st : Store) : Store × Except String Unit :=
  match e.op with
  | .preConsume requestId userId amount =>
    match preConsumeUserSubscription cfg st requestId userId amount e.now none with
    | .error msg => (st, .error msg)
    | .ok (st', _) => (st', .ok ())
  | .postConsume _ userSubscriptionId delta =>
    match postConsumeUserSubscriptionDelta st userSubscriptionId delta none with
    | .error msg => (st, .error msg)
    | .ok st' => (st', .ok ())
  | .refund requestId => refundSubscriptionPreConsume st requestId none none none
  | .resetDue limit => ((resetDueSubscriptions cfg st limit e.now).1, .ok ())

def subStep (st : Store) (e : SubEvent) : Store := (subCall cfg e st).1

/-! ## What the requests of the period have consumed -/

/-- The reset of the row is due at `now`: a period has ended since the last one. -/
def resetsNow (cal : Calendar) (sub : UserSubscription) (plan : SubscriptionPlan) (now : Int) : Bool :=
  let base := if sub.lastResetTime ≤ 0 then sub.startTime else sub.lastResetTime
  !decide (0 < sub.nextResetTime ∧ now < sub.nextResetTime) &&
    !decide (normalizeResetPeriod plan.quotaResetPeriod = "never") &&
    (advancePeriods cal plan sub.endTime now (now - base).toNat base (calcNextResetTime cal base plan sub.endTime) false).2.2

/-- The call reset subscription `sid`: its reset was due, and it has a new time of the last one. -/
def wasReset (sid now : Int) (st st' : Store) : Bool :=
  match st.subs.lookup sid, st'.subs.lookup sid with
  | some row, some row' =>
    (match cfg.planById row.planId with
      | .error _ => false
      | .ok plan => resetsNow cfg.calendar row plan now) && decide (row'.lastResetTime ≠ row.lastResetTime)
  | _, _ => false

/-- The request is recorded for the first time, with subscription `sid`. -/
def chargedOn (sid : Int) (requestId : String) (st st' : Store) : Bool :=
  (st.records.lookup requestId).isNone && decide ((st'.records.lookup requestId).map (·.userSubscriptionId) = some sid)

/-- What a refund of the request gives back to subscription `sid`. -/
def givesBack (sid : Int) (requestId : String) (st : Store) : Int :=
  match st.records.lookup requestId with
  | none => 0
  | some record => if record.status = .consumed ∧ record.userSubscriptionId = sid then max 0 record.preConsumed else 0

/-- Move what a request has consumed by `n`, where it is one of the list. -/
def addTo (requestId : String) (n : Int) : List (String × Int) → List (String × Int)
  | [] => []
  | (id, amount) :: rest => if id = requestId then (id, amount + n) :: rest else (id, amount) :: addTo requestId n rest

/-- The tables, and the requests that were pre-consumed on one subscription since its last reset with what each has consumed. -/
structure PeriodRun where
  store : Store
  current : List (String × Int)

/-- What the requests of the period have consumed after a call: a reset starts a new list, a pre-charge joins it, and a settlement or
refund moves the entry of its request. -/
def nextCurrent (sid : Int) (e : SubEvent) (r : PeriodRun) : List (String × Int) :=
  let (st', result) := subCall cfg e r.store
  let current := if wasReset cfg sid e.now r.store st' then [] else r.current
  match e.op, result with
  | _, .error _ => current
  | .preConsume requestId _ amount, .ok () =>
    if chargedOn sid requestId r.store st' then current ++ [(requestId, amount)] else current
  | .postConsume requestId userSubscriptionId delta, .ok () =>
    if userSubscriptionId = sid then addTo requestId delta current else current
  | .refund requestId, .ok () => addTo requestId (-givesBack sid requestId r.store) current
  | .resetDue _, .ok () => current

def periodStep (sid : Int) (r : PeriodRun) (e : SubEvent) : PeriodRun :=
  ⟨subStep cfg r.store e, nextCurrent cfg sid e r⟩

/-- The sum of what the requests of the period have consumed. -/
def PeriodRun.consumed (r : PeriodRun) : Int := (r.current.map (·.2)).sum

/-- A call that gives back to subscription `sid` is for a request of the current period: a refund that has something to give back, or
a negative settlement. -/
def CurrentStep (sid : Int) (r : PeriodRun) (e : SubEvent) : Prop :=
  match e.op with
  | .refund requestId => 0 < givesBack sid requestId r.store → requestId ∈ r.current.map (·.1)
  | .postConsume requestId userSubscriptionId delta =>
    userSubscriptionId = sid ∧ delta < 0 → requestId ∈ r.current.map (·.1)
  | .preConsume _ _ _ | .resetDue _ => True

instance (sid : Int) (r : PeriodRun) (e : SubEvent) : Decidable (CurrentStep sid r e) :=
  match e with
  | ⟨_, .refund _⟩ => inferInstanceAs (Decidable (_ → _))
  | ⟨_, .postConsume _ _ _⟩ => inferInstanceAs (Decidable (_ → _))
  | ⟨_, .preConsume _ _ _⟩ => isTrue trivial
  | ⟨_, .resetDue _⟩ => isTrue trivial

/-! ## The column as the program holds it -/

/-- `AmountUsed`, an `int64`. Every write of it adds to the column or sets it to 0, so it is the used amount modulo 2^64. -/
def UserSubscription.usedColumn (sub : UserSubscription) : Int64 := Int64.ofInt sub.amountUsed

end NewApi
