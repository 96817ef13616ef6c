import NewApi.Billing.Session

/-!
# Retries of a subscription's refund, statement by statement

`refundWithRetry` of `service/funding_source.go` runs `RefundSubscriptionPreConsume` up to three times. One attempt is a transaction that
reads the pre-consume record, gives the amount back and marks the record; the amount is given back by `PostConsumeUserSubscriptionDelta`
in a transaction of its own, which stands where the mark or the outer commit fails.

`Billing.Session` runs the attempts of one refund one after the other. Here any number of refunds of one request run at once, one
statement at a time; the read takes no lock.
-/

namespace NewApi

open Threads

/-- Where a refund stands in an attempt, with the number of attempts left after it, and the record that was read. -/
inductive RetryState where
  | attempt (left : Nat)
  | debiting (left : Nat) (record : SubscriptionPreConsumeRecord)
  | saving (left : Nat) (record : SubscriptionPreConsumeRecord) (debited : Bool)
  | done (result : Except String Unit)

/-- One statement's turn: the refund it belongs to, and the error the database refuses it with. -/
structure RetryEvent (ι : Type) where
  caller : ι
  fault : Fault := none

/-- An attempt fails with `msg`: the next one follows, if one is left. -/
def retryFails (msg : String) : Nat → RetryState
  | 0 => .done (.error msg)
  | left + 1 => .attempt left

variable {ι : Type} [DecidableEq ι]

/-- The next statement of a refund of the request. -/
def retryStatement (requestId : String) (fault : Fault) (st : Store) : RetryState → Store × RetryState
  | .done result => (st, .done result)
  | .attempt left =>
    if Text.trimSpace requestId = "" then (st, retryFails "requestId is empty" left)
    else match fault, st.records.lookup requestId with
      | some msg, _ => (st, retryFails msg left)
      | none, none => (st, retryFails recordNotFound left)
      | none, some record =>
        if record.status = .refunded then (st, .done (.ok ()))
        else if record.preConsumed ≤ 0 then (st, .saving left record false)
        else (st, .debiting left record)
  | .debiting left record =>
    match postConsumeUserSubscriptionDelta st record.userSubscriptionId (-record.preConsumed) fault with
    | .error msg => (st, retryFails msg left)
    | .ok st => (st, .saving left record true)
  | .saving left record _ =>
    match fault with
    | some msg => (st, retryFails msg left)
    | none => ({ st with records := st.records.save { record with status := .refunded } }, .done (.ok ()))

def retryStep (requestId : String) (c : Conf Store ι RetryState) (e : RetryEvent ι) : Conf Store ι RetryState :=
  c.act e.caller (retryStatement requestId e.fault)

def retryStart (st : Store) : Conf Store ι RetryState := ⟨st, fun _ => .attempt 2⟩

/-- The refunds that gave the amount back: the caller of a statement that commits `PostConsumeUserSubscriptionDelta`. -/
def retryDebits (c : Conf Store ι RetryState) (e : RetryEvent ι) : List ι :=
  match c.threads e.caller with
  | .debiting _ record =>
    match postConsumeUserSubscriptionDelta c.shared record.userSubscriptionId (-record.preConsumed) e.fault with
    | .error _ => []
    | .ok _ => [e.caller]
  | _ => []

/-! ## What a single debit asks -/

/-- The amount was given back and the record is not marked yet. -/
def RetryState.owesSave : RetryState → Bool
  | .saving _ _ debited => debited
  | _ => false

/-- What the next statement of a refund must meet, where `consumed` says that the record is consumed and `others` that no other refund
has given the amount back without marking the record: the amount is given back only then, and the mark that follows is not refused. -/
def RetryState.Marked (consumed others : Prop) (fault : Fault) : RetryState → Prop
  | .debiting _ _ => consumed ∧ others
  | .saving _ _ debited => debited = true → fault = none
  | .attempt _ | .done _ => True

def MarkedStep (requestId : String) (c : Conf Store ι RetryState) (e : RetryEvent ι) : Prop :=
  (c.threads e.caller).Marked ((c.shared.records.lookup requestId).map (·.status) = some .consumed)
    (∀ j, j ≠ e.caller → (c.threads j).owesSave = false) e.fault

instance (consumed others : Prop) [Decidable consumed] [Decidable others] (fault : Fault) :
    (s : RetryState) → Decidable (s.Marked consumed others fault)
  | .debiting _ _ => inferInstanceAs (Decidable (_ ∧ _))
  | .saving _ _ _ => inferInstanceAs (Decidable (_ → _))
  | .attempt _ | .done _ => isTrue trivial

instance [Fintype ι] (requestId : String) (c : Conf Store ι RetryState) (e : RetryEvent ι) : Decidable (MarkedStep requestId c e) :=
  inferInstanceAs (Decidable ((c.threads e.caller).Marked _ _ _))

end NewApi
