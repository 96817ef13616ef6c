import NewApi.Billing.RefundRetry
import NewApi.Lemmas.StoreAux

/-!
# A subscription's refund under retries

Where the giving back commits and the mark fails, the next attempt gives the amount back again, up to three times in one refund
(`retry_debits_three_times`); two refunds that read the record before either has marked it do the same. `refund_debits_once`: there is no
other way, and a refund that returned success has marked the record whatever failed before.

The first part connects the two models: a refund that runs alone computes `refundWithRetry` (`retry_alone`).
-/

namespace NewApi

open Threads Run Tables StoreAux

namespace RetryAux

variable {ι : Type} [DecidableEq ι] {requestId : String}

/-! ## A refund that runs alone -/

/-- A configuration in which `i` stands at `s` and the others as in `c`. -/
def stands (c : Conf Store ι RetryState) (i : ι) (st : Store) (s : RetryState) : Conf Store ι RetryState :=
  ⟨st, Function.update c.threads i s⟩

/-- A turn of a refund that runs alone. -/
theorem retryStep_stands (c : Conf Store ι RetryState) (i : ι) (st : Store) (s : RetryState) (fault : Fault) :
    retryStep requestId (stands c i st s) ⟨i, fault⟩ =
      stands c i (retryStatement requestId fault st s).1 (retryStatement requestId fault st s).2 := by
  simp [retryStep, stands, Conf.act]

/-- Where an attempt leads: to the end, or to the next one. -/
def afterAttempt (left : Nat) : Except String Unit → RetryState
  | .ok () => .done (.ok ())
  | .error msg => retryFails msg left

/-- The statements of one attempt, run one after the other, are `RefundSubscriptionPreConsume`. -/
theorem attempt_alone (c : Conf Store ι RetryState) (i : ι) (st : Store) (left : Nat) (read delta save : Fault) :
    ∃ answers : List Fault, exec (retryStep requestId) (stands c i st (.attempt left)) (answers.map (⟨i, ·⟩)) =
      stands c i (refundSubscriptionPreConsume st requestId read delta save).1
        (afterAttempt left (refundSubscriptionPreConsume st requestId read delta save).2) := by
  unfold refundSubscriptionPreConsume
  by_cases hid : Text.trimSpace requestId = ""
  · refine ⟨[none], ?_⟩
    simp [retryStep_stands, retryStatement, hid, afterAttempt]
  cases read with
  | some msg =>
    refine ⟨[some msg], ?_⟩
    simp [retryStep_stands, retryStatement, hid, afterAttempt]
  | none =>
    cases hrecord : st.records.lookup requestId with
    | none =>
      refine ⟨[none], ?_⟩
      simp [retryStep_stands, retryStatement, hid, hrecord, afterAttempt]
    | some record =>
      by_cases hrefunded : record.status = .refunded
      · refine ⟨[none], ?_⟩
        simp [retryStep_stands, retryStatement, hid, hrecord, hrefunded, afterAttempt]
      by_cases hnothing : record.preConsumed ≤ 0
      · refine ⟨[none, save], ?_⟩
        cases save <;> simp [retryStep_stands, retryStatement, hid, hrecord, hrefunded, hnothing, afterAttempt]
      cases hdelta : postConsumeUserSubscriptionDelta st record.userSubscriptionId (-record.preConsumed) delta with
      | error msg =>
        refine ⟨[none, delta], ?_⟩
        simp [retryStep_stands, retryStatement, hid, hrecord, hrefunded, hnothing, hdelta, afterAttempt]
      | ok st' =>
        refine ⟨[none, delta, save], ?_⟩
        cases save <;> simp [retryStep_stands, retryStatement, hid, hrecord, hrefunded, hnothing, hdelta, afterAttempt]

/-- The attempts of one refund, run one after the other without a statement of another caller between, are `refundWithRetry`. -/
theorem retry_alone (c : Conf Store ι RetryState) (i : ι) (faults : Nat → Fault × Fault × Fault) (left k : Nat) (st : Store) :
    let fn := fun k st => refundSubscriptionPreConsume st requestId (faults k).1 (faults k).2.1 (faults k).2.2
    ∃ answers : List Fault, exec (retryStep requestId) (stands c i st (.attempt left)) (answers.map (⟨i, ·⟩)) =
      stands c i (refundWithRetry fn (left + 1) k st).1 (.done (refundWithRetry fn (left + 1) k st).2) := by
  intro fn
  induction left generalizing k st with
  | zero =>
    obtain ⟨answers, hrun⟩ := attempt_alone c i st 0 (faults k).1 (faults k).2.1 (faults k).2.2
    refine ⟨answers, hrun.trans ?_⟩
    show stands c i (fn k st).1 (afterAttempt 0 (fn k st).2) = stands c i (fn k st).1 (.done (fn k st).2)
    cases (fn k st).2 with
    | ok u => rfl
    | error msg => rfl
  | succ left ih =>
    obtain ⟨answers, hrun⟩ := attempt_alone c i st (left + 1) (faults k).1 (faults k).2.1 (faults k).2.2
    change _ = stands c i (fn k st).1 (afterAttempt (left + 1) (fn k st).2) at hrun
    rcases hfn : fn k st with ⟨st', result⟩
    rw [hfn] at hrun
    cases result with
    | ok u =>
      refine ⟨answers, hrun.trans ?_⟩
      simp [refundWithRetry, hfn, afterAttempt]
    | error msg =>
      obtain ⟨answers', hrun'⟩ := ih (k + 1) st'
      refine ⟨answers ++ answers', ?_⟩
      rw [List.map_append, exec_append, hrun]
      refine hrun'.trans ?_
      simp [refundWithRetry, hfn]

/-! ## How a statement can go -/

def refundedRecord (record : SubscriptionPreConsumeRecord) : SubscriptionPreConsumeRecord := { record with status := .refunded }

/-- A refund works on the record as it was before any of them: it was consumed then, and its amount is positive. -/
def Standing (record : SubscriptionPreConsumeRecord) : RetryState → Prop
  | .debiting _ read => read = record
  | .saving _ read debited => read = record ∧ debited = true
  | .attempt _ | .done _ => True

/-- The ways a statement can go, and the refunds it adds to those that gave the amount back. -/
inductive RetryWay (record : SubscriptionPreConsumeRecord) (c : Conf Store ι RetryState) (e : RetryEvent ι) :
    Conf Store ι RetryState → List ι → Prop
  | turns (s' : RetryState) (howes : (c.threads e.caller).owesSave = true → e.fault ≠ none) (hok : Standing record s')
      (hs' : s'.owesSave = false)
      (hsuccess : s' = .done (.ok ()) → c.shared.records.lookup record.requestId = some (refundedRecord record)) :
      RetryWay record c e ⟨c.shared, Function.update c.threads e.caller s'⟩ []
  | debits (left : Nat) (row : UserSubscription) (hs : c.threads e.caller = .debiting left record)
      (hrow : c.shared.subs.lookup record.userSubscriptionId = some row) :
      RetryWay record c e
        ⟨{ c.shared with subs := c.shared.subs.save (moveUsed row (-record.preConsumed)) },
          Function.update c.threads e.caller (.saving left record true)⟩ [e.caller]
  | marks (left : Nat) (hs : c.threads e.caller = .saving left record true) :
      RetryWay record c e
        ⟨{ c.shared with records := c.shared.records.save (refundedRecord record) },
          Function.update c.threads e.caller (.done (.ok ()))⟩ []

/-- What holds in every run: the record is stored as it was or refunded, and it is refunded once a refund returned success. -/
structure RetryInv (record : SubscriptionPreConsumeRecord) (c : Conf Store ι RetryState) : Prop where
  stored : c.shared.records.lookup record.requestId = some record ∨
    c.shared.records.lookup record.requestId = some (refundedRecord record)
  standing : ∀ i, Standing record (c.threads i)
  success : ∀ i, c.threads i = .done (.ok ()) → c.shared.records.lookup record.requestId = some (refundedRecord record)

section Step

variable {record : SubscriptionPreConsumeRecord} {c : Conf Store ι RetryState} {e : RetryEvent ι} {left : Nat} {debits : List ι}
  {s' s : RetryState} (msg : String) {i : ι} {st' : Store}

omit [DecidableEq ι] in
theorem not_owing (hs : c.threads e.caller = s) (hs' : s.owesSave = false) : (c.threads e.caller).owesSave = true → e.fault ≠ none := by
  rw [hs, hs']
  intro howes
  cases howes

/-- An attempt fails. -/
theorem way_fails (howes : (c.threads e.caller).owesSave = true → e.fault ≠ none) :
    RetryWay record c e ⟨c.shared, Function.update c.threads e.caller (retryFails msg left)⟩ [] := by
  cases left <;> exact .turns _ howes trivial rfl nofun

omit [DecidableEq ι] in
/-- The read finds the record as it was, or refunded. -/
theorem RetryInv.read_cases (h : RetryInv record c) (hconsumed : record.status = .consumed) {read : SubscriptionPreConsumeRecord}
    (hread : c.shared.records.lookup record.requestId = some read) :
    (read = record ∧ read.status ≠ .refunded) ∨ (read = refundedRecord record ∧ read.status = .refunded) := by
  rcases h.stored with hstored | hstored <;> rw [hstored] at hread <;> cases hread
  · refine .inl ⟨rfl, ?_⟩
    rw [hconsumed]
    intro hne
    cases hne
  · exact .inr ⟨rfl, rfl⟩

/-- An attempt reads the record. -/
theorem way_attempt (hconsumed : record.status = .consumed) (hpos : 0 < record.preConsumed) (h : RetryInv record c)
    (hs : c.threads e.caller = .attempt left) : RetryWay record c e (retryStep record.requestId c e) (retryDebits c e) := by
  have howes := not_owing hs rfl
  simp only [retryStep, Conf.act, retryDebits, hs, retryStatement]
  split
  · exact way_fails _ howes
  split
  · exact way_fails _ howes
  · exact way_fails _ howes
  · rename_i read hread
    rcases h.read_cases hconsumed hread with ⟨rfl, hopen⟩ | ⟨rfl, hrefunded⟩
    · rw [if_neg hopen, if_neg (not_le.2 hpos)]
      exact .turns _ howes rfl rfl nofun
    · exact .turns _ howes trivial rfl fun _ => hread

/-- It gives the amount back. -/
theorem way_debiting (hpos : 0 < record.preConsumed) (hs : c.threads e.caller = .debiting left record) :
    RetryWay record c e (retryStep record.requestId c e) (retryDebits c e) := by
  have howes := not_owing hs rfl
  simp only [retryStep, Conf.act, retryDebits, hs, retryStatement]
  cases hpost : postConsumeUserSubscriptionDelta c.shared record.userSubscriptionId (-record.preConsumed) e.fault with
  | error msg => exact way_fails msg howes
  | ok st' =>
    obtain ⟨row, hrow, rfl, -⟩ := postConsume_ok (by omega) hpost
    exact .debits left row hs hrow

/-- It marks the record. -/
theorem way_saving (hs : c.threads e.caller = .saving left record true) :
    RetryWay record c e (retryStep record.requestId c e) (retryDebits c e) := by
  simp only [retryStep, Conf.act, retryDebits, hs, retryStatement]
  cases hfault : e.fault with
  | some msg =>
    refine way_fails msg fun _ => ?_
    rw [hfault]
    exact Option.some_ne_none msg
  | none => exact .marks left hs

/-- The ways of a turn. -/
theorem retryStep_way (hconsumed : record.status = .consumed) (hpos : 0 < record.preConsumed) (h : RetryInv record c) :
    RetryWay record c e (retryStep record.requestId c e) (retryDebits c e) := by
  have hstanding := h.standing e.caller
  cases hs : c.threads e.caller with
  | attempt left => exact way_attempt hconsumed hpos h hs
  | debiting left read =>
    rw [hs] at hstanding
    cases hstanding
    exact way_debiting hpos hs
  | saving left read debited =>
    rw [hs] at hstanding
    obtain ⟨rfl, rfl⟩ := hstanding
    exact way_saving hs
  | done result =>
    simp only [retryStep, Conf.act, retryDebits, hs, retryStatement]
    exact .turns _ (not_owing hs rfl) trivial rfl fun hsuccess => h.success e.caller (hs.trans hsuccess)

/-! ## What every run keeps -/

theorem RetryInv.standing_update (h : RetryInv record c) (hs' : Standing record s') :
    ∀ j, Standing record (Function.update c.threads i s' j) :=
  (Function.forall_update_iff c.threads (p := fun _ s => Standing record s)).2 ⟨hs', fun j _ => h.standing j⟩

omit [DecidableEq ι] in
/-- A marked record is found. -/
theorem lookup_mark (h : RetryInv record c) :
    (c.shared.records.save (refundedRecord record)).lookup record.requestId = some (refundedRecord record) := by
  have hkey : record.requestId = (refundedRecord record).requestId := rfl
  rw [Table.lookup_save, if_pos hkey]
  rcases h.stored with hstored | hstored <;> rw [hstored] <;> rfl

/-- Every turn keeps the invariant. -/
theorem retryInv_step (hconsumed : record.status = .consumed) (hpos : 0 < record.preConsumed) (h : RetryInv record c) :
    RetryInv record (retryStep record.requestId c e) := by
  have hway := retryStep_way (e := e) hconsumed hpos h
  generalize retryStep record.requestId c e = c', retryDebits c e = debits at hway ⊢
  cases hway with
  | turns s' _ hok _ hsuccess =>
    refine ⟨h.stored, h.standing_update hok, ?_⟩
    exact (Function.forall_update_iff c.threads (p := fun _ s => s = .done (.ok ()) → _)).2 ⟨hsuccess, fun j _ => h.success j⟩
  | debits left row _ _ =>
    refine ⟨h.stored, h.standing_update ⟨rfl, rfl⟩, ?_⟩
    exact (Function.forall_update_iff c.threads (p := fun _ s => s = .done (.ok ()) → _)).2 ⟨nofun, fun j _ => h.success j⟩
  | marks left _ =>
    exact ⟨.inr (lookup_mark h), h.standing_update trivial, fun _ _ => lookup_mark h⟩

/-- Every time the amount is given back the used amount falls by it at most. -/
def UsedFrom (record : SubscriptionPreConsumeRecord) (st : Store) (c : Conf Store ι RetryState) (debits : List ι) : Prop :=
  ∀ row, st.subs.lookup record.userSubscriptionId = some row →
    ∃ row', c.shared.subs.lookup record.userSubscriptionId = some row' ∧
      row.amountUsed - debits.length * record.preConsumed ≤ row'.amountUsed

/-- Every turn moves the used amount by what it gives back. -/
theorem usedFrom_step {st : Store} (hconsumed : record.status = .consumed) (hpos : 0 < record.preConsumed)
    (h : RetryInv record c) (hused : UsedFrom record st c debits) :
    UsedFrom record st (retryStep record.requestId c e) (debits ++ retryDebits c e) := by
  have hway := retryStep_way (e := e) hconsumed hpos h
  generalize retryStep record.requestId c e = c', retryDebits c e = more at hway ⊢
  cases hway with
  | turns _ _ _ _ _ | marks _ _ =>
    rw [List.append_nil]
    exact hused
  | debits left found _ hfound =>
    intro row hrow
    obtain ⟨row', hrow', hle⟩ := hused row hrow
    rw [hfound] at hrow'
    cases hrow'
    refine ⟨moveUsed found (-record.preConsumed), lookup_moveUsed hfound, ?_⟩
    have hmoved : found.amountUsed - record.preConsumed ≤ (moveUsed found (-record.preConsumed)).amountUsed :=
      le_max_right 0 (found.amountUsed + -record.preConsumed)
    rw [List.length_append, List.length_singleton]
    push_cast
    linarith

/-! ## What a run of marked statements keeps -/

/-- Where the refunds stand together: the amount was not given back; one gave it back and has yet to mark the record; or one did and
the record is marked. -/
inductive Phase (record : SubscriptionPreConsumeRecord) (c : Conf Store ι RetryState) (debits : List ι) : Prop
  | open (hrecord : c.shared.records.lookup record.requestId = some record) (hdebits : debits = [])
      (hnone : ∀ j, (c.threads j).owesSave = false)
  | owed (i : ι) (hdebits : debits.length = 1) (hothers : ∀ j, j ≠ i → (c.threads j).owesSave = false)
      (hi : (c.threads i).owesSave = true)
  | marked (hrecord : c.shared.records.lookup record.requestId = some (refundedRecord record)) (hdebits : debits.length = 1)
      (hnone : ∀ j, (c.threads j).owesSave = false)

theorem owesSave_update (h : ∀ j, j ≠ i → (c.threads j).owesSave = false) (hs' : s'.owesSave = false) :
    ∀ j, (Function.update c.threads i s' j).owesSave = false :=
  (Function.forall_update_iff c.threads (p := fun _ s => s.owesSave = false)).2 ⟨hs', h⟩

omit [DecidableEq ι] in
/-- The amount is given back once at most. -/
theorem Phase.length_le (h : Phase record c debits) : debits.length ≤ 1 := by
  cases h with
  | «open» _ hdebits _ =>
    rw [hdebits]
    exact zero_le_one
  | owed _ hdebits _ _ | marked _ hdebits _ => exact hdebits.le

theorem fault_none_of_marked {consumed others : Prop} {fault : Fault} (h : s.Marked consumed others fault)
    (howes : s.owesSave = true) : fault = none := by
  cases s with
  | saving left read debited => exact h howes
  | attempt _ | debiting _ _ | done _ => cases howes

/-- A turn that marks nothing. -/
theorem Phase.turn (h : Phase record c debits) (hmarked : MarkedStep record.requestId c e)
    (howes : (c.threads e.caller).owesSave = true → e.fault ≠ none) (hs' : s'.owesSave = false) :
    Phase record ⟨c.shared, Function.update c.threads e.caller s'⟩ debits := by
  cases h with
  | «open» hrecord hdebits hnone => exact .open hrecord hdebits (owesSave_update (fun j _ => hnone j) hs')
  | owed i hdebits hothers hi =>
    -- the refund that owes the mark is not the acting one, whose mark would have gone through
    have hne : i ≠ e.caller := by
      rintro rfl
      exact howes hi (fault_none_of_marked hmarked hi)
    refine .owed i hdebits (fun j hj => ?_) ?_
    · exact (Function.forall_update_iff c.threads (p := fun j s => j ≠ i → s.owesSave = false)).2 ⟨fun _ => hs', fun j _ => hothers j⟩ j hj
    · show (Function.update c.threads e.caller s' i).owesSave = true
      rw [Function.update_of_ne hne]
      exact hi
  | marked hrecord hdebits hnone => exact .marked hrecord hdebits (owesSave_update (fun j _ => hnone j) hs')

/-- The amount is given back where it was not before. -/
theorem Phase.debit (h : Phase record c debits) (hmarked : MarkedStep record.requestId c e)
    (hs : c.threads e.caller = .debiting left record) :
    Phase record ⟨st', Function.update c.threads e.caller (.saving left record true)⟩ (debits ++ [e.caller]) := by
  have hcaller : (c.shared.records.lookup record.requestId).map (·.status) = some .consumed ∧
      ∀ j, j ≠ e.caller → (c.threads j).owesSave = false := by
    unfold MarkedStep at hmarked
    rw [hs] at hmarked
    exact hmarked
  obtain ⟨hconsumed, hothers⟩ := hcaller
  cases h with
  | «open» _ hdebits _ =>
    refine .owed e.caller (by rw [hdebits]; rfl) (fun j hj => ?_) ?_
    · show (Function.update c.threads e.caller (.saving left record true) j).owesSave = false
      rw [Function.update_of_ne hj]
      exact hothers j hj
    · show (Function.update c.threads e.caller (.saving left record true) e.caller).owesSave = true
      rw [Function.update_self]
      rfl
  | owed i _ _ hi =>
    by_cases hne : i = e.caller
    · rw [hne, hs] at hi
      cases hi
    · rw [hothers i hne] at hi
      cases hi
  | marked hrecord _ _ =>
    rw [hrecord] at hconsumed
    cases hconsumed

/-- The refund that marks the record is the one that gave the amount back. -/
theorem Phase.mark (h : Phase record c debits)
    (hs : c.threads e.caller = .saving left record true) (hrecord : st'.records.lookup record.requestId = some (refundedRecord record)) :
    Phase record ⟨st', Function.update c.threads e.caller (.done (.ok ()))⟩ debits := by
  have howes : (c.threads e.caller).owesSave = true := by
    rw [hs]
    rfl
  cases h with
  | «open» _ _ hnone | marked _ _ hnone =>
    rw [hnone e.caller] at howes
    cases howes
  | owed i hdebits hothers hi =>
    have hcaller : e.caller = i := by
      by_contra hne
      rw [hothers e.caller hne] at howes
      cases howes
    rw [hcaller]
    exact .marked hrecord hdebits (owesSave_update hothers rfl)

/-- Every turn that meets the condition keeps the phase. -/
theorem phase_step (hconsumed : record.status = .consumed) (hpos : 0 < record.preConsumed) (h : RetryInv record c)
    (hmarked : MarkedStep record.requestId c e) (hphase : Phase record c debits) :
    Phase record (retryStep record.requestId c e) (debits ++ retryDebits c e) := by
  have hway := retryStep_way (e := e) hconsumed hpos h
  generalize retryStep record.requestId c e = c', retryDebits c e = more at hway ⊢
  cases hway with
  | turns s' howes _ hs' _ =>
    rw [List.append_nil]
    exact hphase.turn hmarked howes hs'
  | debits left row hs _ => exact hphase.debit hmarked hs
  | marks left hs =>
    rw [List.append_nil]
    exact hphase.mark hs (lookup_mark h)

end Step

end RetryAux

open RetryAux

/-- In every run of refunds of one consumed request whose statements are all marked, the amount is given back at most once: any number
of refunds, of attempts and of interleavings, with any other statement refused. The used amount is then never more than the amount
below where it stood, and a refund that returned success has left the record refunded. -/
theorem refund_debits_once {ι : Type} [DecidableEq ι] (requestId : String) (st : Store) (record : SubscriptionPreConsumeRecord)
    (hrecord : st.records.lookup requestId = some record) (hconsumed : record.status = .consumed) (hpos : 0 < record.preConsumed)
    (es : List (RetryEvent ι)) (hmarked : Along (retryStep requestId) (MarkedStep requestId) (retryStart st) es) :
    ∀ pre, pre <+: es →
      (trace (retryStep requestId) retryDebits (retryStart st) pre).length ≤ 1 ∧
      (∀ row, st.subs.lookup record.userSubscriptionId = some row →
        ∃ row', (exec (retryStep requestId) (retryStart st) pre).shared.subs.lookup record.userSubscriptionId = some row' ∧
          row.amountUsed - record.preConsumed ≤ row'.amountUsed) ∧
      (∀ i, (exec (retryStep requestId) (retryStart st) pre).threads i = .done (.ok ()) →
        ((exec (retryStep requestId) (retryStart st) pre).shared.records.lookup requestId).map (·.status) = some .refunded) := by
  obtain rfl : record.requestId = requestId := Table.lookup_key hrecord
  rintro pre ⟨post, rfl⟩
  have hpre := ((along_append _ _ pre post).1 hmarked).1
  have h0 : RetryInv record (retryStart st : Conf Store ι RetryState) ∧ UsedFrom record st (retryStart st) ([] : List ι) ∧
      Phase record (retryStart st : Conf Store ι RetryState) [] := by
    refine ⟨⟨.inl hrecord, fun _ => trivial, nofun⟩, fun row hrow => ⟨row, hrow, by simp⟩, .open hrecord rfl fun _ => rfl⟩
  obtain ⟨hinv, hused, hphase⟩ := hpre.invariant_traced
    (P := fun c debits => RetryInv record c ∧ UsedFrom record st c debits ∧ Phase record c debits)
    (fun c e debits hok h => ⟨retryInv_step hconsumed hpos h.1, usedFrom_step hconsumed hpos h.1 h.2.1,
      phase_step hconsumed hpos h.1 hok h.2.2⟩) h0
  have honce := hphase.length_le
  refine ⟨honce, fun row hrow => ?_, fun i hi => ?_⟩
  · obtain ⟨row', hrow', hle⟩ := hused row hrow
    refine ⟨row', hrow', le_trans ?_ hle⟩
    have hlen : ((trace (retryStep record.requestId) retryDebits (retryStart st) pre).length : Int) ≤ 1 := by exact_mod_cast honce
    nlinarith
  · rw [hinv.success i hi]
    rfl

namespace RetryAux

/-- A request that pre-consumed 20 of the sample subscription. -/
def consumedRecord : SubscriptionPreConsumeRecord := ⟨"req-1", 1, 7, 20, .consumed⟩

/-- The tables with it, 70 of the subscription being used. -/
def chargedStore : Store := { sampleStore 70 with records := ⟨[consumedRecord], List.nodup_singleton _⟩ }

def retryTurn (i : Fin 2) (refused : Bool) : RetryEvent (Fin 2) := ⟨i, if refused then some "connection lost" else none⟩

/-- The run of turns of two refunds of the request. -/
def retryRun (turns : List (Fin 2 × Bool)) : Conf Store (Fin 2) RetryState :=
  exec (retryStep "req-1") (retryStart chargedStore) (turns.map fun turn => retryTurn turn.1 turn.2)

/-- The used amount and the record's state after turns of two refunds of the request. -/
def retryLeaves (turns : List (Fin 2 × Bool)) : Option Int × Option RecordStatus :=
  (((retryRun turns).shared.subs.lookup 7).map (·.amountUsed), ((retryRun turns).shared.records.lookup "req-1").map (·.status))

end RetryAux

theorem refund_debits_once_sample :
    let es := [retryTurn 0 true, retryTurn 0 false, retryTurn 0 false, retryTurn 0 false, retryTurn 1 false]
    (trace (retryStep "req-1") retryDebits (retryStart chargedStore) es).length = 1 ∧
      (trace (retryStep "req-1") retryDebits (retryStart chargedStore) es).length ≤ 1 := by
  refine ⟨by decide, ?_⟩
  exact (refund_debits_once "req-1" chargedStore consumedRecord (by decide) rfl (by decide) _ (by decide) _ List.prefix_rfl).1

/-- A request of 20 is given back three times by one refund whose first two marks the database refuses, and twice by two refunds that
read the record before either has marked it. -/
theorem retry_debits_three_times :
    retryLeaves [(0, false), (0, false), (0, true), (0, false), (0, false), (0, true), (0, false), (0, false), (0, false)] =
        (some 10, some .refunded) ∧
      retryLeaves [(0, false), (1, false), (0, false), (1, false), (0, false), (1, false)] = (some 30, some .refunded) := by
  decide

end NewApi
