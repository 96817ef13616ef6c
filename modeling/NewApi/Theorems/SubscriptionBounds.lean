import NewApi.Lemmas.PeriodAux
import NewApi.Theorems.Purchase

/-!
# The bounds of a subscription

From its creation on, the used amount of a subscription is not negative and not above its total, where it has one (`subscription_bounds`).

The column is an `int64`. A subscription without a total (`AmountTotal` of 0) has no check that keeps the sum of a pre-charge in its
range, so two pre-charges can take the column below 0 (`unlimited_wraps`); the bounds hold where the sums stay in range.
-/

namespace NewApi

open Run Tables

/-- The first value above those of an `int64`. -/
def int64Bound : Int := 9223372036854775808

/-- The call does not take the used amount of the row of subscription `sid` out of the range of an `int64`: a settlement's sum is in
range, and so is a pre-charge's where the subscription has no total. -/
def SubOp.InRange (sid : Int) (row : UserSubscription) : SubOp → Prop
  | .preConsume _ _ amount => row.amountTotal ≤ 0 → row.amountUsed + amount < int64Bound
  | .postConsume _ userSubscriptionId delta =>
    userSubscriptionId = sid → -int64Bound ≤ row.amountUsed + delta ∧ row.amountUsed + delta < int64Bound
  | .refund _ | .resetDue _ => True

/-- The call is in range for the subscription as it stands. -/
def RangeStep (sid : Int) (st : Store) (e : SubEvent) : Prop := ∀ row ∈ st.subs.lookup sid, e.op.InRange sid row

instance (sid : Int) (row : UserSubscription) : (op : SubOp) → Decidable (op.InRange sid row)
  | .preConsume _ _ _ => inferInstanceAs (Decidable (_ → _))
  | .postConsume _ _ _ => inferInstanceAs (Decidable (_ → _))
  | .refund _ | .resetDue _ => isTrue trivial

instance (sid : Int) (st : Store) (e : SubEvent) : Decidable (RangeStep sid st e) :=
  inferInstanceAs (Decidable (∀ row ∈ st.subs.lookup sid, e.op.InRange sid row))

namespace BoundsAux

open StoreAux ResetAux PeriodAux

theorem int64Bound_pos : 0 < int64Bound := by decide

theorem toInt_usedColumn {sub : UserSubscription} (h : sub.amountUsed < int64Bound) : sub.usedColumn.toInt = sub.amountUsed := by
  have hnonneg := sub.used_nonneg
  have hlow : -2 ^ 63 ≤ sub.amountUsed := by omega
  exact Int64.toInt_ofInt_of_le hlow h

structure Bounded (total : Int) (row : UserSubscription) : Prop where
  amountTotal : row.amountTotal = total
  range : row.amountUsed < int64Bound
  cap : 0 < total → row.amountUsed ≤ total

variable {st : Store} {requestId : String}

section Step

variable {cfg : Config} {sid total : Int} {e : SubEvent} {row row' : UserSubscription}

theorem Bounded.visited {now : Int} (h : Bounded total row) (hvisited : Visited cfg now row row') :
    Bounded total row' ∧ row'.amountUsed ≤ row.amountUsed := by
  cases hvisited with
  | kept => exact ⟨h, le_refl _⟩
  | reset plan hplan =>
    have hreset := maybeReset_resetTo cfg.calendar row plan now
    generalize (maybeResetUserSubscription cfg.calendar row plan now).1 = row' at hreset ⊢
    have hle : row'.amountUsed ≤ row.amountUsed := by
      rw [hreset.used]
      split
      · exact row.used_nonneg
      · exact le_refl _
    exact ⟨⟨hreset.amountTotal.trans h.amountTotal, hle.trans_lt h.range, fun htotal => hle.trans (h.cap htotal)⟩, hle⟩

theorem Bounded.moved {delta : Int} (h : Bounded total row) (hrange : e.op.InRange sid row)
    (hmoves : Moves sid st delta e.op) (hcap : 0 < row.amountTotal → max 0 (row.amountUsed + delta) ≤ row.amountTotal) :
    Bounded total (moveUsed row delta) := by
  have hlt : row.amountUsed + delta < int64Bound := by
    obtain ⟨now, op⟩ := e
    cases op with
    | preConsume _ _ _ | resetDue _ => exact hmoves.elim
    | postConsume requestId id n =>
      obtain ⟨rfl, rfl⟩ := hmoves
      exact (hrange rfl).2
    | refund requestId =>
      obtain ⟨hpos, rfl⟩ := hmoves
      have hbefore := h.range
      omega
  refine ⟨h.amountTotal, max_lt int64Bound_pos hlt, fun htotal => ?_⟩
  rw [← h.amountTotal] at htotal ⊢
  exact hcap htotal

/-- A pre-charge in range keeps the bounds: where there is a total the room that was left is enough. -/
theorem Bounded.charged {amount now : Int} {userId : Int} {hpos : 0 < amount} {plan : SubscriptionPlan}
    (htotal : total < int64Bound) (h : Bounded total row) (hrange : (SubOp.preConsume requestId userId amount).InRange sid row)
    (hplan : cfg.planById row.planId = .ok plan)
    (hroom : 0 < row.amountTotal → (maybeResetUserSubscription cfg.calendar row plan now).1.amountUsed + amount ≤ row.amountTotal) :
    Bounded total ((maybeResetUserSubscription cfg.calendar row plan now).1.charge amount hpos) := by
  obtain ⟨hreset, hle⟩ := h.visited (.reset plan hplan : Visited cfg now row _)
  generalize (maybeResetUserSubscription cfg.calendar row plan now).1 = reset at hreset hle hroom ⊢
  rw [h.amountTotal] at hroom
  refine ⟨hreset.amountTotal, ?_, hroom⟩
  show reset.amountUsed + amount < int64Bound
  by_cases hlimited : 0 < total
  · exact (hroom hlimited).trans_lt htotal
  · have hsum := hrange (h.amountTotal.le.trans (not_lt.1 hlimited))
    omega

/-- The row of the subscription is there and within its bounds. -/
def BoundsHold (sid total : Int) (st : Store) : Prop := ∃ row, st.subs.lookup sid = some row ∧ Bounded total row

/-- Every step in range keeps the bounds. -/
theorem boundsHold_step (htotal : total < int64Bound) (hrange : RangeStep sid st e) (h : BoundsHold sid total st) :
    BoundsHold sid total (subStep cfg st e) := by
  obtain ⟨row, hrow, hbounded⟩ := h
  have hinRange := hrange row hrow
  obtain ⟨row', hrow', hway⟩ := subCall_way hrow cfg e
  refine ⟨row', hrow', ?_⟩
  generalize subCall cfg e st = out at hway
  cases hway with
  | rejects msg => exact hbounded
  | visits st' row' _ hvisited => exact (hbounded.visited hvisited).1
  | charges st' requestId userId amount hpos plan hop _ hplan hroom =>
    obtain ⟨now, op⟩ := e
    subst hop
    exact hbounded.charged htotal hinRange hplan hroom
  | moves st' delta hmoves hcap => exact hbounded.moved hinRange hmoves hcap

end Step

/-! ## Calls that change nothing -/

theorem refund_rejected {requestId msg : String} (h : (refundSubscriptionPreConsume st requestId none none none).2 = .error msg) :
    (refundSubscriptionPreConsume st requestId none none none).1 = st := by
  unfold refundSubscriptionPreConsume at h ⊢
  split
  · rfl
  rw [if_neg ‹_›] at h
  split
  · rfl
  · rfl
  · rename_i record _ hrecord
    rw [hrecord] at h
    simp only at h
    split
    · rfl
    rw [if_neg ‹_›] at h
    generalize (if record.preConsumed ≤ 0 then Except.ok st
      else postConsumeUserSubscriptionDelta st record.userSubscriptionId (-record.preConsumed) none) = given at h ⊢
    cases given with
    | error msg => rfl
    | ok st' => cases h

/-- A call that fails changes nothing. -/
theorem subCall_rejected {cfg : Config} {e : SubEvent} {msg : String} (h : (subCall cfg e st).2 = .error msg) :
    (subCall cfg e st).1 = st := by
  obtain ⟨now, op⟩ := e
  unfold subCall at h ⊢
  cases op with
  | preConsume requestId userId amount =>
    simp only at h ⊢
    split
    · rfl
    rename_i st' result hok
    rw [hok] at h
    cases h
  | postConsume requestId id delta =>
    simp only at h ⊢
    split
    · rfl
    rename_i st' hok
    rw [hok] at h
    cases h
  | refund requestId => exact refund_rejected h
  | resetDue limit => cases h

/-- A request that is recorded is not charged again. -/
theorem preConsume_recorded (cfg : Config) {record : SubscriptionPreConsumeRecord}
    (hrecord : st.records.lookup requestId = some record) (now userId amount : Int) :
    (subCall cfg ⟨now, .preConsume requestId userId amount⟩ st).1 = st := by
  simp only [subCall]
  cases hpre : preConsumeUserSubscription cfg st requestId userId amount now none with
  | error msg => rfl
  | ok p =>
    obtain ⟨-, hpos, ⟨-, hst⟩ | ⟨hnew, -⟩⟩ := preConsume_cases hpre
    · exact hst
    · rw [hrecord] at hnew
      cases hnew

end BoundsAux

open BoundsAux

/-- For every subscription as `CreateUserSubscriptionFromPlanTx` creates it and every sequence of calls whose sums stay in the range of
an `int64`, in every state reached: the column of the used amount is not negative, and not above the total where there is one; a call
that is rejected leaves the tables; and a pre-charge of a request whose record is consumed leaves them as well. -/
theorem subscription_bounds (cfg : Config) (env : PurchaseEnv) (id : Nat) (userId : Int) (plan : PurchasePlan) (source : String)
    (created endUnix : Int) (prevGroup : String) (htotal : plan.totalAmount < int64Bound) (st : Store) (hrow : st.subs.lookup (id + 1) =
      some (newSubscription env id userId plan source created endUnix prevGroup).toUserSubscription)
    (es : List SubEvent) (hrange : Along (subStep cfg) (RangeStep (id + 1)) st es) :
    ∀ pre, pre <+: es →
      (∃ row, (exec (subStep cfg) st pre).subs.lookup (id + 1) = some row ∧ row.amountTotal = plan.totalAmount ∧
        0 ≤ row.usedColumn.toInt ∧ (0 < row.amountTotal → row.usedColumn.toInt ≤ row.amountTotal)) ∧
      (∀ e msg, (subCall cfg e (exec (subStep cfg) st pre)).2 = .error msg →
        (subCall cfg e (exec (subStep cfg) st pre)).1 = exec (subStep cfg) st pre) ∧
      (∀ requestId record, (exec (subStep cfg) st pre).records.lookup requestId = some record → record.status = .consumed →
        ∀ now user amount, (subCall cfg ⟨now, .preConsume requestId user amount⟩ (exec (subStep cfg) st pre)).1 =
          exec (subStep cfg) st pre) := by
  intro pre hpre
  have h0 : BoundsHold (id + 1) plan.totalAmount st := ⟨_, hrow, rfl, int64Bound_pos, le_of_lt⟩
  obtain ⟨row, hlook, hbounded⟩ := hrange.invariant_reached
    (fun _ _ hok h => boundsHold_step htotal hok h) h0 pre hpre
  refine ⟨⟨row, hlook, hbounded.amountTotal, ?_, ?_⟩, fun e msg => subCall_rejected, fun requestId record hrecord _ now user amount =>
    preConsume_recorded cfg hrecord now user amount⟩
  · rw [toInt_usedColumn hbounded.range]
    exact row.used_nonneg
  · rw [toInt_usedColumn hbounded.range, hbounded.amountTotal]
    exact hbounded.cap

namespace BoundsAux

/-- The tables after user 1 bought the plan. -/
def boughtStore (plan : PurchasePlan) : Store where
  users _ := ⟨0, 0⟩
  tokens _ := ⟨0, 0, 0⟩
  subs := ⟨[(newSubscription sampleShop 6 1 plan "order" 100 2592100 "").toUserSubscription], List.nodup_singleton _⟩
  records := Table.empty

end BoundsAux

theorem subscription_bounds_sample :
    let es : List SubEvent := [⟨200, .preConsume "a" 1 700⟩, ⟨300, .preConsume "b" 1 400⟩, ⟨400, .postConsume "a" 7 200⟩]
    let st := exec (subStep sampleConfig) (boughtStore samplePlan) es
    (st.subs.lookup 7).map (·.amountUsed) = some 900 ∧
      ∃ row, st.subs.lookup 7 = some row ∧ row.amountTotal = 1000 ∧ 0 ≤ row.usedColumn.toInt ∧
        (0 < row.amountTotal → row.usedColumn.toInt ≤ row.amountTotal) := by
  refine ⟨by decide, ?_⟩
  exact (subscription_bounds sampleConfig sampleShop 6 1 samplePlan "order" 100 2592100 "" (by decide) (boughtStore samplePlan) rfl _
    (by decide) _ List.prefix_rfl).1

/-- Two pre-charges of a subscription without a total, the first of all an `int64` holds: the column is negative. -/
theorem unlimited_wraps :
    let st := exec (subStep sampleConfig) (boughtStore { samplePlan with totalAmount := 0 })
      [⟨200, .preConsume "a" 1 9223372036854775807⟩, ⟨300, .preConsume "b" 1 1⟩]
    (st.subs.lookup 7).map (·.usedColumn.toInt) = some (-9223372036854775808) := by
  decide

end NewApi
