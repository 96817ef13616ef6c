import NewApi.Theorems.SubscriptionBounds

/-!
# The used amount covers the requests of the period

A reset sets the used amount to 0, and whatever is given back afterwards is taken from the used amount of the new period: neither a refund
nor a settlement knows in which period its request was charged (`late_refund_uncovers`). Within the range of an `int64` there is no other
way (`used_covers_period`).
-/

namespace NewApi

open Run Tables

namespace PeriodAux

open StoreAux ResetAux

/-! ## The list of the period's requests -/

def consumedBy (current : List (String × Int)) : Int := (current.map (·.2)).sum

theorem consumedBy_append (current more : List (String × Int)) : consumedBy (current ++ more) = consumedBy current + consumedBy more := by
  simp [consumedBy]

/-- The entry of a request moves, where there is one. -/
theorem consumedBy_addTo (requestId : String) (n : Int) (current : List (String × Int)) :
    consumedBy (addTo requestId n current) = consumedBy current + if requestId ∈ current.map (·.1) then n else 0 := by
  induction current with
  | nil => simp [addTo, consumedBy]
  | cons entry rest ih =>
    obtain ⟨id, amount⟩ := entry
    simp only [consumedBy] at ih ⊢
    unfold addTo
    by_cases hid : id = requestId
    · simp [hid]
      ring
    · simp only [if_neg hid, List.map_cons, List.sum_cons, ih, List.mem_cons, Ne.symm hid, false_or]
      ring

section Step

variable {cfg : Config} {sid now : Int} {r : PeriodRun} {e : SubEvent} {row row' : UserSubscription} {st' : Store} {op : SubOp}

/-- A row that keeps its reset time was not reset. -/
theorem wasReset_of_kept (hrow : r.store.subs.lookup sid = some row) (hrow' : st'.subs.lookup sid = some row')
    (hkept : row'.lastResetTime = row.lastResetTime) : wasReset cfg sid now r.store st' = false := by
  simp [wasReset, hrow, hrow', hkept]

/-- A reset that is written is seen, where a period has ended. -/
theorem wasReset_of_reset {plan : SubscriptionPlan} (hplan : cfg.planById row.planId = .ok plan)
    (hrow : r.store.subs.lookup sid = some row) (hrow' : st'.subs.lookup sid = some row')
    (hlast : row'.lastResetTime = (maybeResetUserSubscription cfg.calendar row plan now).1.lastResetTime) :
    wasReset cfg sid now r.store st' = resetsNow cfg.calendar row plan now := by
  have hrenewed := (maybeReset_resetTo cfg.calendar row plan now).renewed
  simp only [wasReset, hrow, hrow', hplan, hlast]
  cases hended : resetsNow cfg.calendar row plan now with
  | false => rfl
  | true => simpa using hrenewed hended

/-- The list is covered by the row a call came to: it is reset with the list, or both stay. -/
theorem covered_visited {mid : UserSubscription} (hvisited : Visited cfg now row mid)
    (hrow : r.store.subs.lookup sid = some row) (hrow' : st'.subs.lookup sid = some row') (hlast : row'.lastResetTime = mid.lastResetTime)
    (h : consumedBy r.current ≤ row.amountUsed) :
    consumedBy (if wasReset cfg sid now r.store st' then [] else r.current) ≤ mid.amountUsed := by
  cases hvisited with
  | kept =>
    rw [wasReset_of_kept hrow hrow' hlast]
    exact h
  | reset plan hplan =>
    rw [wasReset_of_reset hplan hrow hrow' hlast, (maybeReset_resetTo cfg.calendar row plan now).used]
    cases resetsNow cfg.calendar row plan now with
    | false => exact h
    | true => exact le_refl 0

/-- A call that is idle leaves what the list sums to, but for a reset. -/
theorem consumedBy_idle (hcall : subCall cfg ⟨now, op⟩ r.store = (st', .ok ())) (hidle : Idle sid r.store st' op) :
    consumedBy (nextCurrent cfg sid ⟨now, op⟩ r) = consumedBy (if wasReset cfg sid now r.store st' then [] else r.current) := by
  simp only [nextCurrent, hcall]
  cases op with
  | preConsume requestId userId amount =>
    simp only [Idle] at hidle
    simp [hidle]
  | postConsume requestId id delta =>
    simp only
    rcases hidle with hother | hzero
    · rw [if_neg hother]
    split
    · rw [consumedBy_addTo, hzero, ite_self, add_zero]
    · rfl
  | refund requestId =>
    rw [consumedBy_addTo, hidle, neg_zero, ite_self, add_zero]
  | resetDue limit => rfl

/-- A settlement or refund moves the list by no more than the used amount. -/
theorem consumedBy_moves {delta : Int} (hcall : subCall cfg ⟨now, op⟩ r.store = (st', .ok ()))
    (hmoves : Moves sid r.store delta op) (hcurrent : CurrentStep sid r ⟨now, op⟩)
    (hkept : wasReset cfg sid now r.store st' = false) : consumedBy (nextCurrent cfg sid ⟨now, op⟩ r) ≤ consumedBy r.current + delta := by
  simp only [nextCurrent, hcall, hkept]
  cases op with
  | preConsume _ _ _ | resetDue _ => exact hmoves.elim
  | postConsume requestId id n =>
    obtain ⟨rfl, rfl⟩ := hmoves
    simp only [Bool.false_eq_true, if_false, if_true, consumedBy_addTo]
    split
    · exact le_refl _
    rename_i hother
    have hnonneg : 0 ≤ n := by
      by_contra hneg
      exact hother (hcurrent ⟨rfl, not_le.1 hneg⟩)
    omega
  | refund requestId =>
    obtain ⟨hpos, rfl⟩ := hmoves
    simp only [Bool.false_eq_true, if_false, consumedBy_addTo, if_pos (hcurrent hpos)]
    exact le_refl _

/-- The row covers what the requests of the period have consumed. -/
def Covered (sid : Int) (r : PeriodRun) : Prop :=
  ∃ row, r.store.subs.lookup sid = some row ∧ consumedBy r.current ≤ row.amountUsed

/-- Every current step keeps the amount covered. -/
theorem covered_step (hcurrent : CurrentStep sid r e) (h : Covered sid r) : Covered sid (periodStep cfg sid r e) := by
  obtain ⟨row, hrow, hle⟩ := h
  obtain ⟨row', hrow', hway⟩ := subCall_way hrow cfg e
  refine ⟨row', hrow', ?_⟩
  show consumedBy (nextCurrent cfg sid e r) ≤ row'.amountUsed
  obtain ⟨now, op⟩ := e
  generalize hcall : subCall cfg ⟨now, op⟩ r.store = out at hrow' hway
  cases hway with
  | rejects msg =>
    simp only [nextCurrent, hcall, wasReset_of_kept hrow hrow' rfl]
    exact hle
  | visits st' row' hidle hvisited =>
    rw [consumedBy_idle hcall hidle]
    exact covered_visited hvisited hrow hrow' rfl hle
  | charges st' requestId userId amount hpos plan hop hcharged hplan _ =>
    subst hop
    have hcovered := covered_visited (.reset plan hplan) hrow hrow' rfl hle
    simp only [nextCurrent, hcall, hcharged, if_true, consumedBy_append]
    have hone : consumedBy [(requestId, amount)] = amount := by simp [consumedBy]
    rw [hone]
    exact add_le_add_left hcovered amount
  | moves st' delta hmoves _ =>
    have hmoved := consumedBy_moves hcall hmoves hcurrent (wasReset_of_kept hrow hrow' rfl)
    calc consumedBy (nextCurrent cfg sid ⟨now, op⟩ r) ≤ consumedBy r.current + delta := hmoved
      _ ≤ row.amountUsed + delta := by omega
      _ ≤ max 0 (row.amountUsed + delta) := le_max_right 0 _

end Step

end PeriodAux

open PeriodAux BoundsAux

/-- In every sequence of calls whose sums stay in the range of an `int64` and in which what is given back to a subscription is given back
for a request of its current period, the column of the used amount is never below what the requests that were pre-consumed since the last
reset have consumed: every mix of pre-charges of any user, settlements, refunds and runs of the reset job, at any times. -/
theorem used_covers_period (cfg : Config) (st : Store) (sid : Int) (row : UserSubscription) (hrow : st.subs.lookup sid = some row)
    (htotal : row.amountTotal < int64Bound) (hused : row.amountUsed < int64Bound)
    (hcap : 0 < row.amountTotal → row.amountUsed ≤ row.amountTotal) (es : List SubEvent)
    (hok : Along (periodStep cfg sid) (fun r e => CurrentStep sid r e ∧ RangeStep sid r.store e) ⟨st, []⟩ es) :
    ∀ pre, pre <+: es → ∃ row', (exec (periodStep cfg sid) ⟨st, []⟩ pre).store.subs.lookup sid = some row' ∧
      (exec (periodStep cfg sid) ⟨st, []⟩ pre).consumed ≤ row'.usedColumn.toInt := by
  intro pre hpre
  have h0 : Covered sid ⟨st, []⟩ ∧ BoundsHold sid row.amountTotal st := ⟨⟨row, hrow, row.used_nonneg⟩, row, hrow, rfl, hused, hcap⟩
  obtain ⟨⟨row', hrow', hle⟩, row'', hrow'', hbounded⟩ := hok.invariant_reached
    (P := fun r => Covered sid r ∧ BoundsHold sid row.amountTotal r.store)
    (fun _ _ hok h => ⟨covered_step hok.1 h.1, boundsHold_step htotal hok.2 h.2⟩) h0 pre hpre
  obtain rfl := Option.some.inj (hrow'.symm.trans hrow'')
  exact ⟨row', hrow', (toInt_usedColumn hbounded.range).symm ▸ hle⟩

namespace PeriodAux

/-- A configuration whose plan is reset every 1000 seconds. -/
def shortPeriods : Config := { sampleConfig with planById := fun _ => .ok ⟨1, "basic", "custom", 1000⟩ }

/-- The run of calls on the sample subscription, from its first use. -/
def shortRun (es : List SubEvent) : PeriodRun := exec (periodStep shortPeriods 7) ⟨sampleStore 0, []⟩ es

end PeriodAux

theorem used_covers_period_sample :
    let es : List SubEvent := [⟨100, .preConsume "a" 1 60⟩, ⟨150, .postConsume "a" 7 (-20)⟩, ⟨1200, .preConsume "b" 1 50⟩,
      ⟨1250, .postConsume "a" 7 10⟩, ⟨1300, .preConsume "c" 1 30⟩, ⟨1400, .refund "b"⟩]
    (shortRun es).consumed = 30 ∧ ∃ row', (shortRun es).store.subs.lookup 7 = some row' ∧
      (shortRun es).consumed ≤ row'.usedColumn.toInt := by
  refine ⟨by decide, ?_⟩
  exact used_covers_period shortPeriods (sampleStore 0) 7 _ rfl (by decide) (by decide) (by decide) _ (by decide) _ List.prefix_rfl

/-- A request of 60 is charged before the reset and refunded after it: of the 50 that were charged in the new period nothing is
recorded any more. -/
theorem late_refund_uncovers :
    let run := shortRun [⟨100, .preConsume "a" 1 60⟩, ⟨1200, .preConsume "b" 1 50⟩, ⟨1300, .refund "a"⟩]
    run.consumed = 50 ∧ (run.store.subs.lookup 7).map (·.usedColumn.toInt) = some 0 := by
  decide

end NewApi
