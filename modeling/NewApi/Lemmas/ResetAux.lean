import NewApi.Billing.Period
import NewApi.Lemmas.StoreAux

/-!
# Helpers for the subscription theorems: resets and the pre-charge

What one reset does to a row (`ResetTo`), and what the loop of the pre-charge does to the tables on its way over the candidates: each
is reset, the first with room for the amount is taken (`Takes`), and no other row is charged (`Consumes`). The rows a loop goes over
come from the table, so no two share an id and each is met once (`Stored`).
-/

namespace NewApi

open Tables

namespace ResetAux

/-! ## One reset -/

section Reset

variable {cal : Calendar} {plan : SubscriptionPlan} {endUnix now : Int} {sub : UserSubscription}

/-- A next reset lies ahead. -/
theorem lt_calcNextResetTime {base : Int} (h : 0 < calcNextResetTime cal base plan endUnix) :
    base < calcNextResetTime cal base plan endUnix := by
  have hclip : ∀ next : Int, base < next → 0 < (if 0 < endUnix ∧ endUnix < next then 0 else next) →
      base < (if 0 < endUnix ∧ endUnix < next then 0 else next) := by
    intro next hnext hpos
    split at hpos
    · omega
    · rwa [if_neg ‹_›]
  unfold calcNextResetTime at h ⊢
  simp only at h ⊢
  split at h
  · exact hclip _ (cal.lt_nextDay base) h
  · exact hclip _ (cal.lt_nextMonday base) h
  · exact hclip _ (cal.lt_nextMonth base) h
  · split at h
    · omega
    · rw [if_neg ‹_›]
      exact hclip _ (by omega) h
  · omega

/-- The loop over missed periods only moves forward. -/
theorem le_advancePeriods (fuel : Nat) {base next : Int} (hnext : 0 < next → base < next) (advanced : Bool) :
    base ≤ (advancePeriods cal plan endUnix now fuel base next advanced).1 := by
  induction fuel generalizing base next advanced with
  | zero => exact le_refl base
  | succ fuel ih =>
    unfold advancePeriods
    split
    · rename_i hdue
      exact (hnext hdue.1).le.trans (ih lt_calcNextResetTime true)
    · exact le_refl base

/-- Where the loop advances it ends later than it started, and after the epoch. -/
theorem lt_advancePeriods (cal : Calendar) (plan : SubscriptionPlan) (endUnix now : Int) (fuel : Nat) (base : Int)
    (h : (advancePeriods cal plan endUnix now fuel base (calcNextResetTime cal base plan endUnix) false).2.2 = true) :
    base < (advancePeriods cal plan endUnix now fuel base (calcNextResetTime cal base plan endUnix) false).1 ∧
      0 < (advancePeriods cal plan endUnix now fuel base (calcNextResetTime cal base plan endUnix) false).1 := by
  cases fuel with
  | zero => cases h
  | succ fuel =>
    unfold advancePeriods at h ⊢
    split at h
    · rename_i hdue
      rw [if_pos hdue]
      generalize hnext : calcNextResetTime cal base plan endUnix = next at hdue ⊢
      have hlt : base < next := by
        rw [← hnext] at hdue ⊢
        exact lt_calcNextResetTime hdue.1
      have hle : next ≤ (advancePeriods cal plan endUnix now fuel next (calcNextResetTime cal next plan endUnix) true).1 :=
        le_advancePeriods fuel lt_calcNextResetTime true
      exact ⟨hlt.trans_le hle, hdue.1.trans_le hle⟩
    · cases h

/-- What a reset of the row amounts to: the used amount is 0 and the time of the last reset is new where a period has ended, and the
used amount stays where none has. The id and the total stay in any case. -/
structure ResetTo (ended : Bool) (sub row : UserSubscription) : Prop where
  id : row.id = sub.id
  amountTotal : row.amountTotal = sub.amountTotal
  used : row.amountUsed = if ended then 0 else sub.amountUsed
  renewed : ended = true → row.lastResetTime ≠ sub.lastResetTime

/-- A reset empties the used amount exactly where one is due. -/
theorem maybeReset_resetTo (cal : Calendar) (sub : UserSubscription) (plan : SubscriptionPlan) (now : Int) :
    ResetTo (resetsNow cal sub plan now) sub (maybeResetUserSubscription cal sub plan now).1 := by
  have hkept : ResetTo false sub sub := ⟨rfl, rfl, rfl, nofun⟩
  unfold maybeResetUserSubscription resetsNow
  by_cases hlater : 0 < sub.nextResetTime ∧ now < sub.nextResetTime
  · simpa [hlater] using hkept
  by_cases hnever : normalizeResetPeriod plan.quotaResetPeriod = "never"
  · simpa [hlater, hnever] using hkept
  simp only [hlater, hnever, if_false, decide_false, Bool.not_false, Bool.true_and]
  generalize hbase : (if sub.lastResetTime ≤ 0 then sub.startTime else sub.lastResetTime) = base
  have hlt := lt_advancePeriods cal plan sub.endTime now (now - base).toNat base
  generalize advancePeriods cal plan sub.endTime now (now - base).toNat base
    (calcNextResetTime cal base plan sub.endTime) false = result at hlt ⊢
  obtain ⟨base', next', advanced⟩ := result
  cases advanced with
  | true =>
    obtain ⟨hafter, hpos⟩ := hlt rfl
    refine ⟨rfl, rfl, rfl, fun _ => ?_⟩
    show base' ≠ sub.lastResetTime
    split at hbase <;> omega
  | false =>
    simp only
    split
    · exact ⟨rfl, rfl, rfl, nofun⟩
    · exact hkept

/-- A row that is not written is as it was. -/
theorem maybeReset_not_written (h : (maybeResetUserSubscription cal sub plan now).2 = false) :
    (maybeResetUserSubscription cal sub plan now).1 = sub := by
  unfold maybeResetUserSubscription at h ⊢
  split
  · rfl
  split
  · rfl
  rw [if_neg ‹_›, if_neg ‹_›] at h
  simp only at h ⊢
  generalize advancePeriods cal plan _ _ _ _ _ _ = result at h ⊢
  obtain ⟨base', next', advanced⟩ := result
  cases advanced with
  | true => cases h
  | false =>
    simp only at h ⊢
    split
    · rw [if_pos ‹_›] at h
      cases h
    · rfl

end Reset

/-! ## The rows a loop comes to -/

section Loops

variable {cfg : Config} {now sid amount userId : Int} {requestId : String} {hpos : 0 < amount} {st : Store}
  {sub : UserSubscription}
  {row candidate : UserSubscription} {subs : List UserSubscription} {p : Store × SubscriptionPreConsumeResult}

/-- What a reset on the way leaves of a row: the row, or the row reset under its plan. -/
inductive Visited (cfg : Config) (now : Int) (row : UserSubscription) : UserSubscription → Prop
  | kept : Visited cfg now row row
  | reset (plan : SubscriptionPlan) (hplan : cfg.planById row.planId = .ok plan) :
      Visited cfg now row (maybeResetUserSubscription cfg.calendar row plan now).1

@[simp] theorem saveReset_keeps (reset : UserSubscription × Bool) : (st.saveReset reset).users = st.users ∧
    (st.saveReset reset).tokens = st.tokens ∧ (st.saveReset reset).records = st.records := by
  unfold Store.saveReset
  split <;> exact ⟨rfl, rfl, rfl⟩

/-- A saved reset changes its own row alone. -/
theorem lookup_saveReset (hsub : st.subs.lookup sub.id = some sub) (cal : Calendar) (plan : SubscriptionPlan)
    (now k : Int) : (st.saveReset (maybeResetUserSubscription cal sub plan now)).subs.lookup k =
      if k = sub.id then some (maybeResetUserSubscription cal sub plan now).1 else st.subs.lookup k := by
  have hid := (maybeReset_resetTo cal sub plan now).id
  unfold Store.saveReset
  split
  · rw [Table.lookup_save, hid]
    split
    · rename_i hk
      rw [hk, hsub]
      rfl
    · rfl
  · rename_i hwritten
    rw [maybeReset_not_written (by simpa using hwritten)]
    split
    · rename_i hk
      rw [hk, hsub]
    · rfl

/-- Rows with the ids of a table, each of them the one the table looks up. -/
structure Stored (st : Store) (subs : List UserSubscription) : Prop where
  nodup : (subs.map (·.id)).Nodup
  lookup : ∀ c ∈ subs, st.subs.lookup c.id = some c

theorem Stored.not_mem (h : Stored st (candidate :: subs)) : candidate.id ∉ subs.map (·.id) :=
  (List.nodup_cons.1 h.nodup).1

/-- The rest of the rows are as they were where only the first was written. -/
theorem Stored.tail {st' : Store} (h : Stored st (candidate :: subs))
    (hframe : ∀ k, k ≠ candidate.id → st'.subs.lookup k = st.subs.lookup k) : Stored st' subs := by
  refine ⟨(List.nodup_cons.1 h.nodup).2, fun c hc => ?_⟩
  have hne : c.id ≠ candidate.id := by
    intro heq
    exact h.not_mem (heq ▸ List.mem_map_of_mem hc)
  rw [hframe c.id hne]
  exact h.lookup c (List.mem_cons_of_mem _ hc)

/-- The candidates behind one that was reset are still in the table. -/
theorem Stored.tail_reset (h : Stored st (candidate :: subs)) (cal : Calendar)
    (plan : SubscriptionPlan) (now : Int) : Stored (st.saveReset (maybeResetUserSubscription cal candidate plan now)) subs := by
  refine h.tail fun k hk => ?_
  rw [lookup_saveReset (h.lookup candidate List.mem_cons_self), if_neg hk]

/-- The pre-charge takes the candidate: its reset row has room for the amount, is charged, and the request is recorded with it. -/
structure Takes (requestId : String) (userId amount : Int) (hpos : 0 < amount) (st : Store) (candidate reset : UserSubscription)
    (p : Store × SubscriptionPreConsumeResult) : Prop where
  chosen : p.2.userSubscriptionId = candidate.id
  preConsumed : p.2.preConsumed = amount
  users : p.1.users = st.users
  tokens : p.1.tokens = st.tokens
  records : st.records.insert ⟨requestId, userId, candidate.id, amount, .consumed⟩ = some p.1.records
  row : p.1.subs.lookup candidate.id = some (reset.charge amount hpos)
  room : 0 < candidate.amountTotal → reset.amountUsed + amount ≤ candidate.amountTotal

/-- A loop that succeeds passes over its first candidate, or takes it and leaves the other rows. -/
theorem consumeFirst_head (hcandidate : st.subs.lookup candidate.id = some candidate)
    (h : consumeFirst cfg requestId userId amount now hpos (candidate :: subs) st = .ok p) :
    ∃ plan, cfg.planById candidate.planId = .ok plan ∧
      (consumeFirst cfg requestId userId amount now hpos subs
          (st.saveReset (maybeResetUserSubscription cfg.calendar candidate plan now)) = .ok p ∨
        Takes requestId userId amount hpos st candidate (maybeResetUserSubscription cfg.calendar candidate plan now).1 p ∧
          ∀ k, k ≠ candidate.id → p.1.subs.lookup k = st.subs.lookup k) := by
  unfold consumeFirst at h
  split at h
  · cases h
  rename_i plan hplan
  refine ⟨plan, hplan, ?_⟩
  have hreset := maybeReset_resetTo cfg.calendar candidate plan now
  have hlook := lookup_saveReset hcandidate cfg.calendar plan now
  generalize maybeResetUserSubscription cfg.calendar candidate plan now = reset at h hreset hlook ⊢
  have hsaved : st.saveReset reset = if reset.2 then { st with subs := st.subs.save reset.1 } else st := rfl
  simp only [← hsaved] at h
  split at h
  · exact .inl h
  rename_i hroom
  simp only [hreset.id, saveReset_keeps] at h
  split at h
  · cases h
  rename_i records hinsert
  have hkey : (reset.1.charge amount hpos).id = candidate.id := hreset.id
  rw [← Except.ok.inj h]
  refine .inr ⟨⟨rfl, rfl, rfl, rfl, hinsert, ?_, fun htotal => ?_⟩, fun k hk => ?_⟩
  · rw [Table.lookup_save, hkey, if_pos rfl, hlook, if_pos rfl]
    rfl
  · rw [hreset.amountTotal] at hroom
    omega
  · rw [Table.lookup_save, hkey, if_neg hk, hlook, if_neg hk]

/-- What is taken is taken from a candidate, after its reset. -/
theorem consumeFirst_takes (hstored : Stored st subs) (h : consumeFirst cfg requestId userId amount now hpos subs st = .ok p) :
    ∃ candidate ∈ subs, ∃ plan, cfg.planById candidate.planId = .ok plan ∧
      Takes requestId userId amount hpos st candidate (maybeResetUserSubscription cfg.calendar candidate plan now).1 p := by
  induction subs generalizing st with
  | nil => cases h
  | cons first rest ih =>
    obtain ⟨plan, hplan, hrest | ⟨htakes, -⟩⟩ := consumeFirst_head (hstored.lookup first List.mem_cons_self) h
    · -- the resets on the way touch neither the users nor the tokens nor the records
      obtain ⟨candidate, hmem, plan', hplan', htakes⟩ := ih (hstored.tail_reset cfg.calendar plan now) hrest
      have husers := htakes.users
      have htokens := htakes.tokens
      have hrecords := htakes.records
      simp only [saveReset_keeps] at husers htokens hrecords
      exact ⟨candidate, List.mem_cons_of_mem _ hmem, plan', hplan', htakes.chosen, htakes.preConsumed, husers, htokens, hrecords,
        htakes.row, htakes.room⟩
    · exact ⟨first, List.mem_cons_self, plan, hplan, htakes⟩

/-- A row that is no candidate is left. -/
theorem consumeFirst_frame (hstored : Stored st subs) (hsid : sid ∉ subs.map (·.id))
    (h : consumeFirst cfg requestId userId amount now hpos subs st = .ok p) :
    p.2.userSubscriptionId ≠ sid ∧ p.1.subs.lookup sid = st.subs.lookup sid := by
  induction subs generalizing st with
  | nil => cases h
  | cons candidate rest ih =>
    rw [List.map_cons, List.mem_cons, not_or] at hsid
    have hcandidate := hstored.lookup candidate List.mem_cons_self
    obtain ⟨plan, -, hrest | ⟨htakes, hframe⟩⟩ := consumeFirst_head hcandidate h
    · obtain ⟨hne, hkept⟩ := ih (hstored.tail_reset cfg.calendar plan now) hsid.2 hrest
      rw [lookup_saveReset hcandidate, if_neg hsid.1] at hkept
      exact ⟨hne, hkept⟩
    · rw [htakes.chosen]
      exact ⟨Ne.symm hsid.1, hframe sid hsid.1⟩

/-- What the loop of the pre-charge does to the row of `sid`: another row is charged and this one is reset at most, or it is charged
after the reset that was due. -/
inductive Consumes (cfg : Config) (amount now sid : Int) (hpos : 0 < amount) (row : UserSubscription)
    (p : Store × SubscriptionPreConsumeResult) : Prop
  | passes (row' : UserSubscription) (hother : p.2.userSubscriptionId ≠ sid) (hrow' : p.1.subs.lookup sid = some row')
      (hvisited : Visited cfg now row row')
  | takes (plan : SubscriptionPlan) (hchosen : p.2.userSubscriptionId = sid) (hplan : cfg.planById row.planId = .ok plan)
      (hrow' : p.1.subs.lookup sid = some ((maybeResetUserSubscription cfg.calendar row plan now).1.charge amount hpos))
      (hroom : 0 < row.amountTotal → (maybeResetUserSubscription cfg.calendar row plan now).1.amountUsed + amount ≤ row.amountTotal)

/-- What becomes of any row. -/
theorem consumeFirst_consumes (hstored : Stored st subs)
    (hrow : st.subs.lookup sid = some row) (h : consumeFirst cfg requestId userId amount now hpos subs st = .ok p) :
    Consumes cfg amount now sid hpos row p := by
  induction subs generalizing st with
  | nil => cases h
  | cons candidate rest ih =>
    have hcandidate := hstored.lookup candidate List.mem_cons_self
    have htail := fun plan => hstored.tail_reset cfg.calendar plan now
    obtain ⟨plan, hplan, hrest | ⟨htakes, hframe⟩⟩ := consumeFirst_head hcandidate h
    · have hlook := lookup_saveReset hcandidate cfg.calendar plan now sid
      by_cases hsid : sid = candidate.id
      · -- the row itself was passed over: it is reset and not met again
        obtain rfl : candidate = row := by
          rw [hsid, hcandidate] at hrow
          exact Option.some.inj hrow
        obtain ⟨hne, hkept⟩ := consumeFirst_frame (htail plan) (hsid ▸ hstored.not_mem) hrest
        rw [hlook, if_pos hsid] at hkept
        exact .passes _ hne hkept (.reset plan hplan)
      · rw [if_neg hsid, hrow] at hlook
        exact ih (htail plan) hlook hrest
    · by_cases hsid : sid = candidate.id
      · subst hsid
        obtain rfl : candidate = row := Option.some.inj (hcandidate.symm.trans hrow)
        exact .takes plan htakes.chosen hplan htakes.row htakes.room
      · refine .passes row ?_ ((hframe sid hsid).trans hrow) .kept
        rw [htakes.chosen]
        exact Ne.symm hsid

end Loops

/-! ## The pre-charge -/

section PreConsume

variable {cfg : Config} {st : Store} {requestId : String} {userId amount now : Int}

theorem stored_of_rows {subs : List UserSubscription} (hsubs : ∀ c ∈ subs, c ∈ st.subs.rows) (hnodup : subs.Nodup) : Stored st subs := by
  refine ⟨?_, fun c hc => Table.lookup_of_mem (hsubs c hc)⟩
  exact hnodup.map_on fun a ha b hb hid => Table.eq_of_key_eq (hsubs a ha) (hsubs b hb) hid

/-- The candidates of a user are in the table. -/
theorem stored_activeSubs (st : Store) (userId now : Int) : Stored st ((st.activeSubs userId now).insertionSort spendsBefore) := by
  refine stored_of_rows (fun c hc => ?_) ?_
  · rw [List.mem_insertionSort] at hc
    exact List.mem_of_mem_filter hc
  · exact (List.perm_insertionSort _ _).nodup_iff.2 (st.subs.nodup.of_map.filter _)

/-- A pre-charge that succeeds finds its request recorded, or runs the loop over the candidates. -/
theorem preConsume_cases {fault : Fault} {p : Store × SubscriptionPreConsumeResult}
    (h : preConsumeUserSubscription cfg st requestId userId amount now fault = .ok p) : Text.trimSpace requestId ≠ "" ∧ ∃ hpos : 0 < amount,
      ((st.records.lookup requestId).isNone = false ∧ p.1 = st) ∨ ((st.records.lookup requestId).isNone = true ∧
          consumeFirst cfg requestId userId amount now hpos ((st.activeSubs userId now).insertionSort spendsBefore) st = .ok p) := by
  unfold preConsumeUserSubscription at h
  split at h
  · cases h
  split at h
  · cases h
  rename_i hreq
  split at h
  · rename_i hpos
    refine ⟨hreq, hpos, ?_⟩
    split at h
    · cases h
    split at h
    · rename_i existing hexisting
      split at h
      · cases h
      split at h
      · cases h
      · rw [← Except.ok.inj h, hexisting]
        exact .inl ⟨rfl, rfl⟩
    · rename_i hnew
      split at h
      · cases h
      · rw [hnew]
        exact .inr ⟨rfl, h⟩
  · cases h

end PreConsume

end ResetAux

end NewApi
