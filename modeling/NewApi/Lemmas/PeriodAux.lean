import NewApi.Lemmas.ResetAux

/-!
# Helpers for the period theorems: what a call does to one subscription

`RowWay` lists everything a call can do to the row of one subscription: nothing, a reset, a charge after the reset that was due, a
settlement or a refund. The periodic job goes through a batch of rows with different ids, so it comes to a row at most once.
-/

namespace NewApi

open Tables

namespace PeriodAux

open StoreAux ResetAux

/-! ## The periodic job -/

section Job

variable {cfg : Config} {now sid : Int} {row : UserSubscription} {subs : List UserSubscription} {acc : Store × Nat}

/-- The job visits one row and leaves the others. -/
theorem resetDueSubscription_visits {sub : UserSubscription} (hsub : acc.1.subs.lookup sub.id = some sub) :
    (resetDueSubscription cfg now acc sub).1.records = acc.1.records ∧ ∃ row', Visited cfg now sub row' ∧
      ∀ k, (resetDueSubscription cfg now acc sub).1.subs.lookup k = if k = sub.id then some row' else acc.1.subs.lookup k := by
  have hkept : ∀ k, acc.1.subs.lookup k = if k = sub.id then some sub else acc.1.subs.lookup k := by
    intro k
    split
    · rename_i hk
      rw [hk, hsub]
    · rfl
  unfold resetDueSubscription
  split
  · exact ⟨rfl, sub, .kept, hkept⟩
  rename_i plan hplan
  rw [hsub]
  simp only
  split
  · exact ⟨(saveReset_keeps _).2.2, _, .reset plan hplan, lookup_saveReset hsub cfg.calendar plan now⟩
  · exact ⟨rfl, sub, .kept, hkept⟩

/-- The job leaves the records, and a row that is not in its batch. -/
theorem foldl_resetDue_frame (hstored : Stored acc.1 subs) :
    (subs.foldl (resetDueSubscription cfg now) acc).1.records = acc.1.records ∧
      (sid ∉ subs.map (·.id) → (subs.foldl (resetDueSubscription cfg now) acc).1.subs.lookup sid = acc.1.subs.lookup sid) := by
  induction subs generalizing acc with
  | nil => exact ⟨rfl, fun _ => rfl⟩
  | cons sub rest ih =>
    obtain ⟨hrecords, row', -, hlook⟩ := resetDueSubscription_visits (hstored.lookup sub List.mem_cons_self)
    have htail : Stored (resetDueSubscription cfg now acc sub).1 rest := hstored.tail fun k hk => (hlook k).trans (if_neg hk)
    obtain ⟨hrest, hframe⟩ := ih htail
    refine ⟨hrest.trans hrecords, fun hsid => ?_⟩
    rw [List.map_cons, List.mem_cons, not_or] at hsid
    exact (hframe hsid.2).trans ((hlook sid).trans (if_neg hsid.1))

/-- Over a batch every row is visited or left. -/
theorem foldl_resetDue_visited (acc : Store × Nat) (hstored : Stored acc.1 subs) (hrow : acc.1.subs.lookup sid = some row) :
    ∃ row', (subs.foldl (resetDueSubscription cfg now) acc).1.subs.lookup sid = some row' ∧ Visited cfg now row row' := by
  induction subs generalizing acc with
  | nil => exact ⟨row, hrow, .kept⟩
  | cons sub rest ih =>
    have hsub := hstored.lookup sub List.mem_cons_self
    obtain ⟨-, row', hvisited, hlook⟩ := resetDueSubscription_visits hsub
    have htail : Stored (resetDueSubscription cfg now acc sub).1 rest := hstored.tail fun k hk => (hlook k).trans (if_neg hk)
    by_cases hsid : sid = sub.id
    · obtain rfl : sub = row := by
        rw [hsid, hsub] at hrow
        exact Option.some.inj hrow
      refine ⟨row', ?_, hvisited⟩
      exact ((foldl_resetDue_frame htail).2 (hsid ▸ hstored.not_mem)).trans ((hlook sid).trans (if_pos hsid))
    · exact ih _ htail (((hlook sid).trans (if_neg hsid)).trans hrow)

end Job

/-! ## One call -/

section Calls

variable {cfg : Config} {sid : Int} {st : Store} {row : UserSubscription}

/-- The rows of a batch are in the table. -/
theorem stored_batch (limit now : Int) : Stored st (((st.dueSubs now).insertionSort resetsBefore).take (resetBatch limit)) := by
  refine stored_of_rows (fun c hc => ?_) ?_
  · have hsorted := List.mem_of_mem_take hc
    rw [List.mem_insertionSort] at hsorted
    exact List.mem_of_mem_filter hsorted
  · have hnodup := (List.perm_insertionSort resetsBefore (st.dueSubs now)).nodup_iff.2 (st.subs.nodup.of_map.filter _)
    exact hnodup.sublist (List.take_sublist _ _)

/-- The call moves nothing of subscription `sid` beyond a reset. -/
def Idle (sid : Int) (st st' : Store) : SubOp → Prop
  | .preConsume requestId _ _ => chargedOn sid requestId st st' = false
  | .postConsume _ userSubscriptionId delta => userSubscriptionId ≠ sid ∨ delta = 0
  | .refund requestId => givesBack sid requestId st = 0
  | .resetDue _ => True

/-- The call is a settlement or a refund that moves the used amount of subscription `sid` by `delta`. -/
def Moves (sid : Int) (st : Store) (delta : Int) : SubOp → Prop
  | .postConsume _ userSubscriptionId n => userSubscriptionId = sid ∧ n = delta
  | .refund requestId => 0 < givesBack sid requestId st ∧ -givesBack sid requestId st = delta
  | .preConsume _ _ _ | .resetDue _ => False

/-- Everything a call can do to the row of `sid`: a call that is rejected leaves the tables, and one that goes through passes over the
row, charges it after the reset that was due, or moves its used amount. -/
inductive RowWay (cfg : Config) (sid : Int) (st : Store) (row : UserSubscription) (now : Int) (op : SubOp) :
    Store × Except String Unit → UserSubscription → Prop
  | rejects (msg : String) : RowWay cfg sid st row now op (st, .error msg) row
  | visits (st' : Store) (row' : UserSubscription) (hidle : Idle sid st st' op) (hvisited : Visited cfg now row row') :
      RowWay cfg sid st row now op (st', .ok ()) row'
  | charges (st' : Store) (requestId : String) (userId amount : Int) (hpos : 0 < amount) (plan : SubscriptionPlan)
      (hop : op = .preConsume requestId userId amount) (hcharged : chargedOn sid requestId st st' = true)
      (hplan : cfg.planById row.planId = .ok plan)
      (hroom : 0 < row.amountTotal → (maybeResetUserSubscription cfg.calendar row plan now).1.amountUsed + amount ≤ row.amountTotal) :
      RowWay cfg sid st row now op (st', .ok ()) ((maybeResetUserSubscription cfg.calendar row plan now).1.charge amount hpos)
  | moves (st' : Store) (delta : Int) (hmoves : Moves sid st delta op)
      (hcap : 0 < row.amountTotal → max 0 (row.amountUsed + delta) ≤ row.amountTotal) :
      RowWay cfg sid st row now op (st', .ok ()) (moveUsed row delta)

section

variable (hrow : st.subs.lookup sid = some row)

include hrow

/-- A pre-consumption changes the row in one of the known ways. -/
theorem preConsume_way (now : Int) (requestId : String) (userId amount : Int) :
    ∃ row', (subCall cfg ⟨now, .preConsume requestId userId amount⟩ st).1.subs.lookup sid = some row' ∧
      RowWay cfg sid st row now (.preConsume requestId userId amount) (subCall cfg ⟨now, .preConsume requestId userId amount⟩ st) row' := by
  simp only [subCall]
  cases hpre : preConsumeUserSubscription cfg st requestId userId amount now none with
  | error msg => exact ⟨row, hrow, .rejects msg⟩
  | ok p =>
    obtain ⟨-, hpos, ⟨hknown, hst⟩ | ⟨hnew, hloop⟩⟩ := preConsume_cases hpre
    · refine ⟨row, hst ▸ hrow, .visits _ row ?_ .kept⟩
      simp [Idle, chargedOn, hknown]
    have hstored := stored_activeSubs st userId now
    obtain ⟨_, _, _, _, htakes⟩ := consumeFirst_takes hstored hloop
    have hrecords := Table.lookup_insert htakes.records requestId
    rw [if_pos rfl, ← htakes.chosen] at hrecords
    cases consumeFirst_consumes hstored hrow hloop with
    | passes row' hother hrow' hvisited =>
      refine ⟨row', hrow', .visits _ row' ?_ hvisited⟩
      simp [Idle, chargedOn, hnew, hrecords, hother]
    | takes plan hchosen hplan hrow' hroom =>
      refine ⟨_, hrow', .charges _ requestId userId amount hpos plan rfl ?_ hplan hroom⟩
      simp [chargedOn, hnew, hrecords, hchosen]

/-- A settlement that goes through moves the row it names and no other. -/
theorem postConsume_row {id delta : Int} {st' : Store} (h : postConsumeUserSubscriptionDelta st id delta none = .ok st') :
    ((id ≠ sid ∨ delta = 0) ∧ st'.subs.lookup sid = some row) ∨ (id = sid ∧ st'.subs.lookup sid = some (moveUsed row delta) ∧
        (0 < row.amountTotal → max 0 (row.amountUsed + delta) ≤ row.amountTotal)) := by
  by_cases hd : delta = 0
  · refine .inl ⟨.inr hd, ?_⟩
    unfold postConsumeUserSubscriptionDelta at h
    split at h
    · cases h
    · rw [← Except.ok.inj h]
      exact hrow
  · obtain ⟨found, hfound, rfl, hcap⟩ := postConsume_ok hd h
    by_cases hid : id = sid
    · subst hid
      rw [hfound] at hrow
      obtain rfl := Option.some.inj hrow
      exact .inr ⟨rfl, lookup_moveUsed hfound, hcap⟩
    · refine .inl ⟨.inl hid, ?_⟩
      have hkey : sid ≠ (moveUsed found delta).id := by
        have hfoundId : found.id = id := Table.lookup_key hfound
        show sid ≠ found.id
        rw [hfoundId]
        exact Ne.symm hid
      rw [Table.lookup_save, if_neg hkey]
      exact hrow

/-- So does a settlement. -/
theorem postConsume_way (now : Int) (requestId : String) (id delta : Int) :
    ∃ row', (subCall cfg ⟨now, .postConsume requestId id delta⟩ st).1.subs.lookup sid = some row' ∧
      RowWay cfg sid st row now (.postConsume requestId id delta) (subCall cfg ⟨now, .postConsume requestId id delta⟩ st) row' := by
  simp only [subCall]
  cases hpost : postConsumeUserSubscriptionDelta st id delta none with
  | error msg => exact ⟨row, hrow, .rejects msg⟩
  | ok st' =>
    rcases postConsume_row hrow hpost with ⟨hidle, hkept⟩ | ⟨hid, hmoved, hcap⟩
    · exact ⟨row, hkept, .visits st' row hidle .kept⟩
    · exact ⟨_, hmoved, .moves st' delta ⟨hid, rfl⟩ hcap⟩

/-- So does a refund. -/
theorem refund_way (now : Int) (requestId : String) : ∃ row', (subCall cfg ⟨now, .refund requestId⟩ st).1.subs.lookup sid = some row' ∧
      RowWay cfg sid st row now (.refund requestId) (subCall cfg ⟨now, .refund requestId⟩ st) row' := by
  simp only [subCall]
  unfold refundSubscriptionPreConsume
  split
  · exact ⟨row, hrow, .rejects _⟩
  split
  · exact ⟨row, hrow, .rejects _⟩
  · exact ⟨row, hrow, .rejects _⟩
  · rename_i record _ hrecord
    split
    · rename_i hrefunded
      refine ⟨row, hrow, .visits _ row ?_ .kept⟩
      simp [Idle, givesBack, hrecord, hrefunded]
    · rename_i hopen
      have hconsumed : record.status = .consumed := by
        cases hstatus : record.status with
        | consumed => rfl
        | refunded => exact absurd hstatus hopen
      by_cases hnothing : record.preConsumed ≤ 0
      · simp only [if_pos hnothing]
        refine ⟨row, hrow, .visits _ row ?_ .kept⟩
        simp [Idle, givesBack, hrecord, max_eq_left hnothing]
      · simp only [if_neg hnothing]
        have hgiven : max 0 record.preConsumed = record.preConsumed := max_eq_right (not_le.1 hnothing).le
        cases hpost : postConsumeUserSubscriptionDelta st record.userSubscriptionId (-record.preConsumed) none with
        | error msg => exact ⟨row, hrow, .rejects msg⟩
        | ok st' =>
          rcases postConsume_row hrow hpost with ⟨hidle, hkept⟩ | ⟨hid, hmoved, hcap⟩
          · have hother : record.userSubscriptionId ≠ sid := hidle.resolve_right (by omega)
            refine ⟨row, hkept, .visits _ row ?_ .kept⟩
            simp [Idle, givesBack, hrecord, hother]
          · refine ⟨_, hmoved, .moves _ (-record.preConsumed) ?_ hcap⟩
            simp only [Moves, givesBack, hrecord, hconsumed, hid, and_self, if_true, hgiven]
            exact ⟨not_le.1 hnothing, trivial⟩

/-- So does the job. -/
theorem resetDue_way (now limit : Int) : ∃ row', (subCall cfg ⟨now, .resetDue limit⟩ st).1.subs.lookup sid = some row' ∧
      RowWay cfg sid st row now (.resetDue limit) (subCall cfg ⟨now, .resetDue limit⟩ st) row' := by
  obtain ⟨row', hrow', hvisited⟩ := foldl_resetDue_visited (st, 0) (stored_batch limit now) hrow
  exact ⟨row', hrow', .visits _ row' trivial hvisited⟩

/-- Every call changes the row in one of the known ways. -/
theorem subCall_way (cfg : Config) (e : SubEvent) :
    ∃ row', (subCall cfg e st).1.subs.lookup sid = some row' ∧ RowWay cfg sid st row e.now e.op (subCall cfg e st) row' := by
  obtain ⟨now, op⟩ := e
  cases op with
  | preConsume requestId userId amount => exact preConsume_way hrow now requestId userId amount
  | postConsume requestId id delta => exact postConsume_way hrow now requestId id delta
  | refund requestId => exact refund_way hrow now requestId
  | resetDue limit => exact resetDue_way hrow now limit

end

end Calls

end PeriodAux

end NewApi
