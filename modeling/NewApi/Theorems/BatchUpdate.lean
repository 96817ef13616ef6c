import NewApi.Model.BatchUpdate

/-!
# The batch updater loses and duplicates nothing of a row that is there

What is recorded is in the live store, in a snapshot that is being written, or in the database, and in one of them only: a step moves it
from one to the next (`batchUpdate_loses_nothing`). What was recorded for a row that is deleted meanwhile is lost (`deleted_row_loses`).
-/

namespace NewApi

open Run Threads Tables

namespace BatchAux

/-! ## One write -/

section Write

variable {db : BatchDb} (id key : Int) (kind : BatchUpdateType) (hlive : db.live kind.table id = true)

include hlive

/-- A write of the token moves one value. -/
theorem value_increaseTokenQuota (quota : Int) :
    (db.increaseTokenQuota key quota).value id kind = db.value id kind + if kind = .tokenQuota ∧ id = key then quota else 0 := by
  unfold BatchDb.increaseTokenQuota
  by_cases hid : id = key
  · subst hid
    cases kind <;> split <;> simp_all [BatchDb.value, BatchUpdateType.table]
  · cases kind <;> split <;> simp [BatchDb.value, hid]

/-- So does a write of the channel. -/
theorem value_updateChannelUsedQuota (quota : Int) : (db.updateChannelUsedQuota key quota).value id kind =
      db.value id kind + if kind = .channelUsedQuota ∧ id = key then quota else 0 := by
  unfold BatchDb.updateChannelUsedQuota
  by_cases hid : id = key
  · subst hid
    cases kind <;> split <;> simp_all [BatchDb.value, BatchUpdateType.table]
  · cases kind <;> split <;> simp [BatchDb.value, hid]

variable (left : BatchStores)

/-- Where there is nothing to add, the statement that is left out would add nothing. -/
theorem value_updateUser :
    (db.updateUserQuotaUsedQuotaAndRequestCount key (Tally.value (left .userQuota) key) (Tally.value (left .usedQuota) key)
        (Tally.value (left .requestCount) key)).value id kind + Tally.value (left.removeUser key kind) id =
      db.value id kind + Tally.value (left kind) id := by
  unfold BatchDb.updateUserQuotaUsedQuotaAndRequestCount
  by_cases hid : id = key
  · subst hid
    split
    · rename_i hnone
      rcases hnone with ⟨hquota, hused, hcount⟩ | hgone
      · cases kind <;> simp [BatchStores.removeUser, Tally.value_remove, hquota, hused, hcount]
      · cases kind <;> simp_all [BatchStores.removeUser, BatchUpdateType.table]
    · cases kind <;> simp [BatchStores.removeUser, BatchDb.value, Tally.value_remove]
  · split
    · cases kind <;> simp [BatchStores.removeUser, Tally.value_remove, hid]
    · cases kind <;> simp [BatchStores.removeUser, BatchDb.value, Tally.value_remove, hid]

omit hlive in
/-- What is written is what is removed from the snapshot. -/
theorem value_update_remove (written : BatchUpdateType) : (if kind = written ∧ id = key then Tally.value (left written) key else 0) +
        Tally.value (Function.update left written ((left written).remove key) kind) id = Tally.value (left kind) id := by
  by_cases hkind : kind = written
  · subst hkind
    rw [Function.update_self, Tally.value_remove]
    by_cases hid : id = key <;> simp [hid]
  · simp [hkind]

omit key hlive in
/-- A snapshot without tokens, channels and users is written. -/
theorem value_of_written {left : BatchStores} (htokens : (left .tokenQuota).rows = []) (hchannels : (left .channelUsedQuota).rows = [])
    (hids : left.userIDs = []) : Tally.value (left kind) id = 0 := by
  simp only [BatchStores.userIDs, Tally.keys, List.append_eq_nil_iff, List.map_eq_nil_iff] at hids
  apply Tally.value_of_nil
  cases kind with
  | userQuota => exact hids.1.1
  | usedQuota => exact hids.1.2
  | requestCount => exact hids.2
  | tokenQuota => exact htokens
  | channelUsedQuota => exact hchannels

/-- A write moves what it writes from the snapshot into the database. -/
theorem write_total :
    (db.write left key).1.value id kind + (db.write left key).2.held kind id = db.value id kind + Tally.value (left kind) id := by
  unfold BatchDb.write
  split
  · split
    · simp only [FlushState.held]
      rw [value_increaseTokenQuota id key kind hlive, add_assoc, value_update_remove]
    · rfl
  · rename_i htokens
    split
    · split
      · simp only [FlushState.held]
        rw [value_updateChannelUsedQuota id key kind hlive, add_assoc, value_update_remove]
      · rfl
    · rename_i hchannels
      split
      · split
        · exact value_updateUser id key kind hlive left
        · rfl
      · rename_i hids
        rw [value_of_written id kind (not_not.1 htokens) (not_not.1 hchannels) (not_not.1 hids)]
        rfl

variable (db)

omit hlive in
/-- What a token has left and what it has used add up to the same after every write. -/
theorem write_tokens : ((db.write left key).1.tokens id).remainQuota + ((db.write left key).1.tokens id).usedQuota =
      (db.tokens id).remainQuota + (db.tokens id).usedQuota := by
  unfold BatchDb.write
  split
  · split
    · unfold BatchDb.increaseTokenQuota
      split
      · by_cases hid : id = key
        · subst hid
          simp only [Function.update_self]
          omega
        · simp [hid]
      · rfl
    · rfl
  · split
    · unfold BatchDb.updateChannelUsedQuota
      split
      · split <;> rfl
      · rfl
    · split
      · split
        · unfold BatchDb.updateUserQuotaUsedQuotaAndRequestCount
          split <;> rfl
        · rfl
      · rfl

omit hlive in
/-- A write deletes no row. -/
theorem live_write : (db.write left key).1.live = db.live := by
  unfold BatchDb.write BatchDb.increaseTokenQuota BatchDb.updateChannelUsedQuota BatchDb.updateUserQuotaUsedQuotaAndRequestCount
  split_ifs <;> rfl

end Write

/-! ## One step of the updater -/

theorem index_injective {kind kind' : BatchUpdateType} (h : kind.index = kind'.index) : kind = kind' := by
  cases kind <;> cases kind' <;> first | rfl | cases h

theorem index_next {kind next : BatchUpdateType} (h : kind.next = some next) : next.index = kind.index + 1 := by
  cases kind <;> cases h
  all_goals rfl

/-- The last type has the highest index. -/
theorem index_le_last {kind : BatchUpdateType} (h : kind.next = none) (kind' : BatchUpdateType) : kind'.index ≤ kind.index := by
  cases kind <;> cases h
  cases kind' <;> decide

section Step

variable (key : Int) (s : BatchState) (kind : BatchUpdateType) (id : Int)

/-- A call that looks at a store holds nothing. -/
theorem held_check (looked : BatchUpdateType) : (s.check looked).held kind id = 0 := by
  unfold BatchState.check
  split
  · simp [FlushState.held, BatchUpdateType.index]
  · split <;> rfl

/-- What a goroutine holds after the swap of a store: what it held, and the store. -/
theorem held_swap (swapped : BatchUpdateType) (taken : BatchStores) : (s.batchUpdate key (.swap swapped taken)).2.held kind id =
      FlushState.held kind id (.swap swapped taken) + if kind = swapped then Tally.value (s.stores kind) id else 0 := by
  unfold BatchState.batchUpdate
  by_cases hkind : kind = swapped
  · subst hkind
    simp only [FlushState.held, lt_irrefl, if_false, zero_add, if_true]
    cases hnext : kind.next with
    | some next => simp [index_next hnext]
    | none => simp
  · have hindex : kind.index ≠ swapped.index := fun h => hkind (index_injective h)
    simp only [FlushState.held, hkind, if_false, add_zero]
    cases hnext : swapped.next with
    | some next =>
      have hiff : kind.index < next.index ↔ kind.index < swapped.index := by
        rw [index_next hnext]
        omega
      simp [hkind, hiff]
    | none =>
      have hlt : kind.index < swapped.index := lt_of_le_of_ne (index_le_last hnext kind) hindex
      simp [hkind, hlt]

/-- A step of the updater moves what was recorded for a row that is there, and changes no sum. -/
theorem batchUpdate_total (hlive : s.db.live kind.table id = true) (f : FlushState) :
    (s.batchUpdate key f).1.db.value id kind + Tally.value ((s.batchUpdate key f).1.stores kind) id + (s.batchUpdate key f).2.held kind id =
      s.db.value id kind + Tally.value (s.stores kind) id + f.held kind id := by
  cases f with
  | idle | check _ =>
    simp only [BatchState.batchUpdate, held_check]
    rfl
  | swap swapped taken =>
    rw [held_swap]
    simp only [BatchState.batchUpdate]
    by_cases hkind : kind = swapped
    · subst hkind
      simp only [Function.update_self, Tally.value_empty, if_true]
      omega
    · simp [hkind]
  | write left =>
    have hwrite := write_total id key kind hlive left
    simp only [BatchState.batchUpdate, FlushState.held] at hwrite ⊢
    omega

/-- A flush fills no store. -/
theorem batchUpdate_empty (f : FlushState) (h : (s.stores kind).rows = []) : ((s.batchUpdate key f).1.stores kind).rows = [] := by
  cases f with
  | swap swapped taken =>
    simp only [BatchState.batchUpdate]
    by_cases hkind : kind = swapped
    · subst hkind
      rw [Function.update_self]
      rfl
    · rwa [Function.update_of_ne hkind]
  | _ => exact h

end Step

/-! ## A flush without new records -/

/-- The stores a call has come past, looking or swapping, are empty; when it writes or has returned, all are. -/
def Passed (stores : BatchStores) : FlushState → Prop
  | .idle | .write _ => ∀ kind, (stores kind).rows = []
  | .check next | .swap next _ => ∀ kind, kind.index < next.index → (stores kind).rows = []

/-- The stores before the next type are empty where those up to this one are. -/
theorem empty_before_next {stores : BatchStores} {last : BatchUpdateType}
    (h : ∀ kind : BatchUpdateType, kind.index ≤ last.index → (stores kind).rows = []) : match last.next with
    | some next => ∀ kind, kind.index < next.index → (stores kind).rows = []
    | none => ∀ kind, (stores kind).rows = [] := by
  cases hnext : last.next with
  | some next =>
    intro kind hlt
    rw [index_next hnext] at hlt
    exact h kind (Nat.lt_succ_iff.1 hlt)
  | none => exact fun kind => h kind (index_le_last hnext kind)

/-- A call has emptied the stores before the one it looks at. -/
theorem passed_check {s : BatchState} {looked : BatchUpdateType}
    (h : ∀ kind, kind.index < looked.index → (s.stores kind).rows = []) : Passed s.stores (s.check looked) := by
  unfold BatchState.check
  split
  · exact fun kind hlt => absurd hlt (Nat.not_lt_zero _)
  rename_i hempty
  have hle : ∀ kind : BatchUpdateType, kind.index ≤ looked.index → (s.stores kind).rows = [] := by
    intro kind hle
    rcases Nat.lt_or_eq_of_le hle with hlt | heq
    · exact h kind hlt
    · rw [index_injective heq]
      exact not_not.1 hempty
  have hnext := empty_before_next hle
  cases hlooked : looked.next with
  | some _ | none =>
    rw [hlooked] at hnext
    exact hnext

/-- A step of the call keeps that. -/
theorem passed_batchUpdate (key : Int) {s : BatchState} {f : FlushState} (h : f = .idle ∨ Passed s.stores f) :
    Passed (s.batchUpdate key f).1.stores (s.batchUpdate key f).2 := by
  cases f with
  | idle => exact passed_check fun kind hlt => absurd hlt (Nat.not_lt_zero _)
  | check looked => exact passed_check (h.resolve_left nofun)
  | swap swapped taken =>
    have hpast : ∀ kind, kind.index < swapped.index → (s.stores kind).rows = [] := h.resolve_left nofun
    have hle : ∀ kind : BatchUpdateType, kind.index ≤ swapped.index →
        (Function.update s.stores swapped Table.empty kind).rows = [] := by
      intro kind hle
      by_cases hkind : kind = swapped
      · subst hkind
        rw [Function.update_self]
        rfl
      · rw [Function.update_of_ne hkind]
        exact hpast kind (lt_of_le_of_ne hle fun heq => hkind (index_injective heq))
    simp only [BatchState.batchUpdate]
    have hnext := empty_before_next hle
    cases hswapped : swapped.next with
    | some _ | none =>
      rw [hswapped] at hnext
      exact hnext
  | write left =>
    have hall : ∀ kind, (s.stores kind).rows = [] := h.resolve_left nofun
    simp only [BatchState.batchUpdate]
    cases (s.db.write left key).2 with
    | idle | write _ => exact hall
    | check _ | swap _ _ => exact fun kind _ => hall kind

theorem Passed.mono {stores stores' : BatchStores} (hempty : ∀ kind, (stores kind).rows = [] → (stores' kind).rows = [])
    {f : FlushState} (h : Passed stores f) : Passed stores' f := by
  cases f with
  | idle | write _ => exact fun kind => hempty kind (h kind)
  | check _ | swap _ _ => exact fun kind hlt => hempty kind (h kind hlt)

/-! ## Runs -/

section Runs

variable {ι : Type} [DecidableEq ι]

/-- So does any event that adds no record. -/
theorem passed_step (i : ι) (c : Conf BatchState ι FlushState) (e : BatchEvent ι) (he : e.AddsNothing)
    (h : Passed c.shared.stores (c.threads i)) : Passed (batchStep c e).shared.stores ((batchStep c e).threads i) := by
  cases e with
  | record kind id value => exact he.elim
  | delete table id => exact h
  | turn j key =>
    simp only [batchStep, Conf.act]
    by_cases hij : i = j
    · subst hij
      rw [Function.update_self]
      exact passed_batchUpdate key (.inr h)
    · rw [Function.update_of_ne hij]
      exact h.mono fun kind => batchUpdate_empty key c.shared kind (c.threads j)

/-- When a call has returned and nothing was recorded since its first step, the stores are empty. -/
theorem flushed {i : ι} {c : Conf BatchState ι FlushState} (key : Int) {flush : List (BatchEvent ι)} (hidle : c.threads i = .idle)
    (hflush : ∀ e ∈ flush, e.AddsNothing) (hreturned : (exec batchStep c (.turn i key :: flush)).threads i = .idle)
    (kind : BatchUpdateType) :
    ((exec batchStep c (.turn i key :: flush)).shared.stores kind).rows = [] := by
  -- from the first step on, the stores the call has passed are empty
  have hfirst : Passed (batchStep c (.turn i key)).shared.stores ((batchStep c (.turn i key)).threads i) := by
    simp only [batchStep, Conf.act, Function.update_self]
    exact passed_batchUpdate key (.inl hidle)
  have hpassed : Passed (exec batchStep c (.turn i key :: flush)).shared.stores ((exec batchStep c (.turn i key :: flush)).threads i) :=
    (along_of_mem hflush _).invariant
      (passed_step i) hfirst
  rw [hreturned] at hpassed
  exact hpassed kind

/-- What a token has left and what it has used add up to the same in every state. -/
theorem tokens_exec (c : Conf BatchState ι FlushState) (es : List (BatchEvent ι)) (id : Int) :
    ((exec batchStep c es).shared.db.tokens id).remainQuota + ((exec batchStep c es).shared.db.tokens id).usedQuota =
      (c.shared.db.tokens id).remainQuota + (c.shared.db.tokens id).usedQuota := by
  induction es generalizing c with
  | nil => rfl
  | cons e es ih =>
    rw [exec_cons, ih]
    cases e with
    | record _ _ _ | delete _ _ => rfl
    | turn i key =>
      simp only [batchStep, Conf.act]
      cases c.threads i with
      | write left => exact write_tokens c.shared.db id key left
      | _ => rfl

omit [DecidableEq ι] in
/-- Turns record nothing. -/
theorem recordedSum_turns (kind : BatchUpdateType) (id : Int) (es : List (BatchEvent ι)) {turns : List (BatchEvent ι)}
    (h : ∀ e ∈ turns, e.AddsNothing) : recordedSum kind id (es ++ turns) = recordedSum kind id es := by
  have hzero : ∀ e ∈ turns, e.delta kind id = 0 := by
    intro e he
    have hturn := h e he
    cases e with
    | record kind id value => exact hturn.elim
    | delete _ _ | turn _ _ => rfl
  simp only [recordedSum, List.map_append, List.sum_append]
  rw [List.map_congr_left hzero, List.map_const', List.sum_replicate, smul_zero, add_zero]

/-- A row is never there again once it is deleted. -/
theorem live_of_step (c : Conf BatchState ι FlushState) (e : BatchEvent ι) {table : BatchTable} {id : Int}
    (h : (batchStep c e).shared.db.live table id = true) : c.shared.db.live table id = true := by
  cases e with
  | record kind id value => exact h
  | delete table' id' =>
    simp only [batchStep, BatchDb.delete, Bool.and_eq_true] at h
    exact h.2
  | turn i key =>
    simp only [batchStep, Conf.act] at h
    cases hf : c.threads i with
    | write left =>
      rw [hf] at h
      simp only [BatchState.batchUpdate, live_write] at h
      exact h
    | _ =>
      rw [hf] at h
      exact h

/-- A row that is not deleted was not deleted before. -/
theorem live_of_exec (c : Conf BatchState ι FlushState) (es : List (BatchEvent ι)) {table : BatchTable} {id : Int}
    (h : (exec batchStep c es).shared.db.live table id = true) : c.shared.db.live table id = true := by
  induction es generalizing c with
  | nil => exact h
  | cons e es ih => exact live_of_step c e (ih _ h)

variable [Fintype ι]

/-- All of what was recorded that is somewhere. -/
def total (kind : BatchUpdateType) (id : Int) (c : Conf BatchState ι FlushState) : Int :=
  c.shared.db.value id kind + Tally.value (c.shared.stores kind) id + ∑ i, (c.threads i).held kind id

/-- An event adds what it records for a row that is there, and moves the rest. -/
theorem total_step (kind : BatchUpdateType) (id : Int) (c : Conf BatchState ι FlushState) (e : BatchEvent ι)
    (hlive : c.shared.db.live kind.table id = true) : total kind id (batchStep c e) = total kind id c + e.delta kind id := by
  cases e with
  | delete table id' =>
    simp only [batchStep, BatchEvent.delta, add_zero]
    cases kind <;> rfl
  | record kind' id' value =>
    unfold total
    simp only [batchStep, BatchState.addNewRecord, BatchEvent.delta]
    by_cases hkind : kind = kind'
    · subst hkind
      rw [Function.update_self, Tally.value_add]
      by_cases hid : id = id'
      · subst hid
        simp only [and_self, if_true]
        omega
      · simp [hid, Ne.symm hid]
    · simp [hkind, Ne.symm hkind]
  | turn i key =>
    have hstep := batchUpdate_total key c.shared kind id hlive (c.threads i)
    have hothers := Finset.sum_erase_add Finset.univ (fun j => (c.threads j).held kind id) (Finset.mem_univ i)
    have hothers' := Finset.sum_erase_add Finset.univ (fun j => ((batchStep c (.turn i key)).threads j).held kind id) (Finset.mem_univ i)
    -- the other goroutines hold what they held
    have hsame : ∑ j ∈ Finset.univ.erase i, ((batchStep c (.turn i key)).threads j).held kind id =
        ∑ j ∈ Finset.univ.erase i, (c.threads j).held kind id := by
      refine Finset.sum_congr rfl fun j hj => ?_
      simp only [batchStep, Conf.act, Function.update_of_ne (Finset.ne_of_mem_erase hj)]
    have hself : (batchStep c (.turn i key)).threads i = (c.shared.batchUpdate key (c.threads i)).2 := Function.update_self ..
    have hshared : (batchStep c (.turn i key)).shared = (c.shared.batchUpdate key (c.threads i)).1 := rfl
    unfold total
    rw [← hothers, ← hothers', hsame, hself, hshared]
    simp only [BatchEvent.delta]
    omega

/-- Along a run the total of a row that is there at its end grows by what is recorded for it. -/
theorem total_exec (kind : BatchUpdateType) (id : Int) (c : Conf BatchState ι FlushState) (es : List (BatchEvent ι))
    (hlive : (exec batchStep c es).shared.db.live kind.table id = true) :
    total kind id (exec batchStep c es) = total kind id c + recordedSum kind id es := by
  induction es generalizing c with
  | nil => simp [recordedSum]
  | cons e es ih =>
    have hbefore := live_of_step c e (live_of_exec (batchStep c e) es hlive)
    rw [exec_cons, ih _ hlive, total_step kind id c e hbefore]
    simp only [recordedSum, List.map_cons, List.sum_cons]
    omega

end Runs

end BatchAux

open BatchAux

/-- For any records added from anywhere, any rows deleted and any number of goroutines that flush, in any interleaving: in every state, for
every kind and id whose row is not deleted, the database, the live store and the snapshots that are not written yet add up to the initial
value and everything recorded; and what a token has used moves against what it has left. When a call of `batchUpdate` has returned and no
record was added during it, the stores are empty; and where no other call is under way, the database holds everything recorded for the
rows that are not deleted. -/
theorem batchUpdate_loses_nothing {ι : Type} [DecidableEq ι] [Fintype ι] (db : BatchDb) (es : List (BatchEvent ι)) :
    let c := exec batchStep (batchStart db) es
    (∀ kind id, c.shared.db.live kind.table id = true →
      c.shared.db.value id kind + Tally.value (c.shared.stores kind) id + ∑ i, (c.threads i).held kind id =
        db.value id kind + recordedSum kind id es) ∧
    (∀ id, (c.shared.db.tokens id).remainQuota - (db.tokens id).remainQuota =
      -((c.shared.db.tokens id).usedQuota - (db.tokens id).usedQuota)) ∧
    ∀ i key flush, c.threads i = .idle → (∀ e ∈ flush, e.AddsNothing) →
      let d := exec batchStep c (.turn i key :: flush)
      d.threads i = .idle →
        (∀ kind, (d.shared.stores kind).rows = []) ∧
        ((∀ j, d.threads j = .idle) → ∀ kind id, d.shared.db.live kind.table id = true →
          d.shared.db.value id kind = db.value id kind + recordedSum kind id es) := by
  have htotal : ∀ kind id (es : List (BatchEvent ι)), (exec batchStep (batchStart db) es).shared.db.live kind.table id = true →
      total kind id (exec batchStep (batchStart db) es) = db.value id kind + recordedSum kind id es := by
    intro kind id es hlive
    rw [total_exec kind id _ es hlive]
    simp [total, batchStart, FlushState.held]
  refine ⟨fun kind id => htotal kind id es, fun id => ?_, ?_⟩
  · have htokens := tokens_exec (batchStart db : Conf BatchState ι FlushState) es id
    simp only [batchStart] at htokens ⊢
    omega
  · intro i key flush hidle hflush d hd
    have hempty := flushed key hidle hflush hd
    refine ⟨hempty, fun hall kind id hlive => ?_⟩
    have hturns : ∀ e ∈ (.turn i key :: flush : List (BatchEvent ι)), e.AddsNothing := List.forall_mem_cons.2 ⟨trivial, hflush⟩
    have hsum := htotal kind id (es ++ .turn i key :: flush) (by rw [exec_append]; exact hlive)
    rw [recordedSum_turns kind id es hturns, exec_append] at hsum
    have hstores : Tally.value (d.shared.stores kind) id = 0 := Tally.value_of_nil (hempty kind) id
    have hheld : ∑ j, (d.threads j).held kind id = 0 :=
      Finset.sum_eq_zero fun j _ => by rw [hall j]; rfl
    change d.shared.db.value id kind + Tally.value (d.shared.stores kind) id + ∑ j, (d.threads j).held kind id = _ at hsum
    omega

namespace BatchAux

/-- Every user has 100, every token 50; a request of user 1 on token 3 is charged 5. -/
def sampleBatchDb : BatchDb := ⟨fun _ => ⟨100, 0, 0⟩, fun _ => ⟨50, 0⟩, fun _ => 0, fun _ _ => true⟩

def sampleRecords : List (BatchEvent (Fin 1)) :=
  [.record .userQuota 1 (-5), .record .tokenQuota 3 (-5), .record .usedQuota 1 5, .record .requestCount 1 1]

/-- The rest of a call of `batchUpdate` after its first look: five swaps, a token, a user, the return. -/
def sampleFlush : List (BatchEvent (Fin 1)) :=
  List.replicate 5 (.turn 0 0) ++ [.turn 0 3, .turn 0 1, .turn 0 0]

end BatchAux

theorem batchUpdate_loses_nothing_sample :
    let d := exec batchStep (exec batchStep (batchStart sampleBatchDb) sampleRecords) (.turn 0 0 :: sampleFlush)
    d.threads 0 = .idle ∧ d.shared.db.value 1 .userQuota = 95 ∧ d.shared.db.value 3 .tokenQuota = 45 := by
  have h := (batchUpdate_loses_nothing sampleBatchDb sampleRecords).2.2 0 0 sampleFlush rfl (by decide) rfl
  have hall := h.2 fun j => by rw [Subsingleton.elim j 0]; rfl
  exact ⟨rfl, hall .userQuota 1 rfl, hall .tokenQuota 3 rfl⟩

/-- The token is deleted before the flush: the call returns with empty stores, and the 5 recorded for the token are nowhere. -/
theorem deleted_row_loses :
    let d := exec batchStep (batchStart sampleBatchDb) (sampleRecords ++ .delete .tokens 3 :: .turn 0 0 :: sampleFlush)
    d.threads 0 = .idle ∧ (d.shared.stores .tokenQuota).rows = [] ∧
      d.shared.db.value 3 .tokenQuota ≠ sampleBatchDb.value 3 .tokenQuota + recordedSum .tokenQuota 3 sampleRecords := by
  exact ⟨rfl, rfl, by decide⟩

end NewApi
