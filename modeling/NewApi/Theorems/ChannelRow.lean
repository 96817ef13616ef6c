import NewApi.Lemmas.ChannelKeysAux
import NewApi.Model.ChannelRow

/-!
# What the writers of a channel's row undo

`GetNextEnabledKey` writes back the statuses of the channel it was called on, and `UpdateChannelStatus` all it has read but the key. The
polling lock is taken after the row was read, so it does not keep another write away from between. Where what is written back is still
what the row has, no disabled key is enabled and no quota is lost.
-/

namespace NewApi

open Threads ChannelKeysAux

/-- The statuses a call writes back, and the used quota where it writes it back, are still those of the row. -/
def RowWork.Current (s : RowStore) : RowWork → Prop
  | .pollSave channel => channel.channelInfo.multiKeyStatusList = s.row.channelInfo.multiKeyStatusList
  | .updateSave channel _ _ =>
    channel.channelInfo.multiKeyStatusList = s.row.channelInfo.multiKeyStatusList ∧ channel.usedQuota = s.row.usedQuota
  | _ => True

/-- Every key that was disabled is disabled in the row, and the used quota is what it was with all that was added. -/
structure RowStore.Kept (initial : Int) (s : RowStore) : Prop where
  disabled : ∀ i, s.disabled i = true → s.row.channelInfo.keyStatus i ≠ .enabled
  usedQuota : s.row.usedQuota = initial + s.added

namespace ChannelRowAux

variable {work' : RowWork} {initial : Int}

def copy : RowWork → Option ChannelRow
  | .pollRead channel _ | .polling channel _ | .pollSave channel | .updateRead channel _ _ | .updating channel _ _
  | .updateSave channel _ _ => some channel
  | .idle | .poll _ | .pollUnlock | .update _ _ | .addQuota _ => none

/-- A step that writes nothing to the row: it turns the lock at most, and what the call has afterwards it has read now or had before. -/
def Quiet (s : RowStore) (work : RowWork) (next : RowStore × RowWork) : Prop :=
  ∃ locked, next.1 = { s with locked := locked } ∧ ∀ channel, copy next.2 = some channel →
    channel.keys = s.row.keys ∨ ∃ before, copy work = some before ∧ channel.keys = before.keys

variable {s : RowStore} {work : RowWork} {channel : ChannelRow}

/-- A call drops its copy. -/
theorem Quiet.drops (locked : Bool) (h : copy work' = none) : Quiet s work ({ s with locked := locked }, work') := by
  refine ⟨locked, rfl, fun channel hchannel => ?_⟩
  rw [h] at hchannel
  cases hchannel

/-- A call reads the row. -/
theorem Quiet.reads (h : copy work' = some s.row) : Quiet s work (s, work') := by
  refine ⟨s.locked, rfl, fun channel hchannel => ?_⟩
  obtain rfl := Option.some.inj (h.symm.trans hchannel)
  exact .inl rfl

/-- A call keeps its copy. -/
theorem Quiet.keeps (locked : Bool) (h : copy work' = copy work) : Quiet s work ({ s with locked := locked }, work') :=
  ⟨locked, rfl, fun channel hchannel => .inr ⟨channel, h.symm.trans hchannel, rfl⟩⟩

/-- A call waits for the lock, or enters. -/
theorem Quiet.waits {entered : RowWork} (h : copy entered = copy work) :
    Quiet s work (if s.locked then (s, work) else ({ s with locked := true }, entered)) := by
  split
  · exact Quiet.keeps s.locked rfl
  · exact Quiet.keeps true h

/-- What the next statement of a call can do: read the row or turn the lock, or one of the three writes. -/
theorem statement_cases (s : RowStore) (ok : Bool) (work : RowWork) : Quiet s work (s.statement ok work) ∨
    (∃ channel, work = .pollSave channel ∧ s.statement ok work = (s.saveChannelInfo channel, .pollUnlock)) ∨
    (∃ channel usingKey status, work = .updateSave channel usingKey status ∧
      s.statement ok work = (s.saveWithoutKey channel usingKey status, .idle)) ∨
    (∃ quota, work = .addQuota quota ∧ s.statement ok work = (s.addQuota quota, .idle)) := by
  cases work with
  | idle => exact .inl (Quiet.drops s.locked rfl)
  | poll intn =>
    cases ok with
    | false => exact .inl (Quiet.drops s.locked rfl)
    | true => exact .inl (Quiet.reads rfl)
  | pollRead _ _ | updateRead _ _ _ => exact .inl (Quiet.waits rfl)
  | polling channel intn =>
    left
    simp only [RowStore.statement]
    split
    · rename_i i next hnext
      obtain ⟨-, index, rfl⟩ := nextEnabledIdx_ok (nextEnabledKey_ok hnext).1
      refine ⟨s.locked, rfl, fun channel' h => ?_⟩
      split at h
      · cases h
        exact .inr ⟨channel, rfl, rfl⟩
      · cases h
    · exact Quiet.drops s.locked rfl
  | pollSave channel =>
    cases ok with
    | false => exact .inl (Quiet.drops s.locked rfl)
    | true => exact .inr (.inl ⟨channel, rfl, rfl⟩)
  | pollUnlock => exact .inl (Quiet.drops false rfl)
  | update usingKey status =>
    left
    cases ok with
    | false => exact Quiet.drops s.locked rfl
    | true =>
      simp only [RowStore.statement, if_true]
      split
      · exact Quiet.drops s.locked rfl
      · exact Quiet.reads rfl
  | updating channel usingKey status => exact .inl (Quiet.keeps false rfl)
  | updateSave channel usingKey status =>
    cases ok with
    | false => exact .inl (Quiet.drops s.locked rfl)
    | true => exact .inr (.inr (.inl ⟨channel, usingKey, status, rfl, rfl⟩))
  | addQuota quota =>
    cases ok with
    | false => exact .inl (Quiet.drops s.locked rfl)
    | true => exact .inr (.inr (.inr ⟨quota, rfl, rfl⟩))

/-! ## The writes -/

/-- A save of the polling index from a current copy loses nothing. -/
theorem kept_saveChannelInfo (h : s.Kept initial)
    (hcurrent : (RowWork.pollSave channel).Current s) : (s.saveChannelInfo channel).Kept initial := by
  refine ⟨fun i hi => ?_, h.usedQuota⟩
  have hstatus := h.disabled i hi
  unfold ChannelInfo.keyStatus at hstatus ⊢
  rw [← hcurrent] at hstatus
  exact hstatus

/-- Nor is anything lost by a save of the row from one. -/
theorem kept_saveWithoutKey {usingKey : String} {status : ChannelStatus}
    (h : s.Kept initial) (hkeys : channel.keys = s.row.keys) (hcurrent : (RowWork.updateSave channel usingKey status).Current s) :
    (s.saveWithoutKey channel usingKey status).Kept initial := by
  obtain ⟨hstatuses, hquota⟩ := hcurrent
  refine ⟨?_, hquota.trans h.usedQuota⟩
  unfold RowStore.saveWithoutKey ChannelInfo.keyStatus
  intro i hi
  cases hidx : s.row.keys.findIdx? (fun key => key = usingKey) with
  | none =>
    obtain ⟨_, hhandler⟩ := handler_of_not_mem status (hkeys ▸ hidx)
    simp only [hidx] at hi
    simp only [hhandler, hstatuses]
    exact h.disabled i hi
  | some j =>
    obtain ⟨_, hhandler⟩ := handler_of_mem status (hkeys ▸ hidx)
    simp only [hidx] at hi
    simp only [hhandler, hstatuses]
    by_cases hij : i = j
    · -- the key whose status is changed
      subst hij
      rw [Function.update_self, decide_eq_true_iff] at hi
      rw [Function.update_self, if_neg hi]
      exact hi
    · rw [Function.update_of_ne hij] at hi
      rw [Function.update_of_ne hij]
      exact h.disabled i hi

/-- Nor by a relative update. -/
theorem kept_addQuota (h : s.Kept initial) (quota : Int) : (s.addQuota quota).Kept initial := by
  refine ⟨h.disabled, ?_⟩
  change s.row.usedQuota + quota = initial + (s.added + quota)
  rw [h.usedQuota, Int.add_assoc]

/-! ## Runs -/

variable {ι : Type} [DecidableEq ι] {c : RowConf ι}

/-- The history is kept, and what the calls have read has the keys of the row. -/
structure RowInv (initial : Int) (c : RowConf ι) : Prop where
  kept : c.shared.Kept initial
  keys : ∀ i channel, copy (c.threads i) = some channel → channel.keys = c.shared.row.keys

/-- A step of one call keeps the keys of all copies, where it keeps the row's. -/
theorem keys_of_step {i : ι} {s' : RowStore} (hrow : s'.row.keys = c.shared.row.keys)
    (hcopies : ∀ j channel, copy (c.threads j) = some channel → channel.keys = c.shared.row.keys)
    (hown : ∀ channel, copy work' = some channel → channel.keys = c.shared.row.keys) :
    ∀ j channel, copy (Function.update c.threads i work' j) = some channel → channel.keys = s'.row.keys := by
  intro j channel hcopy
  rw [hrow]
  by_cases hj : j = i
  · subst hj
    rw [Function.update_self] at hcopy
    exact hown channel hcopy
  · rw [Function.update_of_ne hj] at hcopy
    exact hcopies j channel hcopy

/-- A step whose copy is current keeps the invariant. -/
theorem rowInv_step {e : ι × Bool} (hcurrent : (c.threads e.1).Current c.shared) (h : RowInv initial c) : RowInv initial (c.step e) := by
  change RowInv initial ⟨(c.shared.statement e.2 (c.threads e.1)).1,
    Function.update c.threads e.1 (c.shared.statement e.2 (c.threads e.1)).2⟩
  rcases statement_cases c.shared e.2 (c.threads e.1) with
    ⟨locked, hshared, hcopy⟩ | ⟨channel, hwork, hstep⟩ | ⟨channel, usingKey, status, hwork, hstep⟩ | ⟨quota, hwork, hstep⟩
  · rw [hshared]
    refine ⟨⟨h.kept.disabled, h.kept.usedQuota⟩, keys_of_step rfl h.keys fun channel hchannel => ?_⟩
    rcases hcopy channel hchannel with hrow | ⟨before, hbefore, hsame⟩
    · exact hrow
    · exact hsame.trans (h.keys e.1 before hbefore)
  · rw [hwork] at hcurrent
    rw [hstep]
    exact ⟨kept_saveChannelInfo h.kept hcurrent, keys_of_step rfl h.keys (by rintro channel' ⟨⟩)⟩
  · rw [hwork] at hcurrent
    rw [hstep]
    have hkeys : channel.keys = c.shared.row.keys := h.keys e.1 channel (by rw [hwork]; rfl)
    exact ⟨kept_saveWithoutKey h.kept hkeys hcurrent, keys_of_step rfl h.keys (by rintro channel' ⟨⟩)⟩
  · rw [hstep]
    exact ⟨kept_addQuota h.kept quota, keys_of_step rfl h.keys (by rintro channel' ⟨⟩)⟩

theorem copy_of_isCall {work : RowWork} (h : work.IsCall) : copy work = none := by
  cases work with
  | idle | poll | update | addQuota => rfl
  | pollRead | polling | pollSave | pollUnlock | updateRead | updating | updateSave => exact absurd h id

omit [DecidableEq ι] in
/-- The invariant holds at the start. -/
theorem rowInv_start (row : ChannelRow) {calls : ι → RowWork} (hcalls : ∀ i, (calls i).IsCall) :
    RowInv row.usedQuota (RowConf.start row calls) := by
  refine ⟨⟨by rintro i ⟨⟩, (Int.add_zero _).symm⟩, fun i channel hcopy => ?_⟩
  change copy (calls i) = some channel at hcopy
  rw [copy_of_isCall (hcalls i)] at hcopy
  cases hcopy

end ChannelRowAux

open ChannelRowAux Run

/-- In every interleaving in which each call writes back statuses, and a used quota, that the row still has, the disabled keys stay
disabled and the used quota is the initial one with all increments. -/
theorem channel_row_writers_keep {ι : Type} [DecidableEq ι] (row : ChannelRow) {calls : ι → RowWork} (hcalls : ∀ i, (calls i).IsCall)
    {es : List (ι × Bool)} (hrun : Along RowConf.step (fun c e => (c.threads e.1).Current c.shared) (RowConf.start row calls) es) :
    ∀ pre, pre <+: es → (exec RowConf.step (RowConf.start row calls) pre).shared.Kept row.usedQuota := by
  intro pre hpre
  exact (hrun.invariant_reached (fun c e hcurrent h => rowInv_step hcurrent h)
    (rowInv_start row hcalls) pre hpre).kept

namespace ChannelRowAux

def pollingRow : ChannelRow where
  id := 1
  type := 1
  keys := ["a", "b"]
  status := .enabled
  weight := none
  models := "m"
  group := "default"
  priority := none
  tag := none
  channelInfo := ⟨true, fun _ => none, true, 0, false⟩
  otherSettings := ""
  usedQuota := 100

/-- One request polls, another has failed with the key `a`, a third is charged. -/
def threeCalls : Fin 3 → RowWork
  | 0 => .poll RandIntn.zero
  | 1 => .update "a" .autoDisabled
  | 2 => .addQuota 5

end ChannelRowAux

/-- One call after the other. -/
theorem channel_row_writers_keep_in_turn :
    let es : List (Fin 3 × Bool) := [(1, true), (1, true), (1, true), (1, true), (2, true), (0, true), (0, true), (0, true), (0, true)]
    let s := (Run.exec RowConf.step (RowConf.start pollingRow threeCalls) es).shared
    s.disabled 0 = true ∧ s.row.channelInfo.keyStatus 0 = .autoDisabled ∧ s.row.usedQuota = 105 ∧ s.Kept 100 := by
  intro es s
  have hcalls : ∀ i, (threeCalls i).IsCall := by
    intro i
    fin_cases i <;> trivial
  have hrun : Run.Along RowConf.step (fun c e => (c.threads e.1).Current c.shared) (RowConf.start pollingRow threeCalls) es :=
    ⟨trivial, trivial, trivial, ⟨rfl, rfl⟩, trivial, trivial, trivial, trivial, rfl, trivial⟩
  exact ⟨rfl, rfl, rfl, channel_row_writers_keep pollingRow hcalls hrun es (List.prefix_refl es)⟩

/-- A key is disabled and quota is charged while another call has read the row: the poll enables the key again, and the save takes the
charge back. -/
theorem row_writers_undo_each_other :
    let polled : List (Fin 3 × Bool) := [(0, true), (1, true), (1, true), (1, true), (1, true), (0, true), (0, true), (0, true)]
    let charged : List (Fin 3 × Bool) := [(1, true), (2, true), (1, true), (1, true), (1, true)]
    let s := (Run.exec RowConf.step (RowConf.start pollingRow threeCalls) polled).shared
    let t := (Run.exec RowConf.step (RowConf.start pollingRow threeCalls) charged).shared
    (s.disabled 0 = true ∧ s.row.channelInfo.keyStatus 0 = .enabled ∧ ¬ s.Kept 100) ∧
      (t.added = 5 ∧ t.row.usedQuota = 100 ∧ ¬ t.Kept 100) := by
  intro polled charged s t
  have hdisabled : s.disabled 0 = true := rfl
  have hstatus : s.row.channelInfo.keyStatus 0 = .enabled := rfl
  have hadded : t.added = 5 := rfl
  have hquota : t.row.usedQuota = 100 := rfl
  refine ⟨⟨hdisabled, hstatus, fun h => h.disabled 0 hdisabled hstatus⟩, hadded, hquota, fun h => ?_⟩
  have htotal := h.usedQuota
  exact absurd htotal (by decide)

end NewApi
