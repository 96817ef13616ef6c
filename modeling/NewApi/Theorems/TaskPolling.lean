import NewApi.Lib.Table
import NewApi.Tasks.Lifecycle
import NewApi.Relay.ClaudeRequest

/-!
# What a polling pass notices and whom it reaches

`taskNeedsUpdate` compares data by the sorted bytes they are written with, so an item whose data are an anagram of the stored ones tells
it nothing new. `RunTaskPollingOnce` collects the upstream ids of each channel, and looks a task up by its upstream id alone: of the tasks
that share an id it keeps the last, and asks for that one once for each of them.
-/

namespace NewApi

open Tables

/-! ## Whether an item tells anything new -/

/-- The same JSON value but for the order of the members of its objects. -/
inductive Json.Same : Json → Json → Prop
  | refl (v : Json) : Json.Same v v
  | arr {vs ws : List Json} (h : List.Forall₂ Json.Same vs ws) : Json.Same (.arr vs) (.arr ws)
  | obj {fs fs' gs : List (String × Json)} (hperm : fs.Perm fs') (hkeys : fs'.map Prod.fst = gs.map Prod.fst)
      (h : List.Forall₂ Json.Same (fs'.map Prod.snd) (gs.map Prod.snd)) : Json.Same (.obj fs) (.obj gs)

/-- Two texts do not stand for different JSON values, as `parseJson` reads them. -/
def SameData (parseJson : String → Option Json) (data data' : String) : Prop :=
  ∀ v ∈ parseJson data, ∀ w ∈ parseJson data', v.Same w

/-- The item reports the times, the status and the reason that are stored. -/
def SunoItem.Repeats (item : SunoItem) (task : Task) : Prop :=
  task.submitTime = item.submitTime ∧ task.startTime = item.startTime ∧ task.finishTime = item.finishTime ∧
    some task.status = item.status ∧ task.failReason = item.failReason

/-- The data are written with the same bytes, in whatever order. -/
def Anagrams (data data' : String) : Prop := (marshalRaw data).Perm (marshalRaw data')

namespace PollingAux

/-- An item tells nothing new where it repeats the row, which does not wait for its progress, and its data are an anagram. -/
theorem taskNeedsUpdate_eq_false_iff (task : Task) (item : SunoItem) : taskNeedsUpdate task item = false ↔
      item.Repeats task ∧ ¬ (task.status.terminal = true ∧ task.progress ≠ "100%") ∧ Anagrams task.data item.data := by
  simp [taskNeedsUpdate, SunoItem.Repeats, Anagrams, and_assoc]

theorem eq_of_same_member {key a b : String} (h : Json.Same (.obj [(key, .num a)]) (.obj [(key, .num b)])) : a = b := by
  cases h with
  | refl => rfl
  | obj hperm _ hvalues =>
    rw [← List.singleton_perm.1 hperm] at hvalues
    cases hvalues with
    | cons hvalue _ => cases hvalue; rfl

end PollingAux

open PollingAux

/-- Every task with an upstream id is gone through once, by the loop of its own channel and by no other. -/
def PolledOnce (tasks : List FetchedTask) : Prop :=
  ∀ t ∈ tasks, t.upstreamID ≠ "" → ∀ channelId,
    ((pollMaps tasks).polled channelId).count t = if t.origin.channelId = channelId then 1 else 0

namespace PollingAux

variable {tasks : List FetchedTask} {t : FetchedTask}

theorem pollMaps_concat : pollMaps (tasks ++ [t]) = (pollMaps tasks).add t :=
  List.foldl_concat ..

/-- Of tasks with one upstream id the last is found. -/
theorem taskM_eq (id : String) : (pollMaps tasks).taskM id = tasks.reverse.find? fun t => t.upstreamID ≠ "" ∧ t.upstreamID = id := by
  induction tasks using List.reverseRecOn with
  | nil => rfl
  | append_singleton ts t ih =>
    rw [pollMaps_concat, List.reverse_concat, List.find?_cons, ← ih]
    unfold PollMaps.add
    by_cases hempty : t.upstreamID = ""
    · simp [hempty]
    by_cases hid : t.upstreamID = id
    · subst hid
      simp [hempty]
    · simp [hempty, hid, Function.update_of_ne (Ne.symm hid)]

theorem taskChannelM_eq (channelId : Int) : (pollMaps tasks).taskChannelM channelId =
      (tasks.filter fun t => t.upstreamID ≠ "" ∧ t.origin.channelId = channelId).map FetchedTask.upstreamID := by
  induction tasks using List.reverseRecOn with
  | nil => rfl
  | append_singleton ts t ih =>
    rw [pollMaps_concat, List.filter_append, List.map_append, ← ih]
    unfold PollMaps.add
    by_cases hempty : t.upstreamID = ""
    · simp [hempty]
    by_cases hchannel : t.origin.channelId = channelId
    · simp [hempty, hchannel]
    · simp [hempty, hchannel, Function.update_of_ne (Ne.symm hchannel)]

/-- Where no other task has its upstream id, the id leads to the task. -/
theorem taskM_of_alone (ht : t ∈ tasks) (hid : t.upstreamID ≠ "")
    (halone : ∀ u ∈ tasks, u.upstreamID = t.upstreamID → u = t) : (pollMaps tasks).taskM t.upstreamID = some t := by
  rw [taskM_eq]
  cases hfind : tasks.reverse.find? fun u => u.upstreamID ≠ "" ∧ u.upstreamID = t.upstreamID with
  | none =>
    have hnone := List.find?_eq_none.1 hfind t (List.mem_reverse.2 ht)
    simp [hid] at hnone
  | some u =>
    have hu : u.upstreamID ≠ "" ∧ u.upstreamID = t.upstreamID := by simpa using List.find?_some hfind
    rw [halone u (List.mem_reverse.1 (List.mem_of_find?_eq_some hfind)) hu.2]

/-- Where no two tasks share an upstream id, a channel's loop goes through its tasks. -/
theorem polled_of_distinct (h : ∀ t ∈ tasks, ∀ u ∈ tasks, t.upstreamID ≠ "" → u.upstreamID = t.upstreamID → u = t) (channelId : Int) :
    (pollMaps tasks).polled channelId = tasks.filter fun t => t.upstreamID ≠ "" ∧ t.origin.channelId = channelId := by
  unfold PollMaps.polled
  rw [taskChannelM_eq, List.filterMap_map]
  refine (List.filterMap_congr fun t ht => ?_).trans List.filterMap_some
  obtain ⟨hmem, ht⟩ := List.mem_filter.1 ht
  exact taskM_of_alone hmem (of_decide_eq_true ht).1 fun u hu => h t hmem u hu (of_decide_eq_true ht).1

end PollingAux

/-- Every task with an upstream id is gone through once, under its own channel, exactly where no two tasks share an upstream id. -/
theorem polledOnce_iff (tasks : Table FetchedTask.id) :
    PolledOnce tasks.rows ↔ ∀ t ∈ tasks.rows, ∀ u ∈ tasks.rows, t.upstreamID ≠ "" → u.upstreamID = t.upstreamID → u = t := by
  constructor
  · intro h t ht u hu hid heq
    have hreached : ∀ x ∈ tasks.rows, x.upstreamID ≠ "" → (pollMaps tasks.rows).taskM x.upstreamID = some x := by
      intro x hx hxid
      have hcount := h x hx hxid x.origin.channelId
      rw [if_pos rfl] at hcount
      obtain ⟨id, -, hid'⟩ := List.mem_filterMap.1 (List.count_pos_iff.1 (hcount ▸ Nat.one_pos))
      have hfound := hid'
      rw [taskM_eq] at hfound
      obtain rfl : x.upstreamID = id := (by simpa using List.find?_some hfound : _ ∧ _).2
      exact hid'
    have hu' := hreached u hu (heq ▸ hid)
    rw [heq, hreached t ht hid] at hu'
    exact (Option.some.inj hu').symm
  · intro h t ht hid channelId
    have hone : tasks.rows.count t = 1 := List.count_eq_one_of_mem (List.Nodup.of_map _ tasks.nodup) ht
    rw [polled_of_distinct h]
    by_cases hchannel : t.origin.channelId = channelId
    · rw [if_pos hchannel, List.count_filter (by simp [hid, hchannel]), hone]
    rw [if_neg hchannel]
    refine List.count_eq_zero.2 fun hmem => hchannel ?_
    exact (of_decide_eq_true (List.mem_filter.1 hmem).2).2

/-- Tasks of two channels with one upstream id: the first is not reached, and the second is asked for under both channels. -/
theorem shared_upstream_id_polled_twice :
    let first : FetchedTask := ⟨1, ⟨"u", 1⟩, { taskId := "a", quota := 5, status := .inProgress }⟩
    let second : FetchedTask := ⟨2, ⟨"u", 2⟩, { taskId := "b", quota := 5, status := .inProgress }⟩
    (pollMaps [first, second]).polled 1 = [second] ∧ (pollMaps [first, second]).polled 2 = [second] := by
  decide

end NewApi
