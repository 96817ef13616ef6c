import NewApi.Model.ChannelCache

/-!
# The index a refresh builds

When a refresh completes, and what the lists of its index then hold: each enabled channel once for every time the pair of group
and model occurs in its strings.
-/

namespace NewApi

open Tables NestedMaps ChannelCache

/-- Every group of an enabled channel is the group of an ability. -/
def GroupsKnown (channels : Table Channel.id) (abilities : List Ability) : Prop :=
  ∀ c ∈ channels.rows, c.status = .enabled → ∀ group ∈ c.groups, ∃ a ∈ abilities, a.group = group

namespace ChannelCacheAux

variable {Config : Type} {env : ChannelEnv Config} {channels : Table Channel.id} {abilities : List Ability} {rows : List Channel}
  {old cache : ChannelCache Config} {group model : String}

/-! ## The entries -/

/-- The entries of the index: an enabled channel under each of its groups and models. -/
theorem mem_indexEntries {id : Int} : (group, model, id) ∈ indexEntries rows ↔
      ∃ c ∈ rows, c.status = .enabled ∧ group ∈ c.groups ∧ model ∈ c.modelNames ∧ c.id = id := by
  simp only [indexEntries, List.mem_flatMap, List.mem_filter, List.mem_map, decide_eq_true_eq, Prod.mk.injEq]
  constructor
  · rintro ⟨c, ⟨hc, hstatus⟩, g, hg, m, hm, rfl, rfl, rfl⟩
    exact ⟨c, hc, hstatus, hg, hm, rfl⟩
  · rintro ⟨c, hc, hstatus, hg, hm, rfl⟩
    exact ⟨c, ⟨hc, hstatus⟩, group, hg, model, hm, rfl, rfl, rfl⟩

theorem groups_ne_nil (c : Channel) : c.groups ≠ [] := Text.split_ne_nil _ _

theorem modelNames_ne_nil (c : Channel) : c.modelNames ≠ [] := Text.split_ne_nil _ _

/-- A pair is entered as often as the group and the model occur together. -/
theorem count_entries_of_channel (groups models : List String) (group model : String) (id : Int) :
    (groups.flatMap fun g => models.map fun m => (g, m, id)).count (group, model, id) = groups.count group * models.count model := by
  induction groups with
  | nil => simp
  | cons g groups ih =>
    rw [List.flatMap_cons, List.count_append, ih, List.count_cons]
    by_cases hg : g = group
    · subst hg
      have hinj : Function.Injective fun m : String => (g, m, id) := by
        intro m m' h
        simpa using h
      rw [List.count_map_of_injective models _ hinj model]
      simp only [BEq.rfl, if_true]
      ring
    · have hnone : (models.map fun m => (g, m, id)).count (group, model, id) = 0 := by
        rw [List.count_eq_zero]
        intro hmem
        obtain ⟨m, -, hm⟩ := List.mem_map.1 hmem
        exact hg (congrArg Prod.fst hm)
      simp [hnone, hg]

/-- A channel that is not in the table is not in the index. -/
theorem count_indexEntries_of_notMem {id : Int} (h : id ∉ rows.map Channel.id) (group model : String) :
    (indexEntries rows).count (group, model, id) = 0 := by
  rw [List.count_eq_zero]
  intro hmem
  obtain ⟨c, hc, -, -, -, hid⟩ := mem_indexEntries.1 hmem
  exact h (List.mem_map.2 ⟨c, hc, hid⟩)

/-- The entries of a table with one channel more. -/
theorem indexEntries_cons (c : Channel) (rows : List Channel) : indexEntries (c :: rows) =
      (if c.status = .enabled then c.groups.flatMap fun g => c.modelNames.map fun m => (g, m, c.id) else []) ++ indexEntries rows := by
  unfold indexEntries
  by_cases h : c.status = .enabled <;> simp [h]

/-- Ids being distinct, a channel's entries are its own. -/
theorem count_indexEntries (hnodup : (rows.map Channel.id).Nodup) {c : Channel} (hc : c ∈ rows)
    (hstatus : c.status = .enabled) (group model : String) :
    (indexEntries rows).count (group, model, c.id) = c.groups.count group * c.modelNames.count model := by
  induction rows with
  | nil => cases hc
  | cons first rows ih =>
    rw [List.map_cons, List.nodup_cons] at hnodup
    rw [indexEntries_cons, List.count_append]
    rcases List.mem_cons.1 hc with rfl | hc
    · rw [if_pos hstatus, count_entries_of_channel, count_indexEntries_of_notMem hnodup.1, Nat.add_zero]
    have hne : first.id ≠ c.id := by
      intro hid
      exact hnodup.1 (List.mem_map.2 ⟨c, hc, hid.symm⟩)
    have hnone : (if first.status = .enabled then
        first.groups.flatMap fun g => first.modelNames.map fun m => (g, m, first.id) else []).count (group, model, c.id) = 0 := by
      rw [List.count_eq_zero]
      intro hmem
      split at hmem
      · simp only [List.mem_flatMap, List.mem_map, Prod.mk.injEq] at hmem
        obtain ⟨g, -, m, -, -, -, hid⟩ := hmem
        exact hne hid
      · cases hmem
    rw [hnone, Nat.zero_add, ih hnodup.2 hc]

/-! ## The refresh -/

/-- A refresh completes exactly where it knows every group of an enabled channel. -/
theorem initChannelCache_isSome_iff : (initChannelCache env channels abilities old).isSome ↔ GroupsKnown channels abilities := by
  unfold initChannelCache
  simp only [Option.isSome_map]
  rw [Nested.pushAll_isSome_iff]
  have hmade : ∀ group, (madeGroups abilities group).isSome ↔ ∃ a ∈ abilities, a.group = group := by
    intro group
    unfold madeGroups
    split
    · rename_i hmem
      simpa using hmem
    · rename_i hmem
      simpa using hmem
  constructor
  · intro h c hc hstatus group hgroup
    obtain ⟨model, hmodel⟩ := List.exists_mem_of_ne_nil _ (modelNames_ne_nil c)
    exact (hmade group).1 (h _ (mem_indexEntries.2 ⟨c, hc, hstatus, hgroup, hmodel, rfl⟩))
  · rintro h ⟨group, model, id⟩ hmem
    obtain ⟨c, hc, hstatus, hgroup, -, -⟩ := mem_indexEntries.1 hmem
    exact (hmade group).2 (h c hc hstatus group hgroup)

section

variable (h : initChannelCache env channels abilities old = some cache)

include h

/-- The lists of the new index are the entries of their keys, in some order. -/
theorem perm_get_of_init (group model : String) : (cache.group2model2channels.get group model).Perm
      (((indexEntries channels.rows).filter fun e => e.1 = group ∧ e.2.1 = model).map fun e => e.2.2) := by
  obtain ⟨index, hindex, rfl⟩ := Option.map_eq_some_iff.1 h
  have hnil : ∀ priority, env.sort priority [] = [] := fun priority => (env.sort_perm priority []).eq_nil
  have hempty : (madeGroups abilities).get group model = [] := by
    unfold Nested.get madeGroups
    split <;> rfl
  rw [Nested.get_mapLists (hnil _), Nested.get_pushAll hindex, hempty, List.nil_append]
  exact env.sort_perm _ _

/-- A refreshed cache lists a channel as often as the index has it. -/
theorem count_get_of_init (group model : String) (id : Int) :
    (cache.group2model2channels.get group model).count id = (indexEntries channels.rows).count (group, model, id) :=
  ((perm_get_of_init h group model).count_eq id).trans (Nested.count_filter_map _ _ _ _)

/-- A list of the new index holds exactly the enabled channels that were read with the group and the model. -/
theorem mem_get_of_init {id : Int} : id ∈ cache.group2model2channels.get group model ↔
      ∃ c ∈ channels.rows, c.status = .enabled ∧ group ∈ c.groups ∧ model ∈ c.modelNames ∧ c.id = id := by
  rw [← mem_indexEntries, ← List.count_pos_iff, ← List.count_pos_iff, count_get_of_init h]

/-- A refreshed cache has the rows, with the polling index it had. -/
theorem channelsIDM_of_init (id : Int) : cache.channelsIDM id = (channels.lookup id).map (keepPollingIndex (old.channelsIDM id)) := by
  obtain ⟨index, -, rfl⟩ := Option.map_eq_some_iff.1 h
  rfl

end

/-! ## A channel -/

/-- Ids sorted by insertion, no Advanced Custom channel, and names as they are. -/
def plainEnv : ChannelEnv Unit where
  sort := fun priority ids => ids.insertionSort fun a b => priority b ≤ priority a
  sort_perm := fun _ ids => List.perm_insertionSort _ ids
  advancedCustom := fun _ => none
  supportsPath := fun _ _ => false
  formatMatchingModelName := id

/-- An enabled single-key channel of the group `default`. -/
def defaultChannel (models : String) : Channel where
  id := 1
  type := 1
  keys := ["sk-1"]
  status := .enabled
  weight := none
  models := models
  group := "default"
  priority := none
  tag := none
  channelInfo := ⟨false, fun _ => none, false, 0, false⟩
  otherSettings := ""

end ChannelCacheAux

end NewApi
