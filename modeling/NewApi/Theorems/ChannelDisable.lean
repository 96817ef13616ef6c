import NewApi.Lib.Run
import NewApi.Lemmas.ChannelPickAux

/-!
# A disabled channel is not selected

Selection draws from the index, so a channel that no list of the index holds is never selected. Disabling takes the channel out
of each list once: that is enough exactly where no list holds it twice, which is where neither its groups nor its models repeat an
entry. From then on it stays out: only a refresh adds to the index, and it adds enabled channels only.
-/

namespace NewApi

open Tables NestedMaps Run ChannelCache ChannelSystem ChannelCacheAux ChannelPickAux

variable {Config : Type}

/-- Some list of the index holds the channel. -/
def ChannelCache.Listed (cache : ChannelCache Config) (id : Int) : Prop :=
  ∃ group model, id ∈ cache.group2model2channels.get group model

/-- No request gets the channel: it is selected for no group, model, retry, path and random number, and is enabled for none. -/
structure ChannelCache.Unselected (env : ChannelEnv Config) (cache : ChannelCache Config) (id : Int) : Prop where
  random : ∀ group model retry path intn c,
    cache.getRandomSatisfiedChannel env group model retry path intn = .ok (some c) → c.id ≠ id
  enabled : ∀ group model, cache.isChannelEnabledForGroupModel env group model id = false

namespace ChannelDisableAux

variable {env : ChannelEnv Config} {cache : ChannelCache Config} {id : Int} {group model path usingKey : String} {c c' : Channel}
  {cs : List Channel}
  {s : ChannelSystem Config} {channels : Table Channel.id} {abilities : List Ability}

/-! ## What is selected is listed -/

/-- The filter by path adds no channel. -/
theorem mem_of_mem_filter {ids : List Int} (h : id ∈ cache.filterChannelsByRequestPath env ids path) : id ∈ ids := by
  unfold filterChannelsByRequestPath at h
  split at h
  · exact h
  · exact (List.mem_filter.1 h).1

/-- What is selected is listed. -/
theorem listed_of_random {retry : Nat} {intn : Nat → Nat}
    (h : cache.getRandomSatisfiedChannel env group model retry path intn = .ok (some c)) : cache.Listed c.id := by
  obtain ⟨channels, hchannels, hc⟩ := candidate_of_getRandom h
  obtain ⟨id, hid, hfetch⟩ := (mem_mapM_iff hchannels).1 hc
  rw [cache.ids id c (fetch_eq_ok.1 hfetch)]
  unfold candidates at hid
  simp only at hid
  split at hid <;> exact ⟨group, _, mem_of_mem_filter hid⟩

/-- What counts as enabled is listed. -/
theorem listed_of_enabled (h : cache.isChannelEnabledForGroupModel env group model id = true) : cache.Listed id := by
  unfold isChannelEnabledForGroupModel at h
  simp only at h
  split at h
  · cases h
  split at h
  · exact ⟨_, _, ‹_›⟩
  split at h
  · exact ⟨_, _, of_decide_eq_true h⟩
  · cases h

/-- A channel that is not listed is not selected. -/
theorem unselected_of_not_listed (h : ¬ cache.Listed id) : cache.Unselected env id where
  random := by
    intro group model retry path intn c hc hid
    exact h (hid ▸ listed_of_random hc)
  enabled := by
    intro group model
    by_contra henabled
    exact h (listed_of_enabled (Bool.eq_true_of_not_eq_false henabled))

/-! ## What the calls keep of a channel -/

/-- The strings and the kind of the channel are the same. -/
structure SameShape (c c' : Channel) : Prop where
  group : c'.group = c.group
  models : c'.models = c.models
  multiKey : c'.channelInfo.isMultiKey = c.channelInfo.isMultiKey

theorem SameShape.refl (c : Channel) : SameShape c c := ⟨rfl, rfl, rfl⟩

theorem SameShape.trans {c'' : Channel} (h : SameShape c c') (h' : SameShape c' c'') : SameShape c c'' :=
  ⟨h'.group.trans h.group, h'.models.trans h.models, h'.multiKey.trans h.multiKey⟩

theorem SameShape.groups (h : SameShape c c') : c'.groups = c.groups := by
  unfold Channel.groups
  rw [h.group]

theorem SameShape.modelNames (h : SameShape c c') : c'.modelNames = c.modelNames := by
  unfold Channel.modelNames
  rw [h.models]

theorem sameShape_keepPollingIndex (old : Option Channel) : SameShape c (keepPollingIndex old c) := by
  unfold keepPollingIndex
  split
  · split <;> exact ⟨rfl, rfl, rfl⟩
  · exact .refl c

/-- A change of a key keeps the shape and the id. -/
theorem sameShape_handler (c : Channel) (usingKey : String) (status : ChannelStatus) :
    SameShape c (handlerMultiKeyUpdate c usingKey status) ∧ (handlerMultiKeyUpdate c usingKey status).id = c.id := by
  unfold handlerMultiKeyUpdate
  split
  · exact ⟨⟨rfl, rfl, rfl⟩, rfl⟩
  split
  · split
    · exact ⟨.refl c, rfl⟩
    · exact ⟨⟨rfl, rfl, rfl⟩, rfl⟩
  · rename_i i _
    simp only
    generalize Function.update c.channelInfo.multiKeyStatusList i (if status = .enabled then none else some status) = list
    split
    · exact ⟨⟨rfl, rfl, rfl⟩, rfl⟩
    · split <;> exact ⟨⟨rfl, rfl, rfl⟩, rfl⟩

/-- A change of the status keeps them. -/
theorem sameShape_updatedRow (row : Channel) (usingKey : String) (status : ChannelStatus) :
    SameShape row (updatedRow row usingKey status).1 ∧ (updatedRow row usingKey status).1.id = row.id := by
  unfold updatedRow
  split
  · exact sameShape_handler row usingKey status
  · exact ⟨⟨rfl, rfl, rfl⟩, rfl⟩

/-- After an update that succeeds, the row of its id is the updated one unless it has the status already. -/
theorem lookup_updateStoredStatus_eq (db : ChannelDb) (usingKey : String) (status : ChannelStatus) (ok : StatusStatements)
    (id' : Int) : (updateStoredStatus db id usingKey status ok).2.channels.lookup id' =
      if id' = id ∧ ok.read = true ∧ ok.save = true ∧ id ≠ 0 then
        (db.channels.lookup id).map fun row => if row.status = status then row else (updatedRow row usingKey status).1
      else db.channels.lookup id' := by
  unfold updateStoredStatus
  cases hread : ok.read with
  | false => simp
  | true =>
    simp only [if_true]
    cases hlookup : db.channels.lookup id with
    | none =>
      by_cases hid' : id' = id
      · simp [hid', hlookup]
      · simp [hid']
    | some row =>
      have hid := (sameShape_updatedRow row usingKey status).2.trans (Table.lookup_key hlookup)
      by_cases hstatus : row.status = status
      · by_cases hid' : id' = id
        · simp [hstatus, hid', hlookup]
        · simp [hstatus, hid']
      · simp only [if_neg hstatus, Option.map_some]
        -- updating the abilities leaves the rows of the channels alone
        have hrows : ∀ (b : Bool) (db' : ChannelDb) (on : Bool),
            (if b then db'.updateAbilityStatus id on else db').channels = db'.channels := by
          intro b db' on
          cases b <;> rfl
        rw [hrows, hid]
        by_cases hsaved : ok.save = true ∧ id ≠ 0
        · rw [if_pos (by simpa using hsaved)]
          simp only [Table.lookup_save, hid]
          by_cases hid' : id' = id
          · simp [hid', hlookup, hsaved]
          · simp [hid']
        · rw [if_neg (by simpa using hsaved), if_neg (fun h => hsaved h.2.2)]

/-- What an update does to the rows: it leaves the row of an id, or puts the updated one in its place. -/
theorem lookup_updateStoredStatus (db : ChannelDb) (id : Int) (usingKey : String) (status : ChannelStatus) (ok : StatusStatements)
    (id' : Int) : (updateStoredStatus db id usingKey status ok).2.channels.lookup id' = db.channels.lookup id' ∨
      id' = id ∧ ∃ row, db.channels.lookup id = some row ∧
        (updateStoredStatus db id usingKey status ok).2.channels.lookup id' = some (updatedRow row usingKey status).1 := by
  rw [lookup_updateStoredStatus_eq]
  split
  · rename_i hsaved
    obtain ⟨rfl, -⟩ := hsaved
    cases hlookup : db.channels.lookup id' with
    | none => exact .inl rfl
    | some row =>
      by_cases hstatus : row.status = status
      · exact .inl (by simp [hstatus])
      · exact .inr ⟨rfl, row, rfl, by simp [hstatus]⟩
  · exact .inl rfl

theorem channelsIDM_setChannel : (cache.setChannel c).channelsIDM id = if id = c.id then some c else cache.channelsIDM id := by
  simp only [setChannel, Function.update_apply]

/-- The status is written to one channel of the cache. -/
theorem channelsIDM_cacheUpdateChannelStatus (status : ChannelStatus) (id' : Int) :
    (cache.cacheUpdateChannelStatus id status).channelsIDM id' =
      if id' = id then (cache.channelsIDM id).map fun c => { c with status := status } else cache.channelsIDM id' := by
  have hset : (cache.cacheUpdateChannelStatus id status).channelsIDM = (cache.setCachedStatus id status).channelsIDM := by
    unfold cacheUpdateChannelStatus
    split <;> rfl
  rw [hset, setCachedStatus]
  cases hc : cache.channelsIDM id with
  | none =>
    by_cases hid : id' = id
    · subst hid
      simp [hc]
    · simp [hid]
  | some c =>
    have hid := cache.ids id c hc
    simp only [channelsIDM_setChannel, hid, Option.map_some]

/-- The index after a status was set: a status other than enabled takes the id out of each list once. -/
theorem get_cacheUpdateChannelStatus (status : ChannelStatus) :
    (cache.cacheUpdateChannelStatus id status).group2model2channels.get group model =
      if status ≠ .enabled then (cache.group2model2channels.get group model).erase id else cache.group2model2channels.get group model := by
  have hset : (cache.setCachedStatus id status).group2model2channels = cache.group2model2channels := by
    unfold setCachedStatus
    split <;> rfl
  unfold cacheUpdateChannelStatus
  simp only
  split
  · rw [hset]
    exact Nested.get_mapLists rfl _ _ _
  · rw [hset]

section

variable {cache' : ChannelCache Config} {status : ChannelStatus}
  (h : updateCachedStatus cache id usingKey status = some cache')

include h

/-- What an update can do: replace a channel by one of the same shape, set its status, or both. -/
theorem updateCachedStatus_cases : ∃ base, base.group2model2channels = cache.group2model2channels ∧
    (∀ id' c', base.channelsIDM id' = some c' → ∃ c, cache.channelsIDM id' = some c ∧ SameShape c c') ∧
      (cache' = base ∨ ∃ status, cache' = base.cacheUpdateChannelStatus id status) := by
  have hself : ∀ id' c', cache.channelsIDM id' = some c' → ∃ c, cache.channelsIDM id' = some c ∧ SameShape c c' :=
    fun id' c' hc' => ⟨c', hc', .refl c'⟩
  unfold updateCachedStatus at h
  split at h
  · cases h
  rename_i c hc
  split at h
  · have hshape := sameShape_handler c usingKey status
    refine ⟨cache.setChannel (handlerMultiKeyUpdate c usingKey status), rfl, ?_, ?_⟩
    · intro id' c' hc'
      rw [channelsIDM_setChannel, hshape.2, cache.ids id c hc] at hc'
      split at hc'
      · rename_i hid
        subst hid
        obtain rfl := Option.some.inj hc'
        exact ⟨c, hc, hshape.1⟩
      · exact hself id' c' hc'
    · obtain rfl := Option.some.inj h
      split
      · exact .inr ⟨_, rfl⟩
      · exact .inl rfl
  · split at h
    · cases h
    · exact ⟨cache, rfl, hself, .inr ⟨status, (Option.some.inj h).symm⟩⟩

/-- What an update does to the cached channels: it changes at most the one of its id, and keeps its shape. -/
theorem channelsIDM_updateCachedStatus {id' : Int} (hc' : cache'.channelsIDM id' = some c') :
    ∃ c, cache.channelsIDM id' = some c ∧ SameShape c c' := by
  obtain ⟨base, -, hbase, rfl | ⟨status', rfl⟩⟩ := updateCachedStatus_cases h
  · exact hbase id' c' hc'
  rw [channelsIDM_cacheUpdateChannelStatus] at hc'
  split at hc'
  · rename_i hid
    subst hid
    obtain ⟨c₁, hc₁, rfl⟩ := Option.map_eq_some_iff.1 hc'
    obtain ⟨c, hc, hshape⟩ := hbase _ c₁ hc₁
    exact ⟨c, hc, hshape.trans ⟨rfl, rfl, rfl⟩⟩
  · exact hbase id' c' hc'

/-- A list keeps its channels, or loses the one that is disabled. -/
theorem get_updateCachedStatus (group model : String) :
    cache'.group2model2channels.get group model = cache.group2model2channels.get group model ∨
      cache'.group2model2channels.get group model = (cache.group2model2channels.get group model).erase id := by
  obtain ⟨base, hbase, -, rfl | ⟨status', rfl⟩⟩ := updateCachedStatus_cases h
  · exact .inl (by rw [hbase])
  rw [get_cacheUpdateChannelStatus, hbase]
  split
  · exact .inr rfl
  · exact .inl rfl

end

/-! ## The runs -/

/-- A list of a new index holds a channel at most once where its row repeats no group and no model. -/
theorem count_get_of_init_le {old cache : ChannelCache Config} (h : initChannelCache env channels abilities old = some cache)
    (hrow : ∀ row, channels.lookup id = some row → row.groups.Nodup ∧ row.modelNames.Nodup) (group model : String) :
    (cache.group2model2channels.get group model).count id ≤ 1 := by
  by_contra hgt
  have hmem : id ∈ cache.group2model2channels.get group model := List.count_pos_iff.1 (by omega)
  obtain ⟨c, hc, hstatus, -, -, rfl⟩ := (mem_get_of_init h).1 hmem
  obtain ⟨hgroups, hmodels⟩ := hrow c (Table.lookup_of_mem hc)
  rw [count_get_of_init h, count_indexEntries channels.nodup hc hstatus] at hgt
  have hg := List.nodup_iff_count_le_one.1 hgroups group
  have hm := List.nodup_iff_count_le_one.1 hmodels model
  exact hgt (Nat.mul_le_mul hg hm)

/-- What every run keeps of a channel whose strings repeat nothing: the shape of its row and of its cached copy, and that no list of
the index holds it twice. -/
structure Kept (id : Int) (c₀ : Channel) (s : ChannelSystem Config) : Prop where
  row : ∃ row, s.db.channels.lookup id = some row ∧ SameShape c₀ row
  cached : ∀ c, s.cache.channelsIDM id = some c → SameShape c₀ c
  once : ∀ group model, (s.cache.group2model2channels.get group model).count id ≤ 1

theorem lookup_read {read : Bool} (h : (if read then channels else Table.empty).lookup id = some c) : channels.lookup id = some c := by
  cases read with
  | true => exact h
  | false => cases h

/-- A refresh keeps the shape, and lists each channel once per pair of group and model. -/
theorem Kept.refresh {c₀ : Channel} (hgroups : c₀.groups.Nodup) (hmodels : c₀.modelNames.Nodup)
    (h : Kept id c₀ s) {read : Bool} {cache : ChannelCache Config}
    (hinit : initChannelCache env (if read then s.db.channels else Table.empty) abilities s.cache = some cache) :
    Kept id c₀ { s with cache := cache } := by
  obtain ⟨row, hrow, hshape⟩ := h.row
  refine ⟨h.row, ?_, ?_⟩
  · intro c hc
    rw [channelsIDM_of_init hinit] at hc
    obtain ⟨c', hc', rfl⟩ := Option.map_eq_some_iff.1 hc
    obtain rfl : row = c' := Option.some.inj (hrow.symm.trans (lookup_read hc'))
    exact hshape.trans (sameShape_keepPollingIndex _)
  · refine count_get_of_init_le hinit ?_
    intro c hc
    obtain rfl : row = c := Option.some.inj (hrow.symm.trans (lookup_read hc))
    rw [hshape.groups, hshape.modelNames]
    exact ⟨hgroups, hmodels⟩

/-- Every call keeps the channel in its groups and models, listed once. -/
theorem kept_call (env : ChannelEnv Config) {c₀ : Channel} (hgroups : c₀.groups.Nodup)
    (hmodels : c₀.modelNames.Nodup) (s : ChannelSystem Config) (e : ChannelCall) (h : Kept id c₀ s) : Kept id c₀ (s.call env e) := by
  cases e with
  | refresh channels abilities =>
    unfold call
    simp only
    split
    · rename_i cache hinit
      exact h.refresh hgroups hmodels hinit
    · exact h
  | updateStatus id' usingKey status ok =>
    simp only [call, updateChannelStatus]
    split
    · exact h
    rename_i cache hcache
    refine ⟨?_, ?_, ?_⟩
    · obtain ⟨row, hrow, hshape⟩ := h.row
      rcases lookup_updateStoredStatus s.db id' usingKey status ok id with hsame | ⟨rfl, row', hrow', hupdated⟩
      · exact ⟨row, hsame.trans hrow, hshape⟩
      · obtain rfl : row = row' := Option.some.inj (hrow.symm.trans hrow')
        exact ⟨_, hupdated, hshape.trans (sameShape_updatedRow row usingKey status).1⟩
    · intro c hc
      obtain ⟨c', hc', hshape⟩ := channelsIDM_updateCachedStatus hcache hc
      exact (h.cached c' hc').trans hshape
    · intro group model
      rcases get_updateCachedStatus hcache group model with hget | hget
      · rw [hget]
        exact h.once group model
      · rw [hget]
        exact (List.erase_sublist.count_le id).trans (h.once group model)

end ChannelDisableAux

def ChannelCall.Enables (id : Int) : ChannelCall → Prop
  | .refresh _ _ => False
  | .updateStatus id' _ status _ => id' = id ∧ status = .enabled

/-- `UpdateChannelStatus` moves the channel to the status: its cached status was another, and its row has the status afterwards. -/
def ChannelSystem.Moves (s : ChannelSystem Config) (id : Int) (usingKey : String) (status : ChannelStatus) (ok : StatusStatements) : Prop :=
  (∃ c, s.cache.channelsIDM id = some c ∧ c.status ≠ status) ∧
    ∃ row, (s.updateChannelStatus id usingKey status ok).2.db.channels.lookup id = some row ∧ row.status = status

namespace ChannelDisableAux

variable {env : ChannelEnv Config} {id : Int} {usingKey : String} {status : ChannelStatus}

/-- The channel's row is disabled, and no list of the index holds it. -/
structure Off (id : Int) (c₀ : Channel) (s : ChannelSystem Config) : Prop where
  row : ∃ row, s.db.channels.lookup id = some row ∧ SameShape c₀ row ∧ row.status ≠ .enabled
  out : ¬ s.cache.Listed id

/-- No call but one that enables the channel lists it again. -/
theorem off_call (env : ChannelEnv Config) {c₀ : Channel} (hsingle : c₀.channelInfo.isMultiKey = false)
    (s : ChannelSystem Config) (e : ChannelCall) (he : ¬ e.Enables id) (h : Off id c₀ s) : Off id c₀ (s.call env e) := by
  obtain ⟨row, hrow, hshape, hstatus⟩ := h.row
  cases e with
  | refresh channels abilities =>
    unfold call
    simp only
    split
    · rename_i cache hinit
      refine ⟨h.row, ?_⟩
      -- only enabled channels are listed anew
      rintro ⟨group, model, hmem⟩
      obtain ⟨c, hc, henabled, -, -, rfl⟩ := (mem_get_of_init hinit).1 hmem
      obtain rfl : row = c := Option.some.inj (hrow.symm.trans (lookup_read (Table.lookup_of_mem hc)))
      exact hstatus henabled
    · exact h
  | updateStatus id' usingKey status ok =>
    simp only [call, updateChannelStatus]
    split
    · exact h
    rename_i cache hcache
    refine ⟨?_, ?_⟩
    · rcases lookup_updateStoredStatus s.db id' usingKey status ok id with hsame | ⟨rfl, row', hrow', hupdated⟩
      · exact ⟨row, hsame.trans hrow, hshape, hstatus⟩
      obtain rfl : row = row' := Option.some.inj (hrow.symm.trans hrow')
      refine ⟨_, hupdated, hshape.trans (sameShape_updatedRow row usingKey status).1, ?_⟩
      intro henabled
      rw [updatedRow, hshape.multiKey, hsingle] at henabled
      exact he ⟨rfl, henabled⟩
    · rintro ⟨group, model, hmem⟩
      rcases get_updateCachedStatus hcache group model with hget | hget
      · rw [hget] at hmem
        exact h.out ⟨group, model, hmem⟩
      · rw [hget] at hmem
        exact h.out ⟨group, model, List.mem_of_mem_erase hmem⟩

/-- What `UpdateChannelStatus` makes of the cache when it moves a single-key channel. -/
theorem cache_updateChannelStatus {s : ChannelSystem Config} {c : Channel} (hc : s.cache.channelsIDM id = some c)
    (hsingle : c.channelInfo.isMultiKey = false) (hne : c.status ≠ status) (ok : StatusStatements) :
    (s.updateChannelStatus id usingKey status ok).2.cache = s.cache.cacheUpdateChannelStatus id status := by
  have hcached : updateCachedStatus s.cache id usingKey status = some (s.cache.cacheUpdateChannelStatus id status) := by
    unfold updateCachedStatus
    rw [hc]
    simp [hsingle, hne]
  unfold updateChannelStatus
  rw [hcached]

/-- Taken out of each list once, a channel is listed exactly where some list held it twice. -/
theorem listed_cacheUpdateChannelStatus_iff (cache : ChannelCache Config) (id : Int) (hstatus : status ≠ .enabled) :
    (cache.cacheUpdateChannelStatus id status).Listed id ↔
      ∃ group model, 1 < (cache.group2model2channels.get group model).count id := by
  refine exists_congr fun group => exists_congr fun model => ?_
  rw [get_cacheUpdateChannelStatus, if_pos hstatus, ← List.count_pos_iff, List.count_erase_self]
  omega

/-- Moving a single-key channel that no list holds twice to a disabled status takes it out. -/
theorem off_of_moves {c₀ : Channel} (hsingle : c₀.channelInfo.isMultiKey = false) {s : ChannelSystem Config}
    (h : Kept id c₀ s) {usingKey : String} (hstatus : status ≠ .enabled) {ok : StatusStatements}
    (hafter : Kept id c₀ (s.updateChannelStatus id usingKey status ok).2) (hmoves : s.Moves id usingKey status ok) :
    Off id c₀ (s.updateChannelStatus id usingKey status ok).2 := by
  obtain ⟨⟨c, hc, hne⟩, row, hrow, rfl⟩ := hmoves
  refine ⟨?_, ?_⟩
  · obtain ⟨row', hrow', hshape⟩ := hafter.row
    obtain rfl : row = row' := Option.some.inj (hrow.symm.trans hrow')
    exact ⟨row, hrow, hshape, hstatus⟩
  · rw [cache_updateChannelStatus hc ((h.cached c hc).multiKey.trans hsingle) hne, listed_cacheUpdateChannelStatus_iff _ _ hstatus]
    rintro ⟨group, model, htwice⟩
    exact absurd (h.once group model) (by omega)

/-- After a refresh, a list holds a channel twice exactly where its strings repeat a group or a model. -/
theorem twice_of_init_iff {channels : Table Channel.id} {abilities : List Ability} {old cache : ChannelCache Config}
    (h : initChannelCache env channels abilities old = some cache) {c : Channel} (hc : c ∈ channels.rows) (hstatus : c.status = .enabled) :
    (∃ group model, 1 < (cache.group2model2channels.get group model).count c.id) ↔ ¬ (c.groups.Nodup ∧ c.modelNames.Nodup) := by
  have hcount : ∀ group model, (cache.group2model2channels.get group model).count c.id =
      c.groups.count group * c.modelNames.count model := by
    intro group model
    rw [count_get_of_init h, count_indexEntries channels.nodup hc hstatus]
  constructor
  · rintro ⟨group, model, htwice⟩ ⟨hgroups, hmodels⟩
    rw [hcount] at htwice
    have hg := List.nodup_iff_count_le_one.1 hgroups group
    have hm := List.nodup_iff_count_le_one.1 hmodels model
    exact absurd (Nat.mul_le_mul hg hm) (by omega)
  · intro hrepeat
    rcases not_and_or.1 hrepeat with hgroups | hmodels
    · rw [List.nodup_iff_count_le_one, not_forall] at hgroups
      obtain ⟨group, hgroup⟩ := hgroups
      obtain ⟨model, hmodel⟩ := List.exists_mem_of_ne_nil _ (modelNames_ne_nil c)
      have hpos := List.count_pos_iff.2 hmodel
      refine ⟨group, model, ?_⟩
      rw [hcount]
      nlinarith
    · rw [List.nodup_iff_count_le_one, not_forall] at hmodels
      obtain ⟨model, hmodel⟩ := hmodels
      obtain ⟨group, hgroup⟩ := List.exists_mem_of_ne_nil _ (groups_ne_nil c)
      have hpos := List.count_pos_iff.2 hgroup
      refine ⟨group, model, ?_⟩
      rw [hcount]
      nlinarith

end ChannelDisableAux

open ChannelDisableAux

/-- For every set of channels and every single-key channel among them. If its strings repeat no group and no model: in every run of
refreshes and status updates, once `UpdateChannelStatus` has moved it to a disabled status, no request gets it in any state reached
before a call enables it. And the condition is needed: enabled, refreshed and then moved, it stays listed exactly where its strings
repeat one. -/
theorem disabled_unselected_iff (env : ChannelEnv Config) (db : ChannelDb) {id : Int} {c : Channel}
    (hrow : db.channels.lookup id = some c) (hsingle : c.channelInfo.isMultiKey = false) {status : ChannelStatus}
    (hstatus : status ≠ .enabled) :
    (c.groups.Nodup ∧ c.modelNames.Nodup →
      ∀ (before after : List ChannelCall) (usingKey : String) (ok : StatusStatements),
        (exec (call env) ⟨ChannelCache.empty, db⟩ before).Moves id usingKey status ok → (∀ e ∈ after, ¬ e.Enables id) →
          (exec (call env) ((exec (call env) ⟨ChannelCache.empty, db⟩ before).updateChannelStatus id usingKey status ok).2
            after).cache.Unselected env id) ∧
    (c.status = .enabled → ∀ cache, initChannelCache env db.channels db.abilities.rows ChannelCache.empty = some cache →
      ((cache.cacheUpdateChannelStatus id status).Listed id ↔ ¬ (c.groups.Nodup ∧ c.modelNames.Nodup))) := by
  refine ⟨?_, ?_⟩
  · rintro ⟨hgroups, hmodels⟩ before after usingKey ok hmoves hafter
    have hstart : Kept id c (⟨ChannelCache.empty, db⟩ : ChannelSystem Config) :=
      ⟨⟨c, hrow, .refl c⟩, by simp [ChannelCache.empty], by simp [ChannelCache.empty, Nested.get]⟩
    have hkept := exec_invariant (kept_call env hgroups hmodels) hstart before
    have hmoved := kept_call env hgroups hmodels _ (.updateStatus id usingKey status ok) hkept
    have hoff := off_of_moves hsingle hkept hstatus hmoved hmoves
    have hrun := Along.invariant (off_call env hsingle) (along_of_mem hafter _) hoff
    exact unselected_of_not_listed hrun.out
  · intro henabled cache hinit
    obtain rfl := Table.lookup_key hrow
    rw [listed_cacheUpdateChannelStatus_iff cache c.id hstatus]
    exact twice_of_init_iff hinit (Table.mem_of_lookup hrow) henabled

namespace ChannelDisableAux

/-- The tables with that channel and its ability for `gpt-4`. -/
def defaultDb (models : String) : ChannelDb where
  channels := ⟨[defaultChannel models], by simp⟩
  abilities := ⟨[⟨"default", "gpt-4", 1, true, none, 0, none⟩], by simp⟩

def refreshed (models : String) : ChannelSystem Unit := exec (call plainEnv) ⟨ChannelCache.empty, defaultDb models⟩ [.refresh true true]

end ChannelDisableAux

theorem disabled_unselected_iff_gpt4 :
    (exec (call plainEnv) ((refreshed "gpt-4").updateChannelStatus 1 "" .autoDisabled ⟨true, true, true⟩).2
      [.refresh true true]).cache.Unselected plainEnv 1 :=
  (disabled_unselected_iff plainEnv (defaultDb "gpt-4") rfl rfl (by decide)).1 (by decide +kernel) [.refresh true true]
    [.refresh true true] "" ⟨true, true, true⟩ ⟨⟨_, rfl, by decide⟩, ⟨_, rfl, rfl⟩⟩ (by simp [ChannelCall.Enables])

/-- A channel whose models name `gpt-4` twice is listed twice. Disabled, it is taken out once, and a request for `gpt-4` still gets
it. -/
theorem repeated_model_stays_selected :
    (refreshed "gpt-4,gpt-4").Moves 1 "" .autoDisabled ⟨true, true, true⟩ ∧
      ((((refreshed "gpt-4,gpt-4").updateChannelStatus 1 "" .autoDisabled ⟨true, true, true⟩).2.cache.getRandomSatisfiedChannel
          plainEnv "default" "gpt-4" 0 "/v1/chat/completions" fun _ => 0).map (Option.map fun c => (c.id, c.status))) =
        .ok (some (1, .autoDisabled)) ∧
      ((refreshed "gpt-4,gpt-4").updateChannelStatus 1 "" .autoDisabled ⟨true, true, true⟩).2.cache.isChannelEnabledForGroupModel
        plainEnv "default" "gpt-4" 1 = true :=
  ⟨⟨⟨_, rfl, by decide⟩, ⟨_, rfl, rfl⟩⟩, rfl, by decide +kernel⟩

end NewApi
