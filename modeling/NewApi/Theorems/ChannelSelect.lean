import NewApi.Lemmas.ChannelPickAux

/-!
# The cache and the tables select from the same channels, or not

Both take the channels of a group and a model at the priority of the retry that serve the path. The cache drops those that do not serve
the path before it looks for the priority, the tables after: where the path takes a priority away, or shifts those below it, they select
differently. The cache alone goes on to the normalised name of the model, and takes a NULL priority for 0.
-/

namespace NewApi

open Tables NestedMaps ChannelPickAux ChannelCacheAux

section Statement

variable {Config : Type} (env : ChannelEnv Config)

def ChannelCache.returns (cache : ChannelCache Config) (group model : String) (retry : Nat) (path : String) : Set Int :=
  { id | ∃ (intn : RandIntn) (c : Channel),
    cache.getRandomSatisfiedChannel env group model retry path intn.1 = .ok (some c) ∧ c.id = id }

variable (db : ChannelDb)

def ChannelDb.returns (order : WeightOrder) (group model : String) (retry : Nat) (path : String) : Set Int :=
  { id | ∃ (intn : RandIntn) (c : Channel), db.getChannel env order group model retry path true intn = .ok (some c) ∧ c.id = id }

/-- The enabled channels of a group and a model. -/
def ChannelDb.serving (group model : String) : List Channel :=
  db.channels.rows.filter fun c => c.status = .enabled && decide (group ∈ c.groups) && decide (model ∈ c.modelNames)

/-- Those of them that serve the path. -/
def ChannelDb.usable (group model path : String) : List Channel :=
  (db.serving group model).filter fun c => path = "" || ChannelDb.servesPath env path c

/-- The priority of a retry is the same among all the channels of a model as among those that serve the path, and no NULL stands in the
way: none at that priority, and none at all where the query has to list the priorities. -/
structure LevelsAgree (serving usable : List Channel) (retry : Nat) : Prop where
  sameLevel : ChannelCache.targetPriority retry (serving.filter fun c => c.priority.isSome) = ChannelCache.targetPriority retry usable
  known : ∀ c ∈ usable, c.getPriority = ChannelCache.targetPriority retry usable → c.priority.isSome = true
  listed : retry ≠ 0 → ∀ c ∈ serving, c.priority.isSome = true

/-- The two selections have nothing to disagree on: where channels of the model serve the path, the priorities agree, and where none
does, none of the normalised name does. -/
def ChannelDb.SelectionsMeet (group model : String) (retry : Nat) (path : String) : Prop :=
  if db.usable env group model path = [] then db.usable env group (env.formatMatchingModelName model) path = []
  else LevelsAgree (db.serving group model) (db.usable env group model path) retry

end Statement

namespace ChannelSelectAux

open ChannelCache ChannelDb

variable {Config : Type} {env : ChannelEnv Config} {db : ChannelDb} {old cache : ChannelCache Config} {group model path : String}
  {a : Ability}
  {retry : Nat} {c : Channel} {xs ys : List Channel}

/-! ## Priorities -/

theorem falling_mergeSort (xs : List Int) : (xs.mergeSort fun a b => decide (b ≤ a)).Pairwise fun a b => b ≤ a := by
  have h := @List.pairwise_mergeSort Int (fun a b => decide (b ≤ a)) (by intro a b c; simp; omega) (by intro a b; simp; omega) xs
  simpa using h

theorem levels_sorted (channels : List Channel) : (levels channels).Pairwise fun a b => b ≤ a := by
  exact falling_mergeSort _

/-- Falling lists without repeats of the same numbers are equal. -/
theorem eq_of_falling {xs ys : List Int} (hx : xs.Pairwise fun a b => b ≤ a) (hy : ys.Pairwise fun a b => b ≤ a) (hxn : xs.Nodup)
    (hyn : ys.Nodup) (h : ∀ p, p ∈ xs ↔ p ∈ ys) : xs = ys := by
  have hperm : xs.Perm ys := (List.perm_ext_iff_of_nodup hxn hyn).2 h
  exact hperm.eq_of_pairwise (fun a b _ _ hab hba => le_antisymm hba hab) hx hy

/-- The levels depend on the priorities only. -/
theorem levels_congr (h : ∀ p, (∃ c ∈ xs, c.getPriority = p) ↔ ∃ c ∈ ys, c.getPriority = p) : levels xs = levels ys :=
  eq_of_falling (levels_sorted xs) (levels_sorted ys) (nodup_levels xs) (nodup_levels ys) fun p => by rw [mem_levels, mem_levels, h]

/-- So does the priority of a retry. -/
theorem targetPriority_congr
    (h : ∀ p, (∃ c ∈ xs, c.getPriority = p) ↔ ∃ c ∈ ys, c.getPriority = p) : targetPriority retry xs = targetPriority retry ys := by
  have hlevels := levels_congr h
  unfold levels at hlevels
  unfold targetPriority
  rw [hlevels]

/-! ## The cache -/

/-- The enabled channels of a group and model. -/
theorem mem_serving :
    c ∈ db.serving group model ↔ c ∈ db.channels.rows ∧ c.status = .enabled ∧ group ∈ c.groups ∧ model ∈ c.modelNames := by
  simp only [serving, List.mem_filter, Bool.and_eq_true, decide_eq_true_eq]
  tauto

/-- Those of them that serve the path. -/
theorem mem_usable : c ∈ db.usable env group model path ↔ c ∈ db.serving group model ∧ (path = "" ∨ servesPath env path c = true) := by
  simp only [usable, List.mem_filter, Bool.or_eq_true, decide_eq_true_eq]

/-- The cached channel of a row differs in its polling index only. -/
theorem keepPollingIndex_same (old : Option Channel) :
    (keepPollingIndex old c).getPriority = c.getPriority ∧ (keepPollingIndex old c).getWeight = c.getWeight ∧
      (keepPollingIndex old c).type = c.type := by
  unfold keepPollingIndex
  split
  · split <;> exact ⟨rfl, rfl, rfl⟩
  · exact ⟨rfl, rfl, rfl⟩

/-- The config of an Advanced Custom channel, as the refresh parses it. -/
theorem advancedCustom_of_init (h : initChannelCache env db.channels db.abilities.rows old = some cache) (id : Int) :
    cache.channel2advancedCustomConfig id = (db.channels.lookup id).bind fun c =>
      if c.type = channelTypeAdvancedCustom then env.advancedCustom c.otherSettings else none := by
  obtain ⟨index, -, rfl⟩ := Option.map_eq_some_iff.1 h
  rfl

/-- What the filter of the cache asks of an id. -/
def cachedServes (env : ChannelEnv Config) (cache : ChannelCache Config) (path : String) (id : Int) : Bool :=
  (cache.channelsIDM id).elim true fun c => c.type ≠ channelTypeAdvancedCustom ||
    (cache.channel2advancedCustomConfig id).elim false fun config => env.supportsPath config path

/-- The filter by path in memory. -/
theorem filter_eq (ids : List Int) :
    cache.filterChannelsByRequestPath env ids path = if path = "" ∨ ids = [] then ids else ids.filter (cachedServes env cache path) := by
  unfold filterChannelsByRequestPath cachedServes
  congr 2
  funext id
  cases cache.channelsIDM id with
  | none => rfl
  | some c => cases cache.channel2advancedCustomConfig id <;> rfl

section

variable (h : initChannelCache env db.channels db.abilities.rows old = some cache) {id : Int}

include h

/-- The candidates under one name are the channels that serve the path. -/
theorem mem_filter_iff : id ∈ cache.filterChannelsByRequestPath env (cache.group2model2channels.get group model) path ↔
      ∃ c ∈ db.usable env group model path, c.id = id := by
  have hlisted : id ∈ cache.group2model2channels.get group model ↔ _ := mem_get_of_init h
  by_cases hpath : path = "" ∨ cache.group2model2channels.get group model = []
  · rw [filterChannelsByRequestPath, if_pos hpath, hlisted]
    constructor
    · rintro ⟨c, hc, hstatus, hgroup, hmodel, rfl⟩
      rcases hpath with hempty | hnil
      · exact ⟨c, mem_usable.2 ⟨mem_serving.2 ⟨hc, hstatus, hgroup, hmodel⟩, .inl hempty⟩, rfl⟩
      · rw [hnil] at hlisted
        exact absurd (hlisted.2 ⟨c, hc, hstatus, hgroup, hmodel, rfl⟩) List.not_mem_nil
    · rintro ⟨c, hc, rfl⟩
      obtain ⟨hrow, hstatus, hgroup, hmodel⟩ := mem_serving.1 (mem_usable.1 hc).1
      exact ⟨c, hrow, hstatus, hgroup, hmodel, rfl⟩
  · have hserves : ∀ c ∈ db.channels.rows, cachedServes env cache path c.id = servesPath env path c := by
      intro c hc
      have hlookup := Table.lookup_of_mem hc
      unfold cachedServes
      rw [channelsIDM_of_init h, advancedCustom_of_init h, hlookup]
      simp only [Option.map_some, Option.elim_some, (keepPollingIndex_same _).2.2, Option.bind_some, servesPath]
      by_cases htype : c.type = channelTypeAdvancedCustom
      · rw [if_pos htype]
        cases env.advancedCustom c.otherSettings <;> rfl
      · simp [htype]
    rw [filter_eq, if_neg hpath, List.mem_filter, hlisted]
    push Not at hpath
    constructor
    · rintro ⟨⟨c, hc, hstatus, hgroup, hmodel, rfl⟩, hpasses⟩
      exact ⟨c, mem_usable.2 ⟨mem_serving.2 ⟨hc, hstatus, hgroup, hmodel⟩, .inr ((hserves c hc).symm.trans hpasses)⟩, rfl⟩
    · rintro ⟨c, hc, rfl⟩
      obtain ⟨hserving, hpasses⟩ := mem_usable.1 hc
      obtain ⟨hrow, hstatus, hgroup, hmodel⟩ := mem_serving.1 hserving
      exact ⟨⟨c, hrow, hstatus, hgroup, hmodel, rfl⟩, (hserves c hrow).trans (hpasses.resolve_left hpath.1)⟩

/-- The channels the cache chooses among: those of the name, or where there is none those of the normalised name. -/
def chosenFrom (env : ChannelEnv Config) (db : ChannelDb) (group model path : String) : List Channel :=
  if db.usable env group model path = [] then db.usable env group (env.formatMatchingModelName model) path
  else db.usable env group model path

/-- The candidates in memory. -/
theorem mem_candidates_iff : id ∈ cache.candidates env group model path ↔ ∃ c ∈ chosenFrom env db group model path, c.id = id := by
  have hexact : cache.filterChannelsByRequestPath env (cache.group2model2channels.get group model) path = [] ↔
      db.usable env group model path = [] := by
    simp only [List.eq_nil_iff_forall_not_mem, mem_filter_iff h]
    constructor
    · intro hnone c hc
      exact hnone c.id ⟨c, hc, rfl⟩
    · rintro hnone id ⟨c, hc, -⟩
      exact hnone c hc
  unfold candidates chosenFrom
  simp only [hexact]
  split <;> exact mem_filter_iff h

theorem fetch_iff {c' : Channel} (hc : c ∈ db.channels.rows) :
    cache.fetch c.id = .ok c' ↔ keepPollingIndex (old.channelsIDM c.id) c = c' := by
  unfold fetch
  rw [channelsIDM_of_init h, Table.lookup_of_mem hc]
  simp

end

theorem row_of_chosen (hc : c ∈ chosenFrom env db group model path) : c ∈ db.channels.rows := by
  unfold chosenFrom at hc
  split at hc <;> exact (mem_serving.1 (mem_usable.1 hc).1).1

/-- The cache fetches every candidate. -/
theorem fetch_candidates (group model path : String) (h : initChannelCache env db.channels db.abilities.rows old = some cache) :
    ∃ channels, (cache.candidates env group model path).mapM cache.fetch = .ok channels ∧
      ∀ c', c' ∈ channels ↔ ∃ c ∈ chosenFrom env db group model path, keepPollingIndex (old.channelsIDM c.id) c = c' := by
  have hall : ∀ id ∈ cache.candidates env group model path, ∃ c', cache.fetch id = .ok c' := by
    intro id hid
    obtain ⟨c, hc, rfl⟩ := (mem_candidates_iff h).1 hid
    exact ⟨_, (fetch_iff h (row_of_chosen hc)).2 rfl⟩
  obtain ⟨channels, hchannels⟩ := exists_mapM hall
  refine ⟨channels, hchannels, fun c' => ?_⟩
  rw [mem_mapM_iff hchannels]
  constructor
  · rintro ⟨id, hid, hfetch⟩
    obtain ⟨c, hc, rfl⟩ := (mem_candidates_iff h).1 hid
    exact ⟨c, hc, (fetch_iff h (row_of_chosen hc)).1 hfetch⟩
  · rintro ⟨c, hc, hkeep⟩
    exact ⟨c.id, (mem_candidates_iff h).2 ⟨c, hc, rfl⟩, (fetch_iff h (row_of_chosen hc)).2 hkeep⟩

/-- What the cache may return. -/
theorem cache_returns (h : initChannelCache env db.channels db.abilities.rows old = some cache)
    (hweights : ∀ c ∈ db.channels.rows, 0 < c.getWeight) (id : Int) : id ∈ cache.returns env group model retry path ↔
      ∃ c ∈ targets retry (chosenFrom env db group model path), c.id = id := by
  obtain ⟨channels, hfetch, hmem⟩ := fetch_candidates group model path h
  have hpositive : ∀ c' ∈ channels, 0 < c'.getWeight := by
    intro c' hc'
    obtain ⟨c, hc, rfl⟩ := (hmem c').1 hc'
    rw [(keepPollingIndex_same _).2.1]
    exact hweights c (row_of_chosen hc)
  have htarget : targetPriority retry channels = targetPriority retry (chosenFrom env db group model path) := by
    refine targetPriority_congr fun p => ?_
    constructor
    · rintro ⟨c', hc', rfl⟩
      obtain ⟨c, hc, rfl⟩ := (hmem c').1 hc'
      exact ⟨c, hc, (keepPollingIndex_same _).1.symm⟩
    · rintro ⟨c, hc, rfl⟩
      exact ⟨_, (hmem _).2 ⟨c, hc, rfl⟩, (keepPollingIndex_same _).1⟩
  constructor
  · rintro ⟨intn, c', hrandom, rfl⟩
    obtain ⟨hc', hpriority⟩ := mem_targets.1 ((getRandom_iff hfetch hpositive c').1 ⟨intn, hrandom⟩)
    obtain ⟨c, hc, rfl⟩ := (hmem c').1 hc'
    rw [(keepPollingIndex_same _).1, htarget] at hpriority
    exact ⟨c, mem_targets.2 ⟨hc, hpriority⟩, (keepPollingIndex_id _ c).symm⟩
  · rintro ⟨c, hc, rfl⟩
    obtain ⟨hchosen, hpriority⟩ := mem_targets.1 hc
    have hcached : keepPollingIndex (old.channelsIDM c.id) c ∈ targets retry channels := by
      refine mem_targets.2 ⟨(hmem _).2 ⟨c, hchosen, rfl⟩, ?_⟩
      rw [(keepPollingIndex_same _).1, htarget]
      exact hpriority
    obtain ⟨intn, hrandom⟩ := (getRandom_iff hfetch hpositive _).2 hcached
    exact ⟨intn, _, hrandom, keepPollingIndex_id _ c⟩

/-! ## The tables -/

/-- The enabled abilities of a group and a model are those of its channels. -/
theorem enabledAbilities_iff (hdb : db.Consistent) (P : Int → Option Int → Prop) :
    (∃ a ∈ db.enabledAbilities group model, P a.channelId a.priority) ↔ ∃ c ∈ db.serving group model, P c.id c.priority := by
  constructor
  · rintro ⟨a, ha, hP⟩
    simp only [enabledAbilities, List.mem_filter, Bool.and_eq_true, decide_eq_true_eq] at ha
    obtain ⟨hrow, ⟨rfl, rfl⟩, henabled⟩ := ha
    obtain ⟨c, hc, hgroup, hmodel, hid, hstatus, hpriority, -⟩ := hdb.mirrored a hrow
    rw [henabled] at hstatus
    rw [hid, hpriority] at hP
    exact ⟨c, mem_serving.2 ⟨hc, of_decide_eq_true hstatus.symm, hgroup, hmodel⟩, hP⟩
  · rintro ⟨c, hc, hP⟩
    obtain ⟨hrow, hstatus, hgroup, hmodel⟩ := mem_serving.1 hc
    obtain ⟨a, ha, rfl, rfl, hid⟩ := hdb.complete c hrow group hgroup model hmodel
    obtain ⟨c', hc', -, -, hid', hstatus', hpriority, -⟩ := hdb.mirrored a ha
    obtain rfl := Table.eq_of_key_eq hc' hrow (hid'.symm.trans hid)
    refine ⟨a, ?_, by rwa [hid, hpriority]⟩
    simp [enabledAbilities, ha, hstatus', hstatus]

/-- The channels whose priority is known. -/
def known (db : ChannelDb) (group model : String) : List Channel := (db.serving group model).filter fun c => c.priority.isSome

/-- The priorities that are not NULL are those of the channels whose priority is known. -/
theorem priority_iff (hdb : db.Consistent) {p : Int} :
    (∃ a ∈ db.enabledAbilities group model, a.priority = some p) ↔ ∃ c ∈ known db group model, c.getPriority = p := by
  rw [enabledAbilities_iff hdb fun _ priority => priority = some p]
  simp only [known, List.mem_filter]
  constructor
  · rintro ⟨c, hc, hpriority⟩
    exact ⟨c, ⟨hc, by rw [hpriority]; rfl⟩, by rw [Channel.getPriority, hpriority]; rfl⟩
  · rintro ⟨c, ⟨hc, hsome⟩, rfl⟩
    obtain ⟨p, hp⟩ := Option.isSome_iff_exists.1 hsome
    exact ⟨c, hc, by rw [Channel.getPriority, hp]; rfl⟩

theorem le_targetPriority_zero {channels : List Channel} (hc : c ∈ channels) : c.getPriority ≤ targetPriority 0 channels := by
  have hne : channels ≠ [] := List.ne_nil_of_mem hc
  have htarget := targetPriority_eq 0 hne
  have hmem : c.getPriority ∈ levels channels := mem_levels.2 ⟨c, hc, rfl⟩
  have hsorted := levels_sorted channels
  cases hlevels : levels channels with
  | nil =>
    rw [hlevels] at hmem
    cases hmem
  | cons top rest =>
    rw [hlevels] at htarget hmem hsorted
    obtain rfl : top = targetPriority 0 channels := by simpa using htarget
    rcases List.mem_cons.1 hmem with heq | hrest
    · exact heq.le
    · exact (List.pairwise_cons.1 hsorted).1 _ hrest

/-- The highest priority in the table of abilities. -/
theorem max_priority (hdb : db.Consistent) (hne : known db group model ≠ []) :
    ((db.enabledAbilities group model).filterMap Ability.priority).max? = some (targetPriority 0 (known db group model)) := by
  rw [List.max?_eq_some_iff]
  simp only [List.mem_filterMap]
  constructor
  · exact (priority_iff hdb).2 (exists_targetPriority 0 hne)
  · intro p hp
    obtain ⟨c, hc, rfl⟩ := (priority_iff hdb).1 hp
    exact le_targetPriority_zero hc

/-- The query finds the priority that is walked to in memory. -/
theorem getPriority_eq (hdb : db.Consistent) (hlisted : ∀ c ∈ db.serving group model, c.priority.isSome = true)
    (hne : known db group model ≠ []) : db.getPriority group model retry = .ok (targetPriority retry (known db group model)) := by
  have hcolumn : none ∉ (db.enabledAbilities group model).map Ability.priority := by
    intro hmem
    obtain ⟨a, ha, hpriority⟩ := List.mem_map.1 hmem
    obtain ⟨c, hc, hnone⟩ := (enabledAbilities_iff hdb fun _ priority => priority = none).1 ⟨a, ha, hpriority⟩
    have hsome := hlisted c hc
    rw [hnone] at hsome
    cases hsome
  have hsorted : ((((db.enabledAbilities group model).map Ability.priority).filterMap id).dedup).mergeSort (fun a b => decide (b ≤ a)) =
      levels (known db group model) := by
    refine eq_of_falling (falling_mergeSort _) (levels_sorted _) ?_ (nodup_levels _) fun p => ?_
    · exact (List.mergeSort_perm _ _).nodup_iff.2 (List.nodup_dedup _)
    · rw [List.mem_mergeSort, List.mem_dedup, mem_levels, ← priority_iff hdb]
      simp
  unfold getPriority
  simp only [if_neg hcolumn, hsorted, if_neg (levels_ne_nil hne)]
  rfl

/-- The abilities of the query have the priority of the retry among the channels whose priority is known. -/
theorem channelQuery_iff (hdb : db.Consistent) : (∃ rows, db.channelQuery group model retry = .ok rows ∧ a ∈ rows) ↔
      a ∈ db.enabledAbilities group model ∧ (retry ≠ 0 → ∀ c ∈ db.serving group model, c.priority.isSome = true) ∧
        a.priority = some (targetPriority retry (known db group model)) := by
  -- an ability with a priority comes from a channel whose priority is known
  have hknown : ∀ {p}, a ∈ db.enabledAbilities group model → a.priority = some p → known db group model ≠ [] := by
    intro p ha hp
    obtain ⟨c, hc, -⟩ := (priority_iff hdb).1 ⟨a, ha, hp⟩
    exact List.ne_nil_of_mem hc
  have hrows : (∃ rows, db.channelQuery group model retry = .ok rows ∧ a ∈ rows) ↔
      ∃ p, db.queryPriority group model retry = .ok (some p) ∧ a ∈ db.enabledAbilities group model ∧ a.priority = some p := by
    unfold channelQuery
    cases db.queryPriority group model retry with
    | error e => simp [Except.map]
    | ok priority =>
      cases priority with
      | none | some _ => simp [Except.map]
  rw [hrows]
  by_cases hretry : retry = 0
  · subst hretry
    simp only [queryPriority, if_true, Except.ok.injEq, ne_eq, not_true_eq_false, false_implies, true_and]
    constructor
    · rintro ⟨p, hmax, ha, hp⟩
      rw [max_priority hdb (hknown ha hp)] at hmax
      exact ⟨ha, hp.trans hmax.symm⟩
    · rintro ⟨ha, hp⟩
      exact ⟨_, max_priority hdb (hknown ha hp), ha, hp⟩
  · simp only [queryPriority, ne_eq, hretry, not_false_eq_true, true_implies]
    constructor
    · rintro ⟨p, hquery, ha, hp⟩
      have hlisted : ∀ c ∈ db.serving group model, c.priority.isSome = true := by
        intro c hc
        by_contra hnone
        rw [Bool.not_eq_true, Option.isSome_eq_false_iff, Option.isNone_iff_eq_none] at hnone
        obtain ⟨b, hb, hbnone⟩ := (enabledAbilities_iff hdb fun _ priority => priority = none).2 ⟨c, hc, hnone⟩
        have hcolumn : none ∈ (db.enabledAbilities group model).map Ability.priority := List.mem_map.2 ⟨b, hb, hbnone⟩
        unfold getPriority at hquery
        simp only [if_pos hcolumn] at hquery
        cases hquery
      rw [getPriority_eq hdb hlisted (hknown ha hp)] at hquery
      cases hquery
      exact ⟨ha, hlisted, hp⟩
    · rintro ⟨ha, hlisted, hp⟩
      refine ⟨_, ?_, ha, hp⟩
      rw [getPriority_eq hdb hlisted (hknown ha hp)]
      rfl

/-- The filter by path over the table. -/
theorem mem_filterAbilities {abilities : List Ability} (hc : db.channels.lookup a.channelId = some c) :
    a ∈ db.filterAbilitiesByRequestPath env abilities path true ↔ a ∈ abilities ∧ (path = "" ∨ servesPath env path c = true) := by
  unfold filterAbilitiesByRequestPath
  by_cases hpath : path = ""
  · simp [hpath]
  by_cases hnil : abilities = []
  · simp [hnil]
  have hcond : ¬ (path = "" ∨ abilities = [] ∨ true = false) := by simp [hpath, hnil]
  rw [if_neg hcond, List.mem_filter, hc]
  simp [hpath]

/-- What the database may return. -/
theorem db_returns (hdb : db.Consistent) (order : WeightOrder) (id : Int) : id ∈ db.returns env order group model retry path ↔
      ∃ c ∈ db.usable env group model path, c.id = id ∧
        (retry ≠ 0 → ∀ c' ∈ db.serving group model, c'.priority.isSome = true) ∧
          c.priority = some (targetPriority retry (known db group model)) := by
  constructor
  · rintro ⟨intn, c, hget, rfl⟩
    obtain ⟨rows, hquery, a, ha, hlookup⟩ := (getChannel_iff c).1 ⟨intn, hget⟩
    obtain ⟨hordered, hpath⟩ := (mem_filterAbilities hlookup).1 ha
    have hrow : a ∈ rows := (order.perm rows).mem_iff.1 hordered
    obtain ⟨henabled, hlisted, hpriority⟩ := (channelQuery_iff hdb).1 ⟨rows, hquery, hrow⟩
    obtain ⟨c', hc', hid, hpriority'⟩ :=
      (enabledAbilities_iff hdb fun channelId priority => channelId = a.channelId ∧ priority = a.priority).1 ⟨a, henabled, rfl, rfl⟩
    obtain rfl : c' = c := by
      have hfound := Table.lookup_of_mem (mem_serving.1 hc').1
      rw [hid, hlookup] at hfound
      exact (Option.some.inj hfound).symm
    exact ⟨c', mem_usable.2 ⟨hc', hpath⟩, rfl, hlisted, hpriority'.trans hpriority⟩
  · rintro ⟨c, hc, rfl, hlisted, hpriority⟩
    obtain ⟨hserving, hpath⟩ := mem_usable.1 hc
    obtain ⟨a, ha, hid, hpriority'⟩ :=
      (enabledAbilities_iff hdb fun channelId priority => channelId = c.id ∧ priority = c.priority).2 ⟨c, hserving, rfl, rfl⟩
    obtain ⟨rows, hquery, hrow⟩ := (channelQuery_iff hdb).2 ⟨ha, hlisted, hpriority'.trans hpriority⟩
    have hlookup : db.channels.lookup a.channelId = some c := by
      rw [hid]
      exact Table.lookup_of_mem (mem_serving.1 hserving).1
    have hmem : a ∈ db.filterAbilitiesByRequestPath env (order.order rows) path true :=
      (mem_filterAbilities hlookup).2 ⟨(order.perm rows).mem_iff.2 hrow, hpath⟩
    obtain ⟨intn, hget⟩ := (getChannel_iff c).2 ⟨rows, hquery, a, hmem, hlookup⟩
    exact ⟨intn, c, hget, rfl⟩

/-- Consistent tables can be cached. -/
theorem init_of_consistent (env : ChannelEnv Config) (hdb : db.Consistent) (old : ChannelCache Config) :
    ∃ cache, initChannelCache env db.channels db.abilities.rows old = some cache := by
  rw [← Option.isSome_iff_exists, initChannelCache_isSome_iff]
  intro c hc _ group hgroup
  obtain ⟨model, hmodel⟩ := List.exists_mem_of_ne_nil _ (modelNames_ne_nil c)
  obtain ⟨a, ha, hagroup, -⟩ := hdb.complete c hc group hgroup model hmodel
  exact ⟨a, ha, hagroup⟩

/-- Where channels serve the path, the selections are the same exactly where the priorities agree. -/
theorem targets_eq_iff (hne : db.usable env group model path ≠ []) :
    (∀ id, (∃ c ∈ targets retry (db.usable env group model path), c.id = id) ↔
      ∃ c ∈ db.usable env group model path, c.id = id ∧
        (retry ≠ 0 → ∀ c' ∈ db.serving group model, c'.priority.isSome = true) ∧
          c.priority = some (targetPriority retry (known db group model))) ↔
    LevelsAgree (db.serving group model) (db.usable env group model path) retry := by
  have hrow : ∀ {c}, c ∈ db.usable env group model path → c ∈ db.channels.rows := fun hc => (mem_serving.1 (mem_usable.1 hc).1).1
  constructor
  · intro h
    -- a channel of the cache's priority is one of the query's
    have hboth : ∀ c ∈ targets retry (db.usable env group model path),
        (retry ≠ 0 → ∀ c' ∈ db.serving group model, c'.priority.isSome = true) ∧
          c.priority = some (targetPriority retry (known db group model)) := by
      intro c hc
      obtain ⟨c', hc', hid, hquery⟩ := (h c.id).1 ⟨c, hc, rfl⟩
      obtain rfl := Table.eq_of_key_eq (hrow hc') (hrow (mem_targets.1 hc).1) hid
      exact hquery
    obtain ⟨c, hc⟩ := List.exists_mem_of_ne_nil _ (targets_ne_nil retry hne)
    obtain ⟨hlisted, hpriority⟩ := hboth c hc
    refine ⟨?_, ?_, hlisted⟩
    · rw [← (mem_targets.1 hc).2, Channel.getPriority, hpriority]
      rfl
    · intro c' hc' hlevel
      rw [(hboth c' (mem_targets.2 ⟨hc', hlevel⟩)).2]
      rfl
  · rintro ⟨hlevel, hknown, hlisted⟩ id
    constructor
    · rintro ⟨c, hc, rfl⟩
      obtain ⟨hmem, hpriority⟩ := mem_targets.1 hc
      obtain ⟨p, hp⟩ := Option.isSome_iff_exists.1 (hknown c hmem hpriority)
      refine ⟨c, hmem, rfl, hlisted, ?_⟩
      rw [Channel.getPriority, hp, Option.getD_some, ← hlevel] at hpriority
      rw [hp, hpriority]
      rfl
    · rintro ⟨c, hc, rfl, -, hpriority⟩
      refine ⟨c, mem_targets.2 ⟨hc, ?_⟩, rfl⟩
      rw [Channel.getPriority, hpriority, Option.getD_some]
      exact hlevel

end ChannelSelectAux

open ChannelSelectAux

/-- For consistent tables with positive weights the refresh completes, and the channels the cache can return are those the tables can
return if and only if the selections have nothing to disagree on. -/
theorem selections_agree_iff {Config : Type} (env : ChannelEnv Config) (db : ChannelDb) (hdb : db.Consistent)
    (hweights : ∀ c ∈ db.channels.rows, 0 < c.getWeight) (old : ChannelCache Config) (order : WeightOrder) (group model : String)
    (retry : Nat) (path : String) :
    ∃ cache, ChannelCache.initChannelCache env db.channels db.abilities.rows old = some cache ∧
      (cache.returns env group model retry path = db.returns env order group model retry path ↔
        db.SelectionsMeet env group model retry path) := by
  obtain ⟨cache, hcache⟩ := init_of_consistent env hdb old
  refine ⟨cache, hcache, ?_⟩
  rw [Set.ext_iff]
  simp only [cache_returns hcache hweights, db_returns hdb]
  unfold ChannelDb.SelectionsMeet chosenFrom
  by_cases hne : db.usable env group model path = []
  · -- the tables return nothing
    simp only [hne, if_true, List.not_mem_nil, false_and, exists_false, iff_false]
    constructor
    · intro h
      by_contra hnormal
      obtain ⟨c, hc⟩ := List.exists_mem_of_ne_nil _ (targets_ne_nil retry hnormal)
      exact h c.id ⟨c, hc, rfl⟩
    · rintro hnormal id ⟨c, hc, -⟩
      rw [hnormal] at hc
      exact absurd (mem_targets.1 hc).1 List.not_mem_nil
  · simp only [hne, if_false]
    exact targets_eq_iff hne

namespace ChannelSelectAux

/-- A channel of the group `default` for `gpt-4` with its type and priority. -/
def gpt4Channel (id type priority : Int) : Channel :=
  { defaultChannel "gpt-4" with id := id, type := type, priority := some priority, weight := some 1 }

theorem gpt4Channel_groups (id type priority : Int) : (gpt4Channel id type priority).groups = ["default"] := by
  have h : Text.split "default" ',' = ["default"] := by decide
  exact h

theorem gpt4Channel_modelNames (id type priority : Int) : (gpt4Channel id type priority).modelNames = ["gpt-4"] := by
  have h : Text.split "gpt-4" ',' = ["gpt-4"] := by decide
  exact h

/-- The tables with two such channels, the first of higher priority. -/
def twoLevels (type : Int) : ChannelDb where
  channels := ⟨[gpt4Channel 1 type 10, gpt4Channel 2 1 5], by simp [gpt4Channel]⟩
  abilities := ⟨[⟨"default", "gpt-4", 1, true, some 10, 1, none⟩, ⟨"default", "gpt-4", 2, true, some 5, 1, none⟩], by simp [Ability.key]⟩

theorem twoLevels_consistent (type : Int) : (twoLevels type).Consistent where
  mirrored a ha := by
    simp only [twoLevels, List.mem_cons, List.not_mem_nil, or_false] at ha
    rcases ha with rfl | rfl
    · exact ⟨gpt4Channel 1 type 10, List.mem_cons_self, by simp [gpt4Channel_groups], by simp [gpt4Channel_modelNames],
        rfl, rfl, rfl, rfl, rfl⟩
    · exact ⟨gpt4Channel 2 1 5, List.mem_cons_of_mem _ List.mem_cons_self, by simp [gpt4Channel_groups], by simp [gpt4Channel_modelNames],
        rfl, rfl, rfl, rfl, rfl⟩
  complete c hc group hgroup model hmodel := by
    simp only [twoLevels, List.mem_cons, List.not_mem_nil, or_false] at hc
    rcases hc with rfl | rfl
    · rw [gpt4Channel_groups, List.mem_singleton] at hgroup
      rw [gpt4Channel_modelNames, List.mem_singleton] at hmodel
      exact ⟨_, List.mem_cons_self, hgroup.symm, hmodel.symm, rfl⟩
    · rw [gpt4Channel_groups, List.mem_singleton] at hgroup
      rw [gpt4Channel_modelNames, List.mem_singleton] at hmodel
      exact ⟨_, List.mem_cons_of_mem _ List.mem_cons_self, hgroup.symm, hmodel.symm, rfl⟩

theorem twoLevels_weights (type : Int) : ∀ c ∈ (twoLevels type).channels.rows, 0 < c.getWeight := by
  intro c hc
  simp only [twoLevels, List.mem_cons, List.not_mem_nil, or_false] at hc
  rcases hc with rfl | rfl <;> exact Nat.one_pos

/-- The order of the rows. -/
def rowOrder : WeightOrder := ⟨id, fun _ => List.Perm.refl _⟩

end ChannelSelectAux

/-- Two plain channels: both serve every path. -/
theorem selections_agree_plain : ∃ cache,
    ChannelCache.initChannelCache plainEnv (twoLevels 1).channels (twoLevels 1).abilities.rows ChannelCache.empty = some cache ∧
      cache.returns plainEnv "default" "gpt-4" 1 "/v1/chat/completions" =
        (twoLevels 1).returns plainEnv rowOrder "default" "gpt-4" 1 "/v1/chat/completions" := by
  obtain ⟨cache, hcache, hiff⟩ := selections_agree_iff plainEnv (twoLevels 1) (twoLevels_consistent 1) (twoLevels_weights 1)
    ChannelCache.empty rowOrder "default" "gpt-4" 1 "/v1/chat/completions"
  refine ⟨cache, hcache, hiff.2 ?_⟩
  have husable : (twoLevels 1).usable plainEnv "default" "gpt-4" "/v1/chat/completions" = [gpt4Channel 1 1 10, gpt4Channel 2 1 5] := rfl
  have hserving : (twoLevels 1).serving "default" "gpt-4" = [gpt4Channel 1 1 10, gpt4Channel 2 1 5] := rfl
  have hknown : ∀ c ∈ [gpt4Channel 1 1 10, gpt4Channel 2 1 5], c.priority.isSome = true := by
    intro c hc
    simp only [List.mem_cons, List.not_mem_nil, or_false] at hc
    rcases hc with rfl | rfl <;> rfl
  rw [ChannelDb.SelectionsMeet, husable, hserving, if_neg (List.cons_ne_nil _ _)]
  exact ⟨rfl, fun c hc _ => hknown c hc, fun _ => hknown⟩

/-- The channel of the higher priority is an Advanced Custom channel without a route for the path: the cache selects the other, the
tables none. -/
theorem path_hides_priority : (twoLevels 58).Consistent ∧ (∀ c ∈ (twoLevels 58).channels.rows, 0 < c.getWeight) ∧
    ((ChannelCache.initChannelCache plainEnv (twoLevels 58).channels (twoLevels 58).abilities.rows ChannelCache.empty).map fun cache =>
      (cache.getRandomSatisfiedChannel plainEnv "default" "gpt-4" 0 "/v1/chat/completions" fun _ => 0).map (Option.map Channel.id)) =
        some (.ok (some 2)) ∧
    ∀ intn, (twoLevels 58).getChannel plainEnv rowOrder "default" "gpt-4" 0 "/v1/chat/completions" true intn = .ok none :=
  ⟨twoLevels_consistent 58, twoLevels_weights 58, rfl, fun _ => rfl⟩

end NewApi
