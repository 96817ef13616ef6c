import NewApi.Lemmas.ChannelCacheAux
import NewApi.Model.ChannelWrites

/-!
# Refreshing the channel cache

A refresh reads the channels, then the abilities, and makes the inner maps of the index for the groups of the abilities only. It
panics exactly where an enabled channel of the first query has a group the second query does not show. While the writers run one
after the other this does not happen: each leaves an ability for every group of every channel.
-/

namespace NewApi

open Tables NestedMaps Threads Run ChannelCache ChannelCacheAux

variable {Config : Type}

/-! ## A refresh among other calls -/

section Interleaved

variable {ι : Type} [DecidableEq ι]

/-- One refresh in a run: thread `i` begins it, reads the channels, reads the abilities and builds the index, with any steps of the
other threads before, between and after its queries. -/
structure RefreshRun (env : ChannelEnv Config) (start : Conf (ChannelSystem Config) ι ChannelWork) (i : ι) where
  before : List (ι × Bool)
  channelsOk : Bool
  between : List (ι × Bool)
  abilitiesOk : Bool
  later : List (ι × Bool)
  begins : (exec (ChannelWork.step env) start before).threads i = .refresh
  between_others : ∀ e ∈ between, e.1 ≠ i
  later_others : ∀ e ∈ later, e.1 ≠ i

namespace RefreshRun

variable {env : ChannelEnv Config} {start : Conf (ChannelSystem Config) ι ChannelWork} {i : ι} (r : RefreshRun env start i)

def atChannels : Conf (ChannelSystem Config) ι ChannelWork := exec (ChannelWork.step env) start r.before

def atAbilities : Conf (ChannelSystem Config) ι ChannelWork :=
  exec (ChannelWork.step env) (ChannelWork.step env r.atChannels (i, r.channelsOk)) r.between

def atBuild : Conf (ChannelSystem Config) ι ChannelWork :=
  exec (ChannelWork.step env) (ChannelWork.step env r.atAbilities (i, r.abilitiesOk)) r.later

def after : Conf (ChannelSystem Config) ι ChannelWork := ChannelWork.step env r.atBuild (i, true)

def channels : Table Channel.id := rowsRead r.channelsOk r.atChannels.shared.db.channels

def abilities : List Ability := (rowsRead r.abilitiesOk r.atAbilities.shared.db.abilities).rows

end RefreshRun

end Interleaved

namespace ChannelRefreshAux

section Interleaved

variable {ι : Type} [DecidableEq ι] {env : ChannelEnv Config} {start : Conf (ChannelSystem Config) ι ChannelWork} {i : ι}

theorem threads_step (c : Conf (ChannelSystem Config) ι ChannelWork) (ok : Bool) :
    (ChannelWork.step env c (i, ok)).threads i = (ChannelWork.statement env ok c.shared (c.threads i)).2 := by
  simp [ChannelWork.step, Conf.act]

/-- Other calls leave a call where it stands. -/
theorem threads_others {es : List (ι × Bool)} (h : ∀ e ∈ es, e.1 ≠ i) (c : Conf (ChannelSystem Config) ι ChannelWork) :
    (exec (ChannelWork.step env) c es).threads i = c.threads i := by
  induction es generalizing c with
  | nil => rfl
  | cons e es ih =>
    have hfirst : (ChannelWork.step env c e).threads i = c.threads i :=
      Function.update_of_ne (Ne.symm (h e List.mem_cons_self)) _ _
    exact (ih (fun e' he' => h e' (List.mem_cons_of_mem _ he')) (ChannelWork.step env c e)).trans hfirst

/-- When it builds the index, the thread has what the two queries showed. -/
theorem threads_atBuild (r : RefreshRun env start i) : r.atBuild.threads i = .refreshBuild r.channels r.abilities := by
  have hchannels : r.atAbilities.threads i = .refreshAbilities r.channels := by
    rw [RefreshRun.atAbilities, threads_others r.between_others, threads_step, RefreshRun.atChannels, r.begins]
    rfl
  rw [RefreshRun.atBuild, threads_others r.later_others, threads_step, hchannels]
  rfl

end Interleaved

end ChannelRefreshAux

/-! ## One call after the other -/

def ChannelDb.HasAbility (db : ChannelDb) (c : Channel) (group : String) : Prop :=
  ∃ a ∈ db.abilities.rows, a.group = group ∧ a.channelId = c.id

/-- Every channel has an ability for each of its groups. -/
def ChannelDb.Covered (db : ChannelDb) : Prop := ∀ c ∈ db.channels.rows, ∀ group ∈ c.groups, db.HasAbility c group

namespace ChannelWork

def Fresh : ChannelWork → Prop
  | .insert _ | .update _ | .editByTag _ | .fixAbility | .refresh => True
  | _ => False

/-- The calls of a list one after the other, each statement succeeding: the first takes a step, and leaves the list when it ends. -/
def alone (env : ChannelEnv Config) (p : ChannelSystem Config × List ChannelWork) : ChannelSystem Config × List ChannelWork :=
  match p.2 with
  | [] => p
  | w :: rest =>
    match statement env true p.1 w with
    | (s, .done) => (s, rest)
    | (s, w') => (s, w' :: rest)

end ChannelWork

namespace ChannelRefreshAux

variable {w : ChannelWork} {group : String}

/-! ### The abilities of a channel -/

/-- Of the pairs with one model none is lost: their keys differ where their groups do. -/
theorem mem_unseenPairs_of_first {model : String} {groups : List String} (pairs : List (String × String)) {seen : List String}
    (hgroup : group ∈ groups) (hseen : group ++ "|" ++ model ∉ seen) :
    (group, model) ∈ unseenPairs seen (groups.map (fun g => (g, model)) ++ pairs) := by
  induction groups generalizing seen with
  | nil => cases hgroup
  | cons g groups ih =>
    rw [List.map_cons, List.cons_append]
    unfold unseenPairs
    simp only
    by_cases hg : g = group
    · subst hg
      rw [if_neg hseen]
      exact List.mem_cons_self
    · have hmem : group ∈ groups := (List.mem_cons.1 hgroup).resolve_left (Ne.symm hg)
      split
      · exact ih hmem hseen
      refine List.mem_cons_of_mem _ (ih hmem ?_)
      intro hkey
      rcases List.mem_cons.1 hkey with hkey | hkey
      · have hcancel : group = g := by
          rw [String.append_assoc, String.append_assoc] at hkey
          exact (String.append_left_inj _).1 hkey
        exact hg hcancel.symm
      · exact hseen hkey

/-- A channel has an ability for each of its groups. -/
theorem exists_ability {c : Channel} (h : group ∈ c.groups) : ∃ a ∈ c.abilities, a.group = group ∧ a.channelId = c.id := by
  obtain ⟨model, models, hmodels⟩ := List.exists_cons_of_ne_nil (modelNames_ne_nil c)
  have hpair : (group, model) ∈ unseenPairs [] (c.modelNames.flatMap fun model => c.groups.map fun g => (g, model)) := by
    rw [hmodels, List.flatMap_cons]
    exact mem_unseenPairs_of_first _ h (by simp)
  exact ⟨_, List.mem_map.2 ⟨(group, model), hpair, rfl⟩, rfl, rfl⟩

theorem flatten_chunk50 {α : Type} (l : List α) : (chunk50 l).flatten = l := by
  induction l using chunk50.induct with
  | case1 => simp [chunk50]
  | case2 x l ih =>
    rw [chunk50, List.flatten_cons, ih, List.cons_append, List.take_append_drop]

/-! ### What the statements do to the abilities -/

variable {db : ChannelDb} {c : Channel} {abilities : List Ability} {a : Ability} {cs : List Channel} {edit : TagEdit}

theorem hasAbility_createAbilities (h : db.HasAbility c group) (abilities : List Ability) :
    (db.createAbilities abilities).HasAbility c group := by
  obtain ⟨a, ha, hof⟩ := h
  exact ⟨a, Table.mem_insertNew_of_mem ha abilities, hof⟩

/-- What is created is there. -/
theorem hasAbility_of_created (ha : a ∈ abilities) (hgroup : a.group = group)
    (hid : a.channelId = c.id) : (db.createAbilities abilities).HasAbility c group := by
  obtain ⟨x, hx, hkey⟩ := Table.exists_mem_insertNew (t := db.abilities) ha
  simp only [Ability.key, Prod.mk.injEq] at hkey
  exact ⟨x, hx, hkey.1.trans hgroup, hkey.2.2.trans hid⟩

/-- Creating abilities removes none. -/
theorem hasAbility_createAll (h : db.HasAbility c group) (chunks : List (List Ability)) :
    (chunks.foldl ChannelDb.createAbilities db).HasAbility c group := by
  induction chunks generalizing db with
  | nil => exact h
  | cons abilities chunks ih => exact ih (hasAbility_createAbilities h abilities)

/-- What is created in parts is there. -/
theorem hasAbility_of_createdAll {chunks : List (List Ability)} (ha : a ∈ chunks.flatten) (hgroup : a.group = group)
    (hid : a.channelId = c.id) : (chunks.foldl ChannelDb.createAbilities db).HasAbility c group := by
  induction chunks generalizing db with
  | nil => cases ha
  | cons abilities chunks ih =>
    rw [List.flatten_cons, List.mem_append] at ha
    rcases ha with ha | ha
    · exact hasAbility_createAll (hasAbility_of_created ha hgroup hid) chunks
    · exact ih ha

/-- Deleting the abilities of other channels leaves these. -/
theorem hasAbility_deleteAbilities (h : db.HasAbility c group) {ids : List Int} (hid : c.id ∉ ids) :
    (db.deleteAbilities ids).HasAbility c group := by
  obtain ⟨a, ha, hgroup, hchannel⟩ := h
  refine ⟨a, Table.mem_keep.2 ⟨ha, ?_⟩, hgroup, hchannel⟩
  rw [hchannel]
  exact decide_eq_true hid

/-- The transaction gives the channel its abilities, and leaves those of the others. -/
theorem hasAbility_updateAbilities_self (hgroup : group ∈ c.groups) : (db.updateAbilities c).HasAbility c group := by
  obtain ⟨a, ha, hof, hid⟩ := exists_ability hgroup
  rw [← flatten_chunk50 c.abilities] at ha
  exact hasAbility_of_createdAll ha hof hid

/-- An update by tag removes none. -/
theorem hasAbility_updateAbilityByTag (h : db.HasAbility c group) (edit : TagEdit) : (db.updateAbilityByTag edit).HasAbility c group := by
  obtain ⟨a, ha, hgroup, hid⟩ := h
  refine ⟨_, List.mem_map_of_mem ha, ?_, ?_⟩
  · split <;> exact hgroup
  · split <;> exact hid

/-! ### What a call owes -/

/-- The call will still add an ability of the channel for the group. -/
def Owes : ChannelWork → Channel → String → Prop
  | .addAbilities statements, c, group => ∃ a ∈ statements.flatten, a.group = group ∧ a.channelId = c.id
  | .readBack c', c, _ => c.id = c'.id
  | .updateAbilities cs, c, _ => c ∈ cs
  | .readByTag tag, c, _ => c.tag = some tag
  | .fixRead, _, _ => True
  | .fixDelete chunks, c, _ => c ∈ chunks.flatten
  | .fixAdd statements cs chunks, c, group =>
    (∃ a ∈ statements.flatten, a.group = group ∧ a.channelId = c.id) ∨ c ∈ cs ∨ c ∈ chunks.flatten
  | _, _, _ => False

/-- The channels are rows of the table, where the table still has a row of their id. -/
def Current (db : ChannelDb) (cs : List Channel) : Prop := ∀ c ∈ cs, ∀ row ∈ db.channels.rows, row.id = c.id → row = c

/-- What the call has read is what the tables hold, and it has not panicked. -/
def UpToDate (db : ChannelDb) : ChannelWork → Prop
  | .updateAbilities cs => Current db cs
  | .fixDelete chunks => Current db chunks.flatten
  | .fixAdd _ cs chunks => Current db (cs ++ chunks.flatten)
  | .refreshAbilities channels => channels = db.channels
  | .refreshBuild channels abilities => channels = db.channels ∧ abilities = db.abilities.rows
  | .panicked => False
  | _ => True

/-- While a call runs alone: every group of every channel has its ability, or the call will add it. -/
structure Tidy (db : ChannelDb) (w : ChannelWork) : Prop where
  owed : ∀ c ∈ db.channels.rows, ∀ group ∈ c.groups, db.HasAbility c group ∨ Owes w c group
  upToDate : UpToDate db w

theorem current_of_rows (h : ∀ c ∈ cs, c ∈ db.channels.rows) : Current db cs := by
  intro c hc row hrow hid
  exact Table.eq_of_key_eq hrow (h c hc) hid

/-- Covered tables are tidy for a call that is up to date. -/
theorem tidy_of_covered (h : db.Covered) (hw : UpToDate db w) : Tidy db w :=
  ⟨fun c hc group hgroup => .inl (h c hc group hgroup), hw⟩

/-- A call that owes nothing leaves the tables covered. -/
theorem covered_of_tidy (h : Tidy db w) (hw : ∀ c group, ¬ Owes w c group) : db.Covered := by
  intro c hc group hgroup
  exact (h.owed c hc group hgroup).resolve_right (hw c group)

/-- The next part of `FixAbility` owes what is left of the chunk and the chunks. -/
theorem tidy_fixNext {chunks : List (List Channel)}
    (howed : ∀ c ∈ db.channels.rows, ∀ group ∈ c.groups, db.HasAbility c group ∨ c ∈ cs ∨ c ∈ chunks.flatten)
    (hcurrent : Current db (cs ++ chunks.flatten)) : Tidy db (ChannelWork.fixNext cs chunks) := by
  unfold ChannelWork.fixNext
  split
  · refine ⟨?_, ?_⟩
    · intro c hc group hgroup
      rcases howed c hc group hgroup with h | h | h
      · exact .inl h
      · rcases List.mem_cons.1 h with rfl | h
        · right; left
          rw [flatten_chunk50]
          exact exists_ability hgroup
        · exact .inr (.inr (.inl h))
      · exact .inr (.inr (.inr h))
    · intro c hc
      exact hcurrent c (List.mem_cons_of_mem _ hc)
  · refine ⟨?_, trivial⟩
    intro c hc group hgroup
    rcases howed c hc group hgroup with h | h | h
    · exact .inl h
    · cases h
    · cases h
  · refine ⟨?_, ?_⟩
    · intro c hc group hgroup
      rcases howed c hc group hgroup with h | h | h
      · exact .inl h
      · cases h
      · exact .inr h
    · exact hcurrent

/-! ### The steps of a call alone -/

/-- The rows after an update. -/
theorem mem_updateWhere {p : Channel → Bool} {update c : Channel} (h : c ∈ (db.updateWhere p update).channels.rows) :
    ∃ row ∈ db.channels.rows, (p row = true ∧ c = ChannelDb.applyUpdates update row) ∨ (p row = false ∧ c = row) := by
  obtain ⟨row, hrow, rfl⟩ := List.mem_map.1 h
  refine ⟨row, hrow, ?_⟩
  cases hp : p row with
  | true => exact .inl ⟨rfl, if_pos rfl⟩
  | false => exact .inr ⟨rfl, if_neg Bool.false_ne_true⟩

/-- The rows of an edit have the tag that is read afterwards. -/
theorem tag_of_edit {row : Channel} (h : row.tag = some edit.tag) :
    (ChannelDb.applyUpdates edit.updateData row).tag = some edit.updatedTag := by
  simp only [ChannelDb.applyUpdates, TagEdit.updateData, TagEdit.updatedTag, h]
  split
  · rename_i hsame
    rw [hsame]
    rfl
  · cases edit.newTag <;> rfl

/-- An edit that names neither models nor a group leaves the groups. -/
theorem groups_of_edit (h : edit.shouldReCreateAbilities = false) (row : Channel) :
    (ChannelDb.applyUpdates edit.updateData row).groups = row.groups := by
  have hgroup : edit.group.getD "" = "" := by
    simp only [TagEdit.shouldReCreateAbilities, Bool.or_eq_false_iff, decide_eq_false_iff_not, ne_eq, not_not] at h
    exact h.2
  simp only [Channel.groups, ChannelDb.applyUpdates, TagEdit.updateData, hgroup, if_true]

/-- Creating some of the abilities that are owed leaves the others. -/
theorem owed_create {rest : List (List Ability)}
    (h : db.HasAbility c group ∨ ∃ a ∈ (abilities :: rest).flatten, a.group = group ∧ a.channelId = c.id) :
    (db.createAbilities abilities).HasAbility c group ∨ ∃ a ∈ rest.flatten, a.group = group ∧ a.channelId = c.id := by
  rcases h with hhas | ⟨a, ha, hof, hid⟩
  · exact .inl (hasAbility_createAbilities hhas abilities)
  rw [List.flatten_cons, List.mem_append] at ha
  rcases ha with ha | ha
  · exact .inl (hasAbility_of_created ha hof hid)
  · exact .inr ⟨a, ha, hof, hid⟩

section Statements

variable (env : ChannelEnv Config) (s : ChannelSystem Config)

/-- An insert leaves the tables tidy. -/
theorem tidy_insert (h : s.db.Covered) :
    Tidy (ChannelWork.statement env true s (.insert c)).1.db (ChannelWork.statement env true s (.insert c)).2 := by
  cases hinsert : s.db.channels.insert (ChannelDb.withDefaults c) with
  | none =>
    simp only [ChannelWork.statement, if_true, hinsert]
    exact tidy_of_covered h trivial
  | some channels =>
    simp only [ChannelWork.statement, if_true, hinsert]
    refine ⟨?_, trivial⟩
    intro row hrow group hgroup
    rcases (Table.mem_insert hinsert).1 hrow with hrow | rfl
    · exact .inl (h row hrow group hgroup)
    right
    simp only [Owes, flatten_chunk50]
    exact exists_ability hgroup

/-- So does an update. -/
theorem tidy_update (h : s.db.Covered) :
    Tidy (ChannelWork.statement env true s (.update c)).1.db (ChannelWork.statement env true s (.update c)).2 := by
  refine ⟨?_, trivial⟩
  intro row hrow group hgroup
  obtain ⟨old, hold, ⟨hid, rfl⟩ | ⟨-, rfl⟩⟩ := mem_updateWhere hrow
  · have hsame : old.id = c.id := of_decide_eq_true hid
    exact .inr hsame
  · exact .inl (h row hold group hgroup)

/-- What is read back is the row, where there is one. -/
theorem tidy_readBack (h : Tidy s.db (.readBack c)) :
    Tidy (ChannelWork.statement env true s (.readBack c)).1.db (ChannelWork.statement env true s (.readBack c)).2 := by
  simp only [ChannelWork.statement, if_true]
  cases hlookup : s.db.channels.lookup c.id with
  | none =>
    have hother : ∀ row ∈ s.db.channels.rows, row.id ≠ c.id := by
      intro row hrow hid
      rw [← hid, Table.lookup_of_mem hrow] at hlookup
      cases hlookup
    refine ⟨?_, ?_⟩
    · intro row hrow group hgroup
      exact .inl ((h.owed row hrow group hgroup).resolve_right (hother row hrow))
    · intro c' hc' row hrow hid
      obtain rfl := List.mem_singleton.1 hc'
      exact absurd hid (hother row hrow)
  | some c' =>
    refine ⟨?_, ?_⟩
    · intro row hrow group hgroup
      rcases h.owed row hrow group hgroup with hhas | hid
      · exact .inl hhas
      right
      have hrow' := Table.lookup_of_mem hrow
      rw [show row.id = c.id from hid, hlookup] at hrow'
      exact List.mem_singleton.2 (Option.some.inj hrow').symm
    · refine current_of_rows ?_
      intro c₁ hc₁
      obtain rfl := List.mem_singleton.1 hc₁
      exact Table.mem_of_lookup hlookup

theorem channels_createAll (db : ChannelDb) (chunks : List (List Ability)) :
    (chunks.foldl ChannelDb.createAbilities db).channels = db.channels := by
  induction chunks generalizing db with
  | nil => rfl
  | cons abilities chunks ih => exact ih (db.createAbilities abilities)

/-- The transaction serves the first channel; the others are still owed. -/
theorem tidy_updateAbilities (rest : List Channel) (h : Tidy s.db (.updateAbilities (c :: rest))) :
    Tidy (s.db.updateAbilities c) (.updateAbilities rest) := by
  have hchannels : (s.db.updateAbilities c).channels = s.db.channels := channels_createAll _ _
  refine ⟨?_, ?_⟩
  · intro row hrow group hgroup
    rw [hchannels] at hrow
    by_cases hid : row.id = c.id
    · obtain rfl := h.upToDate c List.mem_cons_self row hrow hid
      exact .inl (hasAbility_updateAbilities_self hgroup)
    rcases h.owed row hrow group hgroup with hhas | howes
    · exact .inl (hasAbility_createAll (hasAbility_deleteAbilities hhas (List.mem_singleton.not.2 hid)) _)
    refine .inr ((List.mem_cons.1 howes).resolve_left ?_)
    rintro rfl
    exact hid rfl
  · intro c' hc' row hrow
    rw [hchannels] at hrow
    exact h.upToDate c' (List.mem_cons_of_mem _ hc') row hrow

/-- So does an edit by tag. -/
theorem tidy_editByTag (edit : TagEdit) (h : s.db.Covered) :
    Tidy (ChannelWork.statement env true s (.editByTag edit)).1.db (ChannelWork.statement env true s (.editByTag edit)).2 := by
  simp only [ChannelWork.statement, if_true]
  cases hrecreate : edit.shouldReCreateAbilities with
  | true =>
    refine ⟨?_, trivial⟩
    intro row hrow group hgroup
    obtain ⟨old, hold, ⟨htag, rfl⟩ | ⟨-, rfl⟩⟩ := mem_updateWhere hrow
    · exact .inr (tag_of_edit (of_decide_eq_true htag))
    · exact .inl (h row hold group hgroup)
  | false =>
    refine ⟨?_, trivial⟩
    intro row hrow group hgroup
    obtain ⟨old, hold, ⟨-, rfl⟩ | ⟨-, rfl⟩⟩ := mem_updateWhere hrow
    · rw [groups_of_edit hrecreate] at hgroup
      exact .inl (h old hold group hgroup)
    · exact .inl (h row hold group hgroup)

/-- So does reading the rows back. -/
theorem tidy_readByTag (tag : String) (h : Tidy s.db (.readByTag tag)) :
    Tidy s.db (.updateAbilities (s.db.channels.rows.filter fun row => row.tag = some tag)) := by
  refine ⟨?_, ?_⟩
  · intro row hrow group hgroup
    rcases h.owed row hrow group hgroup with hhas | htag
    · exact .inl hhas
    · exact .inr (List.mem_filter.2 ⟨hrow, decide_eq_true htag⟩)
  · refine current_of_rows ?_
    intro c hc
    exact (List.mem_filter.1 hc).1

/-- So does the beginning of a repair. -/
theorem tidy_fixRead : Tidy (ChannelWork.statement env true s .fixRead).1.db (ChannelWork.statement env true s .fixRead).2 := by
  simp only [ChannelWork.statement, if_true]
  split
  · rename_i hrows
    refine ⟨?_, trivial⟩
    intro c hc
    rw [hrows] at hc
    cases hc
  · refine ⟨?_, ?_⟩
    · intro c hc group hgroup
      right
      simp only [Owes, flatten_chunk50]
      exact hc
    · simp only [UpToDate, flatten_chunk50]
      exact current_of_rows fun c hc => hc

/-- The abilities of a chunk are deleted: its channels are owed theirs. -/
theorem tidy_fixDelete (cs : List Channel) (chunks : List (List Channel)) (h : Tidy s.db (.fixDelete (cs :: chunks))) :
    Tidy (s.db.deleteAbilities (cs.map Channel.id)) (ChannelWork.fixNext cs chunks) := by
  refine tidy_fixNext ?_ h.upToDate
  intro c hc group hgroup
  by_cases hid : c.id ∈ cs.map Channel.id
  · obtain ⟨c', hc', hid'⟩ := List.mem_map.1 hid
    obtain rfl := h.upToDate c' (List.mem_append_left _ hc') c hc hid'.symm
    exact .inr (.inl hc')
  · rcases h.owed c hc group hgroup with hhas | howes
    · exact .inl (hasAbility_deleteAbilities hhas hid)
    · exact .inr (List.mem_append.1 howes)

/-- So does each of its statements. -/
theorem tidy_fixAdd (statements : List (List Ability)) (cs : List Channel) (chunks : List (List Channel))
    (h : Tidy s.db (.fixAdd statements cs chunks)) : Tidy (ChannelWork.statement env true s (.fixAdd statements cs chunks)).1.db
      (ChannelWork.statement env true s (.fixAdd statements cs chunks)).2 := by
  cases statements with
  | nil =>
    refine tidy_fixNext ?_ h.upToDate
    intro c hc group hgroup
    rcases h.owed c hc group hgroup with hhas | ⟨a, ha, -⟩ | howes
    · exact .inl hhas
    · cases ha
    · exact .inr howes
  | cons abilities rest =>
    refine ⟨?_, h.upToDate⟩
    intro c hc group hgroup
    rcases h.owed c hc group hgroup with hhas | hcreate | howes
    · exact .inl (hasAbility_createAbilities hhas abilities)
    · rcases owed_create (.inr hcreate) with hhas | hrest
      · exact .inl hhas
      · exact .inr (.inl hrest)
    · exact .inr (.inr howes)

/-- A refresh over tidy tables finds every group. -/
theorem tidy_refreshBuild (channels : Table Channel.id) (abilities : List Ability) (h : Tidy s.db (.refreshBuild channels abilities)) :
    Tidy (ChannelWork.statement env true s (.refreshBuild channels abilities)).1.db
      (ChannelWork.statement env true s (.refreshBuild channels abilities)).2 := by
  have hcovered := covered_of_tidy h (fun _ _ => id)
  obtain ⟨hchannels, habilities⟩ := h.upToDate
  have hknown : GroupsKnown channels abilities := by
    rw [hchannels, habilities]
    intro c hc _ group hgroup
    obtain ⟨a, ha, hof, -⟩ := hcovered c hc group hgroup
    exact ⟨a, ha, hof⟩
  have hsome : (initChannelCache env channels abilities s.cache).isSome := initChannelCache_isSome_iff.2 hknown
  obtain ⟨cache, hcache⟩ := Option.isSome_iff_exists.1 hsome
  simp only [ChannelWork.statement, hcache]
  exact tidy_of_covered hcovered trivial

/-- A step of a call alone keeps every group's ability there or owed. -/
theorem tidy_statement (h : Tidy s.db w) : Tidy (ChannelWork.statement env true s w).1.db (ChannelWork.statement env true s w).2 := by
  cases w with
  | insert c => exact tidy_insert env s (covered_of_tidy h fun _ _ => id)
  | addAbilities statements =>
    cases statements with
    | nil => exact tidy_of_covered (covered_of_tidy h (by simp [Owes])) trivial
    | cons abilities rest => exact ⟨fun c hc group hgroup => owed_create (h.owed c hc group hgroup), trivial⟩
  | update c => exact tidy_update env s (covered_of_tidy h fun _ _ => id)
  | readBack c => exact tidy_readBack env s h
  | updateAbilities cs =>
    cases cs with
    | nil => exact tidy_of_covered (covered_of_tidy h (by simp [Owes])) trivial
    | cons c rest => exact tidy_updateAbilities s rest h
  | editByTag edit => exact tidy_editByTag env s edit (covered_of_tidy h fun _ _ => id)
  | readByTag tag => exact tidy_readByTag s tag h
  | updateAbilityByTag edit =>
    have hcovered := covered_of_tidy h fun _ _ => id
    refine tidy_of_covered ?_ trivial
    intro c hc group hgroup
    exact hasAbility_updateAbilityByTag (hcovered c hc group hgroup) edit
  | fixAbility => exact ⟨fun _ _ _ _ => .inr trivial, trivial⟩
  | fixRead => exact tidy_fixRead env s
  | fixDelete chunks =>
    cases chunks with
    | nil => exact tidy_of_covered (covered_of_tidy h (by simp [Owes])) trivial
    | cons cs chunks => exact tidy_fixDelete s cs chunks h
  | fixAdd statements cs chunks => exact tidy_fixAdd env s statements cs chunks h
  | refresh => exact tidy_of_covered (covered_of_tidy h fun _ _ => id) rfl
  | refreshAbilities channels => exact tidy_of_covered (covered_of_tidy h fun _ _ => id) ⟨h.upToDate, rfl⟩
  | refreshBuild channels abilities => exact tidy_refreshBuild env s channels abilities h
  | done => exact h
  | panicked => exact h.upToDate.elim

end Statements

/-- Along a list of calls: the first is under way and the others have not begun. -/
def InTurn (p : ChannelSystem Config × List ChannelWork) : Prop :=
  match p.2 with
  | [] => p.1.db.Covered
  | w :: rest => Tidy p.1.db w ∧ ∀ w' ∈ rest, w'.Fresh

/-- A call that has not begun finds covered tables. -/
theorem tidy_of_fresh (hw : w.Fresh) (h : db.Covered) : Tidy db w := by
  refine tidy_of_covered h ?_
  cases w <;> trivial

theorem inTurn_of_covered {s : ChannelSystem Config} {calls : List ChannelWork} (h : s.db.Covered) (hcalls : ∀ w ∈ calls, w.Fresh) :
    InTurn (s, calls) := by
  cases calls with
  | nil => exact h
  | cons w rest =>
    exact ⟨tidy_of_fresh (hcalls w List.mem_cons_self) h, fun w' hw' => hcalls w' (List.mem_cons_of_mem _ hw')⟩

/-- Calls that run one after the other keep the tables tidy. -/
theorem inTurn_alone (env : ChannelEnv Config) (p : ChannelSystem Config × List ChannelWork) (h : InTurn p) :
    InTurn (ChannelWork.alone env p) := by
  obtain ⟨s, calls⟩ := p
  cases calls with
  | nil => exact h
  | cons w rest =>
    have hstep := tidy_statement env s h.1
    unfold ChannelWork.alone
    simp only
    split
    · rename_i s' heq
      rw [heq] at hstep
      exact inTurn_of_covered (covered_of_tidy hstep fun _ _ => id) h.2
    · rename_i s' w' _ heq
      rw [heq] at hstep
      exact ⟨hstep, h.2⟩

/-- So no call has panicked. -/
theorem not_panicked_of_inTurn {p : ChannelSystem Config × List ChannelWork} (h : InTurn p) : ChannelWork.panicked ∉ p.2 := by
  obtain ⟨s, calls⟩ := p
  cases calls with
  | nil => exact List.not_mem_nil
  | cons w rest =>
    intro hmem
    rcases List.mem_cons.1 hmem with rfl | hmem
    · exact h.1.upToDate
    · exact h.2 _ hmem

end ChannelRefreshAux

open ChannelRefreshAux

/-- Among any other calls, a refresh completes exactly where every group of an enabled channel of its first query is the group of an
ability of its second, and it then lists every enabled channel it has read under each of its groups and models. When calls run one
after the other on tables where every channel has an ability for each of its groups, no refresh panics. -/
theorem refresh_completes_iff {ι : Type} [DecidableEq ι] (env : ChannelEnv Config)
    (start : Conf (ChannelSystem Config) ι ChannelWork) (i : ι) :
    (∀ r : RefreshRun env start i, (r.after.threads i ≠ .panicked ↔ GroupsKnown r.channels r.abilities) ∧
      (r.after.threads i ≠ .panicked → r.after.threads i = .done ∧
        ∀ c ∈ r.channels.rows, c.status = .enabled → ∀ group ∈ c.groups, ∀ model ∈ c.modelNames,
          c.id ∈ r.after.shared.cache.group2model2channels.get group model)) ∧
    ∀ (s : ChannelSystem Config) (calls : List ChannelWork), s.db.Covered → (∀ w ∈ calls, w.Fresh) →
      ∀ n, ChannelWork.panicked ∉ ((ChannelWork.alone env)^[n] (s, calls)).2 := by
  refine ⟨?_, ?_⟩
  · intro r
    have hthread : r.after.threads i = (ChannelWork.statement env true r.atBuild.shared (.refreshBuild r.channels r.abilities)).2 := by
      rw [RefreshRun.after, threads_step, threads_atBuild]
    have hshared : r.after.shared = (ChannelWork.statement env true r.atBuild.shared (.refreshBuild r.channels r.abilities)).1 := by
      rw [← threads_atBuild]
      rfl
    have hknown : (initChannelCache env r.channels r.abilities r.atBuild.shared.cache).isSome ↔
        GroupsKnown r.channels r.abilities := initChannelCache_isSome_iff
    rw [← hknown, hthread, hshared]
    cases hcache : initChannelCache env r.channels r.abilities r.atBuild.shared.cache with
    | none => simp [ChannelWork.statement, hcache]
    | some cache =>
      simp only [ChannelWork.statement, hcache, Option.isSome_some, ne_eq, reduceCtorEq, not_false_eq_true, true_and, forall_const]
      intro c hc hstatus group hgroup model hmodel
      exact (mem_get_of_init hcache).2 ⟨c, hc, hstatus, hgroup, hmodel, rfl⟩
  · intro s calls hcovered hcalls n
    refine not_panicked_of_inTurn ?_
    induction n with
    | zero => exact inTurn_of_covered hcovered hcalls
    | succ n ih =>
      rw [Function.iterate_succ_apply']
      exact inTurn_alone env _ ih

namespace ChannelRefreshAux

/-- Empty tables, one thread about to refresh and one about to insert a channel of the group `vip`. -/
def vipStart : Conf (ChannelSystem Unit) Bool ChannelWork where
  shared := ⟨ChannelCache.empty, ⟨Table.empty, Table.empty⟩⟩
  threads := fun inserts => if inserts then .insert { defaultChannel "gpt-4" with group := "vip" } else .refresh

/-- The refresh comes after the row was created and before the abilities are. -/
def vipRun : RefreshRun plainEnv vipStart false where
  before := [(true, true)]
  channelsOk := true
  between := []
  abilitiesOk := true
  later := []
  begins := rfl
  between_others := by simp
  later_others := by simp

end ChannelRefreshAux

/-- A channel of a new group is inserted while the cache is refreshed. The refresh reads the row but no ability of its group, and
panics, though every channel had its abilities before. -/
theorem refresh_meets_new_group : vipStart.shared.db.Covered ∧ vipRun.after.threads false = .panicked :=
  ⟨fun _ hc => absurd hc List.not_mem_nil, rfl⟩

/-- The same insertion and then the refresh, one after the other. -/
theorem refresh_completes_iff_in_turn :
    ChannelWork.panicked ∉ ((ChannelWork.alone plainEnv)^[5] (vipStart.shared, [vipStart.threads true, .refresh])).2 :=
  (refresh_completes_iff plainEnv vipStart false).2 vipStart.shared [vipStart.threads true, .refresh]
    (fun _ hc => absurd hc List.not_mem_nil) (by simp [vipStart, ChannelWork.Fresh]) 5

end NewApi
