import NewApi.Lemmas.ChannelKeysAux
import NewApi.Model.MultiKeys

/-!
# The status of a key and the key

Statuses are kept by place, and a history says of each key of the list whether the last status change since the key was added disabled
it. Appending keys, deleting keys and changing statuses keep the two together. Replacing the key text does not: the statuses stay where
they are while the keys move. Nor does deleting the disabled keys where every key is automatically disabled: an empty text is not
written, but the emptied statuses are.
-/

namespace NewApi

open MultiKeyRow ChannelKeysAux

/-- What an edit does to the status of a key of the list: it disables it, enables it or leaves it. -/
def MultiKeyRow.statusChange (row : MultiKeyRow) : KeyEdit → String → Option Bool
  | .disableKey keyIndex, key => if (row.place keyIndex).bind (row.keys[·]?) = some key then some true else none
  | .enableKey keyIndex, key => if (row.place keyIndex).bind (row.keys[·]?) = some key then some false else none
  | .disableAllKeys, _ => some true
  | .enableAllKeys, _ => some false
  | .updateKeyStatus usingKey status, key => if key = usingKey then some (decide (status ≠ .enabled)) else none
  | .appendKeys _ _, _ => none
  | .replaceKeys _, _ => none
  | .deleteKey _, _ => none
  | .deleteDisabledKeys, _ => none

/-- A row, and of every key of its list whether the last status change since it was added disabled it. -/
structure KeyHistory where
  row : MultiKeyRow
  disabled : String → Bool

namespace KeyHistory

/-- An edit. A key that was not in the list before starts enabled. -/
def step (env : KeyEnv) (h : KeyHistory) (e : KeyEdit) : KeyHistory where
  row := h.row.edit env e
  disabled key := if key ∈ h.row.keys then (h.row.statusChange e key).getD (h.disabled key) else false

def start (row : MultiKeyRow) : KeyHistory := ⟨row, fun key => decide (row.channelInfo.keyStatus (row.keys.idxOf key) ≠ .enabled)⟩

/-- A key of the list is handed out exactly where it is not disabled. -/
def Follows (h : KeyHistory) : Prop := ∀ i key, h.row.keys[i]? = some key → (h.row.hands i ↔ h.disabled key = false)

end KeyHistory

/-- Keys that can stand a line each: none is empty, holds a newline or begins as a JSON array does, and no two are the same. -/
structure PlainKeys (keys : List String) : Prop where
  plain : ∀ key ∈ keys, key ≠ "" ∧ '\n' ∉ key.toList ∧ bracketed key = false
  nodup : keys.Nodup

/-- A multi-key channel with a key a line, as creating and updating a channel leave it. -/
structure MultiKeyRow.WellKeyed (env : KeyEnv) (row : MultiKeyRow) : Prop where
  ne_nil : row.keys ≠ []
  keys : row.keys = env.getKeys row.key
  lines : bracketed row.key = false
  plain : PlainKeys row.keys
  counted : row.multiKeySize = row.keys.length
  bounded : ∀ i, row.keys.length ≤ i → row.statusList i = none

/-- The edit adds plain keys only, deletes disabled keys only where another key is left, and replaces keys only so that every disabled
key keeps its place or goes with it. -/
def MultiKeyRow.KeepsPlaces (env : KeyEnv) (row : MultiKeyRow) : KeyEdit → Prop
  | .appendKeys vertexJSON text => ∀ keys, newKeys env vertexJSON text = .ok keys →
      ∀ key ∈ keys, '\n' ∉ (Text.trimSpace key).toList ∧ bracketed key = false
  | .replaceKeys text => text = "" ∨ (bracketed text = false ∧ PlainKeys (lineKeys text) ∧
      ∀ i key, row.keys[i]? = some key → row.channelInfo.keyStatus i ≠ .enabled →
        (lineKeys text)[i]? = some key ∨ ((lineKeys text).length ≤ i ∧ key ∉ lineKeys text))
  | .deleteDisabledKeys => ∃ i < row.keys.length, row.channelInfo.keyStatus i ≠ .autoDisabled
  | _ => True

namespace MultiKeysAux

variable {keys : List String} {text : String} {e : KeyEdit}

/-! ## Key texts -/

/-- The text stands for these keys, a key a line. -/
structure Reads (text : String) (keys : List String) : Prop where
  ne_empty : text ≠ ""
  lines : bracketed text = false
  lineKeys_eq : lineKeys text = keys
  ne_nil : keys ≠ []
  plain : PlainKeys keys

/-- Both readings of a text find its keys. -/
theorem getKeys_of_reads (env : KeyEnv) (h : Reads text keys) : env.getKeys text = keys ∧ env.countedKeys text = keys := by
  have harray : env.arrayKeys text = none := by simp [KeyEnv.arrayKeys, h.lines]
  simp [KeyEnv.getKeys, KeyEnv.countedKeys, h.ne_empty, harray, h.lineKeys_eq]

/-- Keys joined by lines are read back. -/
theorem reads_join (hne : keys ≠ []) (h : PlainKeys keys) : Reads (Text.join keys '\n') keys := by
  have hnewline : ∀ key ∈ keys, '\n' ∉ key.toList := fun key hkey => (h.plain key hkey).2.1
  have hempty : ∀ key ∈ keys, key ≠ "" := fun key hkey => (h.plain key hkey).1
  have hkeys : lineKeys (Text.join keys '\n') = keys := by
    unfold lineKeys
    rw [Text.trim_join hempty hnewline, Text.split_join hne hnewline]
  refine ⟨?_, ?_, hkeys, hne, h⟩
  · intro htext
    obtain ⟨key, hkey⟩ := List.exists_mem_of_ne_nil keys hne
    rw [htext] at hkeys
    rw [← hkeys] at hkey
    exact hempty key (hkeys ▸ hkey) (List.mem_singleton.1 hkey)
  · rw [← Bool.not_eq_true]
    intro hbracket
    have hspace : Text.isSpace '[' = false := by decide
    have hhead := (Text.startsWith_trimSpace_iff hspace).1 hbracket
    obtain ⟨key, hkey, hfirst⟩ := Text.head_of_join (by decide) hhead
    have hplain := (h.plain key hkey).2.2
    rw [bracketed, (Text.startsWith_trimSpace_iff hspace).2 hfirst] at hplain
    cases hplain

/-! ## Rows and histories -/

/-- A row of a multi-key channel with a key a line whose statuses are those of the history. -/
structure Tracks (env : KeyEnv) (row : MultiKeyRow) (disabled : String → Bool) : Prop where
  wellKeyed : row.WellKeyed env
  status : ∀ i key, row.keys[i]? = some key → (row.channelInfo.keyStatus i ≠ .enabled ↔ disabled key = true)

variable {env : KeyEnv} {row : MultiKeyRow} {disabled disabled' : String → Bool} {i : Nat} {value : Option ChannelStatus} {keyIndex : Int}
  {key : String}

theorem reads_of_wellKeyed (h : row.WellKeyed env) : Reads row.key row.keys := by
  have hne : row.key ≠ "" := by
    intro hempty
    refine h.ne_nil ?_
    rw [h.keys, KeyEnv.getKeys, if_pos hempty]
  have harray : env.arrayKeys row.key = none := by simp [KeyEnv.arrayKeys, h.lines]
  refine ⟨hne, h.lines, ?_, h.ne_nil, h.plain⟩
  rw [h.keys, KeyEnv.getKeys, if_neg hne, harray, Option.getD_none]

/-- An update tracks where its statuses do. -/
theorem tracks_update {statusList : Nat → Option ChannelStatus} (hreads : Reads text keys)
    (hstatus : ∀ i key, keys[i]? = some key → ((statusList i).getD .enabled ≠ .enabled ↔ disabled key = true)) :
    Tracks env (row.update env text statusList) disabled := by
  obtain ⟨hkeys, hcounted⟩ := getKeys_of_reads env hreads
  have hupdate : row.update env text statusList = { row.setStatusList fun i => if i < keys.length then statusList i else none with
        key := text, keys := keys, multiKeySize := keys.length } := by
    simp only [MultiKeyRow.update, if_neg hreads.ne_empty, hkeys, hcounted]
  rw [hupdate]
  refine ⟨⟨hreads.ne_nil, hkeys.symm, hreads.lines, hreads.plain, rfl, ?_⟩, ?_⟩
  · intro i hi
    exact if_neg (not_lt.2 hi)
  · intro i key hkey
    obtain ⟨hlt, -⟩ := List.getElem?_eq_some_iff.1 hkey
    have hsame : (MultiKeyRow.setStatusList row fun i => if i < keys.length then statusList i else none).channelInfo.keyStatus i =
        (statusList i).getD .enabled := by
      simp only [MultiKeyRow.setStatusList, ChannelInfo.keyStatus, if_pos hlt]
    rw [hsame]
    exact hstatus i key hkey

theorem tracks_congr (h : Tracks env row disabled) (hsame : ∀ key ∈ row.keys, disabled' key = disabled key) : Tracks env row disabled' := by
  refine ⟨h.wellKeyed, fun i key hkey => ?_⟩
  rw [hsame key (List.mem_of_getElem? hkey)]
  exact h.status i key hkey

/-! ## Changing statuses -/

/-- A status set at one place is tracked. -/
theorem tracks_setKey {target : String} (h : Tracks env row disabled)
    (hi : row.keys[i]? = some target) (hvalue : value.getD .enabled ≠ .enabled ↔ disabled' target = true)
    (hother : ∀ key ∈ row.keys, key ≠ target → disabled' key = disabled key) : ∀ j key, row.keys[j]? = some key →
      ((Function.update row.statusList i value j).getD .enabled ≠ .enabled ↔ disabled' key = true) := by
  intro j key hkey
  by_cases hj : j = i
  · subst hj
    obtain rfl : target = key := Option.some.inj (hi.symm.trans hkey)
    rw [Function.update_self]
    exact hvalue
  · have hne : key ≠ target := by
      rintro rfl
      obtain ⟨hlt, -⟩ := List.getElem?_eq_some_iff.1 hkey
      exact hj ((List.getElem?_inj hlt h.wellKeyed.plain.nodup).1 (hkey.trans hi.symm))
    rw [Function.update_of_ne hj, hother key (List.mem_of_getElem? hkey) hne]
    exact h.status j key hkey

/-- A place that is valid has a key. -/
theorem place_some (h : row.WellKeyed env) (hplace : row.place keyIndex = some i) : ∃ key, row.keys[i]? = some key := by
  unfold MultiKeyRow.place at hplace
  split at hplace
  · cases hplace
  cases hplace
  have hlt : keyIndex.toNat < row.keys.length := by
    rw [← h.counted]
    omega
  exact ⟨_, List.getElem?_eq_getElem hlt⟩

theorem getD_statusChange {h : KeyHistory} (hkey : key ∈ h.row.keys) :
    (h.step env e).disabled key = (h.row.statusChange e key).getD (h.disabled key) := if_pos hkey

variable {h : KeyHistory} (htracks : Tracks env h.row h.disabled) {keep : Nat → Bool}

include htracks

/-- Switching one key is tracked. -/
theorem tracks_setKeyStatus {b : Bool} (hvalue : value.getD .enabled ≠ .enabled ↔ b = true)
    (hchange : ∀ key, h.row.statusChange e key = if (h.row.place keyIndex).bind (h.row.keys[·]?) = some key then some b else none) :
    Tracks env (h.row.setKeyStatus env keyIndex value) (h.step env e).disabled := by
  unfold MultiKeyRow.setKeyStatus
  cases hplace : h.row.place keyIndex with
  | none =>
    refine tracks_congr htracks fun key hkey => ?_
    simp [getD_statusChange hkey, hchange, hplace]
  | some i =>
    obtain ⟨target, htarget⟩ := place_some htracks.wellKeyed hplace
    refine tracks_update (reads_of_wellKeyed htracks.wellKeyed) (tracks_setKey htracks htarget ?_ ?_)
    · rw [hvalue]
      simp [getD_statusChange (List.mem_of_getElem? htarget), hchange, hplace, htarget]
    · intro key hkey hne
      simp [getD_statusChange hkey, hchange, hplace, htarget, Ne.symm hne]

/-- Enabling all is tracked. -/
theorem tracks_enableAllKeys : Tracks env (h.row.enableAllKeys env) (h.step env .enableAllKeys).disabled := by
  refine tracks_update (reads_of_wellKeyed htracks.wellKeyed) fun i key hkey => ?_
  simp [getD_statusChange (List.mem_of_getElem? hkey), MultiKeyRow.statusChange]

/-- Disabling all is tracked. -/
theorem tracks_disableAllKeys : Tracks env (h.row.disableAllKeys env) (h.step env .disableAllKeys).disabled := by
  unfold MultiKeyRow.disableAllKeys
  split
  · -- every key is disabled already
    rename_i hall
    refine tracks_congr htracks fun key hkey => ?_
    obtain ⟨i, hlt, hget⟩ := List.getElem_of_mem hkey
    have hstatus : h.row.channelInfo.keyStatus i ≠ .enabled := by
      have := List.all_eq_true.1 hall i (List.mem_range.2 (htracks.wellKeyed.counted ▸ hlt))
      simpa using this
    rw [(htracks.status i key (by rw [List.getElem?_eq_getElem hlt, hget])).1 hstatus, getD_statusChange hkey]
    rfl
  · refine tracks_update (reads_of_wellKeyed htracks.wellKeyed) fun i key hkey => ?_
    obtain ⟨hlt, -⟩ := List.getElem?_eq_some_iff.1 hkey
    rw [getD_statusChange (List.mem_of_getElem? hkey)]
    simp only [MultiKeyRow.statusChange, Option.getD_some, iff_true]
    by_cases henabled : h.row.channelInfo.keyStatus i = .enabled
    · rw [if_pos ⟨htracks.wellKeyed.counted ▸ hlt, henabled⟩]
      simp
    · rw [if_neg fun hboth => henabled hboth.2]
      exact henabled

/-- A status from the relay is tracked. -/
theorem tracks_updateKeyStatus (usingKey : String) (status : ChannelStatus) :
    Tracks env (h.row.updateKeyStatus usingKey status) (h.step env (.updateKeyStatus usingKey status)).disabled := by
  obtain ⟨hne, hkeys, hlines, hplain, hcounted, hbounded⟩ := htracks.wellKeyed
  unfold MultiKeyRow.updateKeyStatus
  cases hidx : h.row.keys.findIdx? (fun key => key = usingKey) with
  | none =>
    obtain ⟨s, hhandler⟩ := handler_of_not_mem status hidx
    have hother : ∀ key ∈ h.row.keys, (h.step env (.updateKeyStatus usingKey status)).disabled key = h.disabled key := by
      intro key hkey
      have hne' : key ≠ usingKey := by simpa using List.findIdx?_eq_none_iff.1 hidx key hkey
      simp [getD_statusChange hkey, MultiKeyRow.statusChange, hne']
    obtain ⟨-, hstatus⟩ := tracks_congr htracks hother
    rw [hhandler]
    exact ⟨⟨hne, hkeys, hlines, hplain, hcounted, hbounded⟩, hstatus⟩
  | some i =>
    obtain ⟨s, hhandler⟩ := handler_of_mem status hidx
    obtain ⟨hlt, htarget, -⟩ := List.findIdx?_eq_some_iff_getElem.1 hidx
    have hget : h.row.keys[i]? = some usingKey := by
      rw [List.getElem?_eq_getElem hlt]
      simpa using htarget
    rw [hhandler]
    refine ⟨⟨hne, hkeys, hlines, hplain, hcounted, ?_⟩, ?_⟩
    · intro j hj
      have hji : j ≠ i := by
        rintro rfl
        exact absurd hlt (not_lt.2 hj)
      change Function.update h.row.statusList i _ j = none
      rw [Function.update_of_ne hji]
      exact hbounded j hj
    · refine tracks_setKey htracks hget ?_ ?_
      · rw [getD_statusChange (List.mem_of_getElem? hget)]
        by_cases hstatus : status = .enabled <;> simp [MultiKeyRow.statusChange, hstatus]
      · intro key hkey hne'
        simp [getD_statusChange hkey, MultiKeyRow.statusChange, hne']

/-! ## Changing keys -/

omit htracks in
/-- The keys that are kept, with their statuses. -/
theorem mem_keptKeys {status : Option ChannelStatus} :
    (key, status) ∈ row.keptKeys keep ↔ ∃ i, row.keys[i]? = some key ∧ keep i = true ∧
      (if row.channelInfo.keyStatus i = .enabled then none else row.statusList i) = status := by
  unfold MultiKeyRow.keptKeys
  simp only [List.mem_map, List.mem_filter, Prod.exists, List.mem_zipIdx_iff_getElem?, Prod.mk.injEq]
  constructor
  · rintro ⟨key', i, ⟨hkey, hkeep⟩, rfl, hstatus⟩
    exact ⟨i, hkey, hkeep, hstatus⟩
  · rintro ⟨i, hkey, hkeep, hstatus⟩
    exact ⟨key, i, ⟨hkey, hkeep⟩, rfl, hstatus⟩

omit htracks in
theorem keptKeys_sublist (row : MultiKeyRow) (keep : Nat → Bool) : ((row.keptKeys keep).map Prod.fst).Sublist row.keys := by
  unfold MultiKeyRow.keptKeys
  rw [List.map_map]
  have hsub := (List.filter_sublist (p := fun x : String × Nat => keep x.2) (l := row.keys.zipIdx)).map Prod.fst
  rw [List.zipIdx_map_fst] at hsub
  exact hsub

/-- Keeping some keys moves their statuses with them. -/
theorem tracks_keepKeys (hne : h.row.keptKeys keep ≠ []) (hchange : ∀ key, h.row.statusChange e key = none) :
    Tracks env (h.row.keepKeys env (h.row.keptKeys keep)) (h.step env e).disabled := by
  have hsub := keptKeys_sublist h.row keep
  have hplain : PlainKeys ((h.row.keptKeys keep).map Prod.fst) :=
    ⟨fun key hkey => htracks.wellKeyed.plain.plain key (hsub.subset hkey), htracks.wellKeyed.plain.nodup.sublist hsub⟩
  refine tracks_update (reads_join (by simpa using hne) hplain) fun j key hkey => ?_
  rw [List.getElem?_map] at hkey
  obtain ⟨⟨key', status⟩, hkept, rfl⟩ := Option.map_eq_some_iff.1 hkey
  obtain ⟨i, hi, -, hstatus⟩ := mem_keptKeys.1 (List.mem_of_getElem? hkept)
  rw [getD_statusChange (List.mem_of_getElem? hi), hchange, hkept]
  change status.getD .enabled ≠ .enabled ↔ h.disabled key' = true
  rw [← htracks.status i key' hi, ← hstatus]
  split
  · rename_i henabled
    simp [henabled]
  · rfl

/-- Deleting a key is tracked. -/
theorem tracks_deleteKey (keyIndex : Int) : Tracks env (h.row.deleteKey env keyIndex) (h.step env (.deleteKey keyIndex)).disabled := by
  have hsame : Tracks env h.row (h.step env (.deleteKey keyIndex)).disabled :=
    tracks_congr htracks fun key hkey => getD_statusChange hkey
  unfold MultiKeyRow.deleteKey
  cases h.row.place keyIndex with
  | none => exact hsame
  | some i =>
    simp only
    split
    · exact hsame
    · rename_i hne
      exact tracks_keepKeys htracks hne fun key => rfl

/-- Deleting the disabled keys is tracked, where one is left. -/
theorem tracks_deleteDisabledKeys (hok : h.row.KeepsPlaces env .deleteDisabledKeys) :
    Tracks env (h.row.deleteDisabledKeys env) (h.step env .deleteDisabledKeys).disabled := by
  unfold MultiKeyRow.deleteDisabledKeys
  simp only
  split
  · exact tracks_congr htracks fun key hkey => getD_statusChange hkey
  refine tracks_keepKeys htracks ?_ fun key => rfl
  obtain ⟨i, hlt, hstatus⟩ := hok
  refine List.ne_nil_of_mem (mem_keptKeys.2 ⟨i, List.getElem?_eq_getElem hlt, ?_, rfl⟩)
  simpa using hstatus

omit htracks in
/-- The keys an append brings are none of those there. -/
theorem dedupedNewKeys_spec (seen keys : List String) : (dedupedNewKeys seen keys).Nodup ∧ ∀ key ∈ dedupedNewKeys seen keys,
      key ≠ "" ∧ key ∉ seen ∧ ∃ key' ∈ keys, key = Text.trimSpace key' := by
  induction keys generalizing seen with
  | nil => exact ⟨List.nodup_nil, fun key hkey => absurd hkey List.not_mem_nil⟩
  | cons key rest ih =>
    unfold dedupedNewKeys
    simp only
    split
    · obtain ⟨hnodup, hall⟩ := ih seen
      refine ⟨hnodup, fun key₁ hkey₁ => ?_⟩
      obtain ⟨hempty, hseen, key', hkey', heq⟩ := hall key₁ hkey₁
      exact ⟨hempty, hseen, key', List.mem_cons_of_mem key hkey', heq⟩
    · rename_i hnew
      rw [not_or] at hnew
      obtain ⟨hnodup, hall⟩ := ih (Text.trimSpace key :: seen)
      constructor
      · rw [List.nodup_cons]
        exact ⟨fun hmem => (hall _ hmem).2.1 List.mem_cons_self, hnodup⟩
      · intro key₁ hkey₁
        rcases List.mem_cons.1 hkey₁ with rfl | hrest
        · exact ⟨hnew.1, hnew.2, key, List.mem_cons_self, rfl⟩
        · obtain ⟨hempty, hseen, key', hkey', heq⟩ := hall key₁ hrest
          exact ⟨hempty, fun hmem => hseen (List.mem_cons_of_mem _ hmem), key', List.mem_cons_of_mem key hkey', heq⟩

/-- Appending keys is tracked. -/
theorem tracks_appendKeys {vertexJSON : Bool} (hok : h.row.KeepsPlaces env (.appendKeys vertexJSON text)) :
    Tracks env (h.row.appendKeys env vertexJSON text) (h.step env (.appendKeys vertexJSON text)).disabled := by
  have hreads := reads_of_wellKeyed htracks.wellKeyed
  unfold MultiKeyRow.appendKeys
  rw [if_neg hreads.ne_empty]
  cases hnew : newKeys env vertexJSON text with
  | error e => exact tracks_congr htracks fun key hkey => getD_statusChange hkey
  | ok added =>
    have hexisting : h.row.existingKeys env = h.row.keys := by
      unfold MultiKeyRow.existingKeys
      rw [hreads.lines]
      exact hreads.lineKeys_eq
    simp only [MultiKeyRow.appendedKey, hexisting]
    generalize hseen : (h.row.keys.map Text.trimSpace).filter (fun key => key ≠ "") = seen
    obtain ⟨hnodup, hall⟩ := dedupedNewKeys_spec seen added
    -- an added key is trimmed, and a trimmed key of the list has been seen
    have hfresh : ∀ key ∈ dedupedNewKeys seen added, key ∉ h.row.keys := by
      intro key hkey hmem
      obtain ⟨hempty, hnot, key', -, rfl⟩ := hall key hkey
      refine hnot ?_
      rw [← hseen, List.mem_filter, List.mem_map]
      exact ⟨⟨_, hmem, Text.trimSpace_idem key'⟩, by simpa using hempty⟩
    have hplain : PlainKeys (h.row.keys ++ dedupedNewKeys seen added) := by
      constructor
      · intro key hkey
        rcases List.mem_append.1 hkey with hold | hadded
        · exact htracks.wellKeyed.plain.plain key hold
        obtain ⟨hempty, -, key', hkey', rfl⟩ := hall key hadded
        obtain ⟨hnewline, hbracket⟩ := hok added hnew key' hkey'
        exact ⟨hempty, hnewline, by rwa [bracketed, Text.trimSpace_idem]⟩
      · rw [List.nodup_append']
        exact ⟨htracks.wellKeyed.plain.nodup, hnodup, fun key hold hadded => hfresh key hadded hold⟩
    refine tracks_update (reads_join (List.append_ne_nil_of_left_ne_nil hreads.ne_nil _) hplain) fun i key hkey => ?_
    rw [List.getElem?_append] at hkey
    split at hkey
    · rw [getD_statusChange (List.mem_of_getElem? hkey)]
      exact htracks.status i key hkey
    rename_i hge
    have hnot : key ∉ h.row.keys := hfresh key (List.mem_of_getElem? hkey)
    have hnone : h.row.statusList i = none := htracks.wellKeyed.bounded i (not_lt.1 hge)
    simp [hnone, KeyHistory.step, hnot]

/-- Replacing the text is tracked where the keys keep their places. -/
theorem tracks_replaceKeys (hok : h.row.KeepsPlaces env (.replaceKeys text)) :
    Tracks env (h.row.replaceKeys env text) (h.step env (.replaceKeys text)).disabled := by
  have hreads := reads_of_wellKeyed htracks.wellKeyed
  unfold MultiKeyRow.replaceKeys
  by_cases hempty : text = ""
  · -- an empty text is not written
    have hsame : h.row.update env text h.row.statusList = h.row.update env h.row.key h.row.statusList := by
      simp only [MultiKeyRow.update, if_pos hempty, ite_self]
    rw [hsame]
    refine tracks_update hreads fun i key hkey => ?_
    rw [getD_statusChange (List.mem_of_getElem? hkey)]
    exact htracks.status i key hkey
  · obtain ⟨hlines, hplain, hplaces⟩ := hok.resolve_left hempty
    have hnew : Reads text (lineKeys text) := ⟨hempty, hlines, rfl, Text.split_ne_nil _ _, hplain⟩
    refine tracks_update hnew fun i key hkey => ?_
    change h.row.channelInfo.keyStatus i ≠ .enabled ↔ _
    constructor
    · intro hstatus
      have hlt : i < h.row.keys.length := by
        by_contra hge
        refine hstatus ?_
        rw [ChannelInfo.keyStatus, show h.row.channelInfo.multiKeyStatusList i = none from htracks.wellKeyed.bounded i (not_lt.1 hge)]
        rfl
      have hold := List.getElem?_eq_getElem hlt
      rcases hplaces i _ hold hstatus with hstays | ⟨hge, -⟩
      · obtain rfl := Option.some.inj (hstays.symm.trans hkey)
        rw [getD_statusChange (List.mem_of_getElem? hold)]
        exact (htracks.status i _ hold).1 hstatus
      · obtain ⟨hlt', -⟩ := List.getElem?_eq_some_iff.1 hkey
        exact absurd hlt' (not_lt.2 hge)
    · intro hdisabled
      have hmem : key ∈ h.row.keys := by
        by_contra hnot
        simp [KeyHistory.step, hnot] at hdisabled
      rw [getD_statusChange hmem] at hdisabled
      obtain ⟨j, hj, hget⟩ := List.getElem_of_mem hmem
      have hold : h.row.keys[j]? = some key := by rw [List.getElem?_eq_getElem hj, hget]
      have hstatus := (htracks.status j key hold).2 hdisabled
      rcases hplaces j key hold hstatus with hstays | ⟨-, hgone⟩
      · obtain ⟨hlt, -⟩ := List.getElem?_eq_some_iff.1 hstays
        obtain rfl := (List.getElem?_inj hlt hplain.nodup).1 (hstays.trans hkey.symm)
        exact hstatus
      · exact absurd (List.mem_of_getElem? hkey) hgone

/-! ## Runs -/

/-- Every edit that keeps places is tracked. -/
theorem tracks_step (hok : h.row.KeepsPlaces env e) : Tracks env (h.step env e).row (h.step env e).disabled := by
  cases e with
  | appendKeys vertexJSON text => exact tracks_appendKeys htracks hok
  | replaceKeys text => exact tracks_replaceKeys htracks hok
  | disableKey keyIndex => exact tracks_setKeyStatus htracks (by simp) fun key => rfl
  | enableKey keyIndex => exact tracks_setKeyStatus htracks (by simp) fun key => rfl
  | disableAllKeys => exact tracks_disableAllKeys htracks
  | enableAllKeys => exact tracks_enableAllKeys htracks
  | deleteKey keyIndex => exact tracks_deleteKey htracks keyIndex
  | deleteDisabledKeys => exact tracks_deleteDisabledKeys htracks hok
  | updateKeyStatus usingKey status => exact tracks_updateKeyStatus htracks usingKey status

omit htracks in
theorem tracks_start (hrow : row.WellKeyed env) : Tracks env (KeyHistory.start row).row (KeyHistory.start row).disabled := by
  refine ⟨hrow, fun i key hkey => ?_⟩
  change row.keys[i]? = some key at hkey
  obtain ⟨hlt, rfl⟩ := List.getElem?_eq_some_iff.1 hkey
  simp [KeyHistory.start, hrow.plain.nodup.idxOf_getElem i hlt]

/-- A tracked history follows its keys. -/
theorem follows_of_tracks : h.Follows := by
  intro i key hkey
  obtain ⟨hlt, -⟩ := List.getElem?_eq_some_iff.1 hkey
  rw [hands_iff, mem_enabledIdx, ← Bool.not_eq_true, ← htracks.status i key hkey, not_not]
  exact ⟨fun henabled => henabled.2, fun henabled => ⟨hlt, henabled⟩⟩

end MultiKeysAux

open MultiKeysAux Run

/-- In every run of edits that keep the places of the disabled keys, a key is handed out at every point exactly where the last status
change since it was added has not disabled it. -/
theorem key_status_follows_key (env : KeyEnv) {row : MultiKeyRow} (hrow : row.WellKeyed env) {es : List KeyEdit}
    (hrun : Along (KeyHistory.step env) (fun h e => h.row.KeepsPlaces env e) (KeyHistory.start row) es) :
    ∀ pre, pre <+: es → (exec (KeyHistory.step env) (KeyHistory.start row) pre).Follows := by
  intro pre hpre
  have htracks := hrun.invariant_reached (P := fun h => Tracks env h.row h.disabled) (fun h e hok htracks => tracks_step htracks hok)
    (tracks_start hrow) pre hpre
  exact follows_of_tracks htracks

namespace MultiKeysAux

/-- No text is a JSON array. -/
def lineEnv : KeyEnv := ⟨fun _ => none, fun _ => .error ""⟩

/-- A channel with two keys, which have these statuses. -/
def twoKeys (statusList : Nat → Option ChannelStatus) : MultiKeyRow where
  id := 1
  type := 1
  keys := ["a", "b"]
  status := .enabled
  weight := none
  models := "m"
  group := "default"
  priority := none
  tag := none
  channelInfo := ⟨true, statusList, false, 0, false⟩
  otherSettings := ""
  key := "a\nb"
  multiKeySize := 2

theorem wellKeyed_twoKeys : (twoKeys fun _ => none).WellKeyed lineEnv where
  ne_nil := List.cons_ne_nil _ _
  keys := by decide
  lines := by decide
  plain := ⟨by decide, by decide⟩
  counted := rfl
  bounded _ _ := rfl

end MultiKeysAux

/-- The key `a` is disabled, `c` is added and `b` is deleted: `a` stays disabled and `c` is enabled. -/
theorem key_status_follows_two_keys :
    let edits := [KeyEdit.disableKey 0, .appendKeys false "c", .deleteKey 1]
    let h := exec (KeyHistory.step lineEnv) (KeyHistory.start (twoKeys fun _ => none)) edits
    h.row.keys = ["a", "c"] ∧ h.disabled "a" = true ∧ h.disabled "c" = false ∧ h.Follows := by
  intro edits h
  refine ⟨by decide, by decide, by decide, ?_⟩
  have hrun : Along (KeyHistory.step lineEnv) (fun h e => h.row.KeepsPlaces lineEnv e)
      (KeyHistory.start (twoKeys fun _ => none)) edits := by
    refine ⟨trivial, ?_, trivial, trivial⟩
    intro keys hkeys key hkey
    cases hkeys
    rw [List.mem_singleton.1 hkey]
    decide
  exact key_status_follows_key lineEnv wellKeyed_twoKeys hrun edits (List.prefix_refl edits)

/-- The first key is disabled and the keys are replaced: the new first key was never disabled and is not handed out. -/
theorem replaced_key_starts_disabled :
    let h := exec (KeyHistory.step lineEnv) (KeyHistory.start (twoKeys fun _ => none)) [.disableKey 0, .replaceKeys "c\nb"]
    (twoKeys fun _ => none).WellKeyed lineEnv ∧ h.row.keys = ["c", "b"] ∧ h.disabled "c" = false ∧ ¬ h.row.hands 0 ∧ ¬ h.Follows := by
  intro h
  have hkeys : h.row.keys = ["c", "b"] := by decide
  have hdisabled : h.disabled "c" = false := by decide
  have hhands : ¬ h.row.hands 0 := by
    rw [hands_iff, mem_enabledIdx]
    decide
  refine ⟨wellKeyed_twoKeys, hkeys, hdisabled, hhands, fun hfollows => ?_⟩
  refine hhands ((hfollows 0 "c" ?_).2 hdisabled)
  rfl

/-- Where every key is automatically disabled, deleting the disabled keys enables them. -/
example : let row := (twoKeys fun i => if i < 2 then some .autoDisabled else none).deleteDisabledKeys lineEnv
    row.keys = ["a", "b"] ∧ row.enabledIdx = [0, 1] := by decide

end NewApi
