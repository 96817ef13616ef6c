import Mathlib.Data.List.Nodup
import Mathlib.Data.List.Pairwise

/-!
# Keyed tables

A table is a list of rows no two of which share a key. Rows are looked up by key, replaced by key (`save`), and inserted when
their key is new. The absence of duplicate keys is a field of the table, so every operation keeps it by construction.
-/

namespace Tables

variable {α κ : Type*} [DecidableEq κ] {key : α → κ}

/-- Rows with pairwise different keys. -/
structure Table (key : α → κ) where
  rows : List α
  nodup : (rows.map key).Nodup

namespace Table

variable {t t' : Table key} {f : α → α} {column : α → Option κ} {r r' x : α} {k : κ}

def empty : Table key := ⟨[], List.nodup_nil⟩

def lookup (t : Table key) (k : κ) : Option α := t.rows.find? (fun r => decide (key r = k))

/-- The rows with the row of `r`'s key replaced by `r`. -/
def replaceRows (key : α → κ) (r : α) (rows : List α) : List α := rows.map (fun x => if key x = key r then r else x)

/-- Replacing a row by one of its key keeps the keys. -/
theorem map_key_replaceRows (r : α) (rows : List α) : (replaceRows key r rows).map key = rows.map key := by
  simp only [replaceRows, List.map_map]
  refine List.map_congr_left (fun x _ => ?_)
  simp only [Function.comp_apply]
  split
  · rename_i h
    exact h.symm
  · rfl

/-- Replace the row of `r`'s key by `r`; a key the table does not hold changes nothing. -/
def save (t : Table key) (r : α) : Table key :=
  ⟨replaceRows key r t.rows, by rw [map_key_replaceRows]; exact t.nodup⟩

/-- Insert a row whose key is new; `none` where the key is taken. -/
def insert (t : Table key) (r : α) : Option (Table key) :=
  if h : key r ∈ t.rows.map key then none
  else some ⟨t.rows ++ [r], by
    rw [List.map_append]
    exact t.nodup.append (List.nodup_singleton _) (by simpa using h)⟩

/-- The table with a row under its key, whether or not the key was taken. -/
def put (t : Table key) (r : α) : Table key :=
  match t.insert r with
  | some t' => t'
  | none => t.save r

omit [DecidableEq κ] in
/-- A change that keeps the key of a row keeps the keys. -/
theorem map_key_map (hf : ∀ r, key (f r) = key r) (rows : List α) : (rows.map f).map key = rows.map key := by
  rw [List.map_map]
  exact List.map_congr_left fun r _ => hf r

omit [DecidableEq κ] in
/-- A column that a change keeps or empties has fewer values afterwards. -/
theorem filterMap_map_sublist (hf : ∀ r, column (f r) = column r ∨ column (f r) = none)
    (rows : List α) : ((rows.map f).filterMap column).Sublist (rows.filterMap column) := by
  induction rows with
  | nil => exact List.Sublist.refl _
  | cons r rows ih =>
    rw [List.map_cons]
    rcases hf r with hkept | hnone
    · rw [List.filterMap_cons, List.filterMap_cons, hkept]
      cases column r with
      | none => exact ih
      | some k => exact ih.cons_cons k
    · rw [List.filterMap_cons_none hnone]
      exact ih.trans ((List.sublist_cons_self r rows).filterMap column)

omit [DecidableEq κ] in
/-- Rows with one value in a column whose values are distinct are one row. -/
theorem eq_of_column_eq {rows : List α} (hnd : (rows.filterMap column).Nodup)
    (h : r ∈ rows) (h' : r' ∈ rows) (hk : column r = some k) (hk' : column r' = some k) : r = r' := by
  have hdistinct := List.pairwise_filterMap.1 hnd
  have hsymm : Std.Symm fun r r' : α => ∀ k, column r = some k → ∀ k', column r' = some k' → k ≠ k' :=
    ⟨fun _ _ hne k hk k' hk' => (hne k' hk' k hk).symm⟩
  by_contra hne
  exact hdistinct.forall h h' hne k hk k hk' rfl

/-- Every row changed by `f`, which leaves the key alone. -/
def modify (t : Table key) (f : α → α) (hf : ∀ r, key (f r) = key r) : Table key :=
  ⟨t.rows.map f, (map_key_map hf t.rows).symm ▸ t.nodup⟩

def remove (t : Table key) (k : κ) : Table key :=
  ⟨t.rows.filter (fun r => decide (key r ≠ k)), t.nodup.sublist (List.filter_sublist.map key)⟩

/-- The table with the rows that pass a test. -/
def keep (t : Table key) (p : α → Bool) : Table key := ⟨t.rows.filter p, t.nodup.sublist (List.filter_sublist.map key)⟩

/-- Insert the rows whose keys are new, one after the other; the others are left out. -/
def insertNew (t : Table key) (rs : List α) : Table key := rs.foldl (fun t r => (t.insert r).getD t) t

theorem lookup_key (h : t.lookup k = some r) : key r = k := by
  simpa using List.find?_some h

theorem lookup_eq_none_iff : t.lookup k = none ↔ k ∉ t.rows.map key := by
  simp only [lookup, List.find?_eq_none, decide_eq_true_eq, List.mem_map, not_exists, not_and]

/-- A row is found by its key. -/
theorem lookup_of_mem (h : r ∈ t.rows) : t.lookup (key r) = some r := by
  obtain ⟨rows, hnd⟩ := t
  induction rows with
  | nil => simp at h
  | cons x xs ih =>
    simp only [List.map_cons, List.nodup_cons] at hnd
    rcases List.mem_cons.1 h with rfl | hx
    · simp [lookup]
    · have hne : key x ≠ key r := fun he => hnd.1 (he ▸ List.mem_map_of_mem hx)
      simpa [lookup, hne] using ih hnd.2 hx

/-- What a saved table looks up: the saved row at its key, where the table had that key, and the old row elsewhere. -/
theorem lookup_save (t : Table key) (r : α) (k : κ) :
    (t.save r).lookup k = if k = key r then (t.lookup k).map (fun _ => r) else t.lookup k := by
  obtain ⟨rows, hnd⟩ := t
  simp only [lookup, save, replaceRows]
  clear hnd
  induction rows with
  | nil => simp
  | cons x xs ih =>
    simp only [List.map_cons, List.find?_cons]
    by_cases hx : key x = key r <;> by_cases hk : k = key r
    · simp [hx, hk]
    · simp only [hx, if_true, hk, if_false] at ih ⊢
      simpa [Ne.symm hk] using ih
    · subst hk
      simp only [hx, if_false, decide_false, if_true] at ih ⊢
      exact ih
    · simp only [hx, hk, if_false] at ih ⊢
      rw [ih]

/-- An insertion that succeeds had a new key, and looks up the new row there and the old rows elsewhere. -/
theorem lookup_insert (h : t.insert r = some t') (k : κ) : t'.lookup k = if k = key r then some r else t.lookup k := by
  simp only [insert] at h
  split at h
  · cases h
  rename_i hnew
  cases h
  have hnone := lookup_eq_none_iff.2 hnew
  simp only [lookup, List.find?_append] at hnone ⊢
  by_cases hk : k = key r
  · subst hk
    rw [hnone]
    simp
  · simp [hk, Ne.symm hk]

theorem lookup_insert_none (h : t.insert r = some t') : t.lookup (key r) = none := by
  rw [lookup_eq_none_iff]
  intro hmem
  simp [insert, hmem] at h

theorem mem_of_lookup (h : t.lookup k = some r) : r ∈ t.rows := List.mem_of_find?_eq_some h

/-- Two rows of one key are one. -/
theorem eq_of_key_eq (h : r ∈ t.rows) (h' : r' ∈ t.rows) (hkey : key r = key r') : r = r' := by
  have hlookup := lookup_of_mem h
  rw [hkey, lookup_of_mem h'] at hlookup
  exact (Option.some.inj hlookup).symm

/-- The rows of a saved table: the saved one, and those of other keys. -/
theorem mem_save (h : x ∈ (t.save r).rows) : x = r ∨ x ∈ t.rows ∧ key x ≠ key r := by
  simp only [save, replaceRows, List.mem_map] at h
  obtain ⟨y, hy, rfl⟩ := h
  split
  · exact .inl rfl
  · rename_i hne
    exact .inr ⟨hy, hne⟩

/-- A save leaves the rows of other keys. -/
theorem mem_save_of_ne (h : x ∈ t.rows) (hne : key x ≠ key r) : x ∈ (t.save r).rows := by
  simp only [save, replaceRows, List.mem_map]
  exact ⟨x, h, if_neg hne⟩

omit [DecidableEq κ] in
theorem mem_modify {hf : ∀ r, key (f r) = key r} : x ∈ (t.modify f hf).rows ↔ ∃ y ∈ t.rows, f y = x := by
  simp [modify]

theorem mem_remove : x ∈ (t.remove k).rows ↔ x ∈ t.rows ∧ key x ≠ k := by
  simp [remove]

/-- A table without the row of a key looks up nothing there and the old rows elsewhere. -/
theorem lookup_remove (t : Table key) (k k' : κ) : (t.remove k).lookup k' = if k' = k then none else t.lookup k' := by
  split
  · rename_i hk
    rw [lookup_eq_none_iff, hk]
    rintro hmem
    obtain ⟨r, hr, hkey⟩ := List.mem_map.1 hmem
    exact (mem_remove.1 hr).2 hkey
  · rename_i hk
    unfold lookup remove
    rw [List.find?_filter]
    refine congrArg (fun p => t.rows.find? p) (funext fun r => ?_)
    by_cases hr : key r = k'
    · simp [hr, hk]
    · simp [hr]

/-- An insert that goes through adds one row. -/
theorem mem_insert (h : t.insert r = some t') : x ∈ t'.rows ↔ x ∈ t.rows ∨ x = r := by
  simp only [insert] at h
  split at h
  · cases h
  · cases h
    simp

omit [DecidableEq κ] in
theorem mem_keep {p : α → Bool} : x ∈ (t.keep p).rows ↔ x ∈ t.rows ∧ p x = true := by
  simp [keep]

/-- Inserting new rows keeps those that are there. -/
theorem mem_insertNew_of_mem (h : x ∈ t.rows) (rs : List α) : x ∈ (t.insertNew rs).rows := by
  induction rs generalizing t with
  | nil => exact h
  | cons r rs ih =>
    have hfirst : x ∈ ((t.insert r).getD t).rows := by
      cases hr : t.insert r with
      | none => exact h
      | some t' => exact (mem_insert hr).2 (.inl h)
    exact ih hfirst

/-- Every row given has a row of its key afterwards. -/
theorem exists_mem_insertNew {rs : List α} (h : r ∈ rs) : ∃ x ∈ (t.insertNew rs).rows, key x = key r := by
  induction rs generalizing t with
  | nil => cases h
  | cons first rs ih =>
    rcases List.mem_cons.1 h with rfl | h
    · obtain ⟨x, hx, hkey⟩ : ∃ x ∈ ((t.insert r).getD t).rows, key x = key r := by
        cases hr : t.insert r with
        | some t' => exact ⟨r, (mem_insert hr).2 (.inr rfl), rfl⟩
        | none =>
          have hmem : key r ∈ t.rows.map key := by
            by_contra hnew
            simp [insert, hnew] at hr
          obtain ⟨x, hx, hkey⟩ := List.mem_map.1 hmem
          exact ⟨x, hx, hkey⟩
      exact ⟨x, mem_insertNew_of_mem hx rs, hkey⟩
    · exact ih h

end Table

end Tables
