import Mathlib
import NewApi.Lib.Table

/-!
# Tallies

A tally is a finite map that collects amounts: what is added at a key comes on top of what the key has, and a key that was never added
has nothing. The keys a tally holds can be gone through and struck off one by one, in any order.
-/

namespace Tables

variable {κ M : Type*} [DecidableEq κ]

/-- Amounts by key. -/
abbrev Tally (κ M : Type*) := Table (Prod.fst : κ × M → κ)

namespace Tally

/-- The amount at a key, nothing where the tally does not hold it. -/
def value [Zero M] (t : Tally κ M) (k : κ) : M :=
  match t.lookup k with
  | some entry => entry.2
  | none => 0

/-- The tally with an amount added at a key, which may be new. -/
def add [Add M] (t : Tally κ M) (k : κ) (m : M) : Tally κ M :=
  match t.lookup k with
  | some entry => t.save (k, entry.2 + m)
  | none => (t.insert (k, m)).getD t

def keys (t : Tally κ M) : List κ := t.rows.map Prod.fst

@[simp] theorem value_empty [Zero M] (k : κ) : value (Table.empty : Tally κ M) k = 0 := rfl

/-- An empty tally counts nothing. -/
theorem value_of_nil [Zero M] {t : Tally κ M} (h : t.rows = []) (k : κ) : value t k = 0 := by
  unfold value Table.lookup
  rw [h]
  rfl

/-- Adding to one key changes that key alone. -/
theorem value_add [AddMonoid M] (t : Tally κ M) (k k' : κ) (m : M) : value (add t k m) k' = value t k' + if k' = k then m else 0 := by
  unfold add value
  cases hold : t.lookup k with
  | some entry =>
    simp only [Table.lookup_save]
    by_cases hk : k' = k
    · simp [hk, hold]
    · simp [hk]
  | none =>
    have hnew : ∃ t', t.insert (k, m) = some t' := by
      unfold Table.insert
      rw [dif_neg (Table.lookup_eq_none_iff.1 hold)]
      exact ⟨_, rfl⟩
    obtain ⟨t', ht'⟩ := hnew
    rw [ht', Option.getD_some, Table.lookup_insert ht']
    by_cases hk : k' = k
    · simp [hk, hold]
    · simp [hk]

/-- A key that is struck off has nothing, the others keep theirs. -/
theorem value_remove [Zero M] (t : Tally κ M) (k k' : κ) : value (t.remove k) k' = if k' = k then 0 else value t k' := by
  unfold value
  rw [Table.lookup_remove]
  by_cases hk : k' = k <;> simp [hk]

end Tally

end Tables
