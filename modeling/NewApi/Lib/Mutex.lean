import Mathlib.Data.Finset.Card
import Mathlib.Logic.Function.Basic
import Mathlib.Tactic.Linarith

/-!
# Mutexes and reference counts over threads

Where a thread stands decides whether it holds a mutex and whether it has a reference to an object. `Excludes` says that a mutex
is locked while a thread holds it and that at most one does; `Counts` says that a counter is the number of the threads with a
reference. Each has one rule for a thread that enters, one for a thread that leaves, and one for a step that changes neither.
-/

namespace Threads

variable {ι τ : Type*} {locked : Bool} {count : Int} {refs : ι → Prop}

/-! ## A mutex -/

/-- Whoever holds the mutex has it locked, and at most one thread does. -/
structure Excludes (locked : Bool) (holds : ι → Prop) : Prop where
  locked : ∀ i, holds i → locked = true
  unique : ∀ i j, holds i → holds j → i = j

/-- A mutex that nobody holds. -/
theorem Excludes.of_none {holds : ι → Prop} (h : ∀ i, ¬ holds i) : Excludes locked holds :=
  ⟨fun i hi => absurd hi (h i), fun i _ hi => absurd hi (h i)⟩

/-- Fewer holders keep the mutex as it is. -/
theorem Excludes.mono {holds holds' : ι → Prop} (h : Excludes locked holds) (hsub : ∀ i, holds' i → holds i) : Excludes locked holds' :=
  ⟨fun i hi => h.locked i (hsub i hi), fun i j hi hj => h.unique i j (hsub i hi) (hsub j hj)⟩

/-! ## A reference count -/

/-- The count is the number of the threads with a reference. -/
def Counts (count : Int) (refs : ι → Prop) : Prop := ∃ S : Finset ι, (∀ i, i ∈ S ↔ refs i) ∧ count = S.card

/-- The count of an object nobody refers to is zero. -/
theorem Counts.of_none (h : ∀ i, ¬ refs i) : Counts 0 refs := ⟨∅, by simpa using h, rfl⟩

/-- The count is zero exactly when nobody has a reference. -/
theorem Counts.eq_zero_iff (h : Counts count refs) : count = 0 ↔ ∀ i, ¬ refs i := by
  obtain ⟨S, hS, hcount⟩ := h
  rw [hcount, Int.natCast_eq_zero, Finset.card_eq_zero, Finset.eq_empty_iff_forall_notMem]
  exact forall_congr' fun i => not_congr (hS i)

/-! ## One thread's step -/

variable [DecidableEq ι] {threads : ι → τ} {i : ι} {s' : τ}

/-- A thread that locks an open mutex is its only holder. -/
theorem Excludes.acquire (holds : τ → Prop) (h : Excludes false fun j => holds (threads j)) :
    Excludes true fun j => holds (Function.update threads i s' j) := by
  have honly : ∀ j, holds (Function.update threads i s' j) → j = i := by
    intro j hj
    by_contra hne
    rw [Function.update_of_ne hne] at hj
    exact Bool.false_ne_true (h.locked j hj)
  exact ⟨fun _ _ => rfl, fun j k hj hk => (honly j hj).trans (honly k hk).symm⟩

/-- Once its holder lets go of it nobody holds the mutex. -/
theorem Excludes.release (locked' : Bool) (holds : τ → Prop) (h : Excludes locked fun j => holds (threads j))
    (hi : holds (threads i)) (hs' : ¬ holds s') : Excludes locked' fun j => holds (Function.update threads i s' j) := by
  refine Excludes.of_none fun j hj => ?_
  by_cases hji : j = i
  · subst hji
    rw [Function.update_self] at hj
    exact hs' hj
  · rw [Function.update_of_ne hji] at hj
    exact hji (h.unique j i hj hi)

/-- A step of a thread that does not lock the mutex. -/
theorem Excludes.keep (holds : τ → Prop) (h : Excludes locked fun j => holds (threads j))
    (hs' : holds s' → holds (threads i)) : Excludes locked fun j => holds (Function.update threads i s' j) := by
  refine h.mono fun j hj => ?_
  by_cases hji : j = i
  · subst hji
    rw [Function.update_self] at hj
    exact hs' hj
  · rwa [Function.update_of_ne hji] at hj

variable (refs : τ → Prop)

/-- A thread that takes a reference adds one. -/
theorem Counts.enter (h : Counts count fun j => refs (threads j)) (hi : ¬ refs (threads i))
    (hs' : refs s') : Counts (count + 1) fun j => refs (Function.update threads i s' j) := by
  obtain ⟨S, hS, hcount⟩ := h
  have hnew : i ∉ S := fun hmem => hi ((hS i).1 hmem)
  refine ⟨insert i S, fun j => ?_, ?_⟩
  · by_cases hji : j = i
    · subst hji
      simpa using hs'
    · simp [hji, hS]
  · rw [Finset.card_insert_of_notMem hnew]
    omega

/-- A thread that gives its reference back takes one away. -/
theorem Counts.leave (h : Counts count fun j => refs (threads j)) (hi : refs (threads i))
    (hs' : ¬ refs s') : Counts (count - 1) fun j => refs (Function.update threads i s' j) := by
  obtain ⟨S, hS, hcount⟩ := h
  have hold : i ∈ S := (hS i).2 hi
  refine ⟨S.erase i, fun j => ?_, ?_⟩
  · by_cases hji : j = i
    · subst hji
      simpa using hs'
    · simp [hji, hS]
  · have hcard := Finset.card_erase_add_one hold
    omega

/-- A step of a thread that neither takes nor gives back a reference. -/
theorem Counts.keep (h : Counts count fun j => refs (threads j))
    (hs' : refs s' ↔ refs (threads i)) : Counts count fun j => refs (Function.update threads i s' j) := by
  obtain ⟨S, hS, hcount⟩ := h
  refine ⟨S, fun j => ?_, hcount⟩
  by_cases hji : j = i
  · subst hji
    simp [hS, hs']
  · simp [hji, hS]

end Threads
