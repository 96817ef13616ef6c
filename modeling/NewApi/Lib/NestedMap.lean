import Mathlib

/-!
# Lists under two keys

A map of maps of lists. An entry can be pushed only where the inner map of its first key has been made: a push elsewhere has
nothing to write into. Reading is total, and gives the empty list where nothing is kept.
-/

namespace NestedMaps

variable {κ ι α : Type*}

/-- A list for each pair of keys; the inner map of a first key may not have been made. -/
abbrev Nested (κ ι α : Type*) := κ → Option (ι → Option (List α))

namespace Nested

/-- The list of a pair of keys. -/
def get (m : Nested κ ι α) (k : κ) (i : ι) : List α := ((m k).bind fun inner => inner i).getD []

def mapLists (f : List α → List α) (m : Nested κ ι α) : Nested κ ι α :=
  fun k => (m k).map fun inner i => (inner i).map f

/-- A map over the lists is a map over what is read. -/
theorem get_mapLists {f : List α → List α} (hf : f [] = []) (m : Nested κ ι α) (k : κ) (i : ι) :
    (mapLists f m).get k i = f (m.get k i) := by
  unfold get mapLists
  cases m k with
  | none => exact hf.symm
  | some inner =>
    cases h : inner i with
    | none => simp [h, hf]
    | some l => simp [h]

section Push

variable [DecidableEq κ] [DecidableEq ι]

/-- Add a value at the end of its list; `none` where the inner map has not been made. -/
def push (m : Nested κ ι α) (e : κ × ι × α) : Option (Nested κ ι α) :=
  (m e.1).map fun inner =>
    Function.update m e.1 (some (Function.update inner e.2.1 (some ((inner e.2.1).getD [] ++ [e.2.2]))))

def pushAll (m : Nested κ ι α) : List (κ × ι × α) → Option (Nested κ ι α)
  | [] => some m
  | e :: es => (m.push e).bind fun m' => m'.pushAll es

variable {m m' : Nested κ ι α} {e : κ × ι × α}

/-- A push makes no outer entry. -/
theorem isSome_of_push (h : m.push e = some m') (k : κ) : (m' k).isSome = (m k).isSome := by
  obtain ⟨inner, hinner, rfl⟩ := Option.map_eq_some_iff.1 h
  by_cases hk : k = e.1
  · subst hk
    simp [hinner]
  · simp [hk]

/-- A push adds to one list. -/
theorem get_push (h : m.push e = some m') (k : κ) (i : ι) : m'.get k i = m.get k i ++ if e.1 = k ∧ e.2.1 = i then [e.2.2] else [] := by
  obtain ⟨inner, hinner, rfl⟩ := Option.map_eq_some_iff.1 h
  by_cases hk : k = e.1
  · subst hk
    by_cases hi : i = e.2.1
    · subst hi
      simp [get, hinner]
    · simp [get, hinner, hi, Ne.symm hi]
  · simp [get, hk, Ne.symm hk]

/-- The values can be added exactly where every inner map they need has been made. -/
theorem pushAll_isSome_iff (m : Nested κ ι α) (es : List (κ × ι × α)) : (m.pushAll es).isSome ↔ ∀ e ∈ es, (m e.1).isSome := by
  induction es generalizing m with
  | nil => simp [pushAll]
  | cons e es ih =>
    cases h : m.push e with
    | none =>
      have hinner : m e.1 = none := Option.map_eq_none_iff.1 h
      simp [pushAll, h, hinner]
    | some m' =>
      have hinner : (m e.1).isSome := by
        obtain ⟨inner, hinner, -⟩ := Option.map_eq_some_iff.1 h
        simp [hinner]
      have hrest := ih m'
      simp only [isSome_of_push h] at hrest
      simp [pushAll, h, hrest, hinner]

/-- After the values were added, each list has the old values and then the added ones of its keys. -/
theorem get_pushAll {es : List (κ × ι × α)} (h : m.pushAll es = some m') (k : κ) (i : ι) :
    m'.get k i = m.get k i ++ (es.filter fun e => e.1 = k ∧ e.2.1 = i).map fun e => e.2.2 := by
  induction es generalizing m with
  | nil =>
    obtain rfl := Option.some.inj h
    simp
  | cons e es ih =>
    obtain ⟨m₁, hpush, hrest⟩ := Option.bind_eq_some_iff.1 h
    rw [ih hrest, get_push hpush, List.append_assoc]
    by_cases he : e.1 = k ∧ e.2.1 = i
    · simp [he]
    · rw [if_neg he, List.filter_cons_of_neg (by simpa using he), List.nil_append]

/-- How often a value stands in a list of the added values. -/
theorem count_filter_map [DecidableEq α] (es : List (κ × ι × α)) (k : κ) (i : ι) (a : α) :
    ((es.filter fun e => e.1 = k ∧ e.2.1 = i).map fun e => e.2.2).count a = es.count (k, i, a) := by
  induction es with
  | nil => rfl
  | cons e es ih =>
    obtain ⟨k', i', a'⟩ := e
    by_cases he : k' = k ∧ i' = i
    · obtain ⟨rfl, rfl⟩ := he
      rw [List.filter_cons_of_pos (by simp), List.map_cons, List.count_cons, List.count_cons, ih]
      simp
    · rw [List.filter_cons_of_neg (by simpa using he), ih, List.count_cons_of_ne]
      intro h
      simp only [Prod.mk.injEq] at h
      exact he ⟨h.1, h.2.1⟩

end Push

end Nested

end NestedMaps
