import Mathlib

/-!
# Texts in parts

Several texts sent in parts at the same time: a list of parts, each with the key of the text it belongs to. The text of a key is what its
parts add up to. Keying the same parts in another way keeps the texts as long as the same parts stay together, and texts that can be
found again under other keys are not longer than all that was sent.
-/

namespace Parts

variable {ι α β : Type*} [DecidableEq α] [DecidableEq β] {l : List ι} {parts : List (α × String)} {text : ι → String} {k : ι → α}
  {k' : ι → β} {a : α}

/-- The text of a key: its parts, in order. -/
def textAt (parts : List (α × String)) (a : α) : String :=
  String.join ((parts.filter fun part => part.1 = a).map Prod.snd)

/-- How much text there is, over all keys. -/
def size (parts : List (α × String)) : Nat := (String.join (parts.map Prod.snd)).length

theorem textAt_cons (part : α × String) (a : α) : textAt (part :: parts) a = (if part.1 = a then part.2 else "") ++ textAt parts a := by
  unfold textAt
  by_cases h : part.1 = a <;> simp [h]

omit [DecidableEq α] in
theorem size_cons (part : α × String) : size (part :: parts) = part.2.length + size parts := by
  simp [size]

omit [DecidableEq α] in
theorem size_append (parts more : List (α × String)) : size (parts ++ more) = size parts + size more := by
  simp [size]

/-- Two ways to key the same parts give two keys the same text, where they agree on which parts are theirs. -/
theorem textAt_map_congr {b : β} (h : ∀ i ∈ l, text i ≠ "" → (k i = a ↔ k' i = b)) :
    textAt (l.map fun i => (k i, text i)) a = textAt (l.map fun i => (k' i, text i)) b := by
  induction l with
  | nil => rfl
  | cons i l ih =>
    have hfirst : (if k i = a then text i else "") = if k' i = b then text i else "" := by
      by_cases hempty : text i = ""
      · simp [hempty]
      · simp only [h i List.mem_cons_self hempty]
    rw [List.map_cons, List.map_cons, textAt_cons, textAt_cons, hfirst, ih fun j hj => h j (List.mem_cons_of_mem _ hj)]

/-- A place that no text is for is empty. -/
theorem textAt_eq_empty (h : ∀ part ∈ parts, part.2 ≠ "" → part.1 ≠ a) : textAt parts a = "" := by
  induction parts with
  | nil => rfl
  | cons part parts ih =>
    have hfirst : (if part.1 = a then part.2 else "") = "" := by
      by_cases hempty : part.2 = ""
      · simp [hempty]
      · exact if_neg (h part List.mem_cons_self hempty)
    rw [textAt_cons, hfirst, ih fun other hmem => h other (List.mem_cons_of_mem _ hmem)]
    rfl

/-- A part counts for the places of a set once, if it is for one of them. -/
theorem sum_ite_length (s : Finset α) (part : α × String) :
    (∑ a ∈ s, (if part.1 = a then part.2 else "").length) = if part.1 ∈ s then part.2.length else 0 := by
  have hlength : ∀ a, (if part.1 = a then part.2 else "").length = if part.1 = a then part.2.length else 0 := by
    intro a
    split <;> rfl
  simp only [hlength, Finset.sum_ite_eq]

/-- The texts of some keys are not longer than all that was sent, -/
theorem sum_textAt_le (s : Finset α) : ∑ a ∈ s, (textAt parts a).length ≤ size parts := by
  induction parts with
  | nil => simp [textAt, size]
  | cons part parts ih =>
    simp only [textAt_cons, String.length_append, Finset.sum_add_distrib, sum_ite_length, size_cons]
    split <;> omega

/-- and make it up where no other key has text. -/
theorem sum_textAt {s : Finset α} (h : ∀ part ∈ parts, part.2 ≠ "" → part.1 ∈ s) : ∑ a ∈ s, (textAt parts a).length = size parts := by
  induction parts with
  | nil => simp [textAt, size]
  | cons part parts ih =>
    have hfirst : (if part.1 ∈ s then part.2.length else 0) = part.2.length := by
      by_cases hempty : part.2 = ""
      · simp [hempty]
      · exact if_pos (h part List.mem_cons_self hempty)
    simp only [textAt_cons, String.length_append, Finset.sum_add_distrib, sum_ite_length, size_cons, hfirst,
      ih fun other hmem => h other (List.mem_cons_of_mem _ hmem)]

/-- A part with text is found in the text of its key. -/
theorem textAt_ne_empty {part : α × String} (hmem : part ∈ parts) (htext : part.2 ≠ "") : textAt parts part.1 ≠ "" := by
  induction parts with
  | nil => simp at hmem
  | cons first parts ih =>
    rw [textAt_cons]
    intro hempty
    rw [String.append_eq_empty_iff] at hempty
    rcases List.mem_cons.1 hmem with rfl | hmem
    · rw [if_pos rfl] at hempty
      exact htext hempty.1
    · exact ih hmem hempty.2

/-- Texts that are all found again, each under a key of its own, are not longer than what holds them. -/
theorem size_le_of_textAt_eq {held : List (β × String)} {f : α → β}
    (hf : Set.InjOn f {a | textAt parts a ≠ ""}) (h : ∀ a, textAt held (f a) = textAt parts a) : size parts ≤ size held := by
  let keys := ((parts.filter fun part => part.2 ≠ "").map Prod.fst).toFinset
  have hkeys : ∀ a ∈ keys, textAt parts a ≠ "" := by
    intro a ha
    simp only [keys, List.mem_toFinset, List.mem_map, List.mem_filter] at ha
    obtain ⟨part, ⟨hmem, htext⟩, rfl⟩ := ha
    exact textAt_ne_empty hmem (of_decide_eq_true htext)
  have hall : ∀ part ∈ parts, part.2 ≠ "" → part.1 ∈ keys := by
    intro part hmem htext
    simp only [keys, List.mem_toFinset, List.mem_map, List.mem_filter]
    exact ⟨part, ⟨hmem, decide_eq_true htext⟩, rfl⟩
  have himage : ∑ b ∈ keys.image f, (textAt held b).length = ∑ a ∈ keys, (textAt held (f a)).length :=
    Finset.sum_image fun a ha b hb hab => hf (hkeys a ha) (hkeys b hb) hab
  calc size parts = ∑ a ∈ keys, (textAt parts a).length := (sum_textAt hall).symm
    _ = ∑ a ∈ keys, (textAt held (f a)).length := Finset.sum_congr rfl fun a _ => by rw [h]
    _ = ∑ b ∈ keys.image f, (textAt held b).length := himage.symm
    _ ≤ size held := sum_textAt_le _

/-- Empty parts may be left out. -/
theorem textAt_filter (parts : List (α × String)) (a : α) : textAt (parts.filter fun part => part.2 ≠ "") a = textAt parts a := by
  induction parts with
  | nil => rfl
  | cons part parts ih =>
    by_cases hempty : part.2 = ""
    · rw [List.filter_cons_of_neg (by simpa using hempty), ih, textAt_cons, hempty, ite_self, String.empty_append]
    · rw [List.filter_cons_of_pos (by simpa using hempty), textAt_cons, textAt_cons, ih]

/-- A way to key parts that keeps together what another one does finds every text again, each under a key of its own. -/
theorem exists_rekey [Infinite β] (h : ∀ i ∈ l, ∀ j ∈ l, text i ≠ "" → text j ≠ "" → (k i = k j ↔ k' i = k' j)) :
    ∃ f : α → β, Set.InjOn f {a | textAt (l.map fun i => (k i, text i)) a ≠ ""} ∧
      ∀ a, textAt (l.map fun i => (k' i, text i)) (f a) = textAt (l.map fun i => (k i, text i)) a := by
  classical
  -- a key without text is sent where nothing is
  obtain ⟨fresh, hfresh⟩ := Infinite.exists_notMem_finset (l.map k').toFinset
  let f : α → β := fun a => if hpart : ∃ i ∈ l, text i ≠ "" ∧ k i = a then k' hpart.choose else fresh
  have hf : ∀ i ∈ l, text i ≠ "" → f (k i) = k' i := by
    intro i hi htext
    have hpart : ∃ j ∈ l, text j ≠ "" ∧ k j = k i := ⟨i, hi, htext, rfl⟩
    have hchosen := hpart.choose_spec
    simp only [f, dif_pos hpart]
    exact (h _ hchosen.1 i hi hchosen.2.1 htext).1 hchosen.2.2
  refine ⟨f, ?_, ?_⟩
  · have hpart : ∀ a, textAt (l.map fun i => (k i, text i)) a ≠ "" → ∃ i ∈ l, text i ≠ "" ∧ k i = a := by
      intro a ha
      by_contra hnone
      refine ha (textAt_eq_empty fun part hmem htext hkey => hnone ?_)
      obtain ⟨i, hi, rfl⟩ := List.mem_map.1 hmem
      exact ⟨i, hi, htext, hkey⟩
    intro a ha b hb hab
    obtain ⟨i, hi, htext, rfl⟩ := hpart a ha
    obtain ⟨j, hj, htext', rfl⟩ := hpart b hb
    rw [hf i hi htext, hf j hj htext'] at hab
    exact (h i hi j hj htext htext').2 hab
  · intro a
    refine textAt_map_congr fun i hi htext => ?_
    by_cases hpart : ∃ j ∈ l, text j ≠ "" ∧ k j = a
    · obtain ⟨j, hj, htext', rfl⟩ := hpart
      rw [hf j hj htext', h i hi j hj htext htext']
    have hnot : k i ≠ a := fun hkey => hpart ⟨i, hi, htext, hkey⟩
    have hother : k' i ≠ f a := by
      simp only [f, dif_neg hpart]
      intro hkey
      exact hfresh (List.mem_toFinset.2 (List.mem_map.2 ⟨i, hi, hkey⟩))
    exact iff_of_false hother hnot

/-! ## Parts left out -/

/-- A joined text is empty exactly where each is. -/
theorem join_map_eq_empty : String.join (l.map text) = "" ↔ ∀ i ∈ l, text i = "" := by
  induction l with
  | nil => simp
  | cons i l ih => rw [List.map_cons, String.join_cons, String.append_eq_empty_iff, List.forall_mem_cons, ih]

/-- Sums whose terms are at most those of another are equal exactly when the terms are. -/
theorem sum_map_eq_iff {x y : ι → Nat} (h : ∀ i ∈ l, x i ≤ y i) : (l.map x).sum = (l.map y).sum ↔ ∀ i ∈ l, x i = y i := by
  induction l with
  | nil => simp
  | cons i l ih =>
    have hrest : ∀ j ∈ l, x j ≤ y j := fun j hj => h j (List.mem_cons_of_mem _ hj)
    have hle := List.sum_le_sum hrest
    have hfirst := h i List.mem_cons_self
    rw [List.map_cons, List.map_cons, List.sum_cons, List.sum_cons, List.forall_mem_cons, ← ih hrest]
    omega

/-- Texts that are each taken whole or left out add up to all of them exactly when no text is left out. -/
theorem join_map_eq_iff {taken text : ι → String} (h : ∀ i ∈ l, taken i = text i ∨ taken i = "") :
    String.join (l.map taken) = String.join (l.map text) ↔ ∀ i ∈ l, taken i = text i := by
  refine ⟨fun heq => ?_, fun heq => by rw [List.map_congr_left heq]⟩
  have hle : ∀ i ∈ l, (taken i).length ≤ (text i).length := by
    intro i hi
    rcases h i hi with htaken | htaken <;> rw [htaken]
    simp
  have hlength := congrArg String.length heq
  rw [String.length_join, String.length_join, List.map_map, List.map_map] at hlength
  have hterms := (sum_map_eq_iff hle).1 hlength
  intro i hi
  rcases h i hi with htaken | htaken
  · exact htaken
  have hzero := hterms i hi
  rw [htaken] at hzero ⊢
  exact (String.length_eq_zero_iff.1 hzero.symm).symm

end Parts
