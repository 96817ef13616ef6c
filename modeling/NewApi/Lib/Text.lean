import Mathlib.Data.List.Infix
import Mathlib.Data.List.DropRight

/-!
# Text: trimming and containment

The operations on strings that programs of this kind lean on, over the characters of a string: dropping the white space at both
ends, where white space is Unicode's `White_Space` property, asking whether one string occurs in another, begins it or ends it,
taking a beginning or an ending off, splitting at a character and joining again.
-/

namespace Text

/-- The characters with Unicode's `White_Space` property. -/
def isSpace (c : Char) : Bool :=
  let n := c.toNat
  (9 ≤ n && n ≤ 13) || n == 0x20 || n == 0x85 || n == 0xA0 || n == 0x1680 || (0x2000 ≤ n && n ≤ 0x200A) ||
    n == 0x2028 || n == 0x2029 || n == 0x202F || n == 0x205F || n == 0x3000

/-- The characters without the white space at either end. -/
def trimChars (cs : List Char) : List Char := ((cs.dropWhile isSpace).reverse.dropWhile isSpace).reverse

/-- The string without the white space at either end. -/
def trimSpace (s : String) : String := String.ofList (trimChars s.toList)

theorem trimChars_idem (cs : List Char) : trimChars (trimChars cs) = trimChars cs := by
  have htrim : trimChars cs = (cs.dropWhile isSpace).rdropWhile isSpace := rfl
  -- the first character that is left is no white space, and it stays first
  have hfront : (trimChars cs).dropWhile isSpace = trimChars cs := by
    obtain ⟨dropped, hsplit⟩ := List.rdropWhile_prefix isSpace (cs.dropWhile isSpace)
    rw [← htrim] at hsplit
    cases hcs : trimChars cs with
    | nil => rfl
    | cons c rest =>
      have hhead : (cs.dropWhile isSpace).head? = some c := by rw [← hsplit, hcs]; rfl
      have hne : cs.dropWhile isSpace ≠ [] := by rintro h; rw [h] at hhead; cases hhead
      have hc : isSpace c = false := by
        have h0 := List.head_dropWhile_not isSpace hne
        rwa [List.head_eq_iff_head?_eq_some hne |>.2 hhead] at h0
      simp [hc]
  calc trimChars (trimChars cs) = ((trimChars cs).dropWhile isSpace).rdropWhile isSpace := rfl
    _ = trimChars cs := by rw [hfront, htrim, List.rdropWhile_idempotent]

theorem trimSpace_idem (s : String) : trimSpace (trimSpace s) = trimSpace s := by
  unfold trimSpace
  rw [String.toList_ofList, trimChars_idem]

def contains (s sub : String) : Bool := decide (sub.toList <:+: s.toList)

def startsWith (s start : String) : Bool := decide (start.toList <+: s.toList)

/-- The string without the beginning, where it has it. -/
def trimPrefix (s start : String) : String :=
  if startsWith s start then String.ofList (s.toList.drop start.toList.length) else s

def endsWith (s ending : String) : Bool := decide (ending.toList <:+ s.toList)

theorem endsWith_append (s ending : String) : endsWith (s ++ ending) ending = true := by
  simp [endsWith]

/-- The string without the ending, where it has it. -/
def trimSuffix (s ending : String) : String :=
  if endsWith s ending then String.ofList (s.toList.take (s.toList.length - ending.toList.length)) else s

/-- An ending that is cut off can be put back. -/
theorem trimSuffix_append {s ending : String} (h : endsWith s ending = true) : trimSuffix s ending ++ ending = s := by
  obtain ⟨front, hfront⟩ : ending.toList <:+ s.toList := of_decide_eq_true h
  apply String.toList_inj.1
  rw [trimSuffix, if_pos h, String.toList_append, String.toList_ofList, ← hfront]
  simp

/-- The parts of the string between the separators; a string without one is its only part. -/
def split (s : String) (sep : Char) : List String := (s.toList.splitOn sep).map String.ofList

theorem split_ne_nil (s : String) (sep : Char) : split s sep ≠ [] := by
  simp [split]

/-- The parts one after the other, with the separator between them. -/
def join (parts : List String) (sep : Char) : String := String.ofList ([sep].intercalate (parts.map String.toList))

variable {parts : List String} {sep : Char}

/-- Joined parts without the separator are got back by a split. -/
theorem split_join (hne : parts ≠ []) (h : ∀ p ∈ parts, sep ∉ p.toList) : split (join parts sep) sep = parts := by
  have hparts : ∀ cs ∈ parts.map String.toList, sep ∉ cs := by
    intro cs hcs
    obtain ⟨p, hp, rfl⟩ := List.mem_map.1 hcs
    exact h p hp
  rw [split, join, String.toList_ofList, List.splitOn_intercalate sep hparts (by simpa using hne), List.map_map]
  simp [Function.comp_def]

/-- The string without the character at either end. -/
def trim (s : String) (c : Char) : String :=
  String.ofList ((s.toList.dropWhile fun x => x = c).rdropWhile fun x => x = c)

/-- A list of such parts does not end with the separator. -/
theorem getLast_intercalate {parts : List (List Char)} (hne : ∀ cs ∈ parts, cs ≠ []) (hsep : ∀ cs ∈ parts, sep ∉ cs)
    (h : [sep].intercalate parts ≠ []) : ([sep].intercalate parts).getLast h ≠ sep := by
  induction parts with
  | nil => exact absurd rfl h
  | cons cs rest ih =>
    cases rest with
    | nil =>
      simp only [List.intercalate_singleton]
      intro heq
      exact hsep cs List.mem_cons_self (heq ▸ List.getLast_mem _)
    | cons cs' rest =>
      have hlater : [sep].intercalate (cs' :: rest) ≠ [] := by
        intro hnil
        have hcs' := hne cs' (by simp)
        cases rest with
        | nil => exact hcs' (by simpa using hnil)
        | cons cs'' rest => simp [List.intercalate_cons_cons] at hnil
      simp only [List.intercalate_cons_cons, List.append_assoc]
      rw [List.getLast_append_of_ne_nil _ (by simp), List.getLast_append_of_ne_nil _ hlater]
      exact ih (fun cs hcs => hne cs (List.mem_cons_of_mem _ hcs)) (fun cs hcs => hsep cs (List.mem_cons_of_mem _ hcs)) hlater

/-- Joined parts that are not empty have nothing to trim. -/
theorem trim_join (hne : ∀ p ∈ parts, p ≠ "") (h : ∀ p ∈ parts, sep ∉ p.toList) : trim (join parts sep) sep = join parts sep := by
  unfold trim join
  rw [String.toList_ofList]
  have hparts : ∀ cs ∈ parts.map String.toList, cs ≠ [] ∧ sep ∉ cs := by
    intro cs hcs
    obtain ⟨p, hp, rfl⟩ := List.mem_map.1 hcs
    exact ⟨fun hnil => hne p hp (String.toList_inj.1 hnil), h p hp⟩
  generalize parts.map String.toList = lists at hparts
  have hfront : ([sep].intercalate lists).dropWhile (fun x => x = sep) = [sep].intercalate lists := by
    cases lists with
    | nil => rfl
    | cons cs rest =>
      obtain ⟨hcs, hsep⟩ := hparts cs List.mem_cons_self
      obtain ⟨c, cs', rfl⟩ := List.exists_cons_of_ne_nil hcs
      have hc : c ≠ sep := fun heq => hsep (by simp [heq])
      cases rest with
      | nil => simp [hc]
      | cons cs'' rest => simp [List.intercalate_cons_cons, hc]
  have hback : ([sep].intercalate lists).rdropWhile (fun x => x = sep) = [sep].intercalate lists := by
    rw [List.rdropWhile_eq_self_iff]
    intro hl
    simpa using getLast_intercalate (fun cs hcs => (hparts cs hcs).1) (fun cs hcs => (hparts cs hcs).2) hl
  rw [hfront, hback]

/-- A trimmed string begins with a character that is no white space exactly where it is the first such character. -/
theorem startsWith_trimSpace_iff {s : String} {c : Char} (hc : isSpace c = false) :
    startsWith (trimSpace s) (String.ofList [c]) = true ↔ (s.toList.dropWhile isSpace).head? = some c := by
  unfold startsWith trimSpace
  rw [decide_eq_true_iff, String.toList_ofList, String.toList_ofList]
  have htrim : trimChars s.toList = (s.toList.dropWhile isSpace).rdropWhile isSpace := rfl
  rw [htrim]
  generalize s.toList.dropWhile isSpace = cs
  constructor
  · intro h
    obtain ⟨rest, hrest⟩ := h.trans (List.rdropWhile_prefix isSpace cs)
    rw [← hrest]
    rfl
  · intro h
    obtain ⟨rest, rfl⟩ := List.head?_eq_some_iff.1 h
    have hne : (c :: rest).rdropWhile isSpace ≠ [] := by
      rw [ne_eq, List.rdropWhile_eq_nil_iff]
      intro hall
      rw [hall c List.mem_cons_self] at hc
      cases hc
    obtain ⟨c', rest', hcons⟩ := List.exists_cons_of_ne_nil hne
    have hprefix := List.rdropWhile_prefix isSpace (c :: rest)
    rw [hcons, List.cons_prefix_cons] at hprefix
    rw [hcons, hprefix.1]
    exact List.cons_prefix_cons.2 ⟨rfl, List.nil_prefix⟩

/-- The first character of the joined parts that is no white space is that of some part. -/
theorem head_of_join {sep c : Char} (hsep : isSpace sep = true)
    (h : ((join parts sep).toList.dropWhile isSpace).head? = some c) : ∃ p ∈ parts, (p.toList.dropWhile isSpace).head? = some c := by
  unfold join at h
  rw [String.toList_ofList] at h
  induction parts with
  | nil => cases h
  | cons p rest ih =>
    cases rest with
    | nil =>
      simp only [List.map_cons, List.map_nil, List.intercalate_singleton] at h
      exact ⟨p, List.mem_cons_self, h⟩
    | cons p' rest =>
      rw [List.map_cons, List.map_cons, List.intercalate_cons_cons, List.append_assoc, List.dropWhile_append] at h
      split at h
      · rw [List.singleton_append, List.dropWhile_cons_of_pos hsep] at h
        obtain ⟨q, hq, hhead⟩ := ih (by rw [List.map_cons]; exact h)
        exact ⟨q, List.mem_cons_of_mem p hq, hhead⟩
      · rename_i hnonempty
        obtain ⟨c', cs, hcons⟩ := List.exists_cons_of_ne_nil (mt List.isEmpty_iff.2 hnonempty)
        rw [hcons] at h
        refine ⟨p, List.mem_cons_self, ?_⟩
        rw [hcons]
        exact h

end Text
