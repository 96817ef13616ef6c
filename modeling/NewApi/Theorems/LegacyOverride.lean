import NewApi.Relay.LegacyOverride
import NewApi.Theorems.HeaderOverride

/-!
# Legacy overrides and literal keys

The escaping leaves `|`, `#` and `@`, which make a path complex, and a leading colon, which sjson drops; and a path is not empty.
`legacy_sets_literally_iff` says that every other key is set as it is, but for those that begin as a selector does.
-/

namespace NewApi

open Tables

/-- The members of the override have their values, and the others are as they were. -/
def SetsLiterally (override fields result : List (String × Json)) : Prop :=
  ∀ name, member result name = (member override name).or (member fields name)

namespace SjsonAux

variable {key : String} {v : Json} {fields : List (String × Json)} {sjson : Sjson}

/-- Setting a member changes that one alone. -/
theorem member_setMember (name k : String) : member (setMember name v fields) k = if k = name then some (name, v) else member fields k := by
  induction fields with
  | nil => simp [setMember, member, eq_comm]
  | cons f fields ih =>
    rw [member] at ih ⊢
    unfold setMember
    split
    · rename_i hf
      by_cases hk : name = k <;> simp [member, hf, hk, eq_comm]
    rename_i hf
    rw [List.find?_cons, ih]
    by_cases hk : f.1 = k
    · subst hk
      simp [member, hf]
    · simp [member, hk]

/-- A key that is not literal, and no selector, adds no member whose name is as long as itself. -/
theorem set_other (hselect : selects key = false) (h : ¬LiteralKey key) {data : Json}
    (hset : sjson.set (.obj fields) (escapeSjsonLiteralKey key) v = .ok data) :
    ∃ fields', data = .obj fields' ∧ ∀ name, key.length ≤ name.length → member fields name = none → member fields' name = none := by
  by_cases hne : key = ""
  · subst hne
    obtain ⟨e, herror⟩ := sjson.empty (.obj fields) v
    exact absurd (hset.symm.trans herror) (by simp)
  · cases hcomplex : key.toList.any makesComplex with
    | true =>
      obtain ⟨fields', hdata, hnames⟩ := sjson.complex fields key v data hcomplex hset
      exact ⟨fields', hdata, fun name _ => hnames name⟩
    | false =>
      have hcolon : key.toList.head? = some ':' := by
        by_contra hcolon
        exact h ⟨hne, hcolon, hselect, hcomplex⟩
      obtain ⟨cs, hcs⟩ := List.head?_eq_some_iff.1 hcolon
      have hkey : key = ":" ++ String.ofList cs := String.toList_inj.1 (by rw [hcs]; simp)
      rw [hkey] at hset
      have hplain : (String.ofList cs).toList.any makesComplex = false := by
        rw [hcs] at hcomplex
        simpa using (Bool.or_eq_false_iff.1 hcomplex).2
      obtain ⟨fields', hdata, hnames⟩ := sjson.colon fields _ v data hplain hset
      refine ⟨fields', hdata, fun name hlong hnone => ?_⟩
      rw [hnames, hnone]
      rintro rfl
      rw [← String.length_toList, hcs] at hlong
      simp at hlong

variable {env : OverrideEnv} {l : List (String × Json)}

/-- Keys that are literal and distinct are set one after the other. -/
theorem legacy_literal (h : ∀ f ∈ l, LiteralKey f.1) (hnodup : (l.map Prod.fst).Nodup) (fields : List (String × Json)) :
    ∃ result, applyOperationsLegacy (env.withSjson sjson) l (.obj fields) = .ok (.obj result) ∧ SetsLiterally l fields result := by
  induction l generalizing fields with
  | nil => exact ⟨fields, rfl, fun _ => rfl⟩
  | cons f l ih =>
    rw [List.map_cons, List.nodup_cons] at hnodup
    obtain ⟨result, hrun, hsets⟩ := ih (fun g hg => h g (.tail _ hg)) hnodup.2 (setMember f.1 f.2 fields)
    have hset : (env.withSjson sjson).sjsonSet (.obj fields) ((env.withSjson sjson).escapeSjsonLiteralKey f.1) f.2 =
        .ok (.obj (setMember f.1 f.2 fields)) := sjson.literal fields f.1 f.2 (h f (.head _))
    refine ⟨result, by rw [applyOperationsLegacy, hset]; exact hrun, fun name => ?_⟩
    rw [hsets name, member_setMember]
    by_cases hname : name = f.1
    · subst hname
      have hnone : member l f.1 = none := by
        refine List.find?_eq_none.2 fun g hg heq => hnodup.1 ?_
        rw [← of_decide_eq_true heq]
        exact List.mem_map_of_mem hg
      rw [hnone]
      simp [member]
    · simp [member, hname, Ne.symm hname]

/-- No entry adds a member for a key that is not literal and at least as long as any such key. -/
theorem legacy_misses (h : ¬LiteralKey key) (hselect : ∀ f ∈ l, selects f.1 = false)
    (hlongest : ∀ f ∈ l, ¬LiteralKey f.1 → f.1.length ≤ key.length) {result : List (String × Json)}
    (hrun : applyOperationsLegacy (env.withSjson sjson) l (.obj fields) = .ok (.obj result))
    (hnone : member fields key = none) : member result key = none := by
  induction l generalizing fields with
  | nil =>
    cases hrun
    exact hnone
  | cons f l ih =>
    have ih := fun {fields} => @ih fields (fun g hg => hselect g (.tail _ hg)) fun g hg => hlongest g (.tail _ hg)
    change (sjson.set (.obj fields) (escapeSjsonLiteralKey f.1) f.2 >>= _) = _ at hrun
    by_cases hf : LiteralKey f.1
    · rw [sjson.literal fields f.1 f.2 hf] at hrun
      refine ih hrun ?_
      rw [member_setMember, if_neg, hnone]
      rintro rfl
      exact h hf
    · cases hset : sjson.set (.obj fields) (escapeSjsonLiteralKey f.1) f.2 with
      | error e =>
        rw [hset] at hrun
        cases hrun
      | ok data =>
        obtain ⟨fields', rfl, hnames⟩ := set_other (hselect f (.head _)) hf hset
        rw [hset] at hrun
        exact ih hrun (hnames key (hlongest f (.head _) hf) hnone)

end SjsonAux

open SjsonAux

/-- Where no key begins as a selector, every body is overridden literally exactly where sjson reads every key as it is. -/
theorem legacy_sets_literally_iff (env : OverrideEnv) (sjson : Sjson) (override : Table (Prod.fst : String × Json → String))
    (hselect : ∀ f ∈ override.rows, selects f.1 = false) :
    (∀ fields, ∃ result, applyOperationsLegacy (env.withSjson sjson) override.rows (.obj fields) = .ok (.obj result) ∧
      SetsLiterally override.rows fields result) ↔ ∀ f ∈ override.rows, LiteralKey f.1 := by
  constructor
  · intro h
    by_contra hsome
    obtain ⟨f₀, hf₀⟩ : ∃ f, f ∈ override.rows ∧ ¬LiteralKey f.1 := by simpa using hsome
    -- the longest key that is not literal: no other key adds a member of its name
    obtain ⟨f, ⟨hf, hkey⟩, hlongest⟩ := Set.exists_max_image {f | f ∈ override.rows ∧ ¬LiteralKey f.1} (·.1.length)
      ((List.finite_toSet override.rows).subset fun _ h => h.1) ⟨f₀, hf₀⟩
    obtain ⟨result, hrun, hsets⟩ := h []
    have hnone := legacy_misses hkey hselect (fun g hg hother => hlongest g ⟨hg, hother⟩) hrun rfl
    have hmember : member override.rows f.1 = some f := Table.lookup_of_mem hf
    rw [hsets, hmember] at hnone
    cases hnone
  · intro h fields
    exact legacy_literal h override.nodup fields

/-! ## A key with a colon -/

namespace SjsonAux

def unescape : List Char → List Char
  | [] => []
  | '\\' :: c :: path => c :: unescape path
  | c :: path => c :: unescape path

/-- What is escaped is read back. -/
theorem unescape_escapeChars (key : List Char) : unescape (escapeChars key) = key := by
  induction key with
  | nil => rfl
  | cons c key ih =>
    rw [escapeChars, List.flatMap_cons, ← escapeChars]
    split
    · exact congrArg (c :: ·) ih
    rename_i hc
    have hne : c ≠ '\\' := by
      rintro rfl
      exact hc (by decide)
    rw [List.singleton_append, unescape.eq_def]
    split
    · rename_i heq
      cases heq
    · rename_i heq
      exact absurd (List.cons.inj heq).1 hne
    · rename_i heq
      obtain ⟨rfl, rfl⟩ := List.cons.inj heq
      exact congrArg (c :: ·) ih

/-- Paths of one part, as sjson documents them. -/
def setPart (fields : List (String × Json)) (v : Json) (part : List Char) : List (String × Json) :=
  if part.any makesComplex then fields
  else setMember (String.ofList (if part.head? = some ':' then part.tail else part)) v fields

def documentedSet (data : Json) (path : String) (v : Json) : Except String Json :=
  match data with
  | .obj fields => if path = "" then .error "path cannot be empty" else .ok (.obj (setPart fields v (unescape path.toList)))
  | _ => .error "path cannot be empty"

theorem escape_ne (h : key ≠ "") : escapeSjsonLiteralKey key ≠ "" := by
  intro heq
  have hnil : escapeChars key.toList = [] := by simpa [escapeSjsonLiteralKey] using congrArg String.toList heq
  have hkey := unescape_escapeChars key.toList
  rw [hnil] at hkey
  exact h (String.toList_eq_nil_iff.1 hkey.symm)

/-- An escaped key is set as one part. -/
theorem documentedSet_escape (h : key ≠ "") :
    documentedSet (.obj fields) (escapeSjsonLiteralKey key) v = .ok (.obj (setPart fields v key.toList)) := by
  rw [documentedSet, if_neg (escape_ne h), escapeSjsonLiteralKey, String.toList_ofList, unescape_escapeChars]

def documentedSjson : Sjson where
  set := documentedSet
  empty data v := ⟨"path cannot be empty", by cases data <;> rfl⟩
  literal fields key v h := by
    obtain ⟨hne, hcolon, -, hplain⟩ := h
    rw [documentedSet_escape hne, setPart, hplain, if_neg hcolon, String.ofList_toList]
    rfl
  colon fields key v data hplain hset := by
    have hne : ":" ++ key ≠ "" := by simp
    rw [documentedSet_escape hne] at hset
    refine ⟨_, (Except.ok.inj hset).symm, fun name hname => ?_⟩
    have hcolon : (":" ++ key).toList = ':' :: key.toList := by simp
    have hword : (':' :: key.toList).any makesComplex = false := hplain
    rw [hcolon, setPart, hword, if_pos (List.head?_cons ..), List.tail_cons, String.ofList_toList]
    exact (member_setMember key name).trans (if_neg hname)
  complex fields key v data hcomplex hset := by
    have hne : key ≠ "" := by
      rintro rfl
      simp at hcomplex
    rw [documentedSet_escape hne, setPart, if_pos hcomplex] at hset
    exact ⟨fields, (Except.ok.inj hset).symm, fun _ h => h⟩

end SjsonAux

/-- An override of the key `:a` sets the member `a`, and no member of the key's own name. -/
theorem colon_key_renamed :
    applyOperationsLegacy (HeaderAux.plainEnv.withSjson documentedSjson) [(":a", .null)] (.obj []) = .ok (.obj [("a", .null)]) ∧
      ¬ SetsLiterally [(":a", .null)] [] [("a", .null)] := by
  refine ⟨rfl, fun h => ?_⟩
  have hcolon := h ":a"
  simp [member] at hcolon

/-- The key `a` is set as it is, the key `:a` is not. -/
theorem legacy_sets_literally_iff_sample :
    (∀ fields, ∃ result, applyOperationsLegacy (HeaderAux.plainEnv.withSjson documentedSjson) [("a", .null)] (.obj fields) =
        .ok (.obj result) ∧ SetsLiterally [("a", .null)] fields result) ∧
      ¬ ∀ fields, ∃ result, applyOperationsLegacy (HeaderAux.plainEnv.withSjson documentedSjson) [(":a", .null)] (.obj fields) =
        .ok (.obj result) ∧ SetsLiterally [(":a", .null)] fields result := by
  have hiff := fun key (h : selects key = false) => legacy_sets_literally_iff HeaderAux.plainEnv documentedSjson
    ⟨[(key, .null)], List.nodup_singleton _⟩ (by simpa using h)
  constructor
  · refine (hiff "a" (by decide)).2 fun f hf => ?_
    obtain rfl := List.mem_singleton.1 hf
    exact ⟨by decide, by decide, by decide, by decide⟩
  · intro h
    have hkey := (hiff ":a" (by decide)).1 h (":a", .null) (by simp)
    exact hkey.2.1 (by decide)

end NewApi
