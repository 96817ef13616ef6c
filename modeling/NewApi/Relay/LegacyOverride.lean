import NewApi.Relay.HeaderOverride

/-!
# The keys of a legacy override

`applyOperationsLegacy` of `relay/common/override.go` takes the keys of an override for names of top-level members. It hands them,
escaped, to `sjson.SetBytes`, which takes a path. The sjson library is given from outside, with what it documents of paths.
-/

namespace NewApi

/-- A key with its dots, wildcards and backslashes escaped. -/
def escapeChars (key : List Char) : List Char := key.flatMap fun c => if c ∈ ['.', '*', '?', '\\'] then ['\\', c] else [c]

def escapeSjsonLiteralKey (key : String) : String := String.ofList (escapeChars key.toList)

/-- The characters that make a path complex and are not escaped. -/
def makesComplex (c : Char) : Bool := c ∈ ['|', '#', '@']

/-- The key begins as gjson's selectors of several members, or its literals, do. -/
def selects (key : String) : Bool := key.toList.head?.any (· ∈ ['[', '\x7b', '!'])

/-- A key that, escaped, is the name it is. -/
def LiteralKey (key : String) : Prop :=
  key ≠ "" ∧ key.toList.head? ≠ some ':' ∧ selects key = false ∧ key.toList.any makesComplex = false

/-- The member of a name, as gjson reads it: where the name is repeated the first counts. -/
def member (fields : List (String × Json)) (name : String) : Option (String × Json) := fields.find? (·.1 = name)

/-- The first member of the name gets the value; where there is none, a member is added. -/
def setMember (name : String) (v : Json) : List (String × Json) → List (String × Json)
  | [] => [(name, v)]
  | f :: fields => if f.1 = name then (name, v) :: fields else f :: setMember name v fields

/-- `sjson.SetBytes`. A path must not be empty, a backslash takes the character after it as it is, a leading colon is no part of the
name, and a complex path changes what is there and adds no member. -/
structure Sjson where
  set : Json → String → Json → Except String Json
  empty : ∀ data v, ∃ e, set data "" v = .error e
  literal : ∀ fields key v, LiteralKey key → set (.obj fields) (escapeSjsonLiteralKey key) v = .ok (.obj (setMember key v fields))
  colon : ∀ fields key v data, key.toList.any makesComplex = false →
    set (.obj fields) (escapeSjsonLiteralKey (":" ++ key)) v = .ok data →
      ∃ fields', data = .obj fields' ∧ ∀ name, name ≠ key → member fields' name = member fields name
  complex : ∀ fields key v data, key.toList.any makesComplex = true → set (.obj fields) (escapeSjsonLiteralKey key) v = .ok data →
    ∃ fields', data = .obj fields' ∧ ∀ name, member fields name = none → member fields' name = none

/-- An override that sets members by sjson. -/
def OverrideEnv.withSjson (env : OverrideEnv) (sjson : Sjson) : OverrideEnv :=
  { env with sjsonSet := sjson.set, escapeSjsonLiteralKey := NewApi.escapeSjsonLiteralKey }

end NewApi
