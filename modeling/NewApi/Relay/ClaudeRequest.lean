import Mathlib.Data.List.Basic

/-!
# Converting a chat request for a Claude channel

`RequestOpenAI2ClaudeMessage` of `relay/channel/claude/relay-claude.go`. A Go function returns a value, returns an error, or panics
(`Outcome`). The fields that Go decodes into `any` are JSON values, `null` standing for a missing field, and an unchecked type assertion
is `Json.assertString`.

Of the Claude request only the tools and the stop sequences are built. The reasoning options and the files of a message are inputs.
-/

namespace NewApi

inductive Outcome (α : Type) where
  | ok (value : α)
  | error (message : String)
  | panic (message : String)

namespace Outcome

/-- Go on with the value of a function that returned one. -/
def bind {α β : Type} (x : Outcome α) (f : α → Outcome β) : Outcome β :=
  match x with
  | .ok a => f a
  | .error m => .error m
  | .panic m => .panic m

instance : Monad Outcome where
  pure := .ok
  bind := bind

def panics {α : Type} : Outcome α → Bool
  | .panic _ => true
  | _ => false

@[simp] theorem panics_pure {α : Type} (a : α) : (pure a : Outcome α).panics = false := rfl

theorem panics_bind {α β : Type} (x : Outcome α) (f : α → Outcome β) :
    (x >>= f).panics = true ↔ x.panics = true ∨ ∃ a, x = .ok a ∧ (f a).panics = true := by
  cases x <;> simp [Bind.bind, bind, panics]

end Outcome

/-- A JSON value as Go decodes it into `any`; a number is kept as its literal. -/
inductive Json where
  | null
  | bool (b : Bool)
  | num (literal : String)
  | str (s : String)
  | arr (items : List Json)
  | obj (fields : List (String × Json))

namespace Json

/-- The name Go prints for the dynamic type of a value. -/
def goType : Json → String
  | .null => "nil"
  | .bool _ => "bool"
  | .num _ => "float64"
  | .str _ => "string"
  | .arr _ => "[]interface {}"
  | .obj _ => "map[string]interface {}"

/-- A key of a decoded object: the last of its values, nil where it is missing. -/
def get (fields : List (String × Json)) (key : String) : Json :=
  ((fields.filter (fun f => f.1 = key)).getLast?.map Prod.snd).getD .null

def assertString : Json → Outcome String
  | .str s => .ok s
  | v => .panic ("interface conversion: interface {} is " ++ v.goType ++ ", not string")

def isString : Json → Bool
  | .str _ => true
  | _ => false

def isNull : Json → Bool
  | .null => true
  | _ => false

theorem panics_assertString (v : Json) : v.assertString.panics = !v.isString := by
  cases v <;> rfl

end Json

structure ToolCallRequest where
  name : String
  description : String
  parameters : Json

/-- `dto.GeneralOpenAIRequest`, as far as the conversion's own checks read it. -/
structure GeneralOpenAIRequest where
  model : String
  tools : List ToolCallRequest
  reasoning : Option Json
  stop : Json

structure ClaudeTool where
  name : String
  description : String
  inputSchema : List (String × Json)

/-- `dto.ClaudeRequest`, its tools and its stop sequences. -/
structure ClaudeRequest where
  model : String
  tools : List ClaudeTool
  stopSequences : List String

/-- The `type` of a tool's schema: left out where it is nil, a string otherwise. -/
def schemaType : Json → Outcome (List (String × Json))
  | .null => pure []
  | v => do
    let t ← v.assertString
    pure [("type", Json.str t)]

/-- The conversion of one tool; a tool whose parameters are not an object is dropped. -/
def convertTool (tool : ToolCallRequest) : Outcome (List ClaudeTool) :=
  match tool.parameters with
  | .obj params => do
    let type ← schemaType (Json.get params "type")
    let others := params.filter (fun f => f.1 ≠ "type" ∧ f.1 ≠ "properties" ∧ f.1 ≠ "required")
    pure [⟨tool.name, tool.description,
      type ++ [("properties", Json.get params "properties"), ("required", Json.get params "required")] ++ others⟩]
  | _ => pure []

def convertTools : List ToolCallRequest → Outcome (List ClaudeTool)
  | [] => pure []
  | tool :: rest => do
    let converted ← convertTool tool
    let others ← convertTools rest
    pure (converted ++ others)

/-- The strings of an array of stop sequences. -/
def convertStops : List Json → Outcome (List String)
  | [] => pure []
  | stop :: rest => do
    let s ← stop.assertString
    let others ← convertStops rest
    pure (s :: others)

/-- The conversion of `stop`: one string or an array of them; anything else is dropped. -/
def convertStop : Json → Outcome (List String)
  | .str s => pure [s]
  | .arr items => convertStops items
  | _ => pure []

/-- What the conversion reads from elsewhere: the error of decoding the reasoning options, if any, and the error of fetching a
file of a message, if any. -/
structure ConvertEnv where
  unmarshalReasoning : Json → Option String
  fileError : Option String

/-- An error that ends the conversion here, if there is one. -/
def Outcome.failWith : Option String → Outcome Unit
  | some m => .error m
  | none => .ok ()

@[simp] theorem Outcome.panics_failWith (o : Option String) : (Outcome.failWith o).panics = false := by
  cases o <;> rfl

@[simp] theorem Outcome.failWith_eq_ok (o : Option String) (u : Unit) : Outcome.failWith o = .ok u ↔ o = none := by
  cases o <;> simp [Outcome.failWith]

/-- `RequestOpenAI2ClaudeMessage`: the tools, the reasoning options, the stop sequences, the messages. -/
def requestOpenAI2ClaudeMessage (env : ConvertEnv) (r : GeneralOpenAIRequest) : Outcome ClaudeRequest := do
  let tools ← convertTools r.tools
  Outcome.failWith (r.reasoning.bind env.unmarshalReasoning)
  let stops ← convertStop r.stop
  Outcome.failWith (env.fileError.map (fun e => "get file data failed: " ++ e))
  pure ⟨r.model, tools, stops⟩

/-! ## When the conversion panics -/

/-- The parameters of a tool have a `type` that is neither nil nor a string. -/
def ToolCallRequest.badType (tool : ToolCallRequest) : Bool :=
  match tool.parameters with
  | .obj params => !(Json.get params "type").isNull && !(Json.get params "type").isString
  | _ => false

/-- The stop sequences are an array with an element that is not a string. -/
def Json.badStop : Json → Bool
  | .arr items => items.any (fun v => !v.isString)
  | _ => false

/-- A schema type is converted, or the conversion panics on it. -/
theorem schemaType_cases (v : Json) : (schemaType v).panics = (!v.isNull && !v.isString) ∧
      ((!v.isNull && !v.isString) = false → ∃ t, schemaType v = .ok t) := by
  cases v <;> refine ⟨rfl, fun h => ?_⟩ <;> first | exact ⟨_, rfl⟩ | cases h

/-- A tool is converted, or the conversion panics on its type. -/
theorem convertTool_cases (tool : ToolCallRequest) :
    (convertTool tool).panics = tool.badType ∧ (tool.badType = false → ∃ ts, convertTool tool = .ok ts) := by
  unfold convertTool ToolCallRequest.badType
  split
  · rename_i params _
    obtain ⟨hpanics, hok⟩ := schemaType_cases (Json.get params "type")
    constructor
    · rw [← hpanics, Bool.eq_iff_iff, Outcome.panics_bind]
      simp
    · intro h
      obtain ⟨t, ht⟩ := hok h
      rw [ht]
      exact ⟨_, rfl⟩
  · exact ⟨rfl, fun _ => ⟨_, rfl⟩⟩

theorem panics_convertTools (tools : List ToolCallRequest) : (convertTools tools).panics = true ↔ ∃ t ∈ tools, t.badType = true := by
  induction tools with
  | nil => simp [convertTools]
  | cons tool rest ih =>
    obtain ⟨hpanics, hok⟩ := convertTool_cases tool
    simp only [convertTools, Outcome.panics_bind, hpanics, Outcome.panics_pure, Bool.false_eq_true, and_false,
      exists_false, or_false, ih, List.mem_cons, exists_eq_or_imp]
    constructor
    · rintro (h | ⟨_, _, h⟩)
      · exact .inl h
      · exact .inr h
    · rintro (h | h)
      · exact .inl h
      · by_cases hb : tool.badType = true
        · exact .inl hb
        · obtain ⟨ts, hts⟩ := hok (Bool.eq_false_iff.2 hb)
          exact .inr ⟨ts, hts, h⟩

theorem convertTools_ok {tools : List ToolCallRequest} (h : ∀ t ∈ tools, t.badType = false) : ∃ ts, convertTools tools = .ok ts := by
  induction tools with
  | nil => exact ⟨_, rfl⟩
  | cons tool rest ih =>
    obtain ⟨ts, hts⟩ := (convertTool_cases tool).2 (h tool List.mem_cons_self)
    obtain ⟨us, hus⟩ := ih (fun t ht => h t (List.mem_cons_of_mem _ ht))
    exact ⟨ts ++ us, by simp only [convertTools, hts, hus]; rfl⟩

theorem panics_convertStops (items : List Json) : (convertStops items).panics = true ↔ ∃ v ∈ items, v.isString = false := by
  induction items with
  | nil => simp [convertStops]
  | cons v rest ih =>
    simp only [convertStops, Outcome.panics_bind, Json.panics_assertString, Outcome.panics_pure, Bool.false_eq_true,
      and_false, exists_false, or_false, ih, List.mem_cons, exists_eq_or_imp, Bool.not_eq_true']
    constructor
    · rintro (h | ⟨_, _, h⟩)
      · exact .inl h
      · exact .inr h
    · rintro (h | h)
      · exact .inl h
      · cases v with
        | str s => exact .inr ⟨s, rfl, h⟩
        | _ => exact .inl rfl

theorem panics_convertStop (stop : Json) : (convertStop stop).panics = stop.badStop := by
  cases stop with
  | arr items =>
    rw [Bool.eq_iff_iff]
    simp only [convertStop, panics_convertStops, Json.badStop, List.any_eq_true, Bool.not_eq_true']
  | _ => rfl

/-- The conversion panics exactly when a tool's type is neither nil nor a string, or, the reasoning options being readable,
an element of the array of stop sequences is not a string. -/
theorem requestOpenAI2ClaudeMessage_panics_iff (env : ConvertEnv) (r : GeneralOpenAIRequest) :
    (requestOpenAI2ClaudeMessage env r).panics = true ↔
      (∃ t ∈ r.tools, t.badType = true) ∨ (r.reasoning.bind env.unmarshalReasoning = none ∧ r.stop.badStop = true) := by
  unfold requestOpenAI2ClaudeMessage
  rw [Outcome.panics_bind, panics_convertTools]
  by_cases htools : ∃ t ∈ r.tools, t.badType = true
  · exact ⟨fun _ => .inl htools, fun _ => .inl htools⟩
  have hgood : ∀ t ∈ r.tools, t.badType = false := by
    intro t ht
    by_contra hb
    exact htools ⟨t, ht, Bool.not_eq_false _ ▸ hb⟩
  obtain ⟨ts, hts⟩ := convertTools_ok hgood
  simp [htools, hts, Outcome.panics_bind, panics_convertStop]

end NewApi
