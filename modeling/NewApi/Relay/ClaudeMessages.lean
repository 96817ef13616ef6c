import NewApi.Relay.ClaudeRequest

/-!
# The messages of a Claude request for an OpenAI channel

The loop over the messages in `ClaudeToOpenAIRequest` of `service/convert.go`. A message whose content is a string is one message again.
The blocks of any other go three ways: each `tool_result` is a message of its own, and the texts and images and the tool calls share one
message, which has room for either.

The content of a result that is not a string is decoded into blocks and written again, so that only what the fields of a block can hold
comes through, and nothing where one of them cannot be decoded.

The system message, the other fields and the hints for the cache are left out. How a value is written as JSON is given from outside.
-/

namespace NewApi

/-! ## Decoding blocks -/

/-- A field of a Go struct by its JSON name: the values it decodes, and what is written of it when one more value has been decoded, where
`none` is a field left out as empty. -/
structure GoField where
  name : String
  accepts : Json → Bool
  write : Option Json → Json → Option Json
  zero : Option Json := none

/-- The form in which names are compared: letters without their case, as `encoding/json` folds them. -/
def foldName (name : String) : String := name.map fun c => if c = '\u017f' then 's' else if c = '\u212a' then 'k' else c.toLower

def valuesOf (name : String) (members : List (String × Json)) : List Json :=
  members.filterMap fun m => if foldName m.1 = foldName name then some m.2 else none

def acceptsMembers (fields : List GoField) (members : List (String × Json)) : Bool :=
  fields.all fun f => (valuesOf f.name members).all f.accepts

/-- What is written of a struct that the members of an object were decoded into, in the order of its fields. -/
def writeMembers (fields : List GoField) (members : List (String × Json)) : List (String × Json) :=
  fields.filterMap fun f => ((valuesOf f.name members).foldl f.write f.zero).map fun value => (f.name, value)

namespace GoField

/-- A string; `null` leaves it as it is. -/
def string (name : String) (omitempty : Bool) : GoField where
  name := name
  accepts
    | .null | .str _ => true
    | _ => false
  write old
    | .str s => if omitempty ∧ s = "" then none else some (.str s)
    | _ => old
  zero := if omitempty then none else some (.str "")

def stringPtr (name : String) : GoField where
  name := name
  accepts
    | .null | .str _ => true
    | _ => false
  write _
    | .str s => some (.str s)
    | _ => none

/-- An `int` reads the literals of its range that have neither fraction nor exponent. -/
def int (name : String) (omitempty : Bool) : GoField where
  name := name
  accepts
    | .null => true
    | .num literal => literal.toInt?.any fun n => -9223372036854775808 ≤ n ∧ n < 9223372036854775808
    | _ => false
  write old
    | .num literal => if omitempty ∧ literal.toInt? = some 0 then none else literal.toInt?.map fun n => .num (toString n)
    | _ => old
  zero := if omitempty then none else some (.num "0")

def any (name : String) : GoField where
  name := name
  accepts _ := true
  write _
    | .null => none
    | value => some value

def rawMessage (name : String) : GoField where
  name := name
  accepts _ := true
  write _ value := some value

/-- A pointer to a struct: an object goes into the struct that is there. -/
def structPtr (name : String) (fields : List GoField) : GoField where
  name := name
  accepts
    | .null => true
    | .obj members => acceptsMembers fields members
    | _ => false
  write old
    | .obj members =>
      match old with
      | some (.obj earlier) => some (.obj (writeMembers fields (earlier ++ members)))
      | _ => some (.obj (writeMembers fields members))
    | _ => none

end GoField

open GoField in
/-- `dto.ClaudeMediaMessage`. -/
def mediaMessageFields : List GoField :=
  [string "type" true, stringPtr "text", string "model" true,
    structPtr "source" [string "type" false, string "media_type" true, any "data", string "url" true],
    structPtr "usage" [int "input_tokens" false, int "cache_creation_input_tokens" false, int "cache_read_input_tokens" false,
      int "output_tokens" false,
      structPtr "cache_creation" [int "ephemeral_5m_input_tokens" true, int "ephemeral_1h_input_tokens" true],
      int "claude_cache_creation_5_m_tokens" false, int "claude_cache_creation_1_h_tokens" false,
      structPtr "server_tool_use" [int "web_search_requests" false]],
    stringPtr "stop_reason", stringPtr "partial_json", string "role" true, stringPtr "thinking", string "signature" true,
    string "delta" true, rawMessage "cache_control", string "id" true, string "name" true, any "input", any "content",
    string "tool_use_id" true]

/-- One element of a list of blocks, decoded and written again. -/
def rewriteBlock : Json → Option Json
  | .null => some (.obj [])
  | .obj members => if acceptsMembers mediaMessageFields members then some (.obj (writeMembers mediaMessageFields members)) else none
  | _ => none

/-- `ParseMediaContent`: the blocks as they are written again; `none` is a nil slice, as `Any2Type` leaves it after any error. -/
def parseMediaContent : Json → Option (List Json)
  | .arr items => items.mapM rewriteBlock
  | _ => none

/-- What the content of a result is written as: a nil slice is `null`. -/
def rewriteContent (content : Json) : Json := (parseMediaContent content).elim .null .arr

/-! ## Messages -/

/-- A block of a Claude message. The content of a result is a string or any other value, `null` where there is none; a kind the
conversion does not know is passed over. -/
inductive MessageBlock where
  | text (text : String)
  | image (mediaType data : String)
  | toolUse (id name : String) (input : Json)
  | toolResult (toolUseId name : String) (content : String ⊕ Json)
  | other (id name : String)

/-- `dto.ClaudeMessage`: a string or blocks. -/
structure ClaudeMessage where
  role : String
  content : String ⊕ List MessageBlock

inductive MediaContent where
  | text (text : String)
  | imageUrl (url : String)
  deriving DecidableEq

def MediaContent.text? : MediaContent → Option String
  | .text t => some t
  | .imageUrl _ => none

/-- A tool call of an OpenAI message; the arguments are a text. -/
structure OpenAIToolCall where
  id : String
  name : String
  arguments : String
  deriving DecidableEq

/-- The content of a message: a string, the text a value is written as, or parts. -/
inductive MessageContent where
  | absent
  | str (s : String)
  | written (value : Json)
  | media (parts : List MediaContent)

/-- `dto.Message`; only the answer of a tool has a name. -/
structure OpenAIMessage where
  role : String
  content : MessageContent := .absent
  name : Option String := none
  toolCallId : String := ""
  toolCalls : List OpenAIToolCall := []

namespace MessageBlock

def idName : MessageBlock → String × String
  | text _ | image _ _ => ("", "")
  | toolUse id name _ | other id name => (id, name)
  | toolResult _ name _ => ("", name)

/-- What the block adds to `mediaMessages`. -/
def media? : MessageBlock → Option MediaContent
  | text t => some (.text t)
  | image mediaType data => some (.imageUrl ("data:" ++ mediaType ++ ";base64," ++ data))
  | _ => none

/-- What it adds to `toolCalls`. -/
def toolCall? (toJSONString : Json → String) : MessageBlock → Option OpenAIToolCall
  | toolUse id name input => some ⟨id, name, toJSONString input⟩
  | _ => none

/-- The id and the content of a result. -/
def result? : MessageBlock → Option (String × (String ⊕ Json))
  | toolResult id _ content => some (id, content)
  | _ => none

end MessageBlock

def ClaudeMessage.blocks (m : ClaudeMessage) : List MessageBlock := m.content.getRight?.getD []

/-- `SearchToolNameByToolCallId`: the name of the first block with the id. -/
def searchToolName (messages : List ClaudeMessage) (id : String) : String :=
  (((messages.flatMap ClaudeMessage.blocks).map MessageBlock.idName).find? (·.1 = id)).elim "" Prod.snd

def MessageBlock.toolMessage? (messages : List ClaudeMessage) (b : MessageBlock) : Option OpenAIMessage :=
  b.result?.map fun r =>
    { role := "tool", content := r.2.elim .str fun content => .written (rewriteContent content), toolCallId := r.1
      name := some (if b.idName.2 = "" then searchToolName messages r.1 else b.idName.2) }

/-- One round of the loop over the messages. -/
def convertMessage (toJSONString : Json → String) (messages : List ClaudeMessage) (m : ClaudeMessage) : List OpenAIMessage :=
  match m.content with
  | .inl s => [{ role := m.role, content := .str s }]
  | .inr blocks =>
    let toolCalls := blocks.filterMap (·.toolCall? toJSONString)
    let media := blocks.filterMap MessageBlock.media?
    blocks.filterMap (·.toolMessage? messages) ++
      if toolCalls ≠ [] then [{ role := m.role, toolCalls := toolCalls }]
      else if media ≠ [] then [{ role := m.role, content := .media media }]
      else []

def claudeToOpenAIMessages (toJSONString : Json → String) (messages : List ClaudeMessage) : List OpenAIMessage :=
  messages.flatMap (convertMessage toJSONString messages)

end NewApi
