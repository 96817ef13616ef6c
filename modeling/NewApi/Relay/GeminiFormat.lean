import NewApi.Relay.ClaudeMessages
import NewApi.Relay.StreamResponse

/-!
# Gemini clients of an OpenAI channel

`GeminiToOpenAIRequest`, `ResponseOpenAI2Gemini` and `StreamResponseOpenAI2Gemini` of `service/convert.go`, and `ResponseOpenAI2Claude`
beside them. Of a request the messages and the stop sequences are converted here, of a response the content; how a value is written as
JSON, and what the arguments of a call decode to, is given from outside.
-/

namespace NewApi

/-! ## Requests -/

/-- `dto.GeminiPart`: an image with its type and data, a file with its address, a call with its arguments, a response. -/
structure GeminiPart where
  text : String := ""
  inlineData : Option (String × String) := none
  fileData : Option String := none
  functionCall : Option (String × Json) := none
  functionResponse : Option (String × Json) := none

/-- `dto.GeminiChatContent`. -/
structure GeminiContent where
  role : String
  parts : List GeminiPart

/-- A Go slice: its elements, and what the array behind it holds after them. -/
structure GoSlice (α : Type) where
  elems : List α
  spare : List α

/-- `s[:n]`, which panics beyond the capacity only. -/
def GoSlice.upTo {α : Type} (s : GoSlice α) (n : Nat) : Outcome (List α) :=
  if n ≤ s.elems.length + s.spare.length then .ok ((s.elems ++ s.spare).take n)
  else .panic "runtime error: slice bounds out of range"

/-- `dto.GeminiChatRequest`. -/
structure GeminiChatRequest where
  contents : List GeminiContent
  stopSequences : GoSlice String
  systemInstructions : Option (List GeminiPart) := none

/-- `convertGeminiRoleToOpenAI`. -/
def convertGeminiRoleToOpenAI (role : String) : String :=
  if role = "model" then "assistant" else if role = "function" then "function" else "user"

/-- What the parts of a content have come to: `mediaContents`, `toolCalls`, and the messages of the responses. -/
structure ConvertedParts where
  media : List MediaContent := []
  toolCalls : List OpenAIToolCall := []
  responses : List OpenAIMessage := []

/-- One round of the loop over the parts. -/
def ConvertedParts.add (toJSONString : Json → String) (acc : ConvertedParts) (part : GeminiPart) : ConvertedParts :=
  if part.text ≠ "" then { acc with media := acc.media ++ [.text part.text] }
  else match part.inlineData, part.fileData, part.functionCall, part.functionResponse with
    | some (mimeType, data), _, _, _ => { acc with media := acc.media ++ [.imageUrl ("data:" ++ mimeType ++ ";base64," ++ data)] }
    | none, some uri, _, _ => { acc with media := acc.media ++ [.imageUrl uri] }
    | none, none, some (name, args), _ =>
      { acc with toolCalls := acc.toolCalls ++ [⟨s!"call_{acc.toolCalls.length + 1}", name, toJSONString args⟩] }
    | none, none, none, some (_, response) =>
      let message : OpenAIMessage :=
        { role := "tool", content := .str (toJSONString response), toolCallId := s!"call_{acc.toolCalls.length}" }
      { acc with responses := acc.responses ++ [message] }
    | none, none, none, none => acc

/-- The messages of one content: those of its responses, and one for the rest. -/
def convertContent (toJSONString : Json → String) (content : GeminiContent) : List OpenAIMessage :=
  let acc := content.parts.foldl (ConvertedParts.add toJSONString) {}
  let message : OpenAIMessage := { role := convertGeminiRoleToOpenAI content.role }
  acc.responses ++
    if acc.toolCalls ≠ [] then [{ message with toolCalls := acc.toolCalls }]
    else match acc.media with
      | [] => []
      | [.text text] => [{ message with content := .str text }]
      | media => [{ message with content := .media media }]

/-- `messages`, with the system instructions before them. -/
def geminiMessages (toJSONString : Json → String) (req : GeminiChatRequest) : List OpenAIMessage :=
  let system := req.systemInstructions.map fun parts : List GeminiPart =>
    { role := "system", content := .str ("\n".intercalate ((parts.map GeminiPart.text).filter (· ≠ ""))) : OpenAIMessage }
  system.toList ++ req.contents.flatMap (convertContent toJSONString)

/-- The messages and the stop sequences of `GeminiToOpenAIRequest`. -/
def geminiToOpenAIRequest (toJSONString : Json → String) (req : GeminiChatRequest) : Outcome (List OpenAIMessage × List String) := do
  let stop ← if req.stopSequences.elems ≠ [] then req.stopSequences.upTo 4 else pure []
  return (geminiMessages toJSONString req, stop)

/-! ## Responses -/

/-- A choice of an OpenAI response, its content as `StringContent` reads it. -/
structure OpenAIChoice where
  content : String
  toolCalls : List OpenAIToolCall
  finishReason : String

/-- What the arguments of a call decode to, where they are an object. -/
abbrev DecodeArguments := String → Option (List (String × Json))

/-- A block of a Claude response; arguments that are no object stay a text. -/
inductive ClaudeReplyBlock where
  | text (text : String)
  | toolUse (id name : String) (input : List (String × Json) ⊕ String)

variable (decode : DecodeArguments)

def claudeCall (call : OpenAIToolCall) : ClaudeReplyBlock :=
  .toolUse call.id call.name ((decode call.arguments).elim (.inr call.arguments) .inl)

/-- The content of `ResponseOpenAI2Claude` for a choice. -/
def responseOpenAI2Claude (choice : OpenAIChoice) : List ClaudeReplyBlock :=
  if choice.finishReason = "tool_calls" then choice.toolCalls.map (claudeCall decode) else [.text choice.content]

inductive GeminiReplyPart where
  | text (text : String)
  | functionCall (name : String) (args : List (String × Json))

/-- The part of a tool call, or of a fragment of one. -/
def geminiCall (name arguments : String) : GeminiReplyPart :=
  .functionCall name (if arguments = "" then [] else (decode arguments).getD [("arguments", .str arguments)])

/-- The parts of a choice: calls, or else a text. -/
def geminiParts (calls : List GeminiReplyPart) (text : String) : List GeminiReplyPart :=
  if calls ≠ [] then calls else if text ≠ "" then [.text text] else []

/-- The parts of `ResponseOpenAI2Gemini` for a choice. -/
def responseOpenAI2Gemini (choice : OpenAIChoice) : List GeminiReplyPart :=
  geminiParts (choice.toolCalls.map fun call => geminiCall decode call.name call.arguments) choice.content

/-- The parts of a choice of a chunk: its calls where the slice of them is not nil, be it empty, or else its text. -/
def streamedParts (delta : StreamDelta) : List GeminiReplyPart :=
  match delta.calls with
  | some calls => calls.map fun call => geminiCall decode call.name call.arguments
  | none => if delta.getContentString ≠ "" then [.text delta.getContentString] else []

/-- `StreamResponseOpenAI2Gemini`: the index and the parts of each choice, or nothing for a chunk without content and finish reason. -/
def streamResponseOpenAI2Gemini (chunk : StreamResponse) : Option (List (Int × List GeminiReplyPart)) :=
  if chunk.choices.any fun c => c.delta.getContentString ≠ "" || c.delta.toolCalls ≠ [] || c.finishReason.isSome then
    some (chunk.choices.map fun c => (c.index, streamedParts decode c.delta))
  else none

end NewApi
