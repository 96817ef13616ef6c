import Mathlib.Data.Finset.Basic
import NewApi.Relay.StreamResponse

/-!
# Converting a chat stream for a Claude client

`StreamResponseOpenAI2Claude` of `service/convert.go`, and the handlers of `relay/channel/openai` that feed it: all chunks but the last
through `HandleStreamFormat`, which counts them, and the last through `HandleFinalResponse`, which does not. The converter keeps which
kind of block is open and where, and turns a chunk into events of the Claude protocol.
-/

namespace NewApi

/-! ## Events -/

/-- `dto.ClaudeUsage`; the cache writes are those of five minutes and of an hour. -/
structure ClaudeUsage where
  inputTokens : Int
  outputTokens : Int
  cacheCreationInputTokens : Int
  cacheReadInputTokens : Int
  cacheCreation : Option (Int × Int)
  deriving DecidableEq, Repr

/-- The content block of a `content_block_start`. -/
inductive ClaudeBlock where
  | text
  | thinking
  | toolUse (id name : String)
  deriving DecidableEq, Repr

inductive ClaudeDelta where
  | text (text : String)
  | thinking (thinking : String)
  | inputJson (partialJson : String)
  deriving DecidableEq, Repr

/-- `dto.ClaudeResponse`, by its type. -/
inductive ClaudeEvent where
  | messageStart (id model : String) (inputTokens : Int)
  | contentBlockStart (index : Int) (block : ClaudeBlock)
  | contentBlockDelta (index : Int) (delta : ClaudeDelta)
  | contentBlockStop (index : Int)
  | messageDelta (usage : ClaudeUsage) (stopReason : String)
  | messageStop
  deriving DecidableEq, Repr

def normalizeCacheCreationSplit (totalTokens tokens5m tokens1h : Int) : Int × Int :=
  (tokens5m + max (totalTokens - tokens5m - tokens1h) 0, tokens1h)

def buildClaudeUsageFromOpenAIUsage (usage : Usage) : ClaudeUsage :=
  let split := normalizeCacheCreationSplit usage.promptTokensDetails.cachedCreationTokens usage.claudeCacheCreation5mTokens
    usage.claudeCacheCreation1hTokens
  ⟨usage.promptTokens, usage.completionTokens, usage.promptTokensDetails.cachedCreationTokens,
    usage.promptTokensDetails.cachedTokens, if 0 < split.1 ∨ 0 < split.2 then some split else none⟩

def stopReasonOpenAI2Claude (reason : String) : String :=
  match reason.map Char.toLower with
  | "stop" => "end_turn"
  | "stop_sequence" => "stop_sequence"
  | "length" | "max_tokens" => "max_tokens"
  | "content_filter" => "refusal"
  | "tool_calls" => "tool_use"
  | _ => reason

/-! ## The converter -/

inductive LastMessageType where
  | none | text | tools | thinking
  deriving DecidableEq, Repr

/-- `ClaudeConvertInfo`, with `SendResponseCount` of the request. -/
structure ClaudeConvertInfo where
  lastMessagesType : LastMessageType := .none
  index : Int := 0
  usage : Option Usage := none
  finishReason : String := ""
  done : Bool := false
  toolCallBaseIndex : Int := 0
  toolCallMaxIndexOffset : Int := 0
  sendResponseCount : Nat := 0
  deriving DecidableEq, Repr

namespace ClaudeConvertInfo

def stopOpenBlocks (info : ClaudeConvertInfo) : List ClaudeEvent :=
  match info.lastMessagesType with
  | .none => []
  | .text | .thinking => [.contentBlockStop info.index]
  | .tools => (List.range (info.toolCallMaxIndexOffset + 1).toNat).map fun offset : Nat =>
      .contentBlockStop (info.toolCallBaseIndex + offset)

def stopOpenBlocksAndAdvance (info : ClaudeConvertInfo) : ClaudeConvertInfo × List ClaudeEvent :=
  match info.lastMessagesType with
  | .none => (info, [])
  | .tools =>
    ({ info with
        index := info.toolCallBaseIndex + info.toolCallMaxIndexOffset + 1, toolCallBaseIndex := 0, toolCallMaxIndexOffset := 0,
        lastMessagesType := .none }, info.stopOpenBlocks)
  | .text | .thinking => ({ info with index := info.index + 1, lastMessagesType := .none }, info.stopOpenBlocks)

/-- The close of a message: the open blocks are stopped, the usage follows where there is one, and the end. -/
def closeMessage (usage : Option Usage) (stopReason : String) (info : ClaudeConvertInfo) : ClaudeConvertInfo × List ClaudeEvent :=
  let delta := match usage with
    | some usage => [.messageDelta (buildClaudeUsageFromOpenAIUsage usage) stopReason]
    | none => []
  ({ info with done := true }, info.stopOpenBlocks ++ delta ++ [.messageStop])

/-- The first chunk's text or thinking: a block of its own. -/
def openBlock (kind : LastMessageType) (block : ClaudeBlock) (delta : ClaudeDelta) (info : ClaudeConvertInfo) :
    ClaudeConvertInfo × List ClaudeEvent :=
  let (info, stops) := if info.lastMessagesType ≠ kind then info.stopOpenBlocksAndAdvance else (info, [])
  ({ info with lastMessagesType := kind }, stops ++ [.contentBlockStart info.index block, .contentBlockDelta info.index delta])

/-- A later chunk's text or thinking: the open block where it is of that kind, and a new one where it is not. -/
def fillBlock (kind : LastMessageType) (block : ClaudeBlock) (delta : ClaudeDelta) (info : ClaudeConvertInfo) :
    ClaudeConvertInfo × List ClaudeEvent :=
  let (info, opens) :=
    if info.lastMessagesType ≠ kind then
      let (info, stops) := info.stopOpenBlocksAndAdvance
      (info, stops ++ [.contentBlockStart info.index block])
    else (info, [])
  ({ info with lastMessagesType := kind }, opens ++ [.contentBlockDelta info.index delta])

/-- The first chunk's tool call: of several, the first one only, as block 0. -/
def openCall (calls : List ToolCallResponse) (info : ClaudeConvertInfo) : ClaudeConvertInfo × List ClaudeEvent :=
  match calls with
  | [] => (info, [])
  | call :: _ =>
    ({ info with lastMessagesType := .tools, toolCallBaseIndex := 0, toolCallMaxIndexOffset := 0 },
      .contentBlockStart 0 (.toolUse call.id call.name) ::
        if call.arguments ≠ "" then [.contentBlockDelta 0 (.inputJson call.arguments)] else [])

/-- What the first chunk adds to the message: a tool call, and then reasoning, or else content. -/
def openFirst (delta : StreamDelta) (info : ClaudeConvertInfo) : ClaudeConvertInfo × List ClaudeEvent :=
  let (info, call) := info.openCall delta.toolCalls
  let reasoning := delta.getReasoningContent
  let content := delta.getContentString
  let (info, text) :=
    if reasoning ≠ "" then info.openBlock .thinking .thinking (.thinking reasoning)
    else if content ≠ "" then info.openBlock .text .text (.text content)
    else (info, [])
  (info, call ++ text)

/-- The first chunk: the message is started, and closed at once where the chunk finishes. -/
def firstChunk (estimatePromptTokens : Int) (chunk : StreamResponse) (info : ClaudeConvertInfo) : ClaudeConvertInfo × List ClaudeEvent :=
  let start := ClaudeEvent.messageStart chunk.id chunk.model estimatePromptTokens
  match chunk.choices with
  | [] => (info, [start])
  | choice :: _ =>
    let (info, body) := info.openFirst choice.delta
    if choice.isFinished then
      let info := { info with finishReason := choice.finishReason.getD "" }
      let (info, close) := info.closeMessage (chunk.usage.or info.usage) (stopReasonOpenAI2Claude info.finishReason)
      (info, start :: body ++ close)
    else (info, start :: body)

/-- The fragments of a chunk, from the `i`-th on, for calls whose blocks start at `base`: the highest index that came, and the
events. -/
def callFragments (base : Int) : List ToolCallResponse → Nat → Int → Int × List ClaudeEvent
  | [], _, maxOffset => (maxOffset, [])
  | call :: rest, i, maxOffset =>
    let offset := call.index.getD i
    let starts := if call.name ≠ "" then [ClaudeEvent.contentBlockStart (base + offset) (.toolUse call.id call.name)] else []
    let fills := if call.arguments ≠ "" then [ClaudeEvent.contentBlockDelta (base + offset) (.inputJson call.arguments)] else []
    let (maxOffset, events) := callFragments base rest (i + 1) (max maxOffset offset)
    (maxOffset, starts ++ fills ++ events)

/-- A later chunk's tool calls: they go on with the run of calls that is open, and start one where none is. -/
def fillCalls (calls : List ToolCallResponse) (info : ClaudeConvertInfo) : ClaudeConvertInfo × List ClaudeEvent :=
  let (info, stops) :=
    if info.lastMessagesType ≠ .tools then
      let (info, stops) := info.stopOpenBlocksAndAdvance
      ({ info with toolCallBaseIndex := info.index, toolCallMaxIndexOffset := 0 }, stops)
    else (info, [])
  let (maxOffset, events) := callFragments info.toolCallBaseIndex calls 0 info.toolCallMaxIndexOffset
  ({ info with
      lastMessagesType := .tools, toolCallMaxIndexOffset := maxOffset, index := info.toolCallBaseIndex + maxOffset },
    stops ++ events)

/-- What a later chunk adds to the message: tool calls, else reasoning, else content. -/
def fill (delta : StreamDelta) (info : ClaudeConvertInfo) : ClaudeConvertInfo × List ClaudeEvent :=
  let reasoning := delta.getReasoningContent
  let content := delta.getContentString
  if delta.toolCalls ≠ [] then info.fillCalls delta.toolCalls
  else if reasoning ≠ "" then info.fillBlock .thinking .thinking (.thinking reasoning)
  else if content ≠ "" then info.fillBlock .text .text (.text content)
  else (info, [])

/-- A later chunk without choices: the end, where the usage is known. -/
def usageChunk (chunk : StreamResponse) (info : ClaudeConvertInfo) : ClaudeConvertInfo × List ClaudeEvent :=
  match chunk.usage.or info.usage with
  | none => (info, [])
  | some usage =>
    let stopReason := stopReasonOpenAI2Claude info.finishReason
    info.closeMessage (some usage) (if stopReason = "" then "end_turn" else stopReason)

/-- A later chunk with a choice. One that finishes without a usage of its own is left out, for a chunk with the usage to come. -/
def laterChunk (chunk : StreamResponse) (choice : StreamChoice) (info : ClaudeConvertInfo) : ClaudeConvertInfo × List ClaudeEvent :=
  if choice.isFinished then
    let info := { info with finishReason := choice.finishReason.getD "" }
    match chunk.usage with
    | none => (info, [])
    | some usage =>
      let (info, body) := info.fill choice.delta
      let (info, close) := info.closeMessage (some usage) (stopReasonOpenAI2Claude info.finishReason)
      (info, body ++ close)
  else info.fill choice.delta

def streamResponseOpenAI2Claude (estimatePromptTokens : Int) (chunk : StreamResponse) (info : ClaudeConvertInfo) :
    ClaudeConvertInfo × List ClaudeEvent :=
  if info.done then (info, [])
  else if info.sendResponseCount = 1 then info.firstChunk estimatePromptTokens chunk
  else match chunk.choices with
    | [] => info.usageChunk chunk
    | choice :: _ => info.laterChunk chunk choice

/-! ## The handlers -/

def handleStreamFormat (estimatePromptTokens : Int) (chunk : StreamResponse) (info : ClaudeConvertInfo) :
    ClaudeConvertInfo × List ClaudeEvent :=
  streamResponseOpenAI2Claude estimatePromptTokens chunk
    { info with sendResponseCount := info.sendResponseCount + 1, usage := chunk.usage.or info.usage }

/-- `HandleFinalResponse`, with the usage the stream was found to have. -/
def handleFinalResponse (estimatePromptTokens : Int) (usage : Usage) (last : StreamResponse) (info : ClaudeConvertInfo) :
    ClaudeConvertInfo × List ClaudeEvent :=
  let (info, events) := streamResponseOpenAI2Claude estimatePromptTokens last { info with usage := some usage }
  ({ info with done := true }, events)

/-- The handling of the chunks of a stream from a chunk on, each when the next has come and the last at the end. -/
def handleChunks (estimatePromptTokens : Int) (usage : Usage) : List StreamResponse → ClaudeConvertInfo → List ClaudeEvent
  | [], _ => []
  | [last], info => (info.handleFinalResponse estimatePromptTokens usage last).2
  | chunk :: rest, info =>
    let (info, events) := info.handleStreamFormat estimatePromptTokens chunk
    events ++ handleChunks estimatePromptTokens usage rest info

end ClaudeConvertInfo

/-- `OaiStreamHandler` for a Claude client: all that is sent for a list of chunks. The usage is the last chunk's, or counted from the
text. -/
def claudeStreamHandler (estimatePromptTokens : Int) (usage : Usage) (chunks : List StreamResponse) : List ClaudeEvent :=
  ClaudeConvertInfo.handleChunks estimatePromptTokens usage chunks {}

/-! ## The stream a client reads -/

/-- Where a client stands in a stream: before it, in a message with the index of the next block and the blocks that are open, after the
usage, after the end. -/
inductive ReaderState where
  | start
  | message (next : Int) (opened : Finset Int)
  | closing
  | ended
  deriving DecidableEq

/-- The protocol: a message is started first, blocks are started with consecutive indices, filled and stopped while they are open, and
when all are stopped the usage and the end follow. `none` is a client that has given up. -/
def readEvent : Option ReaderState → ClaudeEvent → Option ReaderState
  | some .start, .messageStart _ _ _ => some (.message 0 ∅)
  | some (.message next opened), .contentBlockStart index _ =>
    if index = next then some (.message (next + 1) (insert index opened)) else none
  | some (.message next opened), .contentBlockDelta index _ => if index ∈ opened then some (.message next opened) else none
  | some (.message next opened), .contentBlockStop index =>
    if index ∈ opened then some (.message next (opened.erase index)) else none
  | some (.message _ opened), .messageDelta _ _ => if opened = ∅ then some .closing else none
  | some .closing, .messageStop => some .ended
  | _, _ => none

/-- The events of a whole message, in an order the protocol allows. -/
def WellFormed (events : List ClaudeEvent) : Prop := Run.exec readEvent (some .start) events = some .ended

instance (events : List ClaudeEvent) : Decidable (WellFormed events) :=
  inferInstanceAs (Decidable (Run.exec readEvent (some .start) events = some .ended))

end NewApi
