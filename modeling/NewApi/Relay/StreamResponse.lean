import NewApi.Billing.TieredExpr

/-!
# Chat chunks and their handler

`relay/channel/openai/relay-openai.go` and `helper.go`: the chunks an upstream streams, and how `OaiStreamHandler` hands them on to a
client that speaks the same format, without `force_format` and `thinking_to_content`. A chunk is handled when the next one has come, so
the last one is at hand when the stream has ended, and is sent or kept back by a rule of its own.
-/

namespace NewApi

/-! ## Chunks -/

/-- `dto.ToolCallResponse`: a fragment of a tool call. -/
structure ToolCallResponse where
  index : Option Int := none
  id : String := ""
  name : String := ""
  arguments : String := ""
  deriving DecidableEq, Repr

/-- `dto.ChatCompletionsStreamResponseChoiceDelta`; the slice of its calls may be nil. -/
structure StreamDelta where
  content : Option String := none
  reasoningContent : Option String := none
  reasoning : Option String := none
  calls : Option (List ToolCallResponse) := none
  deriving DecidableEq, Repr

def StreamDelta.toolCalls (delta : StreamDelta) : List ToolCallResponse := delta.calls.getD []

def StreamDelta.getContentString (delta : StreamDelta) : String := delta.content.getD ""

def StreamDelta.getReasoningContent (delta : StreamDelta) : String :=
  match delta.reasoningContent with
  | some text => text
  | none => delta.reasoning.getD ""

structure StreamChoice where
  delta : StreamDelta := {}
  finishReason : Option String := none
  index : Int := 0
  deriving DecidableEq, Repr

/-- The choice has a finish reason that is not empty. -/
def StreamChoice.isFinished (choice : StreamChoice) : Bool := decide (choice.finishReason.getD "" ≠ "")

structure StreamResponse where
  id : String := ""
  created : Int := 0
  model : String := ""
  systemFingerprint : Option String := none
  choices : List StreamChoice := []
  usage : Option Usage := none
  deriving DecidableEq, Repr

def validUsage : Option Usage → Bool
  | some usage => decide (usage.promptTokens ≠ 0 ∨ usage.completionTokens ≠ 0)
  | none => false

/-! ## Handing chunks on -/

/-- What a client of the same format is written: a chunk as it came, the usage the gateway adds, the end of the stream. -/
inductive ClientData where
  | chunk (response : StreamResponse)
  | finalUsage (response : StreamResponse)
  | done
  deriving DecidableEq, Repr

/-- What `handleLastResponse` finds out from the last chunk. -/
structure LastResponse where
  id : String := ""
  created : Int := 0
  systemFingerprint : String := ""
  model : String
  usage : Option Usage
  shouldSend : Bool := true
  deriving DecidableEq, Repr

/-- `handleLastResponse`: a last chunk with a valid usage is kept back from a client that did not ask for the usage, unless one of its
choices has content or reasoning. `usage` is the one found before, where there is one. -/
def handleLastResponse (shouldIncludeUsage : Bool) (model : String) (usage : Option Usage) : Option StreamResponse → LastResponse
  | none => { model := model, usage := usage }
  | some last =>
    let read : LastResponse := ⟨last.id, last.created, last.systemFingerprint.getD "", last.model, usage, true⟩
    if validUsage last.usage then
      { read with
        usage := last.usage
        shouldSend := shouldIncludeUsage || last.choices.any fun choice =>
          choice.delta.getContentString ≠ "" || choice.delta.getReasoningContent ≠ "" }
    else read

/-- What the handler knows of the request. The usage counted from the streamed text stands where no chunk reports one. -/
structure StreamInfo where
  shouldIncludeUsage : Bool
  upstreamModelName : String
  isAudioModel : Bool
  countedUsage : List StreamResponse → Usage

/-- The usage an audio model reports in the chunk before the last. -/
def audioUsage (info : StreamInfo) (secondLast : Option StreamResponse) : Option Usage :=
  match secondLast with
  | some chunk => if info.isAudioModel && validUsage chunk.usage then chunk.usage else none
  | none => none

/-- The state of the scan: the chunk that is not handled yet, the one before it, and what was written. -/
structure ScanState where
  last : Option StreamResponse := none
  secondLast : Option StreamResponse := none
  written : List ClientData := []

/-- The callback of the scanner: the chunk before is handed on, the new one is kept. -/
def ScanState.receive (s : ScanState) (chunk : StreamResponse) : ScanState :=
  match s.last with
  | none => { s with last := some chunk }
  | some last => ⟨some chunk, some last, s.written ++ [.chunk last]⟩

/-- `HandleFinalResponse` for a client of the same format. -/
def finalData (info : StreamInfo) (chunks : List StreamResponse) (read : LastResponse) : List ClientData :=
  if info.shouldIncludeUsage && read.usage.isNone then
    [.finalUsage ⟨read.id, read.created, read.model, some read.systemFingerprint, [], some (info.countedUsage chunks)⟩, .done]
  else [.done]

/-- `OaiStreamHandler` for a client of the same format, from the scan to the end of the stream: all that is written. -/
def oaiStreamHandler (info : StreamInfo) (chunks : List StreamResponse) : List ClientData :=
  let scan := chunks.foldl ScanState.receive {}
  let read := handleLastResponse info.shouldIncludeUsage info.upstreamModelName (audioUsage info scan.secondLast) scan.last
  let last := match scan.last with
    | some last => if read.shouldSend then [.chunk last] else []
    | none => []
  scan.written ++ last ++ finalData info chunks read

/-! ## Chunks that carry something -/

/-- One of the choices has content, reasoning, tool calls or a finish reason. -/
def StreamResponse.carries (chunk : StreamResponse) : Bool :=
  chunk.choices.any fun choice =>
    choice.delta.getContentString ≠ "" || choice.delta.getReasoningContent ≠ "" || choice.delta.toolCalls ≠ [] || choice.isFinished

def writtenChunks (data : List ClientData) : List StreamResponse :=
  data.filterMap fun
    | .chunk response => some response
    | .finalUsage _ | .done => none

end NewApi
