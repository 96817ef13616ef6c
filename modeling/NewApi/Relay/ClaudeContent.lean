import NewApi.Lib.Parts
import NewApi.Relay.ClaudeStream

/-!
# The content of a converted stream

What the chunks of a chat stream carry, which of them the converter handles and how it counts them, and what the events it sends say. A
chunk may carry reasoning, content and fragments of tool calls at once. The converter takes from the first chunk one call and then
reasoning or else content, from a later one calls, or else reasoning, or else content, and from a later one that finishes without a usage
of its own nothing.
-/

namespace NewApi

open Parts

/-! ## The chunks that are handled -/

def StreamResponse.choice (chunk : StreamResponse) : StreamChoice := chunk.choices.headD {}

/-- A chunk, and whether the converter counts it as the first. -/
structure CountedChunk where
  first : Bool
  chunk : StreamResponse

/-- How the chunks of a stream are counted: the first as the first, where it is not the last, and the last of two once more. -/
def countChunks : List StreamResponse → List CountedChunk
  | [] => []
  | [only] => [⟨false, only⟩]
  | [first, last] => [⟨true, first⟩, ⟨true, last⟩]
  | first :: rest => ⟨true, first⟩ :: rest.map (CountedChunk.mk false)

namespace CountedChunk

def delta (c : CountedChunk) : StreamDelta := c.chunk.choice.delta

/-- The chunk ends the message: it finishes, and is the first or has a usage of its own. -/
def ends (c : CountedChunk) : Bool := c.chunk.choice.isFinished && (c.first || c.chunk.usage.isSome)

/-- The chunk finishes and is neither: it is left out. -/
def leftOut (c : CountedChunk) : Bool := c.chunk.choice.isFinished && !(c.first || c.chunk.usage.isSome)

end CountedChunk

/-- No more than a first chunk's part is taken: the arguments of one call, and reasoning or content. -/
def StreamDelta.WholeFirst (delta : StreamDelta) : Prop :=
  (∀ call ∈ delta.toolCalls.tail, call.arguments = "") ∧ (delta.getReasoningContent = "" ∨ delta.getContentString = "")

/-- No more than a later chunk's part is taken: calls, or reasoning, or content. -/
def StreamDelta.WholeLater (delta : StreamDelta) : Prop :=
  (delta.getReasoningContent = "" ∨ delta.getContentString = "") ∧
    (delta.toolCalls = [] ∨ delta.getReasoningContent = "" ∧ delta.getContentString = "")

def StreamDelta.Empty (delta : StreamDelta) : Prop :=
  (∀ call ∈ delta.toolCalls, call.arguments = "") ∧ delta.getReasoningContent = "" ∧ delta.getContentString = ""

/-- The chunk carries no more than is taken of it. -/
def CountedChunk.Whole (c : CountedChunk) : Prop :=
  if c.first then c.delta.WholeFirst else if c.leftOut then c.delta.Empty else c.delta.WholeLater

instance (delta : StreamDelta) : Decidable delta.WholeFirst := inferInstanceAs (Decidable (_ ∧ _))

instance (delta : StreamDelta) : Decidable delta.WholeLater := inferInstanceAs (Decidable (_ ∧ _))

instance (delta : StreamDelta) : Decidable delta.Empty := inferInstanceAs (Decidable (_ ∧ _))

instance (c : CountedChunk) : Decidable c.Whole :=
  inferInstanceAs (Decidable (if c.first then c.delta.WholeFirst else if c.leftOut then c.delta.Empty else c.delta.WholeLater))

/-- The chunks up to the one that ends the message. -/
def upToEnd : List CountedChunk → List CountedChunk
  | [] => []
  | c :: rest => c :: if c.ends then [] else upToEnd rest

def handledChunks (chunks : List StreamResponse) : List CountedChunk := upToEnd (countChunks chunks)

/-! ## What is sent, and of what -/

/-- The deltas of a stream of events, with the blocks they fill. -/
def blockDeltas (events : List ClaudeEvent) : List (Int × ClaudeDelta) :=
  events.filterMap fun
    | .contentBlockDelta index delta => some (index, delta)
    | _ => none

def textOf (events : List ClaudeEvent) : String :=
  String.join ((blockDeltas events).filterMap fun
    | (_, .text text) => some text
    | _ => none)

def thinkingOf (events : List ClaudeEvent) : String :=
  String.join ((blockDeltas events).filterMap fun
    | (_, .thinking thinking) => some thinking
    | _ => none)

/-- The parts of tool input, by block. -/
def inputParts (events : List ClaudeEvent) : List (Int × String) :=
  (blockDeltas events).filterMap fun
    | (index, .inputJson partialJson) => some (index, partialJson)
    | _ => none

/-- The arguments of a fragment, the call it is of, and where the converter places it: in which run of calls, with which index. -/
structure ArgumentPart (κ : Type*) where
  call : κ
  place : Nat × Int
  text : String

section
variable {κ : Type*}

/-- The fragments of the `n`-th chunk, from the `i`-th on. The first chunk's are placed as the first call of the first run. -/
def chunkParts (call : Nat → Nat → κ) (n run : Nat) (first : Bool) : List ToolCallResponse → Nat → List (ArgumentPart κ)
  | [], _ => []
  | fragment :: rest, i =>
    ⟨call n i, if first then (0, 0) else (run, fragment.index.getD i), fragment.arguments⟩ :: chunkParts call n run first rest (i + 1)

/-- The fragments of the chunks, from the `n`-th on: a run of calls lasts until there is reasoning or content. -/
def argumentParts (call : Nat → Nat → κ) : Nat → Nat → List CountedChunk → List (ArgumentPart κ)
  | _, _, [] => []
  | n, run, c :: rest =>
    chunkParts call n run c.first c.delta.toolCalls 0 ++
      argumentParts call (n + 1)
        (if c.delta.getReasoningContent ≠ "" ∨ c.delta.getContentString ≠ "" then run + 1 else run) rest

def callTexts (call : Nat → Nat → κ) (cs : List CountedChunk) : List (κ × String) :=
  (argumentParts call 0 0 cs).map fun part => (part.call, part.text)

/-- No content is lost, where the `i`-th fragment of the `n`-th chunk is of the call `call n i`: the text is the content, the thinking is
the reasoning, and for every call the input sent to its block is its arguments. -/
def ContentKept [DecidableEq κ] (call : Nat → Nat → κ) (cs : List CountedChunk) (events : List ClaudeEvent) : Prop :=
  textOf events = String.join (cs.map fun c => c.delta.getContentString) ∧
    thinkingOf events = String.join (cs.map fun c => c.delta.getReasoningContent) ∧
    ∃ block : κ → Int,
      Set.InjOn block {k | textAt (callTexts call cs) k ≠ ""} ∧ ∀ k, textAt (inputParts events) (block k) = textAt (callTexts call cs) k

/-- The calls are those the converter tells apart: fragments are of one call exactly when they come with one index in one run, and no
index is negative. -/
def CallsPlaced (call : Nat → Nat → κ) (cs : List CountedChunk) : Prop :=
  ∀ part ∈ argumentParts call 0 0 cs, ∀ other ∈ argumentParts call 0 0 cs, part.text ≠ "" → other.text ≠ "" →
    0 ≤ part.place.2 ∧ (part.call = other.call ↔ part.place = other.place)

end

end NewApi
