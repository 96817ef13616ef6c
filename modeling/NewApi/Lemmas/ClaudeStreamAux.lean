import NewApi.Relay.ClaudeStream

/-!
# The converter of chat streams

What the results about the converted stream share: what a chunk leaves as it was, and how the handlers go through the chunks.
-/

namespace NewApi

namespace ClaudeStreamAux

open ClaudeConvertInfo

variable {info : ClaudeConvertInfo}

/-! ## The rest of the converter's state -/

/-- The two states agree on everything but the blocks. -/
structure SameRest (info info' : ClaudeConvertInfo) : Prop where
  usage : info'.usage = info.usage
  done : info'.done = info.done
  count : info'.sendResponseCount = info.sendResponseCount

/-- Stopping the open blocks changes only them. -/
theorem sameRest_advance (info : ClaudeConvertInfo) : SameRest info info.stopOpenBlocksAndAdvance.1 := by
  unfold stopOpenBlocksAndAdvance
  cases info.lastMessagesType <;> exact ⟨rfl, rfl, rfl⟩

/-- Filling a block changes only the blocks. -/
theorem sameRest_fillBlock (kind : LastMessageType) (block : ClaudeBlock) (delta : ClaudeDelta) :
    SameRest info (info.fillBlock kind block delta).1 := by
  have hadvance := sameRest_advance info
  unfold fillBlock
  by_cases hsame : info.lastMessagesType = kind
  · simp only [ne_eq, hsame, not_true_eq_false, if_false]
    exact ⟨rfl, rfl, rfl⟩
  · simp only [ne_eq, hsame, not_false_eq_true, if_true]
    exact ⟨hadvance.usage, hadvance.done, hadvance.count⟩

/-- A later chunk changes only the blocks. -/
theorem sameRest_fill (info : ClaudeConvertInfo) (delta : StreamDelta) : SameRest info (info.fill delta).1 := by
  unfold fill
  simp only
  split
  · have hadvance := sameRest_advance info
    unfold fillCalls
    by_cases htools : info.lastMessagesType = .tools
    · simp only [ne_eq, htools, not_true_eq_false, if_false]
      exact ⟨rfl, rfl, rfl⟩
    · simp only [ne_eq, htools, not_false_eq_true, if_true]
      exact ⟨hadvance.usage, hadvance.done, hadvance.count⟩
  · split
    · exact sameRest_fillBlock _ _ _
    split
    · exact sameRest_fillBlock _ _ _
    · exact ⟨rfl, rfl, rfl⟩

/-- The first chunk's call is taken where nothing or a call is open, and the rest is added as a later one's. -/
theorem openFirst_eq (htype : info.lastMessagesType = .none) (delta : StreamDelta) : info.openFirst delta =
      let (opened, call) := info.openCall delta.toolCalls
      let (filled, text) := opened.fill { delta with calls := none }
      (filled, call ++ text) := by
  have hkind : (info.openCall delta.toolCalls).1.lastMessagesType = .none ∨
      (info.openCall delta.toolCalls).1.lastMessagesType = .tools := by
    cases delta.toolCalls with
    | nil => exact .inl htype
    | cons call calls => exact .inr rfl
  have hblock : ∀ {kind : LastMessageType} (block : ClaudeBlock) (filled : ClaudeDelta), kind = .text ∨ kind = .thinking →
      (info.openCall delta.toolCalls).1.openBlock kind block filled = (info.openCall delta.toolCalls).1.fillBlock kind block filled := by
    intro kind block filled hof
    have hne : (info.openCall delta.toolCalls).1.lastMessagesType ≠ kind := by
      rcases hkind with hkind | hkind <;> rcases hof with rfl | rfl <;> rw [hkind] <;> decide
    simp [openBlock, fillBlock, hne]
  unfold openFirst fill
  simp only [hblock _ _ (.inl rfl), hblock _ _ (.inr rfl)]
  rfl

/-- The first chunk changes only the blocks. -/
theorem sameRest_openFirst (htype : info.lastMessagesType = .none) (delta : StreamDelta) : SameRest info (info.openFirst delta).1 := by
  have hcall : SameRest info (info.openCall delta.toolCalls).1 := by
    cases delta.toolCalls <;> exact ⟨rfl, rfl, rfl⟩
  have hfill := sameRest_fill (info.openCall delta.toolCalls).1 { delta with calls := none }
  rw [openFirst_eq htype]
  exact ⟨hfill.usage.trans hcall.usage, hfill.done.trans hcall.done, hfill.count.trans hcall.count⟩

/-! ## The chunks one after the other -/

theorem handleChunks_cons (estimate : Int) (usage : Usage) (chunk next : StreamResponse) (rest : List StreamResponse)
    : handleChunks estimate usage (chunk :: next :: rest) info = (info.handleStreamFormat estimate chunk).2 ++
        handleChunks estimate usage (next :: rest) (info.handleStreamFormat estimate chunk).1 := rfl

/-- After the end nothing is sent. -/
theorem handleChunks_done (h : info.done = true) (estimate : Int) (usage : Usage)
    (chunks : List StreamResponse) : handleChunks estimate usage chunks info = [] := by
  induction chunks generalizing info with
  | nil => rfl
  | cons chunk rest ih =>
    cases rest with
    | nil => simp [handleChunks, handleFinalResponse, streamResponseOpenAI2Claude, h]
    | cons next rest =>
      have hstep : info.handleStreamFormat estimate chunk =
          ({ info with sendResponseCount := info.sendResponseCount + 1, usage := chunk.usage.or info.usage }, []) := by
        simp [handleStreamFormat, streamResponseOpenAI2Claude, h]
      rw [handleChunks_cons, hstep]
      exact ih h

def later (chunk : StreamResponse) (info : ClaudeConvertInfo) : ClaudeConvertInfo × List ClaudeEvent :=
  match chunk.choices with
  | [] => info.usageChunk chunk
  | choice :: _ => info.laterChunk chunk choice

/-- A chunk in the middle goes through `later`. -/
theorem handleStreamFormat_later (hdone : info.done = false) (hcount : 1 ≤ info.sendResponseCount)
    (estimate : Int) (chunk : StreamResponse) : info.handleStreamFormat estimate chunk =
      later chunk { info with sendResponseCount := info.sendResponseCount + 1, usage := chunk.usage.or info.usage } := by
  unfold handleStreamFormat streamResponseOpenAI2Claude later
  rw [hdone]
  refine (if_neg Bool.false_ne_true).trans ((if_neg ?_).trans ?_)
  · simp only
    omega
  · cases chunk.choices <;> rfl

/-- So does the last chunk, unless it is the first as well. -/
theorem handleFinalResponse_later (hdone : info.done = false) (hcount : info.sendResponseCount ≠ 1)
    (estimate : Int) (usage : Usage) (last : StreamResponse) :
    (info.handleFinalResponse estimate usage last).2 = (later last { info with usage := some usage }).2 := by
  have hlater : streamResponseOpenAI2Claude estimate last { info with usage := some usage } =
      later last { info with usage := some usage } := by
    unfold streamResponseOpenAI2Claude later
    rw [hdone]
    refine (if_neg Bool.false_ne_true).trans ((if_neg hcount).trans ?_)
    cases last.choices <;> rfl
  unfold handleFinalResponse
  rw [hlater]

end ClaudeStreamAux

end NewApi
