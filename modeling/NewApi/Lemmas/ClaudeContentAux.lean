import NewApi.Lemmas.ClaudeStreamAux
import NewApi.Relay.ClaudeContent

/-!
# What the converter sends

What is taken of each chunk is all sent, and the parts of tool input are sent to blocks that keep the runs of calls apart: first for the
events of one chunk, then for those of a stream.
-/

namespace NewApi

open Parts

namespace ContentAux

open ClaudeConvertInfo ClaudeStreamAux

variable {events more : List ClaudeEvent} {text thinking text' thinking' : String} {info info' : ClaudeConvertInfo} {run : Nat}
  {cs : List CountedChunk} {delta : ClaudeDelta} {chunk : StreamResponse} {inputs inputs' : List (Int × String)} {kind : LastMessageType}
  {c : CountedChunk}

/-! ## What events say -/

/-- The text, the thinking and the tool input of some events. -/
structure Says (events : List ClaudeEvent) (text thinking : String) (inputs : List (Int × String)) : Prop where
  text : textOf events = text
  thinking : thinkingOf events = thinking
  inputs : inputParts events = inputs

/-- What two lists of events say is said one after the other. -/
theorem Says.append (h : Says events text thinking inputs) (h' : Says more text' thinking' inputs') :
    Says (events ++ more) (text ++ text') (thinking ++ thinking') (inputs ++ inputs') := by
  obtain ⟨rfl, rfl, rfl⟩ := h
  obtain ⟨rfl, rfl, rfl⟩ := h'
  constructor <;> simp [textOf, thinkingOf, inputParts, blockDeltas, List.filterMap_append]

/-- Events without a delta say nothing. -/
theorem says_nothing (h : blockDeltas events = []) : Says events "" "" [] := by
  constructor <;> simp [textOf, thinkingOf, inputParts, h]

theorem says_nil : Says [] "" "" [] := says_nothing rfl

theorem blockDeltas_stops (info : ClaudeConvertInfo) : blockDeltas info.stopOpenBlocks = [] := by
  unfold stopOpenBlocks blockDeltas
  cases info.lastMessagesType <;> simp

/-- Closing the message says nothing. -/
theorem says_close (usage : Option Usage) (stopReason : String) : Says (info.closeMessage usage stopReason).2 "" "" [] := by
  have hstops := blockDeltas_stops info
  apply says_nothing
  unfold blockDeltas at hstops ⊢
  cases usage <;> simp [closeMessage, List.filterMap_append, hstops]

/-- Stopping the open blocks says nothing. -/
theorem says_advance : Says info.stopOpenBlocksAndAdvance.2 "" "" [] := by
  have hstops := blockDeltas_stops info
  apply says_nothing
  unfold stopOpenBlocksAndAdvance
  cases info.lastMessagesType <;> first | rfl | exact hstops

/-- Filling a block says its delta, whether the block is open or not. -/
theorem says_fillBlock (kind : LastMessageType) (block : ClaudeBlock)
    (h : ∀ index, Says [.contentBlockDelta index delta] text thinking []) : Says (info.fillBlock kind block delta).2 text thinking [] := by
  have hstart : ∀ index, Says [.contentBlockStart index block] "" "" [] := fun index => says_nothing rfl
  unfold fillBlock
  by_cases hsame : info.lastMessagesType = kind
  · simp only [ne_eq, hsame, not_true_eq_false, if_false, List.nil_append]
    exact h _
  · simp only [ne_eq, hsame, not_false_eq_true, if_true]
    simpa using ((says_advance).append (hstart _)).append (h _)

theorem says_text (index : Int) : Says [.contentBlockDelta index (.text text)] text "" [] := by
  constructor <;> simp [textOf, thinkingOf, inputParts, blockDeltas]

theorem says_thinking (index : Int) : Says [.contentBlockDelta index (.thinking thinking)] "" thinking [] := by
  constructor <;> simp [textOf, thinkingOf, inputParts, blockDeltas]

theorem says_inputJson (index : Int) (json : String) : Says [.contentBlockDelta index (.inputJson json)] "" "" [(index, json)] := by
  constructor <;> simp [textOf, thinkingOf, inputParts, blockDeltas]

/-! ## What is taken of a chunk -/

/-- The content a later chunk is taken for. -/
def spokenOf (delta : StreamDelta) : String :=
  if delta.toolCalls ≠ [] ∨ delta.getReasoningContent ≠ "" then "" else delta.getContentString

/-- The reasoning a later chunk is taken for. -/
def thoughtOf (delta : StreamDelta) : String := if delta.toolCalls ≠ [] then "" else delta.getReasoningContent

/-- The run of calls after a later chunk. -/
def runAfter (run : Nat) (delta : StreamDelta) : Nat := if thoughtOf delta ≠ "" ∨ spokenOf delta ≠ "" then run + 1 else run

/-- The fragments of a later chunk that have arguments. -/
def callParts (run : Nat) : List ToolCallResponse → Nat → List ((Nat × Int) × String)
  | [], _ => []
  | call :: rest, i =>
    (if call.arguments ≠ "" then [((run, call.index.getD i), call.arguments)] else []) ++ callParts run rest (i + 1)

/-- What a chunk is taken for, as a later one: a first chunk after its call. -/
def taken (c : CountedChunk) : StreamDelta :=
  if c.first then { c.delta with calls := none } else if c.leftOut then {} else c.delta

/-- The fragments that are taken of a chunk and have arguments. -/
def takenParts (run : Nat) (c : CountedChunk) : List ((Nat × Int) × String) :=
  if c.first then
    match c.delta.toolCalls with
    | [] => []
    | call :: _ => if call.arguments ≠ "" then [((0, 0), call.arguments)] else []
  else callParts run (taken c).toolCalls 0

/-- The fragments that are taken of some chunks. -/
def allTaken : Nat → List CountedChunk → List ((Nat × Int) × String)
  | _, [] => []
  | run, c :: rest => takenParts run c ++ allTaken (runAfter run (taken c)) rest

/-! ## Where the parts are placed -/

/-- The block of a call with index 0, of the open run or of a new one. -/
def callBase (info : ClaudeConvertInfo) : Int :=
  match info.lastMessagesType with
  | .tools => info.toolCallBaseIndex
  | .none => info.index
  | .text | .thinking => info.index + 1

/-- The first block after those that are open. -/
def nextBlock (info : ClaudeConvertInfo) : Int :=
  match info.lastMessagesType with
  | .tools => info.toolCallBaseIndex + info.toolCallMaxIndexOffset + 1
  | .none => info.index
  | .text | .thinking => info.index + 1

/-- The tool input sent from a state on is that of the parts, run by run: the calls of a run have blocks from the base of the run on, all
before the next run's. -/
def Placed (info : ClaudeConvertInfo) (run : Nat) (inputs : List (Int × String)) (parts : List ((Nat × Int) × String)) : Prop :=
  ∃ base : Nat → Int, inputs = parts.map (fun part => (base part.1.1 + part.1.2, part.2)) ∧
    base run = callBase info ∧ (∀ next, run < next → nextBlock info ≤ base next) ∧ (∀ part ∈ parts, run ≤ part.1.1) ∧
    ∀ part ∈ parts, ∀ other ∈ parts, part.1.1 < other.1.1 → base part.1.1 + part.1.2 < base other.1.1

theorem placed_nil : Placed info run [] [] := by
  refine ⟨Function.update (fun _ => nextBlock info) run (callBase info), rfl, Function.update_self _ _ _, fun next hnext => ?_, ?_, ?_⟩
  · rw [Function.update_of_ne (by omega)]
  · simp
  · simp

/-- Fragments of the run come before those of later chunks. -/
theorem Placed.calls
    {new parts : List ((Nat × Int) × String)} (hbase : callBase info' = callBase info) (hnext : nextBlock info ≤ nextBlock info')
    (hnew : ∀ part ∈ new, part.1.1 = run ∧ callBase info + part.1.2 < nextBlock info') (h : Placed info' run inputs parts) :
    Placed info run (new.map (fun part => (callBase info + part.1.2, part.2)) ++ inputs) (new ++ parts) := by
  obtain ⟨base, rfl, hrun, hlater, hfrom, hapart⟩ := h
  rw [hbase] at hrun
  have hmap : new.map (fun part => (callBase info + part.1.2, part.2)) = new.map fun part => (base part.1.1 + part.1.2, part.2) := by
    refine List.map_congr_left fun part hmem => ?_
    rw [(hnew part hmem).1, hrun]
  refine ⟨base, ?_, hrun, fun next hlt => hnext.trans (hlater next hlt), ?_, ?_⟩
  · rw [hmap, List.map_append]
  · intro part hmem
    rcases List.mem_append.1 hmem with hmem | hmem
    · exact (hnew part hmem).1.ge
    · exact hfrom part hmem
  · intro part hmem other hother hlt
    rcases List.mem_append.1 hmem with hmem | hmem
    · obtain ⟨hof, hblock⟩ := hnew part hmem
      rw [hof] at hlt ⊢
      rw [hrun]
      exact hblock.trans_le (hlater _ hlt)
    · rcases List.mem_append.1 hother with hother | hother
      · have hge := hfrom part hmem
        rw [(hnew other hother).1] at hlt
        omega
      · exact hapart part hmem other hother hlt

/-- Once text or a thought is sent, the next calls are a new run. -/
theorem Placed.speaks
    {parts : List ((Nat × Int) × String)} (hnext : nextBlock info ≤ callBase info') (hbase : callBase info' = nextBlock info')
    (h : Placed info' (run + 1) inputs parts) : Placed info run inputs parts := by
  obtain ⟨base, rfl, hrun, hlater, hfrom, hapart⟩ := h
  have hother : ∀ part ∈ parts, Function.update base run (callBase info) part.1.1 = base part.1.1 := by
    intro part hmem
    have hge := hfrom part hmem
    exact Function.update_of_ne (by omega) _ _
  refine ⟨Function.update base run (callBase info), ?_, Function.update_self _ _ _, ?_, ?_, ?_⟩
  · refine List.map_congr_left fun part hmem => ?_
    rw [hother part hmem]
  · intro next hlt
    rw [Function.update_of_ne (by omega)]
    by_cases heq : next = run + 1
    · rw [heq, hrun]
      exact hnext
    · exact hnext.trans (hbase.le.trans (hlater next (by omega)))
  · intro part hmem
    have hge := hfrom part hmem
    omega
  · intro part hmem other hmem' hlt
    rw [hother part hmem, hother other hmem']
    exact hapart part hmem other hmem' hlt

/-! ## A later chunk -/

/-- The next block has the next index. -/
theorem index_advance (info : ClaudeConvertInfo) : info.stopOpenBlocksAndAdvance.1.index = nextBlock info := by
  unfold stopOpenBlocksAndAdvance nextBlock
  cases info.lastMessagesType <;> rfl

/-- A block of text or thinking comes after the open run. -/
theorem blocks_fillBlock (hkind : kind = .text ∨ kind = .thinking)
    (block : ClaudeBlock) : nextBlock info ≤ callBase (info.fillBlock kind block delta).1 ∧
      callBase (info.fillBlock kind block delta).1 = nextBlock (info.fillBlock kind block delta).1 := by
  have hindex := index_advance info
  have htype : (info.fillBlock kind block delta).1.lastMessagesType = kind := by
    rfl
  have hbase : callBase (info.fillBlock kind block delta).1 = (info.fillBlock kind block delta).1.index + 1 := by
    rcases hkind with rfl | rfl <;> simp only [callBase, htype]
  have hnext : nextBlock (info.fillBlock kind block delta).1 = (info.fillBlock kind block delta).1.index + 1 := by
    rcases hkind with rfl | rfl <;> simp only [nextBlock, htype]
  refine ⟨?_, hbase.trans hnext.symm⟩
  rw [hbase]
  unfold fillBlock
  by_cases hsame : info.lastMessagesType = kind
  · rcases hkind with rfl | rfl <;> simp [nextBlock, hsame]
  · simp only [ne_eq, hsame, not_false_eq_true, if_true, hindex]
    omega

/-- The fragments of a chunk: their arguments are sent to the blocks they are placed at. -/
theorem says_callFragments (base : Int) (calls : List ToolCallResponse) (i : Nat) (top : Int) :
    Says (callFragments base calls i top).2 "" "" ((callParts run calls i).map fun part => (base + part.1.2, part.2)) ∧
      top ≤ (callFragments base calls i top).1 ∧
      ∀ part ∈ callParts run calls i, part.1.1 = run ∧ part.1.2 ≤ (callFragments base calls i top).1 := by
  induction calls generalizing i top with
  | nil => exact ⟨says_nil, le_refl _, by simp [callParts]⟩
  | cons call calls ih =>
    obtain ⟨hspoken, htop, hparts⟩ := ih (i + 1) (max top (call.index.getD i))
    have hstart : Says (if call.name ≠ "" then [ClaudeEvent.contentBlockStart (base + call.index.getD i) (.toolUse call.id call.name)]
        else []) "" "" [] := by
      split
      · exact says_nothing rfl
      · exact says_nil
    refine ⟨?_, (le_max_left _ _).trans htop, ?_⟩
    · by_cases hempty : call.arguments = ""
      · simpa [callFragments, callParts, hempty] using hstart.append hspoken
      · simpa [callFragments, callParts, hempty] using (hstart.append (says_inputJson _ call.arguments)).append hspoken
    · intro part hmem
      rw [callParts, List.mem_append] at hmem
      rcases hmem with hmem | hmem
      · by_cases hempty : call.arguments = ""
        · simp [hempty] at hmem
        simp only [ne_eq, hempty, not_false_eq_true, if_true, List.mem_singleton] at hmem
        rw [hmem]
        exact ⟨rfl, (le_max_right _ _).trans htop⟩
      · exact hparts part hmem

/-- What some events say, and what they do to the parts that come after them. -/
structure Sends (run run' : Nat) (info info' : ClaudeConvertInfo) (events : List ClaudeEvent) (text thinking : String)
    (sent : List (Int × String)) (parts : List ((Nat × Int) × String)) : Prop extends Says events text thinking sent where
  placed : ∀ rest more, Placed info' run' rest more → Placed info run (sent ++ rest) (parts ++ more)

/-- What is sent in two steps. -/
theorem Sends.trans {run₁ run₂ : Nat} {info₁ info₂ : ClaudeConvertInfo} {parts parts' : List ((Nat × Int) × String)}
    (h : Sends run run₁ info info₁ events text thinking inputs parts)
    (h' : Sends run₁ run₂ info₁ info₂ more text' thinking' inputs' parts') :
    Sends run run₂ info info₂ (events ++ more) (text ++ text') (thinking ++ thinking') (inputs ++ inputs') (parts ++ parts') := by
  refine ⟨h.toSays.append h'.toSays, fun rest more hmore => ?_⟩
  rw [List.append_assoc, List.append_assoc]
  exact h.placed _ _ (h'.placed _ _ hmore)

/-- Closing the message sends nothing more, and opens no block. -/
theorem sends_close (usage : Option Usage) (stopReason : String) :
    Sends run run info (info.closeMessage usage stopReason).1 (info.closeMessage usage stopReason).2 "" "" [] [] :=
  ⟨says_close usage stopReason, fun _ _ h => h⟩

/-- Text or a thought is sent and ends the run of calls. -/
theorem sends_fillBlock (hkind : kind = .text ∨ kind = .thinking)
    (block : ClaudeBlock) (h : ∀ index, Says [.contentBlockDelta index delta] text thinking []) :
    Sends run (run + 1) info (info.fillBlock kind block delta).1 (info.fillBlock kind block delta).2 text thinking [] [] := by
  obtain ⟨hnext, hbase⟩ := blocks_fillBlock hkind block
  exact ⟨says_fillBlock kind block h, fun rest more hmore => hmore.speaks hnext hbase⟩

/-- Fragments of calls whose blocks start at `base`, which is where the open run, or a new one, starts. -/
theorem sends_callFragments {base top : Int} (calls : List ToolCallResponse)
    {stops : List ClaudeEvent} (hstops : Says stops "" "" []) (hbase : callBase info = base) (htop : nextBlock info ≤ base + top + 1)
    (hbase' : callBase info' = base) (hnext : nextBlock info' = base + (callFragments base calls 0 top).1 + 1) :
    Sends run run info info' (stops ++ (callFragments base calls 0 top).2) "" ""
      ((callParts run calls 0).map fun part => (callBase info + part.1.2, part.2)) (callParts run calls 0) := by
  obtain ⟨hspoken, hle, hparts⟩ := says_callFragments base calls 0 top
  rw [hbase]
  refine ⟨hstops.append hspoken, fun rest more hmore => ?_⟩
  rw [← hbase]
  refine hmore.calls (hbase'.trans hbase.symm) (by omega) fun part hmem => ?_
  have hpart := hparts part hmem
  exact ⟨hpart.1, by omega⟩

/-- The fragments of a chunk are sent at their blocks. -/
theorem sends_fillCalls (calls : List ToolCallResponse) :
    Sends run run info (info.fillCalls calls).1 (info.fillCalls calls).2 "" ""
      ((callParts run calls 0).map fun part => (callBase info + part.1.2, part.2)) (callParts run calls 0) := by
  have hindex := index_advance info
  unfold fillCalls
  by_cases htools : info.lastMessagesType = .tools
  · simp only [ne_eq, htools, not_true_eq_false, if_false]
    exact sends_callFragments calls says_nil (by simp only [callBase, htools]) (by simp only [nextBlock, htools, le_refl]) rfl rfl
  simp only [ne_eq, htools, not_false_eq_true, if_true]
  have hbase : callBase info = info.stopOpenBlocksAndAdvance.1.index := by
    rw [hindex]
    unfold callBase nextBlock
    cases hlast : info.lastMessagesType <;> first | rfl | exact absurd hlast htools
  exact sends_callFragments calls (says_advance) hbase (by omega) rfl rfl

/-- A chunk after the first sends its delta. -/
theorem sends_fill (run : Nat) (info : ClaudeConvertInfo) (delta : StreamDelta) :
    Sends run (runAfter run delta) info (info.fill delta).1 (info.fill delta).2 (spokenOf delta) (thoughtOf delta)
      ((callParts run delta.toolCalls 0).map fun part => (callBase info + part.1.2, part.2)) (callParts run delta.toolCalls 0) := by
  unfold fill
  by_cases hcalls : delta.toolCalls = []
  · have hthought : thoughtOf delta = delta.getReasoningContent := by simp [thoughtOf, hcalls]
    rw [if_neg (not_not.2 hcalls), hthought, hcalls]
    by_cases hreasoning : delta.getReasoningContent = ""
    · have hspoken : spokenOf delta = delta.getContentString := by simp [spokenOf, hcalls, hreasoning]
      rw [if_neg (not_not.2 hreasoning), hspoken, hreasoning]
      by_cases hcontent : delta.getContentString = ""
      · have hrun : runAfter run delta = run := by simp [runAfter, hthought, hspoken, hreasoning, hcontent]
        rw [if_neg (not_not.2 hcontent), hrun, hcontent]
        exact ⟨says_nil, fun _ _ h => h⟩
      · have hrun : runAfter run delta = run + 1 := by simp [runAfter, hspoken, hcontent]
        rw [if_pos hcontent, hrun]
        exact sends_fillBlock (.inl rfl) _ fun index => says_text index
    · have hspoken : spokenOf delta = "" := by simp [spokenOf, hreasoning]
      have hrun : runAfter run delta = run + 1 := by simp [runAfter, hthought, hreasoning]
      rw [if_pos hreasoning, hspoken, hrun]
      exact sends_fillBlock (.inr rfl) _ fun index => says_thinking index
  · have hspoken : spokenOf delta = "" := by simp [spokenOf, hcalls]
    have hthought : thoughtOf delta = "" := by simp [thoughtOf, hcalls]
    have hrun : runAfter run delta = run := by simp [runAfter, hspoken, hthought]
    rw [if_pos hcalls, hspoken, hthought, hrun]
    exact sends_fillCalls delta.toolCalls

/-- What a chunk is taken for, and the state after it: it is done exactly when the chunk ends the message. -/
structure Converts (run : Nat) (c : CountedChunk) (info info' : ClaudeConvertInfo) (events : List ClaudeEvent) : Prop where
  sends : ∃ inputs, Sends run (runAfter run (taken c)) info info' events (spokenOf (taken c)) (thoughtOf (taken c)) inputs
    (takenParts run c)
  count : info'.sendResponseCount = info.sendResponseCount
  done : info'.done = (info.done || c.ends)

/-- The conversion ends with the chunk that ends the stream. -/
theorem Converts.done_eq (h : Converts run c info info' events) (hinfo : info.done = false) : info'.done = c.ends := by
  rw [h.done, hinfo, Bool.false_or]

/-- A later chunk is converted. -/
theorem converts_later (run : Nat) (info : ClaudeConvertInfo) (hone : chunk.choices.length = 1) :
    Converts run ⟨false, chunk⟩ info (later chunk info).1 (later chunk info).2 := by
  obtain ⟨choice, hchoice⟩ := List.length_eq_one_iff.1 hone
  have hdelta : CountedChunk.delta ⟨false, chunk⟩ = choice.delta := by simp [CountedChunk.delta, StreamResponse.choice, hchoice]
  have hfinish : chunk.choice.isFinished = choice.isFinished := by simp [StreamResponse.choice, hchoice]
  have hparts : takenParts run ⟨false, chunk⟩ = callParts run (taken ⟨false, chunk⟩).toolCalls 0 := rfl
  unfold later
  rw [hchoice]
  simp only [laterChunk]
  by_cases hfinished : choice.isFinished = true
  · rw [if_pos hfinished]
    cases husage : chunk.usage with
    | none =>
      have htaken : taken ⟨false, chunk⟩ = {} := by simp [taken, CountedChunk.leftOut, hfinish, hfinished, husage]
      have hends : CountedChunk.ends ⟨false, chunk⟩ = false := by simp [CountedChunk.ends, husage]
      refine ⟨⟨[], ?_⟩, rfl, by rw [hends, Bool.or_false]⟩
      rw [hparts, htaken]
      exact ⟨says_nil, fun _ _ h => h⟩
    | some usage =>
      have htaken : taken ⟨false, chunk⟩ = choice.delta := by simp [taken, CountedChunk.leftOut, husage, hdelta]
      have hends : CountedChunk.ends ⟨false, chunk⟩ = true := by simp [CountedChunk.ends, hfinish, hfinished, husage]
      have hfill := sends_fill run { info with finishReason := choice.finishReason.getD "" } choice.delta
      have hrest := sameRest_fill { info with finishReason := choice.finishReason.getD "" } choice.delta
      have hclose := hfill.trans (sends_close (some usage) (stopReasonOpenAI2Claude
        (fill choice.delta { info with finishReason := choice.finishReason.getD "" }).1.finishReason))
      simp only [String.append_empty, List.append_nil] at hclose
      refine ⟨?_, hrest.count, by rw [hends, Bool.or_true]; rfl⟩
      rw [hparts, htaken]
      exact ⟨_, hclose.toSays, hclose.placed⟩
  · have htaken : taken ⟨false, chunk⟩ = choice.delta := by simp [taken, CountedChunk.leftOut, hfinish, hfinished, hdelta]
    have hends : CountedChunk.ends ⟨false, chunk⟩ = false := by simp [CountedChunk.ends, hfinish, hfinished]
    have hrest := sameRest_fill info choice.delta
    rw [if_neg hfinished]
    refine ⟨?_, hrest.count, by rw [hends, Bool.or_false]; exact hrest.done⟩
    rw [hparts, htaken]
    exact ⟨_, sends_fill run info choice.delta⟩

/-! ## The first chunk -/

/-- A block opened by the first chunk says its delta. -/
theorem says_openBlock (kind : LastMessageType) (block : ClaudeBlock)
    (h : ∀ index, Says [.contentBlockDelta index delta] text thinking []) : Says (info.openBlock kind block delta).2 text thinking [] := by
  have hstart : ∀ index, Says [.contentBlockStart index block] "" "" [] := fun index => says_nothing rfl
  unfold openBlock
  by_cases hsame : info.lastMessagesType = kind
  · simp only [ne_eq, hsame, not_true_eq_false, if_false, List.nil_append]
    simpa using (hstart info.index).append (h info.index)
  · simp only [ne_eq, hsame, not_false_eq_true, if_true]
    simpa using ((says_advance).append (hstart _)).append (h _)

/-- The call that is taken of a first chunk is block 0. -/
theorem says_openCall (info : ClaudeConvertInfo) (run : Nat) (chunk : StreamResponse) :
    Says (info.openCall (CountedChunk.delta ⟨true, chunk⟩).toolCalls).2 "" ""
      ((takenParts run ⟨true, chunk⟩).map fun part => (part.1.2, part.2)) := by
  unfold takenParts openCall
  cases (CountedChunk.delta ⟨true, chunk⟩).toolCalls with
  | nil => exact says_nil
  | cons call calls =>
    have hstart : Says [.contentBlockStart 0 (.toolUse call.id call.name)] "" "" [] := says_nothing rfl
    by_cases hempty : call.arguments = ""
    · simpa [hempty] using hstart
    · simpa [hempty] using hstart.append (says_inputJson 0 call.arguments)

/-- What a first chunk is taken for is said, whatever is open. -/
theorem says_openFirst (info : ClaudeConvertInfo) (run : Nat) (chunk : StreamResponse) :
    Says (info.openFirst (CountedChunk.delta ⟨true, chunk⟩)).2 (spokenOf (taken ⟨true, chunk⟩)) (thoughtOf (taken ⟨true, chunk⟩))
      ((takenParts run ⟨true, chunk⟩).map fun part => (part.1.2, part.2)) := by
  have hcall := says_openCall info run chunk
  have htaken : taken ⟨true, chunk⟩ = { CountedChunk.delta ⟨true, chunk⟩ with calls := none } := rfl
  rw [htaken]
  generalize CountedChunk.delta ⟨true, chunk⟩ = delta at hcall ⊢
  have hthought : thoughtOf { delta with calls := none } = delta.getReasoningContent := rfl
  unfold openFirst
  simp only
  by_cases hreasoning : delta.getReasoningContent = ""
  · have hspoken : spokenOf { delta with calls := none } = delta.getContentString :=
      if_neg (not_or.2 ⟨not_not.2 rfl, not_not.2 hreasoning⟩)
    rw [if_neg (not_not.2 hreasoning), hspoken, hthought, hreasoning]
    by_cases hcontent : delta.getContentString = ""
    · rw [if_neg (not_not.2 hcontent), List.append_nil, hcontent]
      exact hcall
    · rw [if_pos hcontent]
      simpa using hcall.append (says_openBlock .text .text fun index => says_text index)
  · have hspoken : spokenOf { delta with calls := none } = "" := if_pos (.inr hreasoning)
    rw [if_pos hreasoning, hspoken, hthought]
    simpa using hcall.append (says_openBlock .thinking .thinking fun index => says_thinking index)

variable (estimate : Int)

/-- The events of a first chunk are those of what it is taken for, in a started message. -/
theorem says_firstChunk (info : ClaudeConvertInfo) (run : Nat) (hone : chunk.choices.length = 1) :
    Says (info.firstChunk estimate chunk).2 (spokenOf (taken ⟨true, chunk⟩)) (thoughtOf (taken ⟨true, chunk⟩))
      ((takenParts run ⟨true, chunk⟩).map fun part => (part.1.2, part.2)) := by
  obtain ⟨choice, hchoice⟩ := List.length_eq_one_iff.1 hone
  have hdelta : CountedChunk.delta ⟨true, chunk⟩ = choice.delta := by simp [CountedChunk.delta, StreamResponse.choice, hchoice]
  have hopen := says_openFirst info run chunk
  have hstart : Says [.messageStart chunk.id chunk.model estimate] "" "" [] := says_nothing rfl
  rw [hdelta] at hopen
  unfold firstChunk
  rw [hchoice]
  simp only
  split
  · simpa using (hstart.append hopen).append (says_close _ _)
  · simpa using hstart.append hopen

/-- In a new message the first chunk's call is the first of the first run. -/
theorem placed_openCall (htype : info.lastMessagesType = .none) (hindex : info.index = 0) {more : List ((Nat × Int) × String)}
    (h : Placed (info.openCall (CountedChunk.delta ⟨true, chunk⟩).toolCalls).1 0 inputs more) :
    Placed info 0 ((takenParts 0 ⟨true, chunk⟩).map (fun part => (part.1.2, part.2)) ++ inputs) (takenParts 0 ⟨true, chunk⟩ ++ more) := by
  have hbase : callBase info = 0 := by simp only [callBase, htype, hindex]
  have hnext : nextBlock info = 0 := by simp only [nextBlock, htype, hindex]
  unfold takenParts
  rw [if_pos rfl]
  cases hcalls : (CountedChunk.delta ⟨true, chunk⟩).toolCalls with
  | nil =>
    rw [hcalls] at h
    exact h
  | cons call calls =>
    rw [hcalls] at h
    have hbase' : callBase (info.openCall (call :: calls)).1 = callBase info := hbase.symm
    have hnext' : nextBlock (info.openCall (call :: calls)).1 = 1 := rfl
    have hnew : ∀ part ∈ (if call.arguments ≠ "" then [(((0, 0), call.arguments) : (Nat × Int) × String)] else []),
        part.1.1 = 0 ∧ callBase info + part.1.2 < nextBlock (info.openCall (call :: calls)).1 := by
      intro part hmem
      split at hmem
      · rw [List.mem_singleton.1 hmem, hbase, hnext']
        exact ⟨rfl, Int.zero_lt_one⟩
      · simp at hmem
    have hplaced := h.calls hbase' (by rw [hnext, hnext']; decide) hnew
    simpa only [hbase, zero_add] using hplaced

/-- The first chunk is converted. -/
theorem converts_firstChunk (info : ClaudeConvertInfo) (htype : info.lastMessagesType = .none)
    (hindex : info.index = 0) (hone : chunk.choices.length = 1) :
    Converts 0 ⟨true, chunk⟩ info (info.firstChunk estimate chunk).1 (info.firstChunk estimate chunk).2 := by
  obtain ⟨choice, hchoice⟩ := List.length_eq_one_iff.1 hone
  have hdelta : CountedChunk.delta ⟨true, chunk⟩ = choice.delta := by simp [CountedChunk.delta, StreamResponse.choice, hchoice]
  have hends : CountedChunk.ends ⟨true, chunk⟩ = choice.isFinished := by simp [CountedChunk.ends, StreamResponse.choice, hchoice]
  have hrest := sameRest_openFirst htype choice.delta
  -- closing the message leaves the blocks where they are
  have hopened : (info.firstChunk estimate chunk).1.sendResponseCount = (info.openFirst choice.delta).1.sendResponseCount ∧
      (info.firstChunk estimate chunk).1.done = ((info.openFirst choice.delta).1.done || choice.isFinished) ∧
      ∀ run inputs parts, Placed (info.firstChunk estimate chunk).1 run inputs parts =
        Placed (info.openFirst choice.delta).1 run inputs parts := by
    unfold firstChunk
    rw [hchoice]
    simp only
    by_cases hfinished : choice.isFinished = true
    · rw [if_pos hfinished]
      exact ⟨rfl, by simp [hfinished, closeMessage], fun _ _ _ => rfl⟩
    · rw [if_neg hfinished]
      exact ⟨rfl, by simp [hfinished], fun _ _ _ => rfl⟩
  refine ⟨⟨_, says_firstChunk estimate info 0 hone, fun inputs more hmore => ?_⟩, hopened.1.trans hrest.count, ?_⟩
  · refine placed_openCall htype hindex ?_
    rw [hopened.2.2, openFirst_eq htype] at hmore
    have hfill := (sends_fill 0 (info.openCall choice.delta.toolCalls).1 { choice.delta with calls := none }).placed inputs more
    have htaken : taken ⟨true, chunk⟩ = { choice.delta with calls := none } := by simp [taken, hdelta]
    rw [htaken] at hmore
    rw [hdelta]
    exact hfill hmore
  · rw [hopened.2.1, hrest.done, hends]

/-! ## The whole stream -/

/-- What the events of some chunks say is what is taken of the chunks, and its parts are placed. -/
structure ConvertsAll (run : Nat) (cs : List CountedChunk) (info : ClaudeConvertInfo) (events : List ClaudeEvent) : Prop where
  text : textOf events = String.join (cs.map fun c => spokenOf (taken c))
  thinking : thinkingOf events = String.join (cs.map fun c => thoughtOf (taken c))
  placed : Placed info run (inputParts events) (allTaken run cs)

theorem convertsAll_nil (run : Nat) (info : ClaudeConvertInfo) : ConvertsAll run [] info [] := ⟨rfl, rfl, placed_nil⟩

/-- A chunk and those after it. -/
theorem Converts.cons (h : Converts run c info info' events) (h' : ConvertsAll (runAfter run (taken c)) cs info' more) :
    ConvertsAll run (c :: cs) info (events ++ more) := by
  obtain ⟨inputs, hsends⟩ := h.sends
  have hall := hsends.toSays.append ⟨h'.text, h'.thinking, rfl⟩
  refine ⟨?_, ?_, ?_⟩
  · rw [hall.text, List.map_cons, String.join_cons]
  · rw [hall.thinking, List.map_cons, String.join_cons]
  · rw [hall.inputs]
    exact hsends.placed _ _ h'.placed

/-- The usage and the count do not enter. -/
theorem ConvertsAll.of_counted {usage : Option Usage} {count : Nat}
    (h : ConvertsAll run cs { info with usage := usage, sendResponseCount := count } events) : ConvertsAll run cs info events :=
  ⟨h.text, h.thinking, h.placed⟩

/-- The chunks after the first, up to the one that ends the stream. -/
theorem convertsAll_rest (usage : Usage) (rest : List StreamResponse)
    (hone : ∀ chunk ∈ rest, chunk.choices.length = 1) (run : Nat) (hdone : info.done = false)
    (hcount : 2 ≤ info.sendResponseCount ∨ info.sendResponseCount = 1 ∧ 2 ≤ rest.length) :
    ConvertsAll run (upToEnd (rest.map (CountedChunk.mk false))) info (handleChunks estimate usage rest info) := by
  induction rest generalizing run info with
  | nil => exact convertsAll_nil run info
  | cons chunk rest ih =>
    obtain ⟨hchunk, hone⟩ := List.forall_mem_cons.1 hone
    cases rest with
    | nil =>
      have hlast := converts_later run { info with usage := some usage } hchunk
      have hcount' : info.sendResponseCount ≠ 1 := by
        rcases hcount with hcount | ⟨_, hlength⟩
        · omega
        · simp at hlength
      have hends : upToEnd ([chunk].map (CountedChunk.mk false)) = [⟨false, chunk⟩] := by simp [upToEnd]
      rw [handleChunks, handleFinalResponse_later hdone hcount', hends, ← List.append_nil (later _ _).2]
      exact (hlast.cons (convertsAll_nil _ _)).of_counted
    | cons next rest =>
      have hcount' : 1 ≤ info.sendResponseCount := by omega
      have hchunk := converts_later run
        { info with sendResponseCount := info.sendResponseCount + 1, usage := chunk.usage.or info.usage } hchunk
      have hdone' := hchunk.done_eq hdone
      have hcount'' := hchunk.count
      simp only at hcount''
      rw [handleChunks_cons, handleStreamFormat_later hdone hcount', List.map_cons, upToEnd]
      refine ConvertsAll.of_counted (hchunk.cons ?_)
      by_cases hends : CountedChunk.ends ⟨false, chunk⟩ = true
      · rw [if_pos hends, handleChunks_done (hdone'.trans hends)]
        exact convertsAll_nil _ _
      · rw [if_neg hends]
        exact ih hone _ (hdone'.trans (by simpa using hends)) (.inl (by omega))

/-- The tool input of a stream is that of the parts that are taken: the calls of a run have blocks from the base of the run on, all
before the next run's. -/
def InputPlaced (cs : List CountedChunk) (events : List ClaudeEvent) : Prop :=
  ∃ base : Nat → Int, inputParts events = (allTaken 0 cs).map (fun part => (base part.1.1 + part.1.2, part.2)) ∧
    ∀ part ∈ allTaken 0 cs, ∀ other ∈ allTaken 0 cs, part.1.1 < other.1.1 → base part.1.1 + part.1.2 < base other.1.1

/-- The parts of a chunk that is counted as the first are placed as the first call of the first run. -/
theorem takenParts_first : ∀ part ∈ takenParts run ⟨true, chunk⟩, part.1 = (0, 0) := by
  intro part hmem
  unfold takenParts at hmem
  rw [if_pos rfl] at hmem
  cases hcalls : (CountedChunk.delta ⟨true, chunk⟩).toolCalls with
  | nil => simp [hcalls] at hmem
  | cons call calls =>
    rw [hcalls] at hmem
    simp only at hmem
    split at hmem
    · rw [List.mem_singleton.1 hmem]
    · simp at hmem

/-- What the events of a stream say is what is taken of the chunks, and its parts are placed. -/
structure StreamSays (cs : List CountedChunk) (events : List ClaudeEvent) : Prop where
  text : textOf events = String.join (cs.map fun c => spokenOf (taken c))
  thinking : thinkingOf events = String.join (cs.map fun c => thoughtOf (taken c))
  inputs : InputPlaced cs events

/-- A converted stream says what its chunks say. -/
theorem ConvertsAll.streamSays (h : ConvertsAll 0 cs info events) : StreamSays cs events := by
  obtain ⟨base, hinputs, -, -, -, hapart⟩ := h.placed
  exact ⟨h.text, h.thinking, base, hinputs, hapart⟩

/-- Two chunks that are both counted as the first: their calls are block 0 both. -/
theorem streamSays_firstTwice {first second : StreamResponse} (hfirst : first.choices.length = 1) (hsecond : second.choices.length = 1) :
    StreamSays [⟨true, first⟩, ⟨true, second⟩] ((info.firstChunk estimate first).2 ++ (info'.firstChunk estimate second).2) := by
  have hspoken := (says_firstChunk estimate info 0 hfirst).append
    (says_firstChunk estimate info' (runAfter 0 (taken ⟨true, first⟩)) hsecond)
  have hzero : ∀ part ∈ allTaken 0 [⟨true, first⟩, ⟨true, second⟩], part.1 = (0, 0) := by
    intro part hmem
    simp only [allTaken, List.append_nil, List.mem_append] at hmem
    rcases hmem with hmem | hmem
    · exact takenParts_first part hmem
    · exact takenParts_first part hmem
  refine ⟨by simp [hspoken.text], by simp [hspoken.thinking], fun _ => 0, ?_, ?_⟩
  · simp only [hspoken.inputs, allTaken, List.append_nil, List.map_append, zero_add]
  · intro part hmem other hother hlt
    rw [hzero part hmem, hzero other hother] at hlt
    exact absurd hlt (lt_irrefl _)

/-- The events of a stream say what is taken of the chunks that are handled, and place its parts. -/
theorem stream_says (usage : Usage) (chunks : List StreamResponse) (hone : ∀ chunk ∈ chunks, chunk.choices.length = 1) :
    StreamSays (handledChunks chunks) (claudeStreamHandler estimate usage chunks) := by
  unfold claudeStreamHandler handledChunks
  match chunks with
  | [] => exact (convertsAll_nil 0 {}).streamSays
  | [only] =>
    have honly := converts_later 0 { usage := some usage } (hone only (List.mem_singleton.2 rfl))
    have hends : upToEnd (countChunks [only]) = [⟨false, only⟩] := by simp [countChunks, upToEnd]
    rw [handleChunks, handleFinalResponse_later rfl (by decide), hends, ← List.append_nil (later _ _).2]
    exact (honly.cons (convertsAll_nil _ _)).streamSays
  | first :: second :: rest =>
    obtain ⟨hfirst, hone⟩ := List.forall_mem_cons.1 hone
    have hopens : handleStreamFormat estimate first {} = firstChunk estimate first { sendResponseCount := 1, usage := first.usage } := by
      simp [handleStreamFormat, streamResponseOpenAI2Claude]
    have hconverts := converts_firstChunk estimate { sendResponseCount := 1, usage := first.usage } rfl rfl hfirst
    have hdone := hconverts.done_eq rfl
    have hcount := hconverts.count
    rw [handleChunks_cons, hopens]
    generalize hinfo : (firstChunk estimate first { sendResponseCount := 1, usage := first.usage }).1 = info at *
    by_cases hends : CountedChunk.ends ⟨true, first⟩ = true
    · have hhandled : upToEnd (countChunks (first :: second :: rest)) = [⟨true, first⟩] := by
        cases rest <;> simp [countChunks, upToEnd, hends]
      rw [hhandled, handleChunks_done (hdone.trans hends)]
      exact (hconverts.cons (convertsAll_nil _ _)).streamSays
    · have hopen : info.done = false := hdone.trans (by simpa using hends)
      cases rest with
      | nil =>
        -- the last of two is counted as the first once more
        have hagain : (info.handleFinalResponse estimate usage second).2 =
            ({ info with usage := some usage }.firstChunk estimate second).2 := by
          simp [handleFinalResponse, streamResponseOpenAI2Claude, hopen, hcount]
        have hhandled : upToEnd (countChunks [first, second]) = [⟨true, first⟩, ⟨true, second⟩] := by
          simp [countChunks, upToEnd, hends]
        rw [handleChunks, hagain, hhandled]
        exact streamSays_firstTwice estimate hfirst (hone second (List.mem_singleton.2 rfl))
      | cons third rest =>
        have hhandled : upToEnd (countChunks (first :: second :: third :: rest)) =
            ⟨true, first⟩ :: upToEnd ((second :: third :: rest).map (CountedChunk.mk false)) := by
          simp [countChunks, upToEnd, hends]
        rw [hhandled]
        exact (hconverts.cons (convertsAll_rest estimate usage _ hone _ hopen (.inr ⟨hcount, by simp⟩))).streamSays

end ContentAux

end NewApi
