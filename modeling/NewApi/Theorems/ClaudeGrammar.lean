import NewApi.Lemmas.ClaudeStreamAux

/-!
# Streams a Claude client can read

Which streams of chunks are converted into a message the protocol allows. The converter starts the message at the first chunk it counts,
closes it at a chunk that finishes with a usage of its own or at one without choices, and indexes the blocks of a run of tool calls by
what the upstream says; a stream is readable exactly when its chunks fit that.
-/

namespace NewApi

open Run

/-! ## What the chunks are asked for -/

/-- What is open between two chunks: at most one block of text or thinking, or a run of tool calls, of which some were started, and the
highest index that came. -/
inductive OpenRun where
  | single
  | calls (started top : Int)
  deriving DecidableEq, Repr

/-- Every block that will be stopped was started. -/
def OpenRun.closes : OpenRun → Bool
  | .single => true
  | .calls started top => decide (top + 1 = started)

/-- A run of calls after some more fragments, where they fit it: a fragment with a name has the index after those that were started, and
one without a name but with arguments the index of one that was. -/
def callsFit : List ToolCallResponse → Nat → Int → Int → Option OpenRun
  | [], _, started, top => some (.calls started top)
  | call :: rest, i, started, top =>
    let offset := call.index.getD i
    if call.name ≠ "" then
      if offset = started then callsFit rest (i + 1) (started + 1) (max top offset) else none
    else if call.arguments ≠ "" ∧ ¬ (0 ≤ offset ∧ offset < started) then none
    else callsFit rest (i + 1) started (max top offset)

/-- The fragments of a chunk go on with the run that is open, or start one. -/
def OpenRun.addCalls (calls : List ToolCallResponse) : OpenRun → Option OpenRun
  | .single => callsFit calls 0 0 0
  | .calls started top => callsFit calls 0 started top

/-- What is open after a later chunk's tool calls, or text, or nothing, where it fits what was open before. -/
def OpenRun.add (delta : StreamDelta) (run : OpenRun) : Option OpenRun :=
  if delta.toolCalls ≠ [] then run.addCalls delta.toolCalls
  else if delta.getReasoningContent ≠ "" ∨ delta.getContentString ≠ "" then if run.closes then some .single else none
  else some run

/-- What a later chunk does: it decides whether the stream is readable, or leaves something open. -/
inductive Verdict where
  | decided (readable : Bool)
  | goesOn (run : OpenRun)
  deriving DecidableEq, Repr

/-- A later chunk, where something is open and a usage is known or not: the message is closed by a chunk without choices where a usage is
known, and by one that finishes with a usage of its own. One that finishes without is left out. -/
def OpenRun.chunk (run : OpenRun) (known : Bool) (chunk : StreamResponse) : Verdict :=
  match chunk.choices with
  | [] => if known then .decided run.closes else .goesOn run
  | choice :: _ =>
    if choice.isFinished then
      if chunk.usage.isSome then .decided ((run.add choice.delta).any OpenRun.closes) else .goesOn run
    else match run.add choice.delta with
      | some run => .goesOn run
      | none => .decided false

/-- The chunks after the first, with what is open before them and whether a usage has come: one of them closes the message, and those
before it fit. The last one knows the usage of the stream. -/
def readableFrom : OpenRun → Bool → List StreamResponse → Bool
  | _, _, [] => false
  | run, _, [last] => match run.chunk true last with
    | .decided readable => readable
    | .goesOn _ => false
  | run, seen, chunk :: rest => match run.chunk (chunk.usage.isSome || seen) chunk with
    | .decided readable => readable
    | .goesOn run => readableFrom run (chunk.usage.isSome || seen) rest

def openAfterFirst (first : StreamResponse) : OpenRun :=
  match first.choices with
  | [] => .single
  | choice :: _ =>
    if choice.delta.getReasoningContent ≠ "" ∨ choice.delta.getContentString ≠ "" then .single
    else if choice.delta.toolCalls ≠ [] then .calls 1 0
    else .single

/-- The chunks of a stream of at least two: the first finishes with a usage of its own, or it does not finish, at least two follow, and
they are readable. -/
def readable (first : StreamResponse) (rest : List StreamResponse) : Bool :=
  if first.choices.head?.any StreamChoice.isFinished then first.usage.isSome
  else decide (2 ≤ rest.length) && readableFrom (openAfterFirst first) first.usage.isSome rest

namespace GrammarAux

open ClaudeConvertInfo ClaudeStreamAux

variable {info info' : ClaudeConvertInfo} {run : OpenRun} {reader : Option ReaderState}

/-! ## The reader's side of the converter's state -/

/-- A stream that is no message stays none. -/
theorem exec_none (events : List ClaudeEvent) : exec readEvent none events = none := by
  induction events with
  | nil => rfl
  | cons event events ih => exact ih

/-- The reader in a run of calls whose blocks start at `base`. -/
noncomputable def inCalls (base started : Int) : ReaderState := .message (base + started) (Finset.Ico base (base + started))

/-- Where the reader stands, for the converter's state and what is open. -/
noncomputable def standing (info : ClaudeConvertInfo) : OpenRun → ReaderState
  | .single => if info.lastMessagesType = .none then .message info.index ∅ else .message (info.index + 1) {info.index}
  | .calls started _ => inCalls info.toolCallBaseIndex started

/-- What is open is what the converter holds to be open. -/
def Tracks (info : ClaudeConvertInfo) : OpenRun → Prop
  | .single => info.lastMessagesType ≠ .tools
  | .calls started top => info.lastMessagesType = .tools ∧ info.toolCallMaxIndexOffset = top ∧ 0 ≤ started ∧ started ≤ top + 1

/-! ## Stops -/

/-- Stopping blocks from the first on closes them, as long as they are open. -/
theorem exec_stops (next base started : Int) (n : Nat) : exec readEvent (some (.message next (Finset.Ico base (base + started))))
        ((List.range n).map fun offset : Nat => .contentBlockStop (base + offset)) =
      if (n : Int) ≤ max started 0 then some (.message next (Finset.Ico (base + n) (base + started))) else none := by
  induction n with
  | zero => simp
  | succ n ih =>
    rw [List.range_succ, List.map_append, exec_append, ih]
    by_cases hn : (n : Int) ≤ max started 0
    · rw [if_pos hn]
      by_cases hlt : (n : Int) < started
      · have hmem : base + (n : Int) ∈ Finset.Ico (base + (n : Int)) (base + started) := by
          rw [Finset.mem_Ico]
          omega
        have herase : (Finset.Ico (base + (n : Int)) (base + started)).erase (base + n) =
            Finset.Ico (base + ((n + 1 : Nat) : Int)) (base + started) := by
          ext k
          simp only [Finset.mem_erase, Finset.mem_Ico]
          omega
        rw [if_pos (by omega)]
        simp only [List.map_cons, List.map_nil, exec_cons, exec_nil, readEvent, if_pos hmem, herase]
      · have hmem : base + (n : Int) ∉ Finset.Ico (base + (n : Int)) (base + started) := by
          rw [Finset.mem_Ico]
          omega
        rw [if_neg (by omega)]
        simp only [List.map_cons, List.map_nil, exec_cons, exec_nil, readEvent, if_neg hmem]
    · rw [if_neg hn, if_neg (by omega)]
      exact exec_none _

theorem stopOpenBlocks_eq : info.stopOpenBlocks = info.stopOpenBlocksAndAdvance.2 := by
  unfold stopOpenBlocksAndAdvance stopOpenBlocks
  cases info.lastMessagesType <;> rfl

theorem advance_type (info : ClaudeConvertInfo) : info.stopOpenBlocksAndAdvance.1.lastMessagesType = .none := by
  unfold stopOpenBlocksAndAdvance
  cases h : info.lastMessagesType
  · exact h
  · rfl
  · rfl
  · rfl

/-- The stops take the reader to a message without open blocks, if all that are stopped were started. -/
theorem read_stops (h : Tracks info run) : exec readEvent (some (standing info run)) info.stopOpenBlocksAndAdvance.2 =
      if run.closes then some (standing info.stopOpenBlocksAndAdvance.1 .single) else none := by
  have hnone := advance_type info
  rw [standing.eq_1 info.stopOpenBlocksAndAdvance.1, if_pos hnone]
  cases run with
  | single =>
    simp only [OpenRun.closes, if_true]
    unfold stopOpenBlocksAndAdvance stopOpenBlocks standing
    cases htype : info.lastMessagesType with
    | none => simp
    | tools => exact absurd htype h
    | text | thinking => simp [readEvent]
  | calls started top =>
    obtain ⟨htype, htop, hstarted, hle⟩ := h
    unfold stopOpenBlocksAndAdvance stopOpenBlocks standing inCalls
    simp only [htype, htop, OpenRun.closes, decide_eq_true_eq]
    rw [exec_stops]
    by_cases hclose : top + 1 = started
    · have hempty : Finset.Ico (info.toolCallBaseIndex + ((top + 1).toNat : Int)) (info.toolCallBaseIndex + started) = ∅ := by
        ext k
        simp only [Finset.mem_Ico, Finset.notMem_empty, iff_false]
        omega
      rw [if_pos (by omega), if_pos hclose, hempty]
      congr 2
      omega
    · rw [if_neg (by omega), if_neg hclose]

/-- A close with a usage ends the message, where every block that is stopped was started. -/
theorem read_close (h : Tracks info run) (usage : Usage) (stopReason : String) :
    exec readEvent (some (standing info run)) (info.closeMessage (some usage) stopReason).2 = if run.closes then some .ended else none := by
  unfold closeMessage
  simp only
  rw [stopOpenBlocks_eq, List.append_assoc, exec_append, read_stops h]
  split
  · rw [standing, if_pos (advance_type info)]
    rfl
  · exact exec_none _

/-- Without a usage the message cannot be closed. -/
theorem read_close_none (h : Tracks info run) (stopReason : String) :
    exec readEvent (some (standing info run)) (info.closeMessage none stopReason).2 = none := by
  unfold closeMessage
  simp only
  rw [stopOpenBlocks_eq, List.append_nil, exec_append, read_stops h]
  split
  · rw [standing, if_pos (advance_type info)]
    rfl
  · exact exec_none _

/-! ## Fills -/

/-- Text or a thought closes the open blocks and opens its own. -/
theorem read_fillBlock (h : Tracks info run) {kind : LastMessageType}
    (hkind : kind = .text ∨ kind = .thinking) (block : ClaudeBlock) (delta : ClaudeDelta) :
    exec readEvent (some (standing info run)) (info.fillBlock kind block delta).2 =
      (if run.closes then some OpenRun.single else none).map (standing (info.fillBlock kind block delta).1) := by
  have hnot : kind ≠ .none := by rcases hkind with rfl | rfl <;> decide
  unfold fillBlock
  by_cases hsame : info.lastMessagesType = kind
  · -- the block of that kind goes on
    have hsingle : run = .single := by
      cases run with
      | single => rfl
      | calls started top =>
        rw [h.1] at hsame
        rcases hkind with rfl | rfl <;> cases hsame
    subst hsingle
    simp [hsame, hnot, OpenRun.closes, standing, readEvent]
  · simp only [ne_eq, hsame, not_false_eq_true, if_true]
    rw [List.append_assoc, exec_append, read_stops h]
    cases run.closes with
    | false => exact exec_none _
    | true =>
      simp only [if_true, standing, advance_type, Option.map_some, hnot, if_false]
      simp [readEvent]

/-- The block of a call is started where it is the next. -/
theorem read_start (base offset : Int) {started : Int} (h : 0 ≤ started) (block : ClaudeBlock) :
    readEvent (some (inCalls base started)) (.contentBlockStart (base + offset) block) =
      if offset = started then some (inCalls base (started + 1)) else none := by
  by_cases hnext : offset = started
  · subst hnext
    have hinsert : insert (base + offset) (Finset.Ico base (base + offset)) = Finset.Ico base (base + (offset + 1)) := by
      ext k
      simp only [Finset.mem_insert, Finset.mem_Ico]
      omega
    simp only [readEvent, inCalls, if_true, hinsert]
    rw [add_assoc]
  · simp only [readEvent, inCalls]
    rw [if_neg (by omega), if_neg hnext]

/-- A delta belongs to an open block. -/
theorem read_delta (base started offset : Int) (delta : ClaudeDelta) :
    readEvent (some (inCalls base started)) (.contentBlockDelta (base + offset) delta) =
      if 0 ≤ offset ∧ offset < started then some (inCalls base started) else none := by
  have hmem : base + offset ∈ Finset.Ico base (base + started) ↔ 0 ≤ offset ∧ offset < started := by
    rw [Finset.mem_Ico]
    omega
  simp only [readEvent, inCalls, hmem]

/-- What the fragments of a chunk do to the reader: it goes on with the run where they fit, and gives up where they do not. -/
def FragmentsRead (base top : Int) (reader : Option ReaderState) : Option OpenRun → Prop
  | none => reader = none
  | some run => ∃ started, run = .calls started top ∧ reader = some (inCalls base started) ∧ 0 ≤ started ∧ started ≤ top + 1

/-- Fragments of calls are read as long as each finds its block. -/
theorem read_callFragments (base : Int) (calls : List ToolCallResponse) (i : Nat) {started top : Int} (h0 : 0 ≤ started)
    (hle : started ≤ top + 1) : FragmentsRead base (callFragments base calls i top).1
      (exec readEvent (some (inCalls base started)) (callFragments base calls i top).2) (callsFit calls i started top) := by
  induction calls generalizing i started top with
  | nil => exact ⟨started, rfl, rfl, h0, hle⟩
  | cons call rest ih =>
    unfold callFragments callsFit
    simp only
    generalize call.index.getD (i : Int) = offset
    rw [List.append_assoc, exec_append, exec_append]
    by_cases hname : call.name ≠ ""
    · -- a call is started
      rw [if_pos hname, if_pos hname, exec_cons, exec_nil, read_start base offset h0]
      by_cases hnext : offset = started
      · subst hnext
        rw [if_pos rfl, if_pos rfl]
        have hfill : exec readEvent (some (inCalls base (offset + 1)))
            (if call.arguments ≠ "" then [.contentBlockDelta (base + offset) (.inputJson call.arguments)] else []) =
              some (inCalls base (offset + 1)) := by
          split
          · rw [exec_cons, exec_nil, read_delta, if_pos ⟨h0, by omega⟩]
          · rfl
        rw [hfill]
        exact ih (i + 1) (by omega) (by omega)
      · rw [if_neg hnext, if_neg hnext, exec_none, exec_none]
        rfl
    · rw [if_neg hname, if_neg hname, exec_nil]
      by_cases hargs : call.arguments ≠ ""
      · -- a call that was started goes on
        rw [if_pos hargs, exec_cons, exec_nil, read_delta]
        by_cases hopen : 0 ≤ offset ∧ offset < started
        · rw [if_pos hopen, if_neg (by tauto)]
          exact ih (i + 1) h0 (by omega)
        · rw [if_neg hopen, if_pos ⟨hargs, hopen⟩, exec_none]
          rfl
      · rw [if_neg hargs, exec_nil, if_neg (by tauto)]
        exact ih (i + 1) h0 (by omega)

/-- What a later chunk does to the reader. -/
def Reads (info : ClaudeConvertInfo) (reader : Option ReaderState) : Option OpenRun → Prop
  | none => reader = none
  | some run => Tracks info run ∧ reader = some (standing info run)

/-- The reader after the fragments is where the converter's new state says. -/
theorem FragmentsRead.reads {base top : Int} {run : Option OpenRun} (h : FragmentsRead base top reader run)
    (htype : info.lastMessagesType = .tools) (hbase : info.toolCallBaseIndex = base)
    (htop : info.toolCallMaxIndexOffset = top) : Reads info reader run := by
  cases run with
  | none => exact h
  | some run =>
    obtain ⟨started, rfl, hreader, h0, hle⟩ := h
    refine ⟨⟨htype, htop, h0, hle⟩, ?_⟩
    rw [hreader, standing, hbase]

/-- So are the fragments of a chunk. -/
theorem read_fillCalls (h : Tracks info run) (calls : List ToolCallResponse) :
    Reads (info.fillCalls calls).1 (exec readEvent (some (standing info run)) (info.fillCalls calls).2) (run.addCalls calls) := by
  unfold fillCalls
  cases run with
  | single =>
    have htype : info.lastMessagesType ≠ .tools := h
    simp only [ne_eq, htype, not_false_eq_true, if_true]
    rw [exec_append, read_stops h]
    have hstart : standing info.stopOpenBlocksAndAdvance.1 .single = inCalls info.stopOpenBlocksAndAdvance.1.index 0 := by
      simp [standing, inCalls, advance_type]
    simp only [OpenRun.closes, if_true, hstart]
    exact (read_callFragments info.stopOpenBlocksAndAdvance.1.index calls 0 (le_refl 0) (by decide)).reads rfl rfl rfl
  | calls started top =>
    obtain ⟨htype, htop, h0, hle⟩ := h
    simp only [ne_eq, htype, not_true_eq_false, if_false, List.nil_append, htop, standing]
    exact (read_callFragments info.toolCallBaseIndex calls 0 h0 hle).reads rfl rfl rfl

/-- A later chunk takes the reader on exactly when it fits what is open. -/
theorem read_fill (h : Tracks info run) (delta : StreamDelta) :
    Reads (info.fill delta).1 (exec readEvent (some (standing info run)) (info.fill delta).2) (run.add delta) := by
  have hblock : ∀ {kind : LastMessageType} (block : ClaudeBlock) (filled : ClaudeDelta), kind = .text ∨ kind = .thinking →
      Reads (info.fillBlock kind block filled).1 (exec readEvent (some (standing info run)) (info.fillBlock kind block filled).2)
        (if run.closes then some .single else none) := by
    intro kind block filled hkind
    rw [read_fillBlock h hkind]
    cases run.closes with
    | false => rfl
    | true =>
      have htools : kind ≠ .tools := by rcases hkind with rfl | rfl <;> decide
      exact ⟨htools, rfl⟩
  unfold fill OpenRun.add
  by_cases hcalls : delta.toolCalls ≠ []
  · rw [if_pos hcalls, if_pos hcalls]
    exact read_fillCalls h delta.toolCalls
  rw [if_neg hcalls, if_neg hcalls]
  by_cases hreasoning : delta.getReasoningContent ≠ ""
  · rw [if_pos hreasoning, if_pos (.inl hreasoning)]
    exact hblock _ _ (.inr rfl)
  by_cases hcontent : delta.getContentString ≠ ""
  · rw [if_neg hreasoning, if_pos hcontent, if_pos (.inr hcontent)]
    exact hblock _ _ (.inl rfl)
  · rw [if_neg hreasoning, if_neg hcontent, if_neg (not_or.2 ⟨hreasoning, hcontent⟩)]
    exact ⟨h, rfl⟩

/-! ## The chunks after the first -/

/-- What a later chunk does to the reader and to the converter. -/
def Decides (info info' : ClaudeConvertInfo) (reader : Option ReaderState) : Verdict → Prop
  | .decided true => reader = some .ended ∧ info'.done = true
  | .decided false => reader = none
  | .goesOn run => reader = some (standing info' run) ∧ Tracks info' run ∧ SameRest info info'

/-- Closing the message decides the stream. -/
theorem decides_close (h : Tracks info' run) (usage : Option Usage) (stopReason : String) :
    Decides info (info'.closeMessage usage stopReason).1
      (exec readEvent (some (standing info' run)) (info'.closeMessage usage stopReason).2) (.decided (usage.isSome && run.closes)) := by
  cases usage with
  | none => exact read_close_none h stopReason
  | some usage =>
    rw [read_close h, Option.isSome_some, Bool.true_and]
    cases run.closes with
    | false => rfl
    | true => exact ⟨rfl, rfl⟩

/-- A chunk without choices decides it where the usage is known. -/
theorem decides_usageChunk {chunk : StreamResponse} (h : Tracks info run) (hknown : chunk.usage.isSome = true → info.usage.isSome = true) :
    Decides info (info.usageChunk chunk).1 (exec readEvent (some (standing info run)) (info.usageChunk chunk).2)
      (if info.usage.isSome then .decided run.closes else .goesOn run) := by
  unfold usageChunk
  cases husage : chunk.usage.or info.usage with
  | none =>
    have hnone : info.usage = none := (Option.or_eq_none_iff.1 husage).2
    simp only [hnone, Option.isSome_none, Bool.false_eq_true, if_false]
    exact ⟨rfl, h, rfl, rfl, rfl⟩
  | some usage =>
    have hsome : info.usage.isSome = true := by
      cases hown : chunk.usage with
      | none =>
        rw [hown, Option.none_or] at husage
        rw [husage]
        rfl
      | some own => exact hknown (by rw [hown]; rfl)
    simp only [hsome, if_true]
    exact decides_close h (some usage) _

/-- One that finishes with a usage of its own. -/
theorem decides_finish (h : Tracks info' run) (delta : StreamDelta) (usage : Usage) (stopReason : String) :
    Decides info ((info'.fill delta).1.closeMessage (some usage) stopReason).1
      (exec readEvent (some (standing info' run)) ((info'.fill delta).2 ++ ((info'.fill delta).1.closeMessage (some usage) stopReason).2))
      (.decided ((run.add delta).any OpenRun.closes)) := by
  have hfill := read_fill h delta
  rw [exec_append]
  cases hadd : run.add delta with
  | none =>
    rw [hadd] at hfill
    rw [hfill, exec_none]
    rfl
  | some run' =>
    rw [hadd] at hfill
    rw [hfill.2]
    exact decides_close hfill.1 (some usage) stopReason

/-- What a later chunk decides. -/
theorem decides_later (chunk : StreamResponse) (h : Tracks info run) (hknown : chunk.usage.isSome = true → info.usage.isSome = true) :
    Decides info (later chunk info).1 (exec readEvent (some (standing info run)) (later chunk info).2)
      (run.chunk info.usage.isSome chunk) := by
  unfold later OpenRun.chunk
  cases chunk.choices with
  | nil => exact decides_usageChunk h hknown
  | cons choice choices =>
    simp only [laterChunk]
    by_cases hfinished : choice.isFinished = true
    · simp only [hfinished, if_true]
      cases chunk.usage with
      | none => exact ⟨rfl, h, rfl, rfl, rfl⟩
      | some usage =>
        -- the reason is noted before the rest of the chunk is added
        have hnoted : Tracks { info with finishReason := choice.finishReason.getD "" } run := h
        exact decides_finish hnoted choice.delta usage _
    · simp only [hfinished, Bool.false_eq_true, if_false]
      have hfill := read_fill h choice.delta
      cases hadd : run.add choice.delta with
      | none =>
        rw [hadd] at hfill
        exact hfill
      | some run' =>
        rw [hadd] at hfill
        exact ⟨hfill.2, hfill.1, sameRest_fill info choice.delta⟩

theorem standing_ne_ended : standing info run ≠ .ended := by
  cases run with
  | single =>
    simp only [standing]
    split <;> simp
  | calls started top => simp [standing, inCalls]

/-- Whether a stream is readable after a verdict, by what may follow a chunk that leaves something open. -/
def readableAfter (follows : OpenRun → Bool) : Verdict → Bool
  | .decided readable => readable
  | .goesOn run => follows run

/-- The events that follow a chunk are read to the end as the chunk decides, or as what it leaves open asks. -/
theorem Decides.ended_iff {verdict : Verdict}
    (h : Decides info info' reader verdict) (events : List ClaudeEvent) (follows : OpenRun → Bool) (hdone : info'.done = true → events = [])
    (hgoes : ∀ run, Tracks info' run → SameRest info info' →
      (exec readEvent (some (standing info' run)) events = some .ended ↔ follows run = true)) :
    exec readEvent reader events = some .ended ↔ readableAfter follows verdict = true := by
  cases verdict with
  | decided readable =>
    cases readable with
    | true =>
      rw [h.1, hdone h.2]
      exact ⟨fun _ => rfl, fun _ => rfl⟩
    | false =>
      have hnone : reader = none := h
      rw [hnone, exec_none]
      exact ⟨nofun, nofun⟩
  | goesOn run =>
    obtain ⟨hreader, htracks, hrest⟩ := h
    rw [hreader]
    exact hgoes run htracks hrest

variable (estimate : Int)

/-- The chunks after the first are read to the end exactly when they are readable. -/
theorem read_rest (usage : Usage) (rest : List StreamResponse) (h : Tracks info run) (hdone : info.done = false)
    (hcount : 2 ≤ info.sendResponseCount ∨ info.sendResponseCount = 1 ∧ 2 ≤ rest.length) :
    exec readEvent (some (standing info run)) (handleChunks estimate usage rest info) = some .ended ↔
      readableFrom run info.usage.isSome rest = true := by
  induction rest generalizing info run with
  | nil =>
    simpa [handleChunks, readableFrom] using standing_ne_ended
  | cons chunk rest ih =>
    cases rest with
    | nil =>
      have htracks : Tracks { info with usage := some usage } run := h
      have hlast := decides_later chunk htracks fun _ => rfl
      rw [handleChunks, handleFinalResponse_later hdone (by simp at hcount; omega), readableFrom]
      refine hlast.ended_iff [] (fun _ => false) (fun _ => rfl) fun run' _ _ => ?_
      simpa using standing_ne_ended
    | cons next rest =>
      have htracks : Tracks { info with sendResponseCount := info.sendResponseCount + 1, usage := chunk.usage.or info.usage } run := h
      have hchunk := decides_later chunk htracks fun hown => by
        simp only [Option.isSome_or, hown, Bool.true_or]
      rw [handleChunks_cons, handleStreamFormat_later hdone (by omega), exec_append]
      have hreadable : readableFrom run info.usage.isSome (chunk :: next :: rest) =
          readableAfter (readableFrom · (chunk.usage.or info.usage).isSome (next :: rest))
            (run.chunk (chunk.usage.or info.usage).isSome chunk) := by
        rw [Option.isSome_or]
        rfl
      rw [hreadable]
      refine hchunk.ended_iff _ _ (fun hended => handleChunks_done hended estimate usage _) fun run' htracks' hrest => ?_
      rw [ih htracks' (hrest.done.trans hdone) (.inl ?_), hrest.usage]
      rw [hrest.count]
      simp only
      omega

/-! ## The first chunk -/

/-- The first chunk's call is block 0, and all that is open. -/
theorem read_openCall (htype : info.lastMessagesType = .none) (hindex : info.index = 0) (calls : List ToolCallResponse) :
    let run := if calls ≠ [] then OpenRun.calls 1 0 else .single
    exec readEvent (some (.message 0 ∅)) (info.openCall calls).2 = some (standing (info.openCall calls).1 run) ∧
      Tracks (info.openCall calls).1 run := by
  cases calls with
  | nil =>
    refine ⟨?_, ?_⟩
    · simp [openCall, standing, htype, hindex]
    · simp [openCall, Tracks, htype]
  | cons call calls =>
    refine ⟨?_, rfl, rfl, by decide, by decide⟩
    have hone : (Finset.Ico 0 1 : Finset Int) = {0} := rfl
    have hstart : readEvent (some (.message 0 ∅)) (.contentBlockStart 0 (.toolUse call.id call.name)) = some (.message 1 {0}) := rfl
    simp only [openCall, exec_cons, hstart, ne_eq, reduceCtorEq, not_false_eq_true, if_true, standing, inCalls, zero_add, hone]
    split <;> simp [readEvent]

/-- What else the first chunk adds is read as a later chunk's. -/
theorem read_openFirst (htype : info.lastMessagesType = .none) (hindex : info.index = 0) (delta : StreamDelta) :
    let run := if delta.getReasoningContent ≠ "" ∨ delta.getContentString ≠ "" then .single
      else if delta.toolCalls ≠ [] then OpenRun.calls 1 0 else .single
    exec readEvent (some (.message 0 ∅)) (info.openFirst delta).2 = some (standing (info.openFirst delta).1 run) ∧
      Tracks (info.openFirst delta).1 run ∧ SameRest info (info.openFirst delta).1 := by
  intro run
  obtain ⟨hread, htracks⟩ := read_openCall htype hindex delta.toolCalls
  have hcloses : (if delta.toolCalls ≠ [] then OpenRun.calls 1 0 else .single).closes = true := by
    split <;> rfl
  have hadd : (if delta.toolCalls ≠ [] then OpenRun.calls 1 0 else .single).add { delta with calls := none } = some run := by
    have hnone : ({ delta with calls := none } : StreamDelta).toolCalls = [] := rfl
    unfold OpenRun.add
    rw [hnone, if_neg (not_not.2 rfl), if_pos hcloses]
    exact (apply_ite some _ _ _).symm
  have hfill := read_fill htracks { delta with calls := none }
  rw [hadd] at hfill
  refine ⟨?_, ?_, sameRest_openFirst htype delta⟩
  · rw [openFirst_eq htype, exec_append, hread]
    exact hfill.2
  · rw [openFirst_eq htype]
    exact hfill.1

theorem closes_openAfterFirst (first : StreamResponse) : (openAfterFirst first).closes = true := by
  unfold openAfterFirst
  cases first.choices with
  | nil => rfl
  | cons choice choices =>
    simp only
    split
    · rfl
    · split <;> rfl

/-- The first chunk starts the message; where it finishes, the stream is readable only with a usage. -/
theorem decides_firstChunk (first : StreamResponse) (info : ClaudeConvertInfo) (htype : info.lastMessagesType = .none)
    (hindex : info.index = 0) (husage : info.usage = first.usage) :
    Decides info (info.firstChunk estimate first).1 (exec readEvent (some .start) (info.firstChunk estimate first).2)
      (if first.choices.head?.any StreamChoice.isFinished then .decided first.usage.isSome else .goesOn (openAfterFirst first)) := by
  have hcloses := closes_openAfterFirst first
  unfold firstChunk
  unfold openAfterFirst at hcloses ⊢
  cases hchoices : first.choices with
  | nil =>
    refine ⟨?_, ?_, rfl, rfl, rfl⟩
    · simp [standing, htype, hindex, readEvent]
    · simp [Tracks, htype]
  | cons choice choices =>
    obtain ⟨hread, htracks, hrest⟩ := read_openFirst htype hindex choice.delta
    rw [hchoices] at hcloses
    simp only [List.head?_cons, Option.any_some] at hcloses ⊢
    generalize (if choice.delta.getReasoningContent ≠ "" ∨ choice.delta.getContentString ≠ "" then .single
      else if choice.delta.toolCalls ≠ [] then OpenRun.calls 1 0 else .single) = run at hread htracks hcloses ⊢
    generalize info.openFirst choice.delta = opened at hread htracks hrest ⊢
    by_cases hfinished : choice.isFinished = true
    · -- noting the finish reason moves no block
      have hnoted : Tracks { opened.1 with finishReason := choice.finishReason.getD "" } run := htracks
      have hclose : Decides info _ _ _ := decides_close hnoted first.usage (stopReasonOpenAI2Claude (choice.finishReason.getD ""))
      have hstart : exec readEvent (readEvent (some .start) (.messageStart first.id first.model estimate)) opened.2 =
        some (standing { opened.1 with finishReason := choice.finishReason.getD "" } run) := hread
      have hown : first.usage.or opened.1.usage = first.usage := by rw [hrest.usage, husage, Option.or_self]
      rw [hcloses, Bool.and_true] at hclose
      simp only [hfinished, if_true]
      rw [List.cons_append, exec_cons, exec_append, hstart, hown]
      exact hclose
    · simp only [hfinished, Bool.false_eq_true, if_false]
      exact ⟨hread, htracks, hrest⟩

/-- A message cannot start twice. -/
theorem read_firstChunk_again (chunk : StreamResponse) :
    exec readEvent (some (standing info run)) (info'.firstChunk estimate chunk).2 = none := by
  have hstart : readEvent (some (standing info run)) (.messageStart chunk.id chunk.model estimate) = none := by
    cases run with
    | single =>
      simp only [standing]
      split <;> rfl
    | calls started top => rfl
  obtain ⟨tail, htail⟩ : ∃ tail, (info'.firstChunk estimate chunk).2 = .messageStart chunk.id chunk.model estimate :: tail := by
    unfold firstChunk
    cases chunk.choices with
    | nil => exact ⟨[], rfl⟩
    | cons choice choices =>
      simp only
      split <;> exact ⟨_, rfl⟩
  rw [htail, exec_cons, hstart, exec_none]

/-- The chunks after a first one that does not finish: the last of two is counted as the first again. -/
theorem read_after_first (usage : Usage) (second : StreamResponse) (rest : List StreamResponse)
    (h : Tracks info run) (hdone : info.done = false) (hcount : info.sendResponseCount = 1) :
    exec readEvent (some (standing info run)) (handleChunks estimate usage (second :: rest) info) = some .ended ↔
      (decide (2 ≤ (second :: rest).length) && readableFrom run info.usage.isSome (second :: rest)) = true := by
  cases rest with
  | nil =>
    have hfinal : (info.handleFinalResponse estimate usage second).2 =
        ({ info with usage := some usage }.firstChunk estimate second).2 := by
      simp [handleFinalResponse, streamResponseOpenAI2Claude, hdone, hcount]
    rw [handleChunks, hfinal, read_firstChunk_again]
    simp
  | cons third rest =>
    have hlength : 2 ≤ (second :: third :: rest).length := by simp
    rw [read_rest estimate usage _ h hdone (.inr ⟨hcount, hlength⟩), decide_eq_true hlength, Bool.true_and]

end GrammarAux

open GrammarAux ClaudeStreamAux ClaudeConvertInfo

/-- For any stream of at least two chunks, any usage the stream is found to have and any estimate: what is sent to a Claude client is a
message the protocol allows, with its start first and once, its blocks started with consecutive indices from 0, filled and stopped while
they are open, each stopped once, and one usage and one end, exactly when the chunks are readable. -/
theorem claudeStream_wellFormed_iff (estimatePromptTokens : Int) (usage : Usage) (first second : StreamResponse)
    (rest : List StreamResponse) :
    WellFormed (claudeStreamHandler estimatePromptTokens usage (first :: second :: rest)) ↔
      readable first (second :: rest) = true := by
  have hfirst : handleStreamFormat estimatePromptTokens first {} =
      firstChunk estimatePromptTokens first { sendResponseCount := 1, usage := first.usage } := by
    simp [handleStreamFormat, streamResponseOpenAI2Claude]
  have hchunk := decides_firstChunk estimatePromptTokens first { sendResponseCount := 1, usage := first.usage } rfl rfl rfl
  have hreadable : readable first (second :: rest) =
      readableAfter (fun run => decide (2 ≤ (second :: rest).length) && readableFrom run first.usage.isSome (second :: rest))
        (if first.choices.head?.any StreamChoice.isFinished then .decided first.usage.isSome else .goesOn (openAfterFirst first)) := by
    unfold readable
    split <;> rfl
  unfold WellFormed claudeStreamHandler
  rw [handleChunks_cons, hfirst, exec_append, hreadable]
  refine hchunk.ended_iff _ _ (fun hended => handleChunks_done hended estimatePromptTokens usage _) fun run htracks hrest => ?_
  rw [read_after_first estimatePromptTokens usage second rest htracks hrest.done hrest.count, hrest.usage]

/-- A finish that comes last and has no usage of its own is taken for one with the usage to come: after two texts it leaves the message
open. After one it is counted as the first chunk once more, and starts the message again. -/
theorem finish_without_usage_not_closed :
    let text : StreamResponse := { choices := [{ delta := { content := some "Hi" } }] }
    let stop : StreamResponse := { choices := [{ finishReason := some "stop" }] }
    let usage : Usage := { promptTokens := 3, completionTokens := 2, totalTokens := 5 }
    ¬ WellFormed (claudeStreamHandler 3 usage [text, text, stop]) ∧ ¬ WellFormed (claudeStreamHandler 3 usage [text, stop]) := by
  decide +kernel

end NewApi
