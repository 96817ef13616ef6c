import NewApi.Lemmas.ClaudeContentAux

/-!
# What a converted stream keeps of its content

What the converter takes of the chunks is all sent, so content is lost exactly in the chunks that carry more than is taken of them. The
parts of a call are sent to one block as long as they come with the same index and no text between them.
-/

namespace NewApi

open Parts

namespace ContentAux

/-! ## What is not taken -/

def argumentText (c : CountedChunk) : String := String.join (c.delta.toolCalls.map ToolCallResponse.arguments)

def takenText (c : CountedChunk) : String :=
  if c.first then (c.delta.toolCalls.head?.map ToolCallResponse.arguments).getD ""
  else String.join ((taken c).toolCalls.map ToolCallResponse.arguments)

theorem join_callParts (run : Nat) (calls : List ToolCallResponse) (i : Nat) :
    String.join ((callParts run calls i).map Prod.snd) = String.join (calls.map ToolCallResponse.arguments) := by
  induction calls generalizing i with
  | nil => rfl
  | cons call calls ih =>
    by_cases hempty : call.arguments = "" <;> simp [callParts, hempty, ih]

theorem join_takenParts (run : Nat) (c : CountedChunk) : String.join ((takenParts run c).map Prod.snd) = takenText c := by
  unfold takenParts takenText
  by_cases hfirst : c.first = true
  · rw [if_pos hfirst, if_pos hfirst]
    cases c.delta.toolCalls with
    | nil => rfl
    | cons call calls =>
      by_cases hempty : call.arguments = "" <;> simp [hempty]
  · rw [if_neg hfirst, if_neg hfirst, join_callParts]

/-- How much of the arguments is taken. -/
theorem size_allTaken (run : Nat) (cs : List CountedChunk) : size (allTaken run cs) = (cs.map fun c => (takenText c).length).sum := by
  induction cs generalizing run with
  | nil => rfl
  | cons c cs ih => rw [allTaken, size_append, ih, List.map_cons, List.sum_cons, size, join_takenParts]

section
variable {κ : Type*} (call : Nat → Nat → κ)

theorem join_chunkParts (n run : Nat) (first : Bool) (fragments : List ToolCallResponse) (i : Nat) :
    String.join ((chunkParts call n run first fragments i).map ArgumentPart.text) =
      String.join (fragments.map ToolCallResponse.arguments) := by
  induction fragments generalizing i with
  | nil => rfl
  | cons fragment fragments ih => rw [chunkParts, List.map_cons, List.map_cons, String.join_cons, String.join_cons, ih]

theorem length_argumentParts (n run : Nat) (cs : List CountedChunk) :
    (String.join ((argumentParts call n run cs).map ArgumentPart.text)).length = (cs.map fun c => (argumentText c).length).sum := by
  induction cs generalizing n run with
  | nil => rfl
  | cons c cs ih =>
    rw [argumentParts, List.map_append, String.join_append, String.length_append, ih, join_chunkParts, List.map_cons, List.sum_cons,
      argumentText]

/-- How much of them there is. -/
theorem size_callTexts (cs : List CountedChunk) : size (callTexts call cs) = (cs.map fun c => (argumentText c).length).sum := by
  rw [← length_argumentParts call 0 0, size, callTexts, List.map_map]
  rfl

end

variable (c : CountedChunk)

/-- The text of a chunk is taken whole or not at all. -/
theorem spokenOf_taken : spokenOf (taken c) = c.delta.getContentString ∨ spokenOf (taken c) = "" := by
  unfold taken
  split
  · unfold spokenOf
    split
    · exact .inr rfl
    · exact .inl rfl
  · split
    · exact .inr rfl
    unfold spokenOf
    split
    · exact .inr rfl
    · exact .inl rfl

/-- So is its reasoning. -/
theorem thoughtOf_taken : thoughtOf (taken c) = c.delta.getReasoningContent ∨ thoughtOf (taken c) = "" := by
  unfold taken
  split
  · exact .inl rfl
  split
  · exact .inr rfl
  unfold thoughtOf
  split
  · exact .inr rfl
  · exact .inl rfl

/-- No more is taken than there is. -/
theorem takenText_le : (takenText c).length ≤ (argumentText c).length := by
  unfold takenText argumentText taken
  split
  · cases c.delta.toolCalls with
    | nil => exact le_refl _
    | cons call calls => simp
  · split
    · exact Nat.zero_le _
    · exact le_refl _

variable (delta : StreamDelta)

/-- A first chunk is whole exactly when the rest of it, as a later chunk's, and the first call's arguments are all. -/
theorem wholeFirst_iff : delta.WholeFirst ↔ spokenOf { delta with calls := none } = delta.getContentString ∧
      thoughtOf { delta with calls := none } = delta.getReasoningContent ∧
      ((delta.toolCalls.head?.map ToolCallResponse.arguments).getD "").length =
        (String.join (delta.toolCalls.map ToolCallResponse.arguments)).length := by
  have hspoken : spokenOf { delta with calls := none } = if delta.getReasoningContent ≠ "" then "" else delta.getContentString := by
    have hor : (([] : List ToolCallResponse) ≠ [] ∨ delta.getReasoningContent ≠ "") ↔ delta.getReasoningContent ≠ "" := by simp
    exact if_congr hor rfl rfl
  have hthought : thoughtOf { delta with calls := none } = delta.getReasoningContent := rfl
  have harguments : ((delta.toolCalls.head?.map ToolCallResponse.arguments).getD "").length =
      (String.join (delta.toolCalls.map ToolCallResponse.arguments)).length ↔ ∀ call ∈ delta.toolCalls.tail, call.arguments = "" := by
    cases delta.toolCalls with
    | nil => simp
    | cons call calls =>
      simp only [List.head?_cons, Option.map_some, Option.getD_some, List.map_cons, String.join_cons, String.length_append, List.tail_cons]
      rw [← join_map_eq_empty, ← String.length_eq_zero_iff]
      omega
  rw [hspoken, hthought, harguments, StreamDelta.WholeFirst]
  by_cases hreasoning : delta.getReasoningContent = ""
  · simp [hreasoning]
  · simp only [hreasoning, ne_eq, not_false_eq_true, if_true, false_or, true_and]
    exact ⟨fun h => ⟨h.2.symm, h.1⟩, fun h => ⟨h.2, h.1.symm⟩⟩

/-- There is nothing in a chunk that is left out exactly when nothing is all of it. -/
theorem empty_iff : delta.Empty ↔ "" = delta.getContentString ∧ "" = delta.getReasoningContent ∧
      0 = (String.join (delta.toolCalls.map ToolCallResponse.arguments)).length := by
  have harguments : (String.join (delta.toolCalls.map ToolCallResponse.arguments)).length = 0 ↔
      ∀ call ∈ delta.toolCalls, call.arguments = "" := by
    rw [← join_map_eq_empty, String.length_eq_zero_iff]
  rw [StreamDelta.Empty, ← harguments]
  constructor
  · rintro ⟨hlength, hreasoning, hcontent⟩
    exact ⟨hcontent.symm, hreasoning.symm, hlength.symm⟩
  · rintro ⟨hcontent, hreasoning, hlength⟩
    exact ⟨hlength.symm, hreasoning.symm, hcontent.symm⟩

/-- A later chunk is whole exactly when its content and its reasoning are taken, as its arguments are. -/
theorem wholeLater_iff : delta.WholeLater ↔ spokenOf delta = delta.getContentString ∧ thoughtOf delta = delta.getReasoningContent := by
  rw [StreamDelta.WholeLater, spokenOf, thoughtOf]
  by_cases hcalls : delta.toolCalls = []
  · by_cases hreasoning : delta.getReasoningContent = ""
    · simp [hcalls, hreasoning]
    · simp only [hcalls, hreasoning, ne_eq, not_true_eq_false, not_false_eq_true, or_true, if_true, if_false, false_or, true_or, and_true]
      exact eq_comm
  · simp only [hcalls, ne_eq, not_false_eq_true, true_or, if_true, false_or]
    constructor
    · rintro ⟨-, hreasoning, hcontent⟩
      exact ⟨hcontent.symm, hreasoning.symm⟩
    · rintro ⟨hcontent, hreasoning⟩
      exact ⟨.inl hreasoning.symm, hreasoning.symm, hcontent.symm⟩

/-- A chunk is whole exactly when all of its content, its reasoning and its arguments are taken. -/
theorem whole_iff : c.Whole ↔ spokenOf (taken c) = c.delta.getContentString ∧ thoughtOf (taken c) = c.delta.getReasoningContent ∧
      (takenText c).length = (argumentText c).length := by
  unfold CountedChunk.Whole takenText argumentText
  by_cases hfirst : c.first = true
  · have htaken : taken c = { c.delta with calls := none } := if_pos hfirst
    rw [if_pos hfirst, if_pos hfirst, htaken]
    exact wholeFirst_iff c.delta
  · rw [if_neg hfirst, if_neg hfirst]
    by_cases hout : c.leftOut = true
    · have htaken : taken c = {} := by simp [taken, hfirst, hout]
      rw [if_pos hout, htaken]
      exact empty_iff c.delta
    · have htaken : taken c = c.delta := by simp [taken, hfirst, hout]
      rw [if_neg hout, htaken, wholeLater_iff, and_iff_left rfl]

/-! ## Where all is taken -/

section
variable {κ : Type*} (call : Nat → Nat → κ)

/-- The parts with text, without the call. -/
def placedTexts (parts : List (ArgumentPart κ)) : List ((Nat × Int) × String) :=
  (parts.filter fun part => part.text ≠ "").map fun part => (part.place, part.text)

theorem placedTexts_append (parts more : List (ArgumentPart κ)) : placedTexts (parts ++ more) = placedTexts parts ++ placedTexts more := by
  simp [placedTexts]

theorem placedTexts_cons (part : ArgumentPart κ) (parts : List (ArgumentPart κ)) :
    placedTexts (part :: parts) = (if part.text ≠ "" then [(part.place, part.text)] else []) ++ placedTexts parts := by
  by_cases hempty : part.text = "" <;> simp [placedTexts, hempty]

/-- The fragments of a later chunk are placed by their index. -/
theorem placedTexts_later (n run : Nat) (fragments : List ToolCallResponse) (i : Nat) :
    placedTexts (chunkParts call n run false fragments i) = callParts run fragments i := by
  induction fragments generalizing i with
  | nil => rfl
  | cons fragment fragments ih =>
    rw [chunkParts, placedTexts_cons, ih, callParts]
    rfl

/-- Empty fragments are not placed. -/
theorem placedTexts_empty {fragments : List ToolCallResponse} (h : ∀ fragment ∈ fragments, fragment.arguments = "") (n run : Nat)
    (first : Bool) (i : Nat) : placedTexts (chunkParts call n run first fragments i) = [] := by
  induction fragments generalizing i with
  | nil => rfl
  | cons fragment fragments ih =>
    obtain ⟨hfragment, hrest⟩ := List.forall_mem_cons.1 h
    rw [chunkParts, placedTexts_cons, ih hrest, if_neg (not_not.2 hfragment)]
    rfl

/-- The parts of a chunk that carries no more than is taken are those that are taken. -/
theorem placedTexts_chunk {c : CountedChunk} (h : c.Whole) (n run : Nat) :
    placedTexts (chunkParts call n run c.first c.delta.toolCalls 0) = takenParts run c := by
  unfold CountedChunk.Whole at h
  unfold takenParts taken
  by_cases hfirst : c.first = true
  · rw [if_pos hfirst] at h
    rw [if_pos hfirst, hfirst]
    obtain ⟨htail, -⟩ := h
    cases hcalls : c.delta.toolCalls with
    | nil => rfl
    | cons fragment fragments =>
      rw [hcalls, List.tail_cons] at htail
      rw [chunkParts, placedTexts_cons, placedTexts_empty call htail, List.append_nil]
      rfl
  · rw [if_neg hfirst] at h
    rw [if_neg hfirst, if_neg hfirst]
    rw [Bool.not_eq_true] at hfirst
    rw [hfirst]
    by_cases hout : c.leftOut = true
    · rw [if_pos hout] at h
      rw [if_pos hout, placedTexts_empty call h.1]
      rfl
    · rw [if_neg hout, placedTexts_later]

/-- Of whole chunks every fragment is placed where it is sent. -/
theorem placedTexts_argumentParts {cs : List CountedChunk} (h : ∀ c ∈ cs, c.Whole) (n run : Nat) :
    placedTexts (argumentParts call n run cs) = allTaken run cs := by
  induction cs generalizing n run with
  | nil => rfl
  | cons c cs ih =>
    obtain ⟨hc, hcs⟩ := List.forall_mem_cons.1 h
    obtain ⟨hspoken, hthought, -⟩ := (whole_iff c).1 hc
    rw [argumentParts, placedTexts_append, placedTexts_chunk call hc, ih hcs, allTaken, runAfter, hspoken, hthought]

/-- Parts placed apart run by run have the same block exactly when they have the same place. -/
theorem block_eq_iff {parts : List ((Nat × Int) × String)} {base : Nat → Int}
    (hapart : ∀ part ∈ parts, ∀ other ∈ parts, part.1.1 < other.1.1 → base part.1.1 + part.1.2 < base other.1.1)
    {part other : (Nat × Int) × String} (hmem : part ∈ parts) (hother : other ∈ parts) (hpos : 0 ≤ part.1.2) (hpos' : 0 ≤ other.1.2) :
    base part.1.1 + part.1.2 = base other.1.1 + other.1.2 ↔ part.1 = other.1 := by
  constructor
  · intro hblock
    rcases lt_trichotomy part.1.1 other.1.1 with hlt | heq | hgt
    · have hless := hapart part hmem other hother hlt
      omega
    · rw [heq] at hblock
      exact Prod.ext heq (by omega)
    · have hless := hapart other hother part hmem hgt
      omega
  · intro heq
    rw [heq]

end

end ContentAux

open ContentAux

/-- For any chunks with one choice each, whatever they carry, and whichever fragments are of one call: if no content is lost, every chunk
that is handled carries no more than is taken of it; and if that is so, and the calls are those the converter tells apart, no content is
lost. -/
theorem claudeStream_content_kept {κ : Type} [DecidableEq κ] (estimatePromptTokens : Int) (usage : Usage)
    (chunks : List StreamResponse) (hone : ∀ chunk ∈ chunks, chunk.choices.length = 1) (call : Nat → Nat → κ) :
    (ContentKept call (handledChunks chunks) (claudeStreamHandler estimatePromptTokens usage chunks) →
      ∀ c ∈ handledChunks chunks, c.Whole) ∧
    ((∀ c ∈ handledChunks chunks, c.Whole) ∧ CallsPlaced call (handledChunks chunks) →
      ContentKept call (handledChunks chunks) (claudeStreamHandler estimatePromptTokens usage chunks)) := by
  obtain ⟨htext, hthinking, base, hinputs, hapart⟩ := stream_says estimatePromptTokens usage chunks hone
  unfold ContentKept
  rw [htext, hthinking, hinputs]
  generalize handledChunks chunks = cs at *
  constructor
  · rintro ⟨hcontent, hreasoning, block, hblock, harguments⟩
    have hspoken := (join_map_eq_iff fun c _ => spokenOf_taken c).1 hcontent
    have hthought := (join_map_eq_iff fun c _ => thoughtOf_taken c).1 hreasoning
    -- as much is sent as there is, so no chunk's arguments are left out
    have hsize := size_le_of_textAt_eq hblock harguments
    have hsent : size ((allTaken 0 cs).map fun part => (base part.1.1 + part.1.2, part.2)) = size (allTaken 0 cs) := by
      simp [size, List.map_map, Function.comp_def]
    rw [hsent, size_allTaken, size_callTexts] at hsize
    have hle := List.sum_le_sum fun c (_ : c ∈ cs) => takenText_le c
    have hall := (sum_map_eq_iff fun c _ => takenText_le c).1 (le_antisymm hle hsize)
    intro c hc
    exact (whole_iff c).2 ⟨hspoken c hc, hthought c hc, hall c hc⟩
  · rintro ⟨hwhole, hplaced⟩
    refine ⟨?_, ?_, ?_⟩
    · rw [List.map_congr_left fun c hc => ((whole_iff c).1 (hwhole c hc)).1]
    · rw [List.map_congr_left fun c hc => ((whole_iff c).1 (hwhole c hc)).2.1]
    · rw [← placedTexts_argumentParts call hwhole 0 0] at hapart ⊢
      have hsame : ∀ b, textAt ((placedTexts (argumentParts call 0 0 cs)).map fun part => (base part.1.1 + part.1.2, part.2)) b =
          textAt ((argumentParts call 0 0 cs).map fun part => (base part.place.1 + part.place.2, part.text)) b := by
        intro b
        rw [← textAt_filter ((argumentParts call 0 0 cs).map _)]
        simp [placedTexts, List.filter_map, Function.comp_def]
      have hmem : ∀ part ∈ argumentParts call 0 0 cs, part.text ≠ "" →
          (part.place, part.text) ∈ placedTexts (argumentParts call 0 0 cs) := fun part hpart htext =>
        List.mem_map.2 ⟨part, List.mem_filter.2 ⟨hpart, decide_eq_true htext⟩, rfl⟩
      simp only [hsame]
      refine exists_rekey fun part hpart other hother htext htext' => ?_
      obtain ⟨hpos, hcall⟩ := hplaced part hpart other hother htext htext'
      obtain ⟨hpos', -⟩ := hplaced other hother part hpart htext' htext
      rw [hcall]
      exact (block_eq_iff hapart (hmem part hpart htext) (hmem other hother htext') hpos hpos').symm

namespace ContentAux

/-- A text, then a call in two fragments, and the end with the usage. -/
def sampleChunks : List StreamResponse :=
  [{ choices := [{ delta := { content := some "Let me see." } }] },
    { choices := [{ delta := { calls := some [{ index := some 0, id := "call_1", name := "f", arguments := "[1" }] } }] },
    { choices := [{ delta := { calls := some [{ index := some 0, arguments := ",2]" }] } }] },
    { choices := [{ finishReason := some "tool_calls" }], usage := some { promptTokens := 3, completionTokens := 2 } }]

end ContentAux

/-- A stream in which nothing is lost. -/
theorem claudeStream_content_kept_sample :
    (∀ c ∈ handledChunks sampleChunks, c.Whole) ∧ CallsPlaced (fun _ i => i) (handledChunks sampleChunks) ∧
      ContentKept (fun _ i => i) (handledChunks sampleChunks) (claudeStreamHandler 3 {} sampleChunks) := by
  have hwhole : ∀ c ∈ handledChunks sampleChunks, c.Whole := by decide +kernel
  have hplaced : CallsPlaced (fun _ i => i) (handledChunks sampleChunks) := by
    unfold CallsPlaced
    decide +kernel
  exact ⟨hwhole, hplaced, (claudeStream_content_kept 3 {} sampleChunks (by decide) fun _ i => i).2 ⟨hwhole, hplaced⟩⟩

/-- A chunk with content and a tool call loses the content, and an end with content and without a usage of its own does. -/
theorem mixed_chunk_content_lost :
    let text : StreamResponse := { choices := [{ delta := { content := some "Hi" } }] }
    let mixed : StreamResponse :=
      { choices := [{ delta := { content := some " there", calls := some [{ index := some 0, id := "call_1", name := "f" }] } }] }
    let stop : StreamResponse := { choices := [{ finishReason := some "stop" }], usage := some {} }
    let late : StreamResponse := { choices := [{ delta := { content := some "!" }, finishReason := some "stop" }] }
    ¬ ContentKept (fun _ i => i) (handledChunks [text, mixed, stop]) (claudeStreamHandler 3 {} [text, mixed, stop]) ∧
      textOf (claudeStreamHandler 3 {} [text, mixed, stop]) = "Hi" ∧
      ¬ ContentKept (fun _ i => i) (handledChunks [text, text, late]) (claudeStreamHandler 3 {} [text, text, late]) ∧
      textOf (claudeStreamHandler 3 {} [text, text, late]) = "HiHi" := by
  intro text mixed stop late
  have hmixed : textOf (claudeStreamHandler 3 {} [text, mixed, stop]) = "Hi" := by decide +kernel
  have hlate : textOf (claudeStreamHandler 3 {} [text, text, late]) = "HiHi" := by decide +kernel
  refine ⟨fun hkept => ?_, hmixed, fun hkept => ?_, hlate⟩
  · have hcontent := hmixed.symm.trans hkept.1
    exact absurd hcontent (by decide +kernel)
  · have hcontent := hlate.symm.trans hkept.1
    exact absurd hcontent (by decide +kernel)

end NewApi
