import NewApi.Relay.GeminiFormat

/-!
# What a Gemini client and its channel tell each other

Calls are numbered within one content, and a response takes the number of the last call of its own content: a response in a content
without calls answers `call_0`, which no call has (`tool_results_answer_iff`). Four stop sequences are sliced off whether or not there are
four (`stop_sequences_iff`). In a response a text and calls exclude each other (`answer_kept_whole_iff`), and in a stream every fragment of
a call is a call (`streamed_calls_iff`).
-/

namespace NewApi

/-! ## Stop sequences -/

/-- The conversion returns, with the first four stop sequences, exactly where there are none or at least four. -/
theorem stop_sequences_iff (toJSONString : Json → String) (req : GeminiChatRequest) :
    (∃ messages, geminiToOpenAIRequest toJSONString req = .ok (messages, req.stopSequences.elems.take 4)) ↔
      req.stopSequences.elems = [] ∨ 4 ≤ req.stopSequences.elems.length := by
  by_cases hnil : req.stopSequences.elems = []
  · simp only [hnil, true_or, iff_true]
    exact ⟨_, by rw [geminiToOpenAIRequest, if_neg (not_not.2 hnil)]; rfl⟩
  simp only [geminiToOpenAIRequest, if_pos hnil, GoSlice.upTo, hnil, false_or]
  constructor
  · rintro ⟨messages, h⟩
    split at h
    · rename_i hcapacity
      have hlength := congrArg List.length (Prod.mk.inj (Outcome.ok.inj h)).2
      simp only [List.length_take, List.length_append] at hlength
      omega
    · cases h
  · intro hfour
    rw [if_pos (by omega), List.take_append_of_le_length hfour]
    exact ⟨_, rfl⟩

/-- One stop sequence in an array of one panics, and in an array of four comes with three that nobody asked for. -/
theorem single_stop_sequence_fails :
    (geminiToOpenAIRequest (fun _ => "") { contents := [], stopSequences := ⟨["END"], []⟩ }).panics = true ∧
      geminiToOpenAIRequest (fun _ => "") { contents := [], stopSequences := ⟨["END"], ["", "", ""]⟩ } = .ok ([], ["END", "", "", ""]) :=
  ⟨rfl, rfl⟩

/-! ## Calls and their results -/

/-- Calls of one round with their results, and the roles of the two contents. -/
structure GeminiRound where
  calls : List (String × Json × Json)
  callRole : String
  responseRole : String

/-- A content with the calls and a content with the responses, in the same order. -/
def GeminiRound.contents (round : GeminiRound) : List GeminiContent :=
  [⟨round.callRole, round.calls.map fun c => { functionCall := some (c.1, c.2.1) }⟩,
    ⟨round.responseRole, round.calls.map fun c => { functionResponse := some (c.1, c.2.2) }⟩]

/-- The ids of the calls are distinct, and the answers have them in the same order. -/
def AnswersCalls (messages : List OpenAIMessage) : Prop :=
  let ids := (messages.flatMap OpenAIMessage.toolCalls).map OpenAIToolCall.id
  ids.Nodup ∧ (messages.filter (·.role = "tool")).map OpenAIMessage.toolCallId = ids

namespace GeminiAux

variable (toJSONString : Json → String)

/-- Calls alone are numbered from the first one on. -/
theorem foldl_calls (calls : List (String × Json × Json)) (acc : ConvertedParts) :
    ∃ more, (calls.map fun c => ({ functionCall := some (c.1, c.2.1) } : GeminiPart)).foldl (ConvertedParts.add toJSONString) acc =
        { acc with toolCalls := acc.toolCalls ++ more } ∧
      more.head?.map OpenAIToolCall.id = calls.head?.map fun _ => s!"call_{acc.toolCalls.length + 1}" := by
  induction calls generalizing acc with
  | nil => exact ⟨[], by simp, rfl⟩
  | cons c calls ih =>
    obtain ⟨more, hmore, -⟩ := ih (acc.add toJSONString { functionCall := some (c.1, c.2.1) })
    refine ⟨⟨s!"call_{acc.toolCalls.length + 1}", c.1, toJSONString c.2.1⟩ :: more, ?_, rfl⟩
    rw [List.map_cons, List.foldl_cons, hmore]
    simp [ConvertedParts.add]

/-- Responses alone have the number of calls before them. -/
theorem foldl_responses (calls : List (String × Json × Json)) (acc : ConvertedParts) :
    ∃ more, (calls.map fun c => ({ functionResponse := some (c.1, c.2.2) } : GeminiPart)).foldl (ConvertedParts.add toJSONString) acc =
        { acc with responses := acc.responses ++ more } ∧
      more.map (fun m => (m.role, m.toolCallId, m.toolCalls)) = calls.map fun _ => ("tool", s!"call_{acc.toolCalls.length}", []) := by
  induction calls generalizing acc with
  | nil => exact ⟨[], by simp, rfl⟩
  | cons c calls ih =>
    obtain ⟨more, hmore, hids⟩ := ih (acc.add toJSONString { functionResponse := some (c.1, c.2.2) })
    refine ⟨{ role := "tool", content := .str (toJSONString c.2.2), toolCallId := s!"call_{acc.toolCalls.length}" } :: more, ?_, ?_⟩
    · rw [List.map_cons, List.foldl_cons, hmore]
      simp [ConvertedParts.add]
    · rw [List.map_cons, hids]
      simp [ConvertedParts.add]

theorem role_ne_tool (role : String) : convertGeminiRoleToOpenAI role ≠ "tool" := by
  unfold convertGeminiRoleToOpenAI
  split
  · decide
  · split <;> decide

/-- The first call of a round is `call_1`, and its first answer is for `call_0`. -/
theorem round_heads {round : GeminiRound} (h : round.calls ≠ []) (later : List OpenAIMessage) :
    let messages := round.contents.flatMap (convertContent toJSONString) ++ later
    ((messages.flatMap OpenAIMessage.toolCalls).map OpenAIToolCall.id).head? = some "call_1" ∧
      ((messages.filter (·.role = "tool")).map OpenAIMessage.toolCallId).head? = some "call_0" := by
  obtain ⟨c, calls, hcalls⟩ := List.exists_cons_of_ne_nil h
  obtain ⟨numbered, hnumbered, hfirst⟩ := foldl_calls toJSONString round.calls {}
  obtain ⟨answers, hanswers, hids⟩ := foldl_responses toJSONString round.calls {}
  rw [hcalls] at hfirst hids
  cases numbered with
  | nil => cases hfirst
  | cons first numbered =>
    cases answers with
    | nil => cases hids
    | cons answer answers =>
      simp only [List.map_cons, List.cons.injEq, Prod.mk.injEq] at hids
      simp only [GeminiRound.contents, convertContent, List.flatMap_cons, List.flatMap_nil, hnumbered, hanswers]
      simp [role_ne_tool, hids, Option.some.inj hfirst]
      exact ⟨rfl, rfl⟩

end GeminiAux

open GeminiAux

/-- Over any rounds of calls and responses, the results answer their calls exactly where there is no call. -/
theorem tool_results_answer_iff (toJSONString : Json → String) (rounds : List GeminiRound) (stop : GoSlice String)
    (system : Option (List GeminiPart)) :
    AnswersCalls (geminiMessages toJSONString ⟨rounds.flatMap GeminiRound.contents, stop, system⟩) ↔
      ∀ round ∈ rounds, round.calls = [] := by
  have hsystem : AnswersCalls (geminiMessages toJSONString ⟨rounds.flatMap GeminiRound.contents, stop, system⟩) ↔
      AnswersCalls ((rounds.flatMap GeminiRound.contents).flatMap (convertContent toJSONString)) := by
    cases system <;> simp [AnswersCalls, geminiMessages]
  rw [hsystem]
  clear hsystem
  constructor
  · rintro ⟨-, hanswers⟩
    induction rounds with
    | nil => exact fun _ hround => absurd hround List.not_mem_nil
    | cons round rounds ih =>
      rw [List.flatMap_cons, List.flatMap_append] at hanswers
      by_cases hcalls : round.calls = []
      · have hnone : round.contents.flatMap (convertContent toJSONString) = [] := by
          simp [GeminiRound.contents, convertContent, hcalls]
        rw [hnone, List.nil_append] at hanswers
        exact List.forall_mem_cons.2 ⟨hcalls, ih hanswers⟩
      · obtain ⟨hcall, hanswer⟩ := round_heads toJSONString hcalls
          ((rounds.flatMap GeminiRound.contents).flatMap (convertContent toJSONString))
        rw [hanswers, hcall] at hanswer
        exact absurd (Option.some.inj hanswer) (by decide)
  · intro hnone
    have hempty : (rounds.flatMap GeminiRound.contents).flatMap (convertContent toJSONString) = [] := by
      simp only [List.flatMap_eq_nil_iff, List.mem_flatMap]
      rintro content ⟨round, hround, hcontent⟩
      simp only [GeminiRound.contents, hnone round hround, List.map_nil, List.mem_cons, List.not_mem_nil, or_false] at hcontent
      rcases hcontent with rfl | rfl <;> rfl
    rw [hempty]
    exact ⟨List.nodup_nil, rfl⟩

/-- One call and its result: the call is `call_1`, the result answers `call_0`. -/
theorem result_answers_no_call :
    let round : GeminiRound := ⟨[("f", .null, .null)], "model", "user"⟩
    let messages := geminiMessages (fun _ => "") ⟨round.contents, ⟨[], []⟩, none⟩
    messages =
        [{ role := "assistant", toolCalls := [⟨"call_1", "f", ""⟩] }, { role := "tool", content := .str "", toolCallId := "call_0" }] ∧
      ¬ AnswersCalls messages :=
  ⟨rfl, fun h => absurd h.2 (by decide)⟩

/-! ## Responses -/

/-- The text, unless it is empty, and every call are in the content. -/
def Holds {β : Type} (text : String) (textBlock : β) (calls content : List β) : Prop :=
  (text ≠ "" → textBlock ∈ content) ∧ calls.Sublist content

variable (decode : DecodeArguments)

/-- The answer reaches Claude and Gemini clients whole exactly where it is only calls and says so, or is only a text. -/
theorem answer_kept_whole_iff (choice : OpenAIChoice) :
    (Holds choice.content (.text choice.content) (choice.toolCalls.map (claudeCall decode)) (responseOpenAI2Claude decode choice) ∧
      Holds choice.content (.text choice.content) (choice.toolCalls.map fun call => geminiCall decode call.name call.arguments)
        (responseOpenAI2Gemini decode choice)) ↔
      if choice.finishReason = "tool_calls" then choice.content = "" else choice.toolCalls = [] := by
  unfold responseOpenAI2Claude responseOpenAI2Gemini geminiParts
  split
  · constructor
    · rintro ⟨⟨htext, -⟩, -⟩
      by_contra hne
      obtain ⟨call, -, hcall⟩ := List.mem_map.1 (htext hne)
      cases hcall
    · intro hempty
      by_cases hnone : choice.toolCalls = []
      · simp [Holds, hempty, hnone]
      · simp [Holds, hempty, hnone]
  · constructor
    · rintro ⟨⟨-, hcalls⟩, -⟩
      by_contra hne
      obtain ⟨call, calls, heq⟩ := List.exists_cons_of_ne_nil hne
      rw [heq, List.map_cons] at hcalls
      cases List.mem_singleton.1 (hcalls.mem List.mem_cons_self)
    · intro hnone
      by_cases hempty : choice.content = ""
      · simp [Holds, hnone, hempty]
      · simp [Holds, hnone, hempty]

/-- A text with a call and the finish reason `stop`: Claude clients do not get the call, Gemini clients not the text. -/
theorem text_or_call_lost :
    let choice : OpenAIChoice := ⟨"hi", [⟨"t", "f", ""⟩], "stop"⟩
    let calls := choice.toolCalls.map fun call => geminiCall (fun _ => none) call.name call.arguments
    ¬ Holds choice.content (.text choice.content) (choice.toolCalls.map (claudeCall fun _ => none))
        (responseOpenAI2Claude (fun _ => none) choice) ∧
      ¬ Holds choice.content (.text choice.content) calls (responseOpenAI2Gemini (fun _ => none) choice) := by
  simp [Holds, responseOpenAI2Claude, responseOpenAI2Gemini, geminiParts, geminiCall, claudeCall]

/-! ## Streamed calls -/

def otherFragments (f : ToolCallResponse) (fragments : List ToolCallResponse) : List ToolCallResponse :=
  fragments.filter (·.index ≠ f.index)

/-- The calls that fragments add up to: those of one index are one call, with the name of the first. -/
def assemble : List ToolCallResponse → List OpenAIToolCall
  | [] => []
  | f :: rest =>
    ⟨f.id, f.name, String.join ((f :: rest.filter (·.index = f.index)).map (·.arguments))⟩ :: assemble (otherFragments f rest)
termination_by fragments => fragments.length
decreasing_by exact Nat.lt_succ_of_le (List.length_filter_le _ _)

/-- The fragments of calls in a stream that belong to the choice with index `i`, wherever it stands in its chunk. -/
def fragmentsOf (stream : List StreamResponse) (i : Int) : List ToolCallResponse :=
  (stream.flatMap StreamResponse.choices).flatMap fun c => if c.index = i then c.delta.toolCalls else []

def GeminiReplyPart.isCall : GeminiReplyPart → Bool
  | .functionCall _ _ => true
  | .text _ => false

/-- The function calls a Gemini client gets for the candidate with index `i`. -/
def streamedCalls (stream : List StreamResponse) (i : Int) : List GeminiReplyPart :=
  (stream.flatMap fun chunk => (streamResponseOpenAI2Gemini decode chunk).getD []).flatMap fun candidate =>
    if candidate.1 = i then candidate.2.filter (·.isCall) else []

namespace GeminiAux

variable {fragments : List ToolCallResponse}

theorem length_assemble_le (fragments : List ToolCallResponse) : (assemble fragments).length ≤ fragments.length := by
  fun_induction assemble fragments with
  | case1 => exact le_refl _
  | case2 f rest ih => exact Nat.succ_le_succ (ih.trans (List.length_filter_le _ _))

/-- As many calls as fragments: no two fragments are of one call. -/
theorem nodup_of_length_assemble (h : (assemble fragments).length = fragments.length) : (fragments.map ToolCallResponse.index).Nodup := by
  fun_induction assemble fragments with
  | case1 => exact List.nodup_nil
  | case2 f rest ih =>
    have hle := length_assemble_le (otherFragments f rest)
    have hothers : (otherFragments f rest).length ≤ rest.length := List.length_filter_le _ _
    simp only [List.length_cons] at h
    have hall : otherFragments f rest = rest := List.filter_sublist.eq_of_length (hothers.antisymm (by omega))
    rw [hall] at ih h
    have hnew : f.index ∉ rest.map ToolCallResponse.index := by
      intro hmem
      obtain ⟨g, hg, hindex⟩ := List.mem_map.1 hmem
      simpa [hindex] using List.filter_eq_self.1 hall g hg
    exact List.nodup_cons.2 ⟨hnew, ih (by omega)⟩

/-- Fragments of distinct indices are calls of their own. -/
theorem assemble_of_nodup (h : (fragments.map ToolCallResponse.index).Nodup) :
    assemble fragments = fragments.map fun f => ⟨f.id, f.name, f.arguments⟩ := by
  fun_induction assemble fragments with
  | case1 => rfl
  | case2 f rest ih =>
    obtain ⟨hnew, hrest⟩ := List.nodup_cons.1 h
    have hother : ∀ g ∈ rest, g.index ≠ f.index := fun g hg heq => hnew (List.mem_map.2 ⟨g, hg, heq⟩)
    have hall : otherFragments f rest = rest := by simpa [otherFragments] using hother
    have hnone : rest.filter (·.index = f.index) = [] := by simpa using hother
    rw [hall] at ih
    rw [hall, hnone, ih hrest]
    simp

/-- Among the parts of a choice, the function calls are the calls. -/
theorem filter_geminiParts {α : Type} (call : α → GeminiReplyPart) (hcall : ∀ a, (call a).isCall) (calls : List α) (text : String) :
    (geminiParts (calls.map call) text).filter (·.isCall) = calls.map call := by
  cases calls with
  | nil => by_cases h : text = "" <;> simp [geminiParts, h, GeminiReplyPart.isCall]
  | cons a rest => simp [geminiParts, hcall]

/-- Among what is sent of a choice, the function calls are its fragments. -/
theorem filter_streamedParts (decode : DecodeArguments) (delta : StreamDelta) : (streamedParts decode delta).filter (·.isCall) =
    delta.toolCalls.map fun f => geminiCall decode f.name f.arguments := by
  unfold streamedParts StreamDelta.toolCalls
  cases delta.calls with
  | some calls => simp [List.filter_eq_self, geminiCall, GeminiReplyPart.isCall]
  | none => by_cases h : delta.getContentString = "" <;> simp [h, GeminiReplyPart.isCall]

/-- The calls of one chunk; a chunk that is skipped has none. -/
theorem chunkCalls_eq (decode : DecodeArguments) (chunk : StreamResponse) (i : Int) :
    (((streamResponseOpenAI2Gemini decode chunk).getD []).flatMap fun candidate =>
        if candidate.1 = i then candidate.2.filter (·.isCall) else []) =
      (chunk.choices.flatMap fun c => if c.index = i then c.delta.toolCalls else []).map
        fun f => geminiCall decode f.name f.arguments := by
  unfold streamResponseOpenAI2Gemini
  split
  · rw [Option.getD_some, List.flatMap_map, List.map_flatMap]
    refine List.flatMap_congr fun c _ => ?_
    simp only [filter_streamedParts]
    split <;> rfl
  · rename_i hskip
    have hnone : ∀ c ∈ chunk.choices, c.delta.toolCalls = [] := by simp_all
    have hempty : (chunk.choices.flatMap fun c => if c.index = i then c.delta.toolCalls else []) = [] := by
      rw [List.flatMap_eq_nil_iff]
      intro c hc
      simp [hnone c hc]
    rw [hempty]
    rfl

/-- Every fragment is sent as a call. -/
theorem streamedCalls_eq (decode : DecodeArguments) (stream : List StreamResponse) (i : Int) :
    streamedCalls decode stream i = (fragmentsOf stream i).map fun f => geminiCall decode f.name f.arguments := by
  rw [streamedCalls, fragmentsOf, List.flatMap_assoc, List.flatMap_assoc, List.map_flatMap]
  exact List.flatMap_congr fun chunk _ => chunkCalls_eq decode chunk i

end GeminiAux

/-- For the choice with index `i` a Gemini client gets the calls of the assembled response exactly where every call of that choice came in
one fragment. -/
theorem streamed_calls_iff (stream : List StreamResponse) (i : Int) (content finishReason : String) :
    streamedCalls decode stream i =
        (responseOpenAI2Gemini decode ⟨content, assemble (fragmentsOf stream i), finishReason⟩).filter (·.isCall) ↔
      ((fragmentsOf stream i).map ToolCallResponse.index).Nodup := by
  rw [GeminiAux.streamedCalls_eq, responseOpenAI2Gemini, GeminiAux.filter_geminiParts _ (fun _ => rfl)]
  constructor
  · intro hsame
    have hlength := congrArg List.length hsame
    simp only [List.length_map] at hlength
    exact GeminiAux.nodup_of_length_assemble hlength.symm
  · intro hnodup
    rw [GeminiAux.assemble_of_nodup hnodup, List.map_map]
    rfl

/-- A call whose arguments come in two fragments is sent as two calls, and the assembled response has one. -/
theorem split_call_sent_twice :
    let fragment (name arguments : String) : StreamResponse :=
      { choices := [{ delta := { calls := some [{ index := some 0, name := name, arguments := arguments }] } }] }
    let stream := [fragment "f" "1", fragment "" "2"]
    let assembled := responseOpenAI2Gemini (fun _ => none) ⟨"", assemble (fragmentsOf stream 0), "tool_calls"⟩
    (streamedCalls (fun _ => none) stream 0).length = 2 ∧ assembled = [.functionCall "f" [("arguments", .str "12")]] ∧
      streamedCalls (fun _ => none) stream 0 ≠ assembled.filter (·.isCall) := by
  intro fragment stream assembled
  have hone : assembled = [.functionCall "f" [("arguments", .str "12")]] := by
    simp [assembled, stream, fragment, fragmentsOf, StreamDelta.toolCalls, assemble, otherFragments, responseOpenAI2Gemini, geminiParts,
      geminiCall]
  have htwo : (streamedCalls (fun _ => none) stream 0).length = 2 := by decide
  refine ⟨htwo, hone, fun hsame => ?_⟩
  rw [hsame, hone] at htwo
  exact absurd htwo (by decide)

end NewApi
