import NewApi.Relay.StreamResponse

/-!
# What a client of the same format gets

Every chunk but the last is handed on as it came, in order. The last is kept back for its usage, and with it whatever else it carries
beside content and reasoning.
-/

namespace NewApi

namespace PassThroughAux

/-- The scan hands on all but the last chunk, which it keeps. -/
theorem foldl_receive {s : ScanState} {last : StreamResponse} (hlast : s.last = some last) (chunks : List StreamResponse) :
    (chunks.foldl ScanState.receive s).written = s.written ++ (last :: chunks).dropLast.map .chunk ∧
      (chunks.foldl ScanState.receive s).last = (last :: chunks).getLast? := by
  induction chunks generalizing s last with
  | nil => exact ⟨by simp, by simp [hlast]⟩
  | cons chunk chunks ih =>
    have hnext : (s.receive chunk).last = some chunk := by
      unfold ScanState.receive
      rw [hlast]
    have hwritten : (s.receive chunk).written = s.written ++ [.chunk last] := by
      unfold ScanState.receive
      rw [hlast]
    obtain ⟨hrest, hend⟩ := ih hnext
    refine ⟨?_, ?_⟩
    · rw [List.foldl_cons, hrest, hwritten]
      simp
    · rw [List.foldl_cons, hend, List.getLast?_cons_cons]

/-- The scan writes all chunks but the last, which it keeps. -/
theorem scan_eq (chunks : List StreamResponse) : (chunks.foldl ScanState.receive {}).written = chunks.dropLast.map .chunk ∧
      (chunks.foldl ScanState.receive {}).last = chunks.getLast? := by
  cases chunks with
  | nil => exact ⟨rfl, rfl⟩
  | cons chunk chunks =>
    have hscan := foldl_receive (s := ScanState.receive {} chunk) rfl chunks
    simpa [ScanState.receive] using hscan

theorem writtenChunks_finalData (info : StreamInfo) (chunks : List StreamResponse) (read : LastResponse) :
    writtenChunks (finalData info chunks read) = [] := by
  unfold finalData
  split <;> rfl

/-- One of the choices has content or reasoning: what the rule for the last chunk looks at. -/
def speaks (chunk : StreamResponse) : Bool :=
  chunk.choices.any fun choice => choice.delta.getContentString ≠ "" || choice.delta.getReasoningContent ≠ ""

theorem speaks_iff (chunk : StreamResponse) :
    speaks chunk = true ↔ ∃ choice ∈ chunk.choices, choice.delta.getContentString ≠ "" ∨ choice.delta.getReasoningContent ≠ "" := by
  simp [speaks]

theorem shouldSend_eq (shouldInclude : Bool) (model : String) (usage : Option Usage) (last : StreamResponse) :
    (handleLastResponse shouldInclude model usage (some last)).shouldSend = (!validUsage last.usage || shouldInclude || speaks last) := by
  unfold handleLastResponse speaks
  by_cases hvalid : validUsage last.usage = true <;> simp [hvalid]

/-- The chunks a client gets: all but the last, and the last where the rule sends it. -/
theorem writtenChunks_handler (info : StreamInfo) (chunks : List StreamResponse) (last : StreamResponse) :
    writtenChunks (oaiStreamHandler info (chunks ++ [last])) =
      chunks ++ if !validUsage last.usage || info.shouldIncludeUsage || speaks last then [last] else [] := by
  obtain ⟨hwritten, hlast⟩ := scan_eq (chunks ++ [last])
  have hmap : writtenChunks (chunks.map .chunk) = chunks := by
    simp [writtenChunks, List.filterMap_map]
  rw [List.dropLast_concat] at hwritten
  rw [List.getLast?_concat] at hlast
  unfold oaiStreamHandler
  simp only [hwritten, hlast, shouldSend_eq]
  rw [writtenChunks, List.filterMap_append, List.filterMap_append]
  change writtenChunks _ ++ writtenChunks _ ++ writtenChunks _ = _
  rw [writtenChunks_finalData, hmap, List.append_nil]
  split <;> rfl

end PassThroughAux

open PassThroughAux

/-- Whatever the chunks and whether or not the client is to get the usage: the chunks that carry something are written once each and in
order, exactly when a last chunk that reports a usage the client did not ask for carries nothing, or has content or reasoning. -/
theorem stream_forwarded_iff (info : StreamInfo) (chunks : List StreamResponse) :
    (writtenChunks (oaiStreamHandler info chunks)).filter (·.carries) = chunks.filter (·.carries) ↔
      ∀ last, chunks.getLast? = some last → validUsage last.usage = true → info.shouldIncludeUsage = false → last.carries = true →
        ∃ choice ∈ last.choices, choice.delta.getContentString ≠ "" ∨ choice.delta.getReasoningContent ≠ "" := by
  rcases List.eq_nil_or_concat' chunks with rfl | ⟨rest, last, rfl⟩
  · refine iff_of_true ?_ (by simp)
    have hnone : writtenChunks (oaiStreamHandler info []) = [] := writtenChunks_finalData info [] _
    rw [hnone]
  · rw [writtenChunks_handler, List.filter_append, List.filter_append, List.append_cancel_left_eq, List.getLast?_concat]
    simp only [Option.some.injEq, forall_eq', ← speaks_iff]
    cases validUsage last.usage <;> cases info.shouldIncludeUsage <;> cases speaks last <;>
      cases hcarries : last.carries <;> simp [hcarries]

namespace PassThroughAux

/-- A client that did not ask for the usage. -/
def withoutUsage : StreamInfo := ⟨false, "gpt-4o", false, fun _ => {}⟩

/-- A text, and its end with the usage. -/
def finishedText : List StreamResponse :=
  [{ choices := [{ delta := { content := some "Hi" } }] },
    { choices := [{ finishReason := some "stop" }], usage := some { promptTokens := 3, completionTokens := 1 } }]

/-- A tool call whose last fragment comes with the usage. -/
def finishedCall : List StreamResponse :=
  [{ choices := [{ delta := { calls := some [{ index := some 0, id := "call_1", name := "f" }] } }] },
    { choices := [{ delta := { calls := some [{ index := some 0, arguments := "[1]" }] } }],
      usage := some { promptTokens := 3, completionTokens := 1 } }]

end PassThroughAux

/-- The client never gets the finish reason of the text, nor the arguments of the call. -/
theorem last_chunk_kept_back :
    writtenChunks (oaiStreamHandler withoutUsage finishedText) = finishedText.take 1 ∧
      finishedText.all (·.carries) = true ∧
      writtenChunks (oaiStreamHandler withoutUsage finishedCall) = finishedCall.take 1 ∧
      finishedCall.all (·.carries) = true := by
  decide +kernel

end NewApi
