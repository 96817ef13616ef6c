import NewApi.Relay.Conversion

/-!
# By whose format a request is billed

The record of a request's formats goes on over its attempts, so a request may be billed by the format of an attempt that failed. The
convention its usage is read by is the successful attempt's own exactly when no failed attempt got to the Claude adaptor, or the
successful one is a Claude request itself, and, where it converts nothing, when what the failed ones converted to says the same.
-/

namespace NewApi

open Run

def ConversionAttempt.recorded (attempt : ConversionAttempt) : List RelayFormat :=
  attempt.converted.filterMap guessRelayFormatFromRequest

/-- The last format some attempts record, on top of the request's own. -/
def lastRecorded (relayFormat : RelayFormat) (attempts : List ConversionAttempt) : RelayFormat :=
  (attempts.flatMap ConversionAttempt.recorded).getLast?.getD relayFormat

/-- The successful attempt is billed as the only one: it gets to the Claude adaptor; or, where a failed one did, its own format is
Claude's, and where none did and it records no format, the last one the failed ones recorded is Claude's exactly when the request's
is. -/
def BilledAsOnly (relayFormat : RelayFormat) (failed : List ConversionAttempt) (success : ConversionAttempt) : Prop :=
  success.claudeResponse = true ∨
    ((∃ attempt ∈ failed, attempt.claudeResponse = true) → lastRecorded relayFormat [success] = .claude) ∧
    ((∀ attempt ∈ failed, attempt.claudeResponse = false) → success.recorded = [] →
      (lastRecorded relayFormat failed = .claude ↔ relayFormat = .claude))

namespace ConversionAux

open ConversionInfo

/-! ## The record -/

def last (info : ConversionInfo) : RelayFormat := info.requestConversionChain.getLast?.getD info.relayFormat

/-- An appended format is the last, whether or not it was before. -/
theorem last_append (info : ConversionInfo) (format : RelayFormat) : last (info.appendRequestConversion format) = format ∧
      (info.appendRequestConversion format).finalRequestRelayFormat = info.finalRequestRelayFormat := by
  unfold appendRequestConversion
  cases hlast : info.requestConversionChain.getLast? with
  | none => exact ⟨rfl, rfl⟩
  | some before =>
    by_cases hsame : before = format
    · simp [hsame, last, hlast]
    · simp [hsame, last]

/-- What is converted leaves its last format, and does not say one. -/
theorem last_foldl (converted : List ConvertedRequest) (info : ConversionInfo) :
    last (converted.foldl appendRequestConversionFromRequest info) =
        (converted.filterMap guessRelayFormatFromRequest).getLast?.getD (last info) ∧
      (converted.foldl appendRequestConversionFromRequest info).finalRequestRelayFormat = info.finalRequestRelayFormat := by
  induction converted generalizing info with
  | nil => exact ⟨rfl, rfl⟩
  | cons request rest ih =>
    obtain ⟨hlast, hfinal⟩ := ih (info.appendRequestConversionFromRequest request)
    rw [List.foldl_cons, hlast, hfinal]
    cases hguess : guessRelayFormatFromRequest request with
    | none =>
      have hsame : info.appendRequestConversionFromRequest request = info := by
        unfold appendRequestConversionFromRequest
        rw [hguess]
      rw [hsame, List.filterMap_cons_none hguess]
      exact ⟨rfl, rfl⟩
    | some format =>
      have happend : info.appendRequestConversionFromRequest request = info.appendRequestConversion format := by
        unfold appendRequestConversionFromRequest
        rw [hguess]
      obtain ⟨hformat, hkept⟩ := last_append info format
      rw [happend, hformat, hkept, List.filterMap_cons_some hguess, List.getLast?_cons]
      exact ⟨rfl, rfl⟩

/-- The last format an attempt leaves. -/
theorem last_attempt (info : ConversionInfo) (attempt : ConversionAttempt) :
    last (attemptConversion info attempt) = attempt.recorded.getLast?.getD (last info) ∧
      (attemptConversion info attempt).finalRequestRelayFormat =
        if attempt.claudeResponse then some .claude else info.finalRequestRelayFormat := by
  obtain ⟨hlast, hfinal⟩ := last_foldl attempt.converted info
  unfold attemptConversion
  cases attempt.claudeResponse with
  | false => exact ⟨hlast, hfinal⟩
  | true => exact ⟨hlast, rfl⟩

/-- The attempts of a request, one after the other. -/
theorem last_exec (attempts : List ConversionAttempt) (info : ConversionInfo) :
    last (exec attemptConversion info attempts) = (attempts.flatMap ConversionAttempt.recorded).getLast?.getD (last info) ∧
      (exec attemptConversion info attempts).finalRequestRelayFormat =
        if attempts.any (·.claudeResponse) then some .claude else info.finalRequestRelayFormat := by
  induction attempts generalizing info with
  | nil => exact ⟨rfl, rfl⟩
  | cons attempt rest ih =>
    obtain ⟨hlast, hfinal⟩ := ih (attemptConversion info attempt)
    obtain ⟨hlast', hfinal'⟩ := last_attempt info attempt
    rw [exec_cons, hlast, hfinal, hlast', hfinal', List.flatMap_cons, List.getLast?_append, List.any_cons]
    refine ⟨?_, ?_⟩
    · cases (rest.flatMap ConversionAttempt.recorded).getLast? <;> rfl
    · cases attempt.claudeResponse <;> cases rest.any (·.claudeResponse) <;> rfl

/-- A request ends as Claude's where an attempt got to the Claude adaptor, else where the last format says so. -/
theorem final_eq_claude_iff (relayFormat : RelayFormat) (attempts : List ConversionAttempt) :
    (exec attemptConversion (genConversionInfo relayFormat) attempts).getFinalRequestRelayFormat = .claude ↔
      attempts.any (·.claudeResponse) = true ∨ lastRecorded relayFormat attempts = .claude := by
  obtain ⟨hlast, hfinal⟩ := last_exec attempts (genConversionInfo relayFormat)
  unfold getFinalRequestRelayFormat
  rw [hfinal]
  by_cases hany : attempts.any (·.claudeResponse) = true
  · simp [hany]
  · simp only [hany, Bool.false_eq_true, if_false, false_or]
    exact iff_of_eq (congrArg (· = RelayFormat.claude) hlast)

/-! ## The quota -/

/-- The format counts only by whether it is Claude's. -/
theorem usageSemantic_eq_iff {usage : Option Usage} (husage : ∀ u ∈ usage, u.usageSemantic = "") (info info' : TextInfo) :
    info.usageSemanticFromUsage usage = info'.usageSemanticFromUsage usage ↔
      (info.finalRelayFormat = .claude ↔ info'.finalRelayFormat = .claude) := by
  have hsemantic : ∀ info : TextInfo, info.usageSemanticFromUsage usage =
      if info.finalRelayFormat = .claude then "anthropic" else "openai" := by
    intro info
    unfold TextInfo.usageSemanticFromUsage
    cases usage with
    | none => rfl
    | some u => simp [husage u rfl]
  rw [hsemantic, hsemantic]
  by_cases hclaude : info.finalRelayFormat = .claude <;> by_cases hclaude' : info'.finalRelayFormat = .claude <;>
    simp [hclaude, hclaude']

/-- The quota depends on the format by nothing else. -/
theorem textConsumeQuota_congr (info : TextInfo) {c c' : ConversionInfo}
    (h : c.getFinalRequestRelayFormat = .claude ↔ c'.getFinalRequestRelayFormat = .claude) (cfg : Config) (ts : TextSetting)
    (eng : ExprEngine) (relay : RelayInfo) (usage : Option Usage) (now : Int) :
    textConsumeQuota cfg ts eng relay (info.withFormat c) usage now = textConsumeQuota cfg ts eng relay (info.withFormat c') usage now := by
  have hformat : (info.withFormat c).finalRelayFormat = .claude ↔ (info.withFormat c').finalRelayFormat = .claude := h
  have hsemantic : (info.withFormat c).usageSemanticFromUsage usage = (info.withFormat c').usageSemanticFromUsage usage := by
    unfold TextInfo.usageSemanticFromUsage
    simp only [hformat]
  have hlegacy : ∀ u, (info.withFormat c).isLegacyClaudeDerived u = (info.withFormat c').isLegacyClaudeDerived u := by
    intro u
    unfold TextInfo.isLegacyClaudeDerived
    simp only [ne_eq, hformat]
  have hreported : ∀ surcharge, (info.withFormat c).reportedSummary usage surcharge =
      (info.withFormat c').reportedSummary usage surcharge := by
    intro surcharge
    unfold TextInfo.reportedSummary
    simp only [hsemantic, hlegacy]
    rfl
  have hsummary : calculateTextQuotaSummary cfg ts relay.originModelName (info.withFormat c) usage =
      calculateTextQuotaSummary cfg ts relay.originModelName (info.withFormat c') usage := by
    unfold calculateTextQuotaSummary TextInfo.adjustedSummary
    rw [hreported]
    rfl
  unfold textConsumeQuota
  rw [hsummary]
  rfl

/-- The record is Claude's after all attempts as after the last alone exactly when the last is billed as the only one. -/
theorem billedAsOnly_iff (relayFormat : RelayFormat) (failed : List ConversionAttempt) (success : ConversionAttempt) :
    ((exec attemptConversion (genConversionInfo relayFormat) (failed ++ [success])).getFinalRequestRelayFormat = .claude ↔
        (attemptConversion (genConversionInfo relayFormat) success).getFinalRequestRelayFormat = .claude) ↔
      BilledAsOnly relayFormat failed success := by
  have hrun := final_eq_claude_iff relayFormat (failed ++ [success])
  have halone : (attemptConversion (genConversionInfo relayFormat) success).getFinalRequestRelayFormat = .claude ↔ _ :=
    final_eq_claude_iff relayFormat [success]
  have hlast : lastRecorded relayFormat (failed ++ [success]) = success.recorded.getLast?.getD (lastRecorded relayFormat failed) := by
    unfold lastRecorded
    rw [List.flatMap_append, List.flatMap_singleton, List.getLast?_append]
    cases success.recorded.getLast? <;> rfl
  have hown : lastRecorded relayFormat [success] = success.recorded.getLast?.getD relayFormat := by
    unfold lastRecorded
    rw [List.flatMap_singleton]
  have hexists : (∃ attempt ∈ failed, attempt.claudeResponse = true) ↔ failed.any (·.claudeResponse) = true := List.any_eq_true.symm
  have hforall : (∀ attempt ∈ failed, attempt.claudeResponse = false) ↔ failed.any (·.claudeResponse) = false := by simp
  have hnil : success.recorded = [] ↔ success.recorded.getLast? = none := List.getLast?_eq_none_iff.symm
  unfold BilledAsOnly
  rw [hrun, halone, List.any_append, hlast, hown, hexists, hforall, hnil]
  cases success.recorded.getLast? with
  | none | some _ =>
    cases hclaude : success.claudeResponse <;> cases failed.any (·.claudeResponse) <;> simp [hclaude]

end ConversionAux

open ConversionAux

/-- For any failed attempts and a successful one whose usage says no convention: the convention it is billed by is the one it would be
billed by as the only attempt exactly when it is billed as the only one, and then so is the quota. -/
theorem billing_convention_iff (relayFormat : RelayFormat) (failed : List ConversionAttempt) (success : ConversionAttempt)
    (info : TextInfo) (usage : Option Usage) (husage : ∀ u ∈ usage, u.usageSemantic = "") :
    let run := info.withFormat (exec attemptConversion (genConversionInfo relayFormat) (failed ++ [success]))
    let alone := info.withFormat (attemptConversion (genConversionInfo relayFormat) success)
    (run.usageSemanticFromUsage usage = alone.usageSemanticFromUsage usage ↔ BilledAsOnly relayFormat failed success) ∧
      (BilledAsOnly relayFormat failed success → ∀ cfg ts eng relay now,
        textConsumeQuota cfg ts eng relay run usage now = textConsumeQuota cfg ts eng relay alone usage now) := by
  intro run alone
  have hiff := billedAsOnly_iff relayFormat failed success
  refine ⟨?_, fun honly cfg ts eng relay now => ?_⟩
  · rw [usageSemantic_eq_iff husage]
    exact hiff
  · exact textConsumeQuota_congr info (hiff.2 honly) cfg ts eng relay usage now

namespace ConversionAux

/-- An attempt on a Claude channel, whose response gets to the adaptor. -/
def claudeAttempt : ConversionAttempt := ⟨[.claude], true⟩

/-- An attempt on a channel that speaks the format of the request. -/
def openAIAttempt : ConversionAttempt := ⟨[.generalOpenAI], false⟩

def passThroughAttempt : ConversionAttempt := ⟨[], false⟩

/-- A request of a model of ratio 1 whose cached tokens cost a tenth. -/
def cachedInfo : TextInfo where
  finalRelayFormat := .openAI
  isOpenRouter := false
  estimatePromptTokens := 1000
  priceData := ⟨0, 1, 1, 1 / 10, 1, 1, 1, 1, 1, false, []⟩
  responsesUsageInfo := none
  tieredBillingSnapshot := none
  billingRequestInput := none
  claudeWebSearchRequests := 0
  imageGenerationCall := none

/-- A prompt of 1000 tokens, 800 of them cached. -/
def mostlyCached : Usage := { promptTokens := 1000, totalTokens := 1000, promptTokensDetails := { cachedTokens := 800 } }

/-- The quota of the request, with the record its attempts leave. -/
def cachedQuota (attempts : List ConversionAttempt) : Int :=
  textConsumeQuota sampleConfig ⟨fun _ _ => 0, fun _ => none⟩ ⟨fun _ => .error "", fun _ => "", fun _ => "", id, fun _ _ _ => rfl⟩
    (sampleInfo "wallet_only") (cachedInfo.withFormat (exec attemptConversion (genConversionInfo .openAI) attempts)) (some mostlyCached) 0

end ConversionAux

/-- A failed attempt on a channel of the same format leaves the convention as it is. -/
theorem billing_convention_iff_sample :
    BilledAsOnly .openAI [openAIAttempt] openAIAttempt ∧
      (cachedInfo.withFormat (exec attemptConversion (genConversionInfo .openAI) [openAIAttempt, openAIAttempt])).usageSemanticFromUsage
          (some mostlyCached) = (cachedInfo.withFormat (attemptConversion (genConversionInfo .openAI) openAIAttempt)).usageSemanticFromUsage
          (some mostlyCached) := by
  have honly : BilledAsOnly .openAI [openAIAttempt] openAIAttempt := by
    refine .inr ⟨fun hclaude => ?_, fun _ hnone => ?_⟩
    · obtain ⟨attempt, hmem, hclaude⟩ := hclaude
      rw [List.mem_singleton.1 hmem] at hclaude
      cases hclaude
    · cases hnone
  have hiff := billing_convention_iff .openAI [openAIAttempt] openAIAttempt cachedInfo (some mostlyCached) (by
    intro u hu
    cases hu
    rfl)
  exact ⟨honly, hiff.1.2 honly⟩

/-- After a failed attempt on a Claude channel, the prompt of a request another channel answers is billed as Claude's, whose cached tokens
are not part of it: 1080 for 280. A body that is passed through after an attempt that converted it is billed so as well. -/
theorem failed_claude_attempt_bills :
    cachedQuota [openAIAttempt] = 280 ∧ cachedQuota [claudeAttempt, openAIAttempt] = 1080 ∧
      cachedQuota [passThroughAttempt] = 280 ∧ cachedQuota [⟨[.claude], false⟩, passThroughAttempt] = 1080 ∧
      (cachedInfo.withFormat (exec attemptConversion (genConversionInfo .openAI) [claudeAttempt, openAIAttempt])).usageSemanticFromUsage
          (some mostlyCached) ≠
        (cachedInfo.withFormat (exec attemptConversion (genConversionInfo .openAI) [openAIAttempt])).usageSemanticFromUsage
          (some mostlyCached) := by
  decide +kernel

end NewApi
