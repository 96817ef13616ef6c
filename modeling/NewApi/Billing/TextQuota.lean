import NewApi.Billing.TieredExpr
import NewApi.Billing.Realtime

/-!
# The quota of a finished text request

`service/text_quota.go`. When a text request has been answered, `PostTextConsumeQuota` turns the upstream's usage report into a
quota, from the model's ratios or its price per call, with the surcharge of the tools it used, or from the request's billing
expression, and hands the quota to `SettleBilling`.

Decimals are exact rationals; the prices of tools are settings. The fields of the summary that only the log prints are left out.
-/

namespace NewApi

/-! ## What the calculation reads -/

inductive RelayFormat where
  | openAI | claude | gemini | openAIResponses | openAIResponsesCompaction | openAIAudio | openAIImage | openAIRealtime
  | rerank | embedding | task | mjProxy
  deriving DecidableEq, Repr

/-- `types.PriceData`, as far as a text request reads it. -/
structure TextPriceData where
  modelPrice : ℚ
  modelRatio : ℚ
  completionRatio : ℚ
  cacheRatio : ℚ
  cacheCreationRatio : ℚ
  cacheCreation5mRatio : ℚ
  cacheCreation1hRatio : ℚ
  imageRatio : ℚ
  groupRatio : ℚ
  usePrice : Bool
  otherRatios : List ℚ

structure TextPriceData.NonNeg (pd : TextPriceData) : Prop where
  modelPrice : 0 ≤ pd.modelPrice
  modelRatio : 0 ≤ pd.modelRatio
  completionRatio : 0 ≤ pd.completionRatio
  cacheRatio : 0 ≤ pd.cacheRatio
  cacheCreationRatio : 0 ≤ pd.cacheCreationRatio
  cacheCreation5mRatio : 0 ≤ pd.cacheCreation5mRatio
  cacheCreation1hRatio : 0 ≤ pd.cacheCreation1hRatio
  imageRatio : 0 ≤ pd.imageRatio
  groupRatio : 0 ≤ pd.groupRatio
  otherRatios : ∀ r ∈ pd.otherRatios, 0 ≤ r

/-- The settings of a text request's price: the price of a thousand calls of a tool for a model (`GetToolPriceForModel`), and
the ratio a model has by default. -/
structure TextSetting where
  toolPriceForModel : String → String → ℚ
  defaultModelRatio : String → Option ℚ

def TextSetting.toolPrice (ts : TextSetting) (toolName : String) : ℚ := ts.toolPriceForModel toolName ""

/-- `GetGPTImage1PriceOnceCall`. -/
def gptImage1PriceOnceCall (quality size : String) : ℚ :=
  if quality = "low" ∧ size = "1024x1024" then 0.011
  else if quality = "low" ∧ (size = "1024x1536" ∨ size = "1536x1024") then 0.016
  else if quality = "medium" ∧ size = "1024x1024" then 0.042
  else if quality = "medium" ∧ (size = "1024x1536" ∨ size = "1536x1024") then 0.063
  else if quality = "high" ∧ (size = "1024x1536" ∨ size = "1536x1024") then 0.25
  else 0.167

/-- `GetGeminiInputAudioPricePerMillionTokens`. -/
def geminiInputAudioPrice (modelName : String) : ℚ :=
  if Text.startsWith modelName "gemini-2.5-flash-preview-native-audio" then 3
  else if Text.startsWith modelName "gemini-2.5-flash-preview-lite" then 0.5
  else if Text.startsWith modelName "gemini-2.5-flash-preview" then 1
  else if Text.startsWith modelName "gemini-2.5-flash" then 1
  else if Text.startsWith modelName "gemini-2.0-flash" then 0.7
  else if Text.startsWith modelName "gemini-robotics-er-1.5" then 1
  else 0

/-- `ResponsesUsageInfo`: the calls of the two built-in tools that are priced. -/
structure ResponsesUsageInfo where
  webSearchPreview : Option Int
  fileSearch : Option Int

/-- What a finished text request is billed from, beside its billing part: the fields of `RelayInfo`, and the context's
`claude_web_search_requests` and image generation call with its quality and size. -/
structure TextInfo where
  finalRelayFormat : RelayFormat
  isOpenRouter : Bool
  estimatePromptTokens : Int
  priceData : TextPriceData
  responsesUsageInfo : Option ResponsesUsageInfo
  tieredBillingSnapshot : Option BillingSnapshot
  billingRequestInput : Option RequestInput
  claudeWebSearchRequests : Int
  imageGenerationCall : Option (String × String)

/-! ## The surcharge of tools -/

variable (cfg : Config)

/-- The surcharge of `calls` calls of a tool at a price for a thousand of them. -/
def toolCalls (pd : TextPriceData) (price : ℚ) (calls : Int) : ℚ :=
  if 0 < calls then price * calls / 1000 * pd.groupRatio * cfg.quotaPerUnit else 0

variable (ts : TextSetting)

/-- `calculateTextToolCallSurcharge`. A model named for search is charged one search where the request carries no record of
built-in tools. -/
def calculateTextToolCallSurcharge (modelName : String) (info : TextInfo) : ℚ :=
  let searchPrice := ts.toolPriceForModel "web_search_preview" modelName
  let webSearch := match info.responsesUsageInfo with
    | some r => toolCalls cfg info.priceData searchPrice (r.webSearchPreview.getD 0)
    | none => if Text.endsWith modelName "search-preview" then toolCalls cfg info.priceData searchPrice 1 else 0
  let claudeSearch := toolCalls cfg info.priceData (ts.toolPrice "web_search") info.claudeWebSearchRequests
  let fileSearch := match info.responsesUsageInfo with
    | some r => toolCalls cfg info.priceData (ts.toolPrice "file_search") (r.fileSearch.getD 0)
    | none => 0
  let imageGeneration := match info.imageGenerationCall with
    | some (quality, size) => gptImage1PriceOnceCall quality size * info.priceData.groupRatio * cfg.quotaPerUnit
    | none => 0
  webSearch + claudeSearch + fileSearch + imageGeneration

/-! ## The summary -/

def TextInfo.usageSemanticFromUsage (info : TextInfo) (usage : Option Usage) : String :=
  match usage with
  | some u =>
    if u.usageSemantic ≠ "" then u.usageSemantic else if info.finalRelayFormat = .claude then "anthropic" else "openai"
  | none => if info.finalRelayFormat = .claude then "anthropic" else "openai"

def TextInfo.isLegacyClaudeDerived (info : TextInfo) (u : Usage) : Bool :=
  info.finalRelayFormat ≠ .claude ∧ u.usageSource = "" ∧ u.usageSemantic = "" ∧
    (0 < u.claudeCacheCreation5mTokens ∨ 0 < u.claudeCacheCreation1hTokens)

def TextSetting.hasCustomModelRatio (modelName : String) (currentRatio : ℚ) : Bool :=
  match ts.defaultModelRatio modelName with
  | none => true
  | some defaultRatio => currentRatio ≠ defaultRatio

/-- `CalcOpenRouterCacheCreateTokens`: the cache writes that would explain the cost OpenRouter reports. -/
def calcOpenRouterCacheCreateTokens (u : Usage) (pd : TextPriceData) : Int :=
  if pd.cacheCreationRatio = 1 then 0
  else
    let quotaPrice := pd.modelRatio / cfg.quotaPerUnit
    Rounding.roundHalfAway
      ((u.cost.getD 0 - u.promptTokens * quotaPrice +
          u.promptTokensDetails.cachedTokens * (quotaPrice - quotaPrice * pd.cacheRatio) -
          u.completionTokens * (quotaPrice * pd.completionRatio)) /
        (quotaPrice * pd.cacheCreationRatio - quotaPrice))

/-- `textQuotaSummary`, as far as the quota depends on it. -/
structure TextQuotaSummary where
  promptTokens : Int
  completionTokens : Int
  totalTokens : Int
  cacheTokens : Int
  cacheCreationTokens : Int
  cacheCreationTokens5m : Int
  cacheCreationTokens1h : Int
  imageTokens : Int
  audioTokens : Int
  isClaudeUsageSemantic : Bool
  legacyClaudeDerived : Bool
  toolCallSurchargeQuota : ℚ
  quota : Int

/-- The counts of a summary before OpenRouter's adjustment; without a report the prompt is the estimate. -/
def TextInfo.reportedSummary (info : TextInfo) (usage : Option Usage) (surcharge : ℚ) : TextQuotaSummary :=
  let u := usage.getD { promptTokens := info.estimatePromptTokens, totalTokens := info.estimatePromptTokens }
  { promptTokens := u.promptTokens
    completionTokens := u.completionTokens
    totalTokens := u.promptTokens + u.completionTokens
    cacheTokens := u.promptTokensDetails.cachedTokens
    cacheCreationTokens := u.promptTokensDetails.cachedCreationTokens
    cacheCreationTokens5m := u.claudeCacheCreation5mTokens
    cacheCreationTokens1h := u.claudeCacheCreation1hTokens
    imageTokens := u.promptTokensDetails.imageTokens
    audioTokens := u.promptTokensDetails.audioTokens
    isClaudeUsageSemantic := info.usageSemanticFromUsage usage = "anthropic"
    legacyClaudeDerived := info.isLegacyClaudeDerived u
    toolCallSurchargeQuota := surcharge
    quota := 0 }

/-- OpenRouter reports Claude's prompt with the cached tokens in it, and may leave the cache writes to be worked out from the
cost. The source also asks for a cost that is not the integer 0; a cost decoded from JSON never is. -/
def TextQuotaSummary.openRouterClaude (modelName : String) (info : TextInfo) (u : Usage) (s : TextQuotaSummary) : TextQuotaSummary :=
  let promptTokens := s.promptTokens - s.cacheTokens
  let isUsingCustomSettings := info.priceData.usePrice || ts.hasCustomModelRatio modelName info.priceData.modelRatio
  let maybe := calcOpenRouterCacheCreateTokens cfg u info.priceData
  let cacheCreationTokens :=
    if s.cacheCreationTokens = 0 ∧ info.priceData.cacheCreationRatio ≠ 1 ∧ ¬ isUsingCustomSettings = true ∧ 0 ≤ maybe ∧
      maybe ≤ promptTokens then maybe
    else s.cacheCreationTokens
  { s with promptTokens := promptTokens - cacheCreationTokens, cacheCreationTokens := cacheCreationTokens }

/-- The surcharge of audio input, for the models that price it. -/
def TextQuotaSummary.audioInputQuota (modelName : String) (pd : TextPriceData) (s : TextQuotaSummary) : ℚ :=
  if s.audioTokens ≠ 0 ∧ 0 < geminiInputAudioPrice modelName then
    geminiInputAudioPrice modelName / 1000000 * s.audioTokens * pd.groupRatio * cfg.quotaPerUnit
  else 0

/-- The tokens of the prompt by the price they have: what is left of the prompt counts once, the cached tokens, the images and
the cache writes by their ratios. -/
def TextQuotaSummary.promptQuota (modelName : String) (pd : TextPriceData) (s : TextQuotaSummary) : ℚ :=
  let apart := ¬ s.isClaudeUsageSemantic = true ∧ ¬ s.legacyClaudeDerived = true
  let hasSplit := 0 < s.cacheCreationTokens5m ∨ 0 < s.cacheCreationTokens1h
  let hasCreation := s.cacheCreationTokens ≠ 0 ∨ hasSplit
  let remaining := max (s.cacheCreationTokens - s.cacheCreationTokens5m - s.cacheCreationTokens1h) 0
  let creation : ℚ :=
    if ¬ hasCreation then 0
    else if apart then s.cacheCreationTokens * pd.cacheCreationRatio
    else remaining * pd.cacheCreationRatio + s.cacheCreationTokens5m * pd.cacheCreation5mRatio +
      s.cacheCreationTokens1h * pd.cacheCreation1hRatio
  let base : ℚ := s.promptTokens - (if apart then (s.cacheTokens : ℚ) else 0) -
    (if hasCreation ∧ apart then (s.cacheCreationTokens : ℚ) else 0) - s.imageTokens -
    (if 0 < geminiInputAudioPrice modelName then (s.audioTokens : ℚ) else 0)
  base + s.cacheTokens * pd.cacheRatio + s.imageTokens * pd.imageRatio + creation

/-- The quota by ratios, before it is rounded. A quota that is not positive counts as 1 unless the model or its group is free. -/
def TextQuotaSummary.ratioQuota (modelName : String) (pd : TextPriceData) (s : TextQuotaSummary) : ℚ :=
  let ratio := pd.modelRatio * pd.groupRatio
  let quota := (s.promptQuota modelName pd + s.completionTokens * pd.completionRatio) * ratio + s.toolCallSurchargeQuota +
    s.audioInputQuota cfg modelName pd
  let quota := pd.otherRatios.foldl (· * ·) quota
  if ratio ≠ 0 ∧ quota ≤ 0 then 1 else quota

/-- The quota by the price of a call, before it is rounded. -/
def TextQuotaSummary.priceQuota (pd : TextPriceData) (s : TextQuotaSummary) : ℚ :=
  pd.otherRatios.foldl (· * ·) (pd.modelPrice * cfg.quotaPerUnit * pd.groupRatio + s.toolCallSurchargeQuota)

/-- The counts of a summary with OpenRouter's adjustment, which concerns only reports in Claude's semantics. -/
def TextInfo.adjustedSummary (modelName : String) (info : TextInfo) (usage : Option Usage) : TextQuotaSummary :=
  let s := info.reportedSummary usage (calculateTextToolCallSurcharge cfg ts modelName info)
  if info.isOpenRouter ∧ s.isClaudeUsageSemantic then
    s.openRouterClaude cfg ts modelName info
      (usage.getD { promptTokens := info.estimatePromptTokens, totalTokens := info.estimatePromptTokens })
  else s

/-- The quota by the call or by ratios, before it is rounded. -/
def TextQuotaSummary.exactQuota (modelName : String) (pd : TextPriceData) (s : TextQuotaSummary) : ℚ :=
  if pd.usePrice then s.priceQuota cfg pd else s.ratioQuota cfg modelName pd

/-- The quota of a summary: nothing without tokens, and 1 in place of 0 unless the model or its group is free. `IntPart` keeps the
lowest 64 bits. -/
def TextQuotaSummary.roundedQuota (modelName : String) (pd : TextPriceData) (s : TextQuotaSummary) : Int :=
  let quota := Rounding.int64 (Rounding.roundHalfAway (s.exactQuota cfg modelName pd))
  if s.totalTokens = 0 then 0
  else if pd.modelRatio * pd.groupRatio ≠ 0 ∧ quota = 0 then 1
  else quota

def calculateTextQuotaSummary (modelName : String) (info : TextInfo) (usage : Option Usage) : TextQuotaSummary :=
  let s := info.adjustedSummary cfg ts modelName usage
  { s with quota := s.roundedQuota cfg modelName info.priceData }

/-! ## Settling the request -/

def composeTieredTextQuota (snapshot : Option BillingSnapshot) (surcharge : ℚ) (tieredQuota : Int)
    (tieredResult : Option TieredResult) : Int :=
  if surcharge = 0 then tieredQuota
  else match tieredResult, snapshot with
    | some tr, some snap => Rounding.int64 (Rounding.roundHalfAway (tr.actualQuotaBeforeGroup * snap.groupRatio + surcharge))
    | _, _ => Rounding.int64 (tieredQuota + Rounding.int64 (Rounding.roundHalfAway surcharge))

/-- The quota `PostTextConsumeQuota` settles the request on. A request without a usage report is never billed by its
expression. -/
def textConsumeQuota (eng : ExprEngine) (relay : RelayInfo) (info : TextInfo) (usage : Option Usage) (now : Int) : Int :=
  let summary := calculateTextQuotaSummary cfg ts relay.originModelName info usage
  match usage with
  | none => summary.quota
  | some u =>
    let usedVars := match info.tieredBillingSnapshot with
      | some snap => eng.usedVars snap.exprString
      | none => []
    let params := buildTieredTokenParams u summary.isClaudeUsageSemantic usedVars
    match eng.tryTieredSettle info.tieredBillingSnapshot info.billingRequestInput relay.finalPreConsumedQuota params now with
    | none => summary.quota
    | some (tieredQuota, tieredResult) =>
      composeTieredTextQuota info.tieredBillingSnapshot summary.toolCallSurchargeQuota tieredQuota tieredResult

/-- `PostTextConsumeQuota` on a request with a billing session: the session is settled on the quota. -/
def postTextConsumeQuota (eng : ExprEngine) (info : TextInfo) (usage : Option Usage)
    (now : Int) (st : Store) (s : BillingSession) (o : SettleOutcome) : Store × BillingSession × Except String Unit :=
  s.settle cfg st (textConsumeQuota cfg ts eng s.relayInfo info usage now) o

/-- What the user's row and the channel's row record of the requests they served. -/
structure UsageCounters where
  userUsedQuota : Int
  userRequestCount : Int
  channelUsedQuota : Int
  deriving DecidableEq, Repr

def UsageCounters.updateUserUsedQuotaAndRequestCount (c : UsageCounters) (quota : Int) : UsageCounters :=
  { c with userUsedQuota := c.userUsedQuota + quota, userRequestCount := c.userRequestCount + 1 }

def UsageCounters.updateChannelUsedQuota (c : UsageCounters) (quota : Int) : UsageCounters :=
  { c with channelUsedQuota := c.channelUsedQuota + quota }

/-- The counters after `PostTextConsumeQuota`: a request whose report has no tokens is not counted, whatever it is settled on. -/
def textConsumeCounters (eng : ExprEngine) (relay : RelayInfo) (info : TextInfo)
    (usage : Option Usage) (now : Int) (c : UsageCounters) : UsageCounters :=
  let summary := calculateTextQuotaSummary cfg ts relay.originModelName info usage
  let quota := textConsumeQuota cfg ts eng relay info usage now
  if summary.totalTokens = 0 then c
  else (c.updateUserUsedQuotaAndRequestCount quota).updateChannelUsedQuota quota

end NewApi
