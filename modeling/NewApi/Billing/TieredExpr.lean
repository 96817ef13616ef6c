import NewApi.Billing.Session

/-!
# Billing expressions

`pkg/billingexpr`, `setting/billing_setting/tiered_billing.go` and `service/tiered_settle.go`. A model may be priced by an expression over
the token counts of a request, its headers and its body. `SmokeTestExpr` runs it on a few samples before it is saved; a request freezes it
in a snapshot when it is pre-charged, and the settlement runs it on the counts the upstream reported.

The expression language is a parameter, `ExprEngine`. Floating-point numbers are exact rationals.
-/

namespace NewApi

/-! ## Running an expression -/

/-- `RequestInput`: the part of the request an expression may read. -/
structure RequestInput where
  headers : List (String × String)
  body : String
  deriving DecidableEq, Repr

structure TokenParams where
  p : ℚ
  c : ℚ
  len : ℚ
  cr : ℚ := 0
  cc : ℚ := 0
  cc1h : ℚ := 0
  img : ℚ := 0
  imgO : ℚ := 0
  ai : ℚ := 0
  ao : ℚ := 0
  deriving DecidableEq, Repr

/-- `TraceResult`: what the last call of `tier` in a run recorded. -/
structure TraceResult where
  matchedTier : String
  cost : ℚ
  deriving DecidableEq, Repr

/-- A compiled expression: the identifiers it names, and its run on the counts, the request and a time. -/
structure ExprProgram where
  usedVars : List String
  run : TokenParams → RequestInput → Int → Except String (ℚ × TraceResult)

/-- The expression language: its compiler, and the two formats in which errors print a number; and the conversion of a whole float
to an `int`, which Go defines where the number fits and leaves to the platform elsewhere. -/
structure ExprEngine where
  compile : String → Except String ExprProgram
  formatG : ℚ → String
  formatF : ℚ → String
  toInt : Int → Int
  toInt_fits : ∀ n, -9223372036854775808 ≤ n → n < 9223372036854775808 → toInt n = n

/-- `ParseExprVersion`: the version an expression is tagged with, and its body. -/
def parseExprVersion (exprStr : String) : Nat × String :=
  match exprStr.toList with
  | 'v' :: '1' :: ':' :: body => (1, String.ofList body)
  | _ => (1, exprStr)

variable (eng : ExprEngine)

def ExprEngine.compileFromCache (exprStr : String) : Except String ExprProgram :=
  match eng.compile (parseExprVersion exprStr).2 with
  | .error e => .error ("expr compile error: " ++ e)
  | .ok prog => .ok prog

/-- `UsedVars`: the names an expression refers to; none where it is empty or does not compile. -/
def ExprEngine.usedVars (exprStr : String) : List String :=
  if exprStr = "" then []
  else match eng.compileFromCache exprStr with
    | .error _ => []
    | .ok prog => prog.usedVars

/-- `RunExprWithRequest`, and `RunExprByHashWithRequest` with the digest of the expression itself. -/
def ExprEngine.runExprWithRequest (exprStr : String) (params : TokenParams) (request : RequestInput)
    (now : Int) : Except String (ℚ × TraceResult) :=
  match eng.compileFromCache exprStr with
  | .error e => .error e
  | .ok prog =>
    match prog.run params request now with
    | .error e => .error ("expr run error: " ++ e)
    | .ok out => .ok out

/-! ## The check before an expression is saved -/

/-- The token counts `smokeTestExpr` runs an expression on. -/
def smokeVectors : List TokenParams :=
  [{ p := 0, c := 0, len := 0 }, { p := 1000, c := 1000, len := 1000 }, { p := 100000, c := 100000, len := 100000 },
    { p := 1000000, c := 1000000, len := 1000000 }]

/-- The requests `smokeTestExpr` runs an expression on. -/
def smokeRequests : List RequestInput :=
  [⟨[], ""⟩,
    ⟨[("anthropic-beta", "fast-mode-2026-02-01")],
      "\x7b\"service_tier\":\"fast\",\"stream_options\":\x7b\"include_usage\":true\x7d,\"messages\":" ++
        "[1,2,3,4,5,6,7,8,9,10,11,12,13,14,15,16,17,18,19,20,21]\x7d"⟩]

/-- One sample of `smokeTestExpr`: the expression runs and its value is not negative. -/
def ExprEngine.smokeSample (exprStr : String) (now : Int) (v : TokenParams) (request : RequestInput) : Except String Unit :=
  match eng.runExprWithRequest exprStr v request now with
  | .error e => .error ("vector \x7bp=" ++ eng.formatG v.p ++ ", c=" ++ eng.formatG v.c ++ "\x7d: run failed: " ++ e)
  | .ok (result, _) =>
    if result < 0 then
      .error ("vector \x7bp=" ++ eng.formatG v.p ++ ", c=" ++ eng.formatG v.c ++ "\x7d: result " ++ eng.formatF result ++ " < 0")
    else .ok ()

/-- `SmokeTestExpr`: every sample vector with every sample request, the first failure reported. -/
def ExprEngine.smokeTestExpr (exprStr : String) (now : Int) : Except String Unit :=
  smokeVectors.forM fun v => smokeRequests.forM fun request => eng.smokeSample exprStr now v request

/-! ## Usage reports -/

structure InputTokenDetails where
  cachedTokens : Int := 0
  cachedCreationTokens : Int := 0
  textTokens : Int := 0
  audioTokens : Int := 0
  imageTokens : Int := 0
  deriving DecidableEq, Repr

structure OutputTokenDetails where
  textTokens : Int := 0
  audioTokens : Int := 0
  imageTokens : Int := 0
  reasoningTokens : Int := 0
  deriving DecidableEq, Repr

/-- `dto.Usage`, as far as billing reads it. The cost an upstream reports is a JSON value; only a number counts. -/
structure Usage where
  promptTokens : Int := 0
  completionTokens : Int := 0
  totalTokens : Int := 0
  usageSemantic : String := ""
  usageSource : String := ""
  promptTokensDetails : InputTokenDetails := {}
  completionTokenDetails : OutputTokenDetails := {}
  claudeCacheCreation5mTokens : Int := 0
  claudeCacheCreation1hTokens : Int := 0
  cost : Option ℚ := none
  deriving DecidableEq, Repr

/-- Every count a report carries is non-negative; nothing is asked of the counts in relation to each other. -/
structure Usage.NonNeg (u : Usage) : Prop where
  prompt : 0 ≤ u.promptTokens
  completion : 0 ≤ u.completionTokens
  total : 0 ≤ u.totalTokens
  cached : 0 ≤ u.promptTokensDetails.cachedTokens
  cachedCreation : 0 ≤ u.promptTokensDetails.cachedCreationTokens
  inputText : 0 ≤ u.promptTokensDetails.textTokens
  inputAudio : 0 ≤ u.promptTokensDetails.audioTokens
  inputImage : 0 ≤ u.promptTokensDetails.imageTokens
  outputText : 0 ≤ u.completionTokenDetails.textTokens
  outputAudio : 0 ≤ u.completionTokenDetails.audioTokens
  outputImage : 0 ≤ u.completionTokenDetails.imageTokens
  reasoning : 0 ≤ u.completionTokenDetails.reasoningTokens
  cacheCreation5m : 0 ≤ u.claudeCacheCreation5mTokens
  cacheCreation1h : 0 ≤ u.claudeCacheCreation1hTokens

/-- `dto.GeminiPromptTokensDetails`. -/
structure GeminiTokensDetail where
  modality : String
  tokenCount : Int
  deriving DecidableEq, Repr

structure GeminiUsageMetadata where
  promptTokenCount : Int := 0
  toolUsePromptTokenCount : Int := 0
  candidatesTokenCount : Int := 0
  totalTokenCount : Int := 0
  thoughtsTokenCount : Int := 0
  cachedContentTokenCount : Int := 0
  promptTokensDetails : List GeminiTokensDetail := []
  toolUsePromptTokensDetails : List GeminiTokensDetail := []
  candidatesTokensDetails : List GeminiTokensDetail := []
  deriving DecidableEq, Repr

structure GeminiUsageMetadata.NonNeg (m : GeminiUsageMetadata) : Prop where
  prompt : 0 ≤ m.promptTokenCount
  toolUse : 0 ≤ m.toolUsePromptTokenCount
  candidates : 0 ≤ m.candidatesTokenCount
  total : 0 ≤ m.totalTokenCount
  thoughts : 0 ≤ m.thoughtsTokenCount
  cached : 0 ≤ m.cachedContentTokenCount
  promptDetails : ∀ d ∈ m.promptTokensDetails, 0 ≤ d.tokenCount
  toolUseDetails : ∀ d ∈ m.toolUsePromptTokensDetails, 0 ≤ d.tokenCount
  candidatesDetails : ∀ d ∈ m.candidatesTokensDetails, 0 ≤ d.tokenCount

/-- One entry of the prompt's breakdown, added to the details by its modality. -/
def InputTokenDetails.addDetail (ds : InputTokenDetails) (d : GeminiTokensDetail) : InputTokenDetails :=
  if d.modality = "AUDIO" then { ds with audioTokens := ds.audioTokens + d.tokenCount }
  else if d.modality = "TEXT" then { ds with textTokens := ds.textTokens + d.tokenCount }
  else ds

/-- One entry of the candidates' breakdown, added to the details by its modality. -/
def OutputTokenDetails.addDetail (ds : OutputTokenDetails) (d : GeminiTokensDetail) : OutputTokenDetails :=
  if d.modality = "IMAGE" then { ds with imageTokens := ds.imageTokens + d.tokenCount }
  else if d.modality = "AUDIO" then { ds with audioTokens := ds.audioTokens + d.tokenCount }
  else if d.modality = "TEXT" then { ds with textTokens := ds.textTokens + d.tokenCount }
  else ds

/-- `buildUsageFromGeminiMetadata`. A report without candidate tokens gets its completion from the total by subtraction, which
is negative where the prompt, or the estimate that stands in for it, is more than the total. -/
def buildUsageFromGeminiMetadata (m : GeminiUsageMetadata) (fallbackPromptTokens : Int) : Usage :=
  let reported := m.promptTokenCount + m.toolUsePromptTokenCount
  let promptTokens := if reported ≤ 0 ∧ 0 < fallbackPromptTokens then fallbackPromptTokens else reported
  let completion := m.candidatesTokenCount + m.thoughtsTokenCount
  let completion := if 0 < m.totalTokenCount ∧ completion ≤ 0 then m.totalTokenCount - promptTokens else completion
  let details : InputTokenDetails := { cachedTokens := m.cachedContentTokenCount }
  let details := m.promptTokensDetails.foldl InputTokenDetails.addDetail details
  let details := m.toolUsePromptTokensDetails.foldl InputTokenDetails.addDetail details
  let details :=
    if 0 < promptTokens ∧ details.textTokens = 0 ∧ details.audioTokens = 0 then { details with textTokens := promptTokens }
    else details
  { promptTokens := promptTokens
    completionTokens := completion
    totalTokens := m.totalTokenCount
    promptTokensDetails := details
    completionTokenDetails :=
      m.candidatesTokensDetails.foldl OutputTokenDetails.addDetail { reasoningTokens := m.thoughtsTokenCount } }

/-- The reports a request may be settled on: an upstream's own with non-negative counts, or the one built from Gemini metadata
with non-negative counts. -/
def Usage.Reported (u : Usage) : Prop :=
  u.NonNeg ∨ ∃ m fallback, GeminiUsageMetadata.NonNeg m ∧ 0 ≤ fallback ∧ u = buildUsageFromGeminiMetadata m fallback

/-! ## Settling by the frozen expression -/

/-- `BillingSnapshot`, as far as the settlement reads it. -/
structure BillingSnapshot where
  billingMode : String
  exprString : String
  groupRatio : ℚ
  estimatedQuotaAfterGroup : Int
  estimatedTier : String
  quotaPerUnit : ℚ
  deriving DecidableEq, Repr

structure TieredResult where
  actualQuotaBeforeGroup : ℚ
  actualQuotaAfterGroup : Int
  matchedTier : String
  crossedTier : Bool
  deriving DecidableEq, Repr

/-- `quotaConversion`: the only version reads the value as dollars for a million tokens. -/
def quotaConversion (exprOutput : ℚ) (snap : BillingSnapshot) : ℚ := exprOutput / 1000000 * snap.quotaPerUnit

def ExprEngine.quotaRound (x : ℚ) : Int := eng.toInt (Rounding.roundHalfAway x)

/-- `ComputeTieredQuotaWithRequest`. -/
def ExprEngine.computeTieredQuota (snap : BillingSnapshot) (params : TokenParams) (request : RequestInput)
    (now : Int) : Except String TieredResult :=
  match eng.runExprWithRequest snap.exprString params request now with
  | .error e => .error e
  | .ok (cost, trace) =>
    let quotaBeforeGroup := quotaConversion cost snap
    .ok { actualQuotaBeforeGroup := quotaBeforeGroup
          actualQuotaAfterGroup := eng.quotaRound (quotaBeforeGroup * snap.groupRatio)
          matchedTier := trace.matchedTier
          crossedTier := trace.matchedTier ≠ snap.estimatedTier }

/-- `BuildTieredTokenParams`. Outside Claude's semantics the prompt and the completion lose the sub-categories that the
expression prices by their own variable. -/
def buildTieredTokenParams (usage : Usage) (isClaudeUsageSemantic : Bool) (usedVars : List String) : TokenParams :=
  let p : ℚ := usage.promptTokens
  let c : ℚ := usage.completionTokens
  let cr : ℚ := usage.promptTokensDetails.cachedTokens
  let cc5m : ℚ :=
    if usage.usageSemantic = "anthropic" then usage.claudeCacheCreation5mTokens
    else usage.promptTokensDetails.cachedCreationTokens
  let cc1h : ℚ := if usage.usageSemantic = "anthropic" then usage.claudeCacheCreation1hTokens else 0
  let img : ℚ := usage.promptTokensDetails.imageTokens
  let ai : ℚ := usage.promptTokensDetails.audioTokens
  let imgO : ℚ := usage.completionTokenDetails.imageTokens
  let ao : ℚ := usage.completionTokenDetails.audioTokens
  let used (name : String) (n : ℚ) : ℚ := if name ∈ usedVars then n else 0
  let inputLen := if isClaudeUsageSemantic then p + cr + cc5m + cc1h else p
  let p := if isClaudeUsageSemantic then p
    else p - used "cr" cr - used "cc" cc5m - used "cc1h" cc1h - used "img" img - used "ai" ai
  let c := if isClaudeUsageSemantic then c else c - used "img_o" imgO - used "ao" ao
  { p := max p 0, c := max c 0, len := inputLen, cr := cr, cc := cc5m, cc1h := cc1h, img := img, imgO := imgO, ai := ai
    ao := ao }

/-- The quota `TryTieredSettle` charges where the expression does not run: the pre-charge, or the estimate where nothing was
pre-charged. -/
def BillingSnapshot.fallbackQuota (snap : BillingSnapshot) (finalPreConsumedQuota : Int) : Int :=
  if finalPreConsumedQuota ≤ 0 then snap.estimatedQuotaAfterGroup else finalPreConsumedQuota

/-- `TryTieredSettle`: nothing where the request is not billed by an expression; else the quota, with the result of the run
where the expression ran. -/
def ExprEngine.tryTieredSettle (snapshot : Option BillingSnapshot) (request : Option RequestInput)
    (finalPreConsumedQuota : Int) (params : TokenParams) (now : Int) : Option (Int × Option TieredResult) :=
  match snapshot with
  | none => none
  | some snap =>
    if snap.billingMode ≠ "tiered_expr" then none
    else match eng.computeTieredQuota snap params (request.getD ⟨[], ""⟩) now with
      | .error _ => some (snap.fallbackQuota finalPreConsumedQuota, none)
      | .ok tr => some (tr.actualQuotaAfterGroup, some tr)

end NewApi
