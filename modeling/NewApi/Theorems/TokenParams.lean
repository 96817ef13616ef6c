import NewApi.Theorems.TextQuota

/-!
# One usage in two conventions

OpenAI's prompt holds the cached tokens, Claude's does not. `BuildTieredTokenParams` takes out of OpenAI's prompt what the expression
prices apart, and leaves Claude's prompt as it is. So what the expression does not price apart is in the prompt of one convention only,
and the two agree exactly where there is no such token. By ratio every cached token is priced apart, and the two always cost the same
(`conventions_cost_the_same`).
-/

namespace NewApi

/-- The tokens a request used, by what they were. -/
structure PhysicalUsage where
  text : Nat
  cacheRead : Nat
  cacheCreation5m : Nat
  cacheCreation1h : Nat
  output : Nat

namespace PhysicalUsage

/-- The usage as OpenAI's format reports it: the prompt is all of the input. -/
def openAIReport (w : PhysicalUsage) : Usage where
  promptTokens := w.text + w.cacheRead + w.cacheCreation5m + w.cacheCreation1h
  completionTokens := w.output
  totalTokens := w.text + w.cacheRead + w.cacheCreation5m + w.cacheCreation1h + w.output
  promptTokensDetails := { cachedTokens := w.cacheRead, cachedCreationTokens := w.cacheCreation5m + w.cacheCreation1h }

/-- The usage as Claude's format reports it: the prompt is the text only, and the cache writes are told apart. -/
def claudeReport (w : PhysicalUsage) : Usage where
  promptTokens := w.text
  completionTokens := w.output
  totalTokens := w.text + w.output
  usageSemantic := "anthropic"
  promptTokensDetails := { cachedTokens := w.cacheRead, cachedCreationTokens := w.cacheCreation5m + w.cacheCreation1h }
  claudeCacheCreation5mTokens := w.cacheCreation5m
  claudeCacheCreation1hTokens := w.cacheCreation1h

/-- What the expression's `p` should count: the text and every cached token it has no variable for. -/
def countedInPrompt (w : PhysicalUsage) (usedVars : List String) : Nat :=
  w.text + (if "cr" ∈ usedVars then 0 else w.cacheRead) + (if "cc" ∈ usedVars then 0 else w.cacheCreation5m) +
    (if "cc1h" ∈ usedVars then 0 else w.cacheCreation1h)

end PhysicalUsage

/-- Two readings of a usage are the same to an expression without images and audio. -/
def TokenParams.SameText (a b : TokenParams) : Prop :=
  a.p = b.p ∧ a.c = b.c ∧ a.len = b.len ∧ a.cr = b.cr ∧ a.cc = b.cc ∧ a.cc1h = b.cc1h

namespace TokenParamsAux

variable {w : PhysicalUsage}

/-- OpenAI's report counts in `p` what the expression has no variable for. -/
theorem params_openAIReport (h1h : w.cacheCreation1h = 0) (usedVars : List String) : buildTieredTokenParams w.openAIReport false usedVars =
      { p := w.countedInPrompt usedVars, c := w.output, len := w.text + w.cacheRead + w.cacheCreation5m, cr := w.cacheRead
        cc := w.cacheCreation5m, cc1h := 0, img := 0, imgO := 0, ai := 0, ao := 0 } := by
  have hp : (w.text + w.cacheRead + w.cacheCreation5m : ℚ) - (if "cr" ∈ usedVars then (w.cacheRead : ℚ) else 0) -
      (if "cc" ∈ usedVars then (w.cacheCreation5m : ℚ) else 0) = w.countedInPrompt usedVars := by
    unfold PhysicalUsage.countedInPrompt
    rw [h1h, ite_self, add_zero]
    split <;> split <;> push_cast <;> ring
  have hnonneg : (0 : ℚ) ≤ w.countedInPrompt usedVars := Nat.cast_nonneg _
  have hout : (0 : ℚ) ≤ w.output := Nat.cast_nonneg _
  simp [buildTieredTokenParams, PhysicalUsage.openAIReport, h1h, hp, hout, hnonneg]

/-- Claude's report counts in `p` the text, whatever the expression has variables for. -/
theorem params_claudeReport (h1h : w.cacheCreation1h = 0) (usedVars : List String) : buildTieredTokenParams w.claudeReport true usedVars =
      { p := w.text, c := w.output, len := w.text + w.cacheRead + w.cacheCreation5m, cr := w.cacheRead
        cc := w.cacheCreation5m, cc1h := 0, img := 0, imgO := 0, ai := 0, ao := 0 } := by
  have htext : (0 : ℚ) ≤ w.text := Nat.cast_nonneg _
  have hout : (0 : ℚ) ≤ w.output := Nat.cast_nonneg _
  simp [buildTieredTokenParams, PhysicalUsage.claudeReport, h1h, htext, hout]

/-- Nothing but the text counts exactly when the expression has a variable for every cached kind there is. -/
theorem countedInPrompt_eq_text_iff (h1h : w.cacheCreation1h = 0) (usedVars : List String) : w.countedInPrompt usedVars = w.text ↔
      ("cr" ∈ usedVars ∨ w.cacheRead = 0) ∧ ("cc" ∈ usedVars ∨ w.cacheCreation5m = 0) := by
  unfold PhysicalUsage.countedInPrompt
  rw [h1h]
  by_cases hcr : "cr" ∈ usedVars <;> by_cases hcc : "cc" ∈ usedVars <;> simp [hcr, hcc]
  omega

end TokenParamsAux

open TokenParamsAux

/-- The two conventions give an expression the same counts, with the tokens it does not price apart in `p`, exactly when there are no
cached tokens it does not price apart. -/
theorem token_conventions_agree_iff (w : PhysicalUsage) (h1h : w.cacheCreation1h = 0) (usedVars : List String) :
    (let openAI := buildTieredTokenParams w.openAIReport false usedVars
     let claude := buildTieredTokenParams w.claudeReport true usedVars
     openAI.SameText claude ∧ openAI.p = w.countedInPrompt usedVars ∧ claude.p = w.countedInPrompt usedVars) ↔
      ("cr" ∈ usedVars ∨ w.cacheRead = 0) ∧ ("cc" ∈ usedVars ∨ w.cacheCreation5m = 0) := by
  rw [← countedInPrompt_eq_text_iff h1h, params_openAIReport h1h, params_claudeReport h1h]
  constructor
  · rintro ⟨-, -, hclaude⟩
    exact (Nat.cast_injective hclaude).symm
  · intro h
    have hp : (w.countedInPrompt usedVars : ℚ) = w.text := congrArg Nat.cast h
    exact ⟨⟨hp, rfl, rfl, rfl, rfl, rfl⟩, rfl, hp.symm⟩

/-- 800 tokens of text and 200 read from the cache, under an expression that prices the prompt only: 1000 tokens are counted where
OpenAI's format reports them, 800 where Claude's does. -/
theorem token_conventions_differ :
    let w : PhysicalUsage := ⟨800, 200, 0, 0, 500⟩
    (buildTieredTokenParams w.openAIReport false ["p", "c"]).p = 1000 ∧
      (buildTieredTokenParams w.claudeReport true ["p", "c"]).p = 800 := by
  decide +kernel

theorem token_conventions_agree_iff_sample :
    let w : PhysicalUsage := ⟨800, 200, 0, 0, 500⟩
    let openAI := buildTieredTokenParams w.openAIReport false ["p", "c", "cr"]
    let claude := buildTieredTokenParams w.claudeReport true ["p", "c", "cr"]
    openAI.SameText claude ∧ openAI.p = w.countedInPrompt ["p", "c", "cr"] ∧ claude.p = w.countedInPrompt ["p", "c", "cr"] :=
  (token_conventions_agree_iff ⟨800, 200, 0, 0, 500⟩ rfl ["p", "c", "cr"]).2 (by decide)

/-! ## The quota by ratio -/

/-- A report of these tokens in OpenAI's convention, with what else `u` reports. -/
def Usage.openAIConvention (u : Usage) (text cacheRead cacheCreation output : Nat) : Usage :=
  { u with
    promptTokens := text + cacheRead + cacheCreation
    completionTokens := output
    usageSemantic := "openai"
    promptTokensDetails := { u.promptTokensDetails with cachedTokens := cacheRead, cachedCreationTokens := cacheCreation } }

/-- The report of the same tokens in Claude's convention. -/
def Usage.claudeConvention (u : Usage) (text cacheRead cacheCreation output : Nat) : Usage :=
  { u.openAIConvention text cacheRead cacheCreation output with promptTokens := text, usageSemantic := "anthropic" }

namespace TokenParamsAux

/-- The prompt costs the same: what OpenAI's convention counts in it is taken out again. -/
theorem promptQuota_conventions {u : Usage} (h5m : u.claudeCacheCreation5mTokens = 0) (h1h : u.claudeCacheCreation1hTokens = 0)
    (info : TextInfo) (surcharge : ℚ) (modelName : String) (pd : TextPriceData) (text cacheRead cacheCreation output : Nat) :
    (info.reportedSummary (some (u.openAIConvention text cacheRead cacheCreation output)) surcharge).promptQuota modelName pd =
      (info.reportedSummary (some (u.claudeConvention text cacheRead cacheCreation output)) surcharge).promptQuota modelName pd := by
  simp only [TextQuotaSummary.promptQuota, TextInfo.reportedSummary, Usage.openAIConvention, Usage.claudeConvention,
    TextInfo.usageSemanticFromUsage, TextInfo.isLegacyClaudeDerived, Option.getD_some, h5m, h1h]
  by_cases hcreation : cacheCreation = 0
  · simp [hcreation]
  · simp [hcreation]
    ring

end TokenParamsAux

/-- A request costs the same by ratio whichever convention its tokens are reported in, where the cache writes are not told apart and
either report has tokens. -/
theorem conventions_cost_the_same (cfg : Config) (ts : TextSetting) (modelName : String) (info : TextInfo) (u : Usage)
    (text cacheRead cacheCreation output : Nat) (hrouter : info.isOpenRouter = false)
    (h5m : u.claudeCacheCreation5mTokens = 0) (h1h : u.claudeCacheCreation1hTokens = 0)
    (hopenAI : 0 < text + cacheRead + cacheCreation + output) (hclaude : 0 < text + output) :
    (calculateTextQuotaSummary cfg ts modelName info (some (u.openAIConvention text cacheRead cacheCreation output))).quota =
      (calculateTextQuotaSummary cfg ts modelName info (some (u.claudeConvention text cacheRead cacheCreation output))).quota := by
  have hprompt := promptQuota_conventions h5m h1h info (calculateTextToolCallSurcharge cfg ts modelName info) modelName
    info.priceData text cacheRead cacheCreation output
  have hopenAI' : ((text : Int) + cacheRead + cacheCreation + output) ≠ 0 := by omega
  have hclaude' : ((text : Int) + output) ≠ 0 := by omega
  simp only [calculateTextQuotaSummary, TextInfo.adjustedSummary, hrouter, Bool.false_eq_true, false_and, if_false,
    TextQuotaSummary.roundedQuota, TextQuotaSummary.exactQuota, TextQuotaSummary.ratioQuota, hprompt]
  simp only [TextInfo.reportedSummary, Usage.claudeConvention, Usage.openAIConvention, Option.getD_some, hopenAI', hclaude', if_false]
  rfl

theorem conventions_cost_the_same_sample :
    let quota usage := (calculateTextQuotaSummary sampleConfig TextQuotaAux.freeTools "m"
      { TextQuotaAux.discountInfo with priceData := ⟨0, 2, 3, 1 / 10, 5 / 4, 0, 0, 0, 1, false, []⟩ } (some usage)).quota
    quota (({} : Usage).openAIConvention 80 200 40 50) = 600 ∧ quota (({} : Usage).claudeConvention 80 200 40 50) = 600 := by
  have hsame := conventions_cost_the_same sampleConfig TextQuotaAux.freeTools "m"
    { TextQuotaAux.discountInfo with priceData := ⟨0, 2, 3, 1 / 10, 5 / 4, 0, 0, 0, 1, false, []⟩ } {} 80 200 40 50 rfl rfl rfl
    (by decide) (by decide)
  exact ⟨by decide +kernel, hsame.symm.trans (by decide +kernel)⟩

end NewApi
