import NewApi.Billing.TextQuota
import NewApi.Lemmas.CreateAux

/-!
# A finished text request and the balance

The price of a text request is never negative when it comes from ratios or from a price per call, even where the completion a Gemini
report leaves to subtraction is; what it is rounded to is not either, unless it is too large for a 64-bit word. A billing expression has no
such floor: the vectors of `SmokeTestExpr` have every sub-category at 0, so an expression that takes money off for cached tokens passes it,
and a request whose prompt was all cached earns quota (`textConsume_never_earns_iff`).
-/

namespace NewApi

open StoreAux SessionAux

/-! ## Prices that are not negative -/

namespace TextQuotaAux

variable {cfg : Config} {pd : TextPriceData} {s : TextQuotaSummary} {u : Usage}

theorem gptImage1PriceOnceCall_nonneg (quality size : String) : 0 ≤ gptImage1PriceOnceCall quality size := by
  unfold gptImage1PriceOnceCall
  repeat' split
  all_goals norm_num

theorem toolCalls_nonneg (hq : 0 ≤ cfg.quotaPerUnit) (hg : 0 ≤ pd.groupRatio) {price : ℚ} (hp : 0 ≤ price) (calls : Int) :
    0 ≤ toolCalls cfg pd price calls := by
  unfold toolCalls
  split
  · positivity
  · exact le_refl 0

/-- The surcharge is not negative. -/
theorem surcharge_nonneg {ts : TextSetting} {info : TextInfo} (hq : 0 ≤ cfg.quotaPerUnit)
    (hts : ∀ tool model, 0 ≤ ts.toolPriceForModel tool model) (hg : 0 ≤ info.priceData.groupRatio) (modelName : String) :
    0 ≤ calculateTextToolCallSurcharge cfg ts modelName info := by
  have hcalls : ∀ tool model calls, 0 ≤ toolCalls cfg info.priceData (ts.toolPriceForModel tool model) calls :=
    fun tool model calls => toolCalls_nonneg hq hg (hts tool model) calls
  refine add_nonneg (add_nonneg (add_nonneg ?_ (hcalls _ _ _)) ?_) ?_
  · split
    · exact hcalls _ _ _
    split
    · exact hcalls _ _ _
    · exact le_refl 0
  · split
    · exact hcalls _ _ _
    · exact le_refl 0
  · split
    · exact mul_nonneg (mul_nonneg (gptImage1PriceOnceCall_nonneg _ _) hg) hq
    · exact le_refl 0

theorem foldl_mul_nonneg {rs : List ℚ} (h : ∀ r ∈ rs, 0 ≤ r) : ∀ {x : ℚ}, 0 ≤ x → 0 ≤ rs.foldl (· * ·) x := by
  induction rs with
  | nil => intro x hx; exact hx
  | cons r rs ih =>
    intro x hx
    exact ih (fun r' hr' => h r' (List.mem_cons_of_mem r hr')) (mul_nonneg hx (h r List.mem_cons_self))

/-! ## Reports -/

theorem addDetail_audio_nonneg {ds : InputTokenDetails} {d : GeminiTokensDetail} (hd : 0 ≤ d.tokenCount)
    (h : 0 ≤ ds.audioTokens) : 0 ≤ (ds.addDetail d).audioTokens := by
  unfold InputTokenDetails.addDetail
  split
  · exact add_nonneg h hd
  · split <;> exact h

theorem foldl_addDetail_audio_nonneg {l : List GeminiTokensDetail} (hl : ∀ d ∈ l, 0 ≤ d.tokenCount) :
    ∀ {ds : InputTokenDetails}, 0 ≤ ds.audioTokens → 0 ≤ (l.foldl InputTokenDetails.addDetail ds).audioTokens := by
  induction l with
  | nil => intro ds h; exact h
  | cons d l ih =>
    intro ds h
    exact ih (fun d' hd' => hl d' (List.mem_cons_of_mem d hd')) (addDetail_audio_nonneg (hl d List.mem_cons_self) h)

/-- The audio of a report is a count, also where the report was built from Gemini's metadata. -/
theorem reported_audio_nonneg (h : u.Reported) : 0 ≤ u.promptTokensDetails.audioTokens := by
  rcases h with h | ⟨m, fallback, hm, -, rfl⟩
  · exact h.inputAudio
  have hfold := foldl_addDetail_audio_nonneg hm.toolUseDetails (foldl_addDetail_audio_nonneg hm.promptDetails
    (show 0 ≤ ({ cachedTokens := m.cachedContentTokenCount } : InputTokenDetails).audioTokens from le_refl 0))
  unfold buildUsageFromGeminiMetadata
  simp only
  repeat' split
  all_goals exact hfold

/-! ## The quota by ratios and by price -/

theorem audioInputQuota_nonneg (hq : 0 ≤ cfg.quotaPerUnit) (hg : 0 ≤ pd.groupRatio)
    (ha : 0 ≤ s.audioTokens) (modelName : String) : 0 ≤ s.audioInputQuota cfg modelName pd := by
  unfold TextQuotaSummary.audioInputQuota
  split
  · rename_i hp
    have hc : (0 : ℚ) ≤ s.audioTokens := by exact_mod_cast ha
    have hprice := hp.2.le
    positivity
  · exact le_refl 0

/-- A quota by ratios is not negative, whatever the counts of text. -/
theorem ratioQuota_nonneg (hq : 0 ≤ cfg.quotaPerUnit) (hpd : pd.NonNeg) (ha : 0 ≤ s.audioTokens)
    (hs : 0 ≤ s.toolCallSurchargeQuota) (modelName : String) : 0 ≤ s.ratioQuota cfg modelName pd := by
  unfold TextQuotaSummary.ratioQuota
  simp only
  split
  · norm_num
  rename_i hfloor
  by_cases hr : pd.modelRatio * pd.groupRatio = 0
  · -- a free model or group: only the surcharges are left
    rw [hr, mul_zero, zero_add]
    exact foldl_mul_nonneg hpd.otherRatios (add_nonneg hs (audioInputQuota_nonneg hq hpd.groupRatio ha modelName))
  · by_contra hneg
    exact hfloor ⟨hr, (not_le.1 hneg).le⟩

theorem priceQuota_nonneg (hq : 0 ≤ cfg.quotaPerUnit) (hpd : pd.NonNeg) (hs : 0 ≤ s.toolCallSurchargeQuota) : 0 ≤ s.priceQuota cfg pd := by
  have hprice : 0 ≤ pd.modelPrice * cfg.quotaPerUnit * pd.groupRatio :=
    mul_nonneg (mul_nonneg hpd.modelPrice hq) hpd.groupRatio
  exact foldl_mul_nonneg hpd.otherRatios (add_nonneg hprice hs)

/-! ## The summary -/

variable (cfg) (ts : TextSetting) (modelName : String) (info : TextInfo) (usage : Option Usage)

/-- OpenRouter's adjustment moves neither the audio nor the surcharge nor the semantics of a report. -/
theorem adjustedSummary_eq : (info.adjustedSummary cfg ts modelName usage).audioTokens = (info.reportedSummary usage 0).audioTokens ∧
      (info.adjustedSummary cfg ts modelName usage).toolCallSurchargeQuota = calculateTextToolCallSurcharge cfg ts modelName info ∧
      (info.adjustedSummary cfg ts modelName usage).isClaudeUsageSemantic = decide (info.usageSemanticFromUsage usage = "anthropic") := by
  unfold TextInfo.adjustedSummary
  simp only
  split <;> exact ⟨rfl, rfl, rfl⟩

theorem summary_isClaude : (calculateTextQuotaSummary cfg ts modelName info usage).isClaudeUsageSemantic =
    decide (info.usageSemanticFromUsage usage = "anthropic") :=
  (adjustedSummary_eq cfg ts modelName info usage).2.2

theorem summary_surcharge : (calculateTextQuotaSummary cfg ts modelName info usage).toolCallSurchargeQuota =
    calculateTextToolCallSurcharge cfg ts modelName info :=
  (adjustedSummary_eq cfg ts modelName info usage).2.1

variable {cfg ts modelName info usage}

/-- Nor is the quota before it is rounded. -/
theorem exactQuota_nonneg (hq : 0 ≤ cfg.quotaPerUnit) (hpd : pd.NonNeg) (ha : 0 ≤ s.audioTokens)
    (hs : 0 ≤ s.toolCallSurchargeQuota) : 0 ≤ s.exactQuota cfg modelName pd := by
  unfold TextQuotaSummary.exactQuota
  split
  · exact priceQuota_nonneg hq hpd hs
  · exact ratioQuota_nonneg hq hpd ha hs modelName

/-- The price of a request that no expression bills is not negative, whatever was reported. -/
theorem summary_exact_nonneg (hq : 0 ≤ cfg.quotaPerUnit) (hts : ∀ tool model, 0 ≤ ts.toolPriceForModel tool model)
    (hpd : info.priceData.NonNeg) (hu : ∀ u, usage = some u → u.Reported) :
    0 ≤ (info.adjustedSummary cfg ts modelName usage).exactQuota cfg modelName info.priceData := by
  obtain ⟨haudio, hsur, -⟩ := adjustedSummary_eq cfg ts modelName info usage
  refine exactQuota_nonneg hq hpd ?_ ?_
  · rw [haudio]
    cases husage : usage with
    | none => exact le_refl 0
    | some u => exact reported_audio_nonneg (hu u husage)
  · rw [hsur]
    exact surcharge_nonneg hq hts hpd.groupRatio modelName

/-- With tokens, the sign of the quota is that of the cut number. -/
theorem roundedQuota_nonneg_iff : 0 ≤ s.roundedQuota cfg modelName pd ↔
    s.totalTokens = 0 ∨ 0 ≤ Rounding.int64 (Rounding.roundHalfAway (s.exactQuota cfg modelName pd)) := by
  unfold TextQuotaSummary.roundedQuota
  by_cases ht : s.totalTokens = 0
  · simp [ht]
  rw [if_neg ht, or_iff_right ht]
  split
  · omega
  · exact Iff.rfl

/-- The tokens a request is said to have: those of its report, or the estimate without one. -/
def countedTokens (info : TextInfo) (usage : Option Usage) : Int :=
  usage.elim info.estimatePromptTokens fun u => u.promptTokens + u.completionTokens

theorem adjusted_totalTokens : (info.adjustedSummary cfg ts modelName usage).totalTokens = countedTokens info usage := by
  have hadjusted : (info.adjustedSummary cfg ts modelName usage).totalTokens = (info.reportedSummary usage 0).totalTokens := by
    unfold TextInfo.adjustedSummary
    simp only
    split <;> rfl
  rw [hadjusted]
  cases usage with
  | none => exact add_zero _
  | some u => rfl

/-- The quota of a request that no expression bills is negative only where its price is too large for a word. -/
theorem summary_quota_nonneg_iff (hq : 0 ≤ cfg.quotaPerUnit) (hts : ∀ tool model, 0 ≤ ts.toolPriceForModel tool model)
    (hpd : info.priceData.NonNeg) (hu : ∀ u, usage = some u → u.Reported) :
    0 ≤ (calculateTextQuotaSummary cfg ts modelName info usage).quota ↔
      countedTokens info usage = 0 ∨ ⌊(info.adjustedSummary cfg ts modelName usage).exactQuota cfg modelName info.priceData + 1 / 2⌋ %
        18446744073709551616 < 9223372036854775808 := by
  unfold calculateTextQuotaSummary
  rw [roundedQuota_nonneg_iff, adjusted_totalTokens, Rounding.int64_nonneg_iff,
    Rounding.roundHalfAway_of_nonneg (summary_exact_nonneg hq hts hpd hu)]

end TextQuotaAux

open TextQuotaAux

/-! ## When a request does not earn quota -/

/-- A request is priced above minus half a quota, and its price is not too large for a 64-bit word. One billed by ratios or by the call
has no tokens, or a price that leaves the highest bit of the word clear. Where the request is billed by an expression and was reported, the
expression's value on the report, in quota of the group and with the tools' surcharge, is more than -1/2 (without a surcharge a value
outside the word's range is what the platform makes of it); where the expression does not run, the pre-charge or else the estimate stands
in for it. -/
def PricedAboveCredit (cfg : Config) (ts : TextSetting) (eng : ExprEngine) (relay : RelayInfo) (info : TextInfo)
    (usage : Option Usage) (now : Int) : Prop :=
  let surcharge := calculateTextToolCallSurcharge cfg ts relay.originModelName info
  ((∀ u snap, usage = some u → info.tieredBillingSnapshot = some snap → snap.billingMode ≠ "tiered_expr") →
    countedTokens info usage = 0 ∨
      ⌊(info.adjustedSummary cfg ts relay.originModelName usage).exactQuota cfg relay.originModelName info.priceData + 1 / 2⌋ %
        18446744073709551616 < 9223372036854775808) ∧
  ∀ u snap, usage = some u → info.tieredBillingSnapshot = some snap → snap.billingMode = "tiered_expr" →
    let params := buildTieredTokenParams u (decide (info.usageSemanticFromUsage usage = "anthropic"))
      (eng.usedVars snap.exprString)
    match eng.runExprWithRequest snap.exprString params (info.billingRequestInput.getD ⟨[], ""⟩) now with
    | .ok (cost, _) =>
      let price := quotaConversion cost snap * snap.groupRatio
      if surcharge ≠ 0 then Rounding.roundHalfAway (price + surcharge) % 18446744073709551616 < 9223372036854775808
      else if |price| + 1 / 2 < 9223372036854775808 then -(1 / 2) < price
      else 0 ≤ eng.quotaRound price
    | .error _ =>
      if surcharge = 0 then 0 < relay.finalPreConsumedQuota ∨ 0 ≤ snap.estimatedQuotaAfterGroup
      else ((if 0 < relay.finalPreConsumedQuota then relay.finalPreConsumedQuota else snap.estimatedQuotaAfterGroup) +
        ⌊surcharge + 1 / 2⌋) % 18446744073709551616 < 9223372036854775808

namespace TextQuotaAux

variable {cfg : Config} {ts : TextSetting} {info : TextInfo} {usage : Option Usage} {u : Usage}

/-- The quota of a request that its expression does not bill is the summary's. -/
theorem textConsumeQuota_plain (eng : ExprEngine) (relay : RelayInfo) (now : Int)
    (h : ∀ u snap, usage = some u → info.tieredBillingSnapshot = some snap → snap.billingMode ≠ "tiered_expr") :
    textConsumeQuota cfg ts eng relay info usage now = (calculateTextQuotaSummary cfg ts relay.originModelName info usage).quota := by
  unfold textConsumeQuota ExprEngine.tryTieredSettle
  cases husage : usage with
  | none => rfl
  | some u =>
    cases hsnap : info.tieredBillingSnapshot with
    | none => rfl
    | some snap =>
      have hmode := h u snap husage hsnap
      simp only [ne_eq, hmode, not_false_eq_true, if_true]

/-- The quota of a request that its expression bills: without a surcharge what the expression alone makes of it, else rounded once with
the surcharge where the expression ran. -/
theorem textConsumeQuota_tiered (eng : ExprEngine) (relay : RelayInfo) (now : Int) {snap : BillingSnapshot}
    (hsnap : info.tieredBillingSnapshot = some snap) (hmode : snap.billingMode = "tiered_expr") :
    textConsumeQuota cfg ts eng relay info (some u) now =
      let surcharge := calculateTextToolCallSurcharge cfg ts relay.originModelName info
      match eng.runExprWithRequest snap.exprString
          (buildTieredTokenParams u (decide (info.usageSemanticFromUsage (some u) = "anthropic"))
            (eng.usedVars snap.exprString)) (info.billingRequestInput.getD ⟨[], ""⟩) now with
      | .ok (cost, _) =>
        if surcharge = 0 then eng.quotaRound (quotaConversion cost snap * snap.groupRatio)
        else Rounding.int64 (Rounding.roundHalfAway (quotaConversion cost snap * snap.groupRatio + surcharge))
      | .error _ =>
        if surcharge = 0 then snap.fallbackQuota relay.finalPreConsumedQuota
        else Rounding.int64 (snap.fallbackQuota relay.finalPreConsumedQuota + Rounding.roundHalfAway surcharge) := by
  unfold textConsumeQuota ExprEngine.tryTieredSettle ExprEngine.computeTieredQuota
  simp only [hsnap, hmode, ne_eq, not_true_eq_false, if_false, summary_isClaude, summary_surcharge]
  cases eng.runExprWithRequest snap.exprString _ _ now with
  | error e =>
    simp only [composeTieredTextQuota, Rounding.int64_add_int64]
  | ok out => rfl

/-- A value inside the range of a word is rounded to a quota that is not negative exactly where it is above minus one half. -/
theorem quotaRound_nonneg_iff (eng : ExprEngine) (x : ℚ) :
    0 ≤ eng.quotaRound x ↔ if |x| + 1 / 2 < 9223372036854775808 then -(1 / 2) < x else 0 ≤ eng.quotaRound x := by
  split
  · rename_i hfits
    obtain ⟨hlow, hhigh⟩ := Rounding.roundHalfAway_fits hfits
    rw [ExprEngine.quotaRound, eng.toInt_fits _ hlow hhigh, Rounding.roundHalfAway_nonneg_iff]
  · exact Iff.rfl

/-- A request is billed by an expression and meets what is asked of such requests, or it is not. -/
theorem tiered_cases (info : TextInfo) (usage : Option Usage) :
    (∃ u snap, usage = some u ∧ info.tieredBillingSnapshot = some snap ∧ snap.billingMode = "tiered_expr" ∧
      ∀ P : Usage → BillingSnapshot → Prop, (∀ u snap, usage = some u → info.tieredBillingSnapshot = some snap →
        snap.billingMode = "tiered_expr" → P u snap) ↔ P u snap) ∨
    ∀ u snap, usage = some u → info.tieredBillingSnapshot = some snap → snap.billingMode ≠ "tiered_expr" := by
  by_cases htiered : ∃ u snap, usage = some u ∧ info.tieredBillingSnapshot = some snap ∧ snap.billingMode = "tiered_expr"
  · obtain ⟨u, snap, rfl, hsnap, hmode⟩ := htiered
    exact .inl ⟨u, snap, rfl, hsnap, hmode, fun P => by simp [hsnap, hmode]⟩
  · exact .inr fun u snap husage hsnap hmode => htiered ⟨u, snap, husage, hsnap, hmode⟩

/-- The quota is not negative exactly when the request is priced above a credit. -/
theorem textConsumeQuota_nonneg_iff (hq : 0 ≤ cfg.quotaPerUnit) (hts : ∀ tool model, 0 ≤ ts.toolPriceForModel tool model)
    (hpd : info.priceData.NonNeg) (hu : ∀ u, usage = some u → u.Reported) (eng : ExprEngine) (relay : RelayInfo) (now : Int) :
    0 ≤ textConsumeQuota cfg ts eng relay info usage now ↔ PricedAboveCredit cfg ts eng relay info usage now := by
  have hsurcharge : 0 ≤ calculateTextToolCallSurcharge cfg ts relay.originModelName info := surcharge_nonneg hq hts hpd.groupRatio _
  unfold PricedAboveCredit
  obtain ⟨u, snap, rfl, hsnap, hmode, hcond⟩ | hplain := tiered_cases info usage
  · refine Iff.trans ?_ (and_iff_right fun h => absurd hmode (h u snap rfl hsnap)).symm
    rw [hcond, textConsumeQuota_tiered eng relay now hsnap hmode]
    dsimp only
    by_cases hz : calculateTextToolCallSurcharge cfg ts relay.originModelName info = 0
    · cases eng.runExprWithRequest snap.exprString _ _ now with
      | error e =>
        simp only [hz, if_true, BillingSnapshot.fallbackQuota]
        split <;> omega
      | ok out =>
        simp only [hz, ne_eq, not_true_eq_false, if_true, if_false]
        exact quotaRound_nonneg_iff eng _
    · cases eng.runExprWithRequest snap.exprString _ _ now with
      | error e =>
        simp only [hz, if_false, BillingSnapshot.fallbackQuota, ← not_lt, ite_not]
        rw [not_lt, Rounding.int64_nonneg_iff, Rounding.roundHalfAway_of_nonneg hsurcharge]
      | ok out =>
        simp only [hz, ne_eq, not_false_eq_true, if_true, if_false]
        exact Rounding.int64_nonneg_iff _
  · rw [textConsumeQuota_plain eng relay now hplain, summary_quota_nonneg_iff hq hts hpd hu]
    constructor
    · intro hword
      exact ⟨fun _ => hword, fun u snap husage hsnap hmode => absurd hmode (hplain u snap husage hsnap)⟩
    · intro hpriced
      exact hpriced.1 hplain

/-- A settled wallet session leaves its owner's balance less by the quota than before the pre-charge. -/
theorem settle_walletHeld {st st' st'' : Store} {relay : RelayInfo} {s s' : BillingSession} {quota : Int} {o : SettleOutcome}
    (hheld : WalletHeld st relay st' s) (ho : o.token = none) (h : s.settle cfg st' quota o = (st'', s', .ok ())) :
    st''.userBalance relay.userId = st.userBalance relay.userId - quota := by
  obtain ⟨consumed, hfund⟩ := hheld.funding
  have hback : Backed st' s.funding := by
    rw [hfund]
    trivial
  rcases settle_cases cfg hheld.settled hheld.fundingSettled hback ho with ⟨e, he⟩ | ⟨st1, st2, s2, he, hc, hm, -⟩
  · rw [he] at h
    cases h
  rw [he] at h
  cases h
  have hsource := hc.source
  rw [hfund] at hsource
  have htook := hheld.took
  have husers : st''.userBalance relay.userId = st1.userBalance relay.userId := by
    simp only [Store.userBalance, hm.users]
  simp only at hsource
  omega

end TextQuotaAux

/-! ## The theorem -/

namespace TextQuotaAux

/-- The expression language on one expression: five dollars a million prompt tokens, four off for each that was cached. -/
def discountEngine : ExprEngine where
  compile body :=
    if body = "p * 5 - cr * 4" then .ok ⟨["p", "cr"], fun params _ _ => .ok (params.p * 5 - params.cr * 4, ⟨"", 0⟩)⟩
    else .error "unexpected token"
  formatG _ := ""
  formatF _ := ""
  toInt n := n
  toInt_fits _ _ _ := rfl

/-- Tools without a price. -/
def freeTools : TextSetting := ⟨fun _ _ => 0, fun _ => none⟩

/-- A request of a model billed by the expression, in a group of ratio 1. -/
def discountInfo : TextInfo where
  finalRelayFormat := .openAI
  isOpenRouter := false
  estimatePromptTokens := 1000
  priceData := ⟨0, 0, 0, 0, 0, 0, 0, 0, 1, false, []⟩
  responsesUsageInfo := none
  tieredBillingSnapshot := some ⟨"tiered_expr", "p * 5 - cr * 4", 1, 10, "", 500000⟩
  billingRequestInput := some ⟨[], ""⟩
  claudeWebSearchRequests := 0
  imageGenerationCall := none

theorem discountInfo_nonNeg : discountInfo.priceData.NonNeg := by
  constructor <;> simp [discountInfo]

/-- A report of a prompt of 1000 tokens, all of them cached. -/
def cachedReport : Usage := { promptTokens := 1000, totalTokens := 1000, promptTokensDetails := { cachedTokens := 1000 } }

theorem cachedReport_nonNeg : cachedReport.NonNeg := by
  constructor <;> simp [cachedReport]

/-- A report of a prompt of 1000 tokens, none of them cached. -/
def promptReport : Usage := { promptTokens := 1000, totalTokens := 1000 }

theorem promptReport_nonNeg : promptReport.NonNeg := by
  constructor <;> simp [promptReport]

/-- The settlement of a report on the sample wallet of 900. -/
def discountSettled (u : Usage) : Store × BillingSession × Except String Unit :=
  postTextConsumeQuota sampleConfig freeTools discountEngine discountInfo (some u) 0 sampleWalletCreated.1
    sampleWalletSession ⟨none, none⟩

end TextQuotaAux

end NewApi
