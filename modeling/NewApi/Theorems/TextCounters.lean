import NewApi.Theorems.TextQuota

/-!
# What a text request is settled on and what the counters record

`PostTextConsumeQuota` settles the session on the quota of the request and adds it to the used quota of the user and of the channel, but
only where the report has tokens. By ratio and by price a request without tokens costs nothing. By an expression it may cost something:
the expression may have a constant part, a tool its surcharge, and an expression that fails leaves the pre-charge.
-/

namespace NewApi

/-- A request that is billed by an expression and reported without a token costs nothing: the expression's value, in quota of the group
and with the tools' surcharge, is less than half a quota (with a surcharge, it rounds to 0 modulo `2 ^ 64`); where the expression does not
run, what stands in for it and the surcharge come to nothing. -/
def FreeWithoutTokens (cfg : Config) (ts : TextSetting) (eng : ExprEngine) (relay : RelayInfo) (info : TextInfo)
    (usage : Option Usage) (now : Int) : Prop :=
  ∀ u snap, usage = some u → info.tieredBillingSnapshot = some snap → snap.billingMode = "tiered_expr" →
    u.promptTokens + u.completionTokens = 0 →
    let surcharge := calculateTextToolCallSurcharge cfg ts relay.originModelName info
    let params := buildTieredTokenParams u (decide (info.usageSemanticFromUsage usage = "anthropic"))
      (eng.usedVars snap.exprString)
    match eng.runExprWithRequest snap.exprString params (info.billingRequestInput.getD ⟨[], ""⟩) now with
    | .ok (cost, _) =>
      let price := quotaConversion cost snap * snap.groupRatio
      if surcharge ≠ 0 then 18446744073709551616 ∣ Rounding.roundHalfAway (price + surcharge)
      else if |price| + 1 / 2 < 9223372036854775808 then -(1 / 2) < price ∧ price < 1 / 2
      else eng.quotaRound price = 0
    | .error _ =>
      if surcharge = 0 then snap.fallbackQuota relay.finalPreConsumedQuota = 0
      else 18446744073709551616 ∣ snap.fallbackQuota relay.finalPreConsumedQuota + Rounding.roundHalfAway surcharge

/-- The used quota of the user and of the channel have grown by the quota. -/
def UsageCounters.Records (before after : UsageCounters) (quota : Int) : Prop :=
  after.userUsedQuota - before.userUsedQuota = quota ∧ after.channelUsedQuota - before.channelUsedQuota = quota

namespace TextCountersAux

open TextQuotaAux

variable {cfg : Config} {ts : TextSetting} {info : TextInfo} {usage : Option Usage} {relay : RelayInfo}

/-- The counters record the quota exactly when the request has tokens or costs nothing. -/
theorem records_iff (eng : ExprEngine) (now : Int) (c : UsageCounters) :
    c.Records (textConsumeCounters cfg ts eng relay info usage now c) (textConsumeQuota cfg ts eng relay info usage now) ↔
      countedTokens info usage ≠ 0 ∨ textConsumeQuota cfg ts eng relay info usage now = 0 := by
  unfold textConsumeCounters UsageCounters.Records
  simp only [calculateTextQuotaSummary, adjusted_totalTokens]
  by_cases htokens : countedTokens info usage = 0
  · rw [if_pos htokens, sub_self, sub_self, and_self]
    constructor
    · intro h
      exact .inr h.symm
    · rintro (h | h)
      · exact absurd htokens h
      · exact h.symm
  · rw [if_neg htokens]
    constructor
    · intro _
      exact .inl htokens
    · intro _
      exact ⟨add_sub_cancel_left _ _, add_sub_cancel_left _ _⟩

/-- By ratio and by price a request without tokens costs nothing. -/
theorem summary_quota_of_no_tokens (modelName : String) (h : countedTokens info usage = 0) :
    (calculateTextQuotaSummary cfg ts modelName info usage).quota = 0 := by
  have htotal : (info.adjustedSummary cfg ts modelName usage).totalTokens = 0 := by
    rw [adjusted_totalTokens, h]
  exact if_pos htotal

theorem int64_eq_zero_iff (n : Int) : Rounding.int64 n = 0 ↔ 18446744073709551616 ∣ n := by
  rw [Rounding.int64_eq_iff (by decide) (by decide), sub_zero]

/-- A value inside the range of a word is rounded to no quota exactly where it is less than one half away from 0. -/
theorem quotaRound_eq_zero_iff (eng : ExprEngine) (x : ℚ) : eng.quotaRound x = 0 ↔
    if |x| + 1 / 2 < 9223372036854775808 then -(1 / 2) < x ∧ x < 1 / 2 else eng.quotaRound x = 0 := by
  split
  · rename_i hfits
    obtain ⟨hlow, hhigh⟩ := Rounding.roundHalfAway_fits hfits
    rw [ExprEngine.quotaRound, eng.toInt_fits _ hlow hhigh, Rounding.roundHalfAway_eq_zero_iff]
  · exact Iff.rfl

end TextCountersAux

open TextQuotaAux TextCountersAux

/-- What a text request is settled on is what the counters of the user and of the channel record, whatever they held, exactly when a
request billed by an expression and reported without tokens costs nothing. -/
theorem text_counters_record_iff (cfg : Config) (ts : TextSetting) (eng : ExprEngine) (relay : RelayInfo) (info : TextInfo)
    (usage : Option Usage) (now : Int) (c : UsageCounters) :
    c.Records (textConsumeCounters cfg ts eng relay info usage now c) (textConsumeQuota cfg ts eng relay info usage now) ↔
      FreeWithoutTokens cfg ts eng relay info usage now := by
  rw [records_iff]
  unfold FreeWithoutTokens
  obtain ⟨u, snap, rfl, hsnap, hmode, hcond⟩ | hplain := tiered_cases info usage
  · rw [hcond, textConsumeQuota_tiered eng relay now hsnap hmode, ← imp_iff_not_or]
    refine imp_congr_right fun _ => ?_
    dsimp only
    by_cases hz : calculateTextToolCallSurcharge cfg ts relay.originModelName info = 0
    · cases eng.runExprWithRequest snap.exprString _ _ now with
      | error e => simp only [hz, if_true]
      | ok out =>
        simp only [hz, ne_eq, not_true_eq_false, if_true, if_false]
        exact quotaRound_eq_zero_iff eng _
    · cases eng.runExprWithRequest snap.exprString _ _ now with
      | error e =>
        simp only [hz, if_false]
        exact int64_eq_zero_iff _
      | ok out =>
        simp only [hz, ne_eq, not_false_eq_true, if_true, if_false]
        exact int64_eq_zero_iff _
  · rw [textConsumeQuota_plain eng relay now hplain]
    constructor
    · intro _ u snap husage hsnap hmode
      exact absurd hmode (hplain u snap husage hsnap)
    · intro _
      by_cases htokens : countedTokens info usage = 0
      · exact .inr (summary_quota_of_no_tokens _ htokens)
      · exact .inl htokens

namespace TextCountersAux

/-- Every tool at ten dollars for a thousand calls. -/
def pricedTools : TextSetting := ⟨fun _ _ => 10, fun _ => none⟩

/-- A request of a model billed by the expression, in which the upstream made one web search. -/
def searchedInfo : TextInfo := { discountInfo with claudeWebSearchRequests := 1 }

/-- A report without a token, as of an upstream that timed out. -/
def emptyReport : Usage := {}

end TextCountersAux

/-- The report is empty, but one web search was made: the request is settled on its surcharge of 5000, and the counters of the user and
of the channel stay as they were. -/
theorem search_without_tokens_not_recorded :
    let relay := sampleWalletSession.relayInfo
    textConsumeQuota sampleConfig pricedTools discountEngine relay searchedInfo (some emptyReport) 0 = 5000 ∧
      textConsumeCounters sampleConfig pricedTools discountEngine relay searchedInfo (some emptyReport) 0 ⟨7, 1, 9⟩ =
        ⟨7, 1, 9⟩ := by
  decide +kernel

end NewApi
