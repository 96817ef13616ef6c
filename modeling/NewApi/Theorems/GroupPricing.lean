import NewApi.Relay.GroupPricing
import NewApi.Theorems.TextQuota

/-!
# One group ratio in a charge

The settled quota of a request that an expression bills has two parts. The surcharge of the tools has the ratio `getChannel` has put into
the price data, which is that of the group the last channel was selected from. The tokens have the ratio of the snapshot, which is as old
as the last pricing: a retry in another group leaves it alone (`charge_by_one_ratio_iff`).
-/

namespace NewApi

namespace GroupPricingAux

open RelayPricing

variable (st : PricingSettings) {cfg : Config} {eng : ExprEngine} {a : PriceInput} {r r' : RelayPricing}

/-! ## What pricing and a retry leave -/

/-- The group that is used is the one selected last, and the price data has its ratio. -/
structure Priced (r : RelayPricing) : Prop where
  group : r.autoGroup.getD r.usingGroup = r.usingGroup
  ratio : r.info.priceData.groupRatio = st.ratioOf r.userGroup r.usingGroup

/-- The snapshot's estimate is its amount by its ratio. -/
def Estimated (eng : ExprEngine) (r : RelayPricing) : Prop :=
  ∀ snap, r.info.tieredBillingSnapshot = some snap →
    snap.estimatedQuotaAfterGroup = eng.quotaRound (r.estimatedQuotaBeforeGroup * snap.groupRatio)

/-- What a retry does not touch. -/
structure Kept (r r' : RelayPricing) : Prop where
  snapshot : r'.info.tieredBillingSnapshot = r.info.tieredBillingSnapshot
  input : r'.info.billingRequestInput = r.info.billingRequestInput
  estimate : r'.estimatedQuotaBeforeGroup = r.estimatedQuotaBeforeGroup
  preCharge : r'.relay.finalPreConsumedQuota = r.relay.finalPreConsumedQuota
  userGroup : r'.userGroup = r.userGroup
  tokenGroup : r'.tokenGroup = r.tokenGroup

theorem Kept.refl (r : RelayPricing) : Kept r r := ⟨rfl, rfl, rfl, rfl, rfl, rfl⟩

theorem Kept.trans {r'' : RelayPricing} (h : Kept r r') (h' : Kept r' r'') : Kept r r'' :=
  ⟨h'.snapshot.trans h.snapshot, h'.input.trans h.input, h'.estimate.trans h.estimate, h'.preCharge.trans h.preCharge,
    h'.userGroup.trans h.userGroup, h'.tokenGroup.trans h.tokenGroup⟩

/-- A selection keeps the request. -/
theorem kept_selectAuto (satisfied : Satisfied) (startGroupIndex : Nat) (groups : List String) (i : Nat) (r : RelayPricing) :
    Kept r (selectAuto st satisfied startGroupIndex groups i r).1 := by
  induction groups generalizing i r with
  | nil => exact Kept.refl r
  | cons autoGroup rest ih =>
    unfold selectAuto
    generalize (if startGroupIndex < i then 0 else r.retry) = priorityRetry
    simp only
    split
    · split <;> exact ⟨rfl, rfl, rfl, rfl, rfl, rfl⟩
    · have hmoved : Kept r { r with autoGroupIndex := some (i + 1), retry := 0 } := ⟨rfl, rfl, rfl, rfl, rfl, rfl⟩
      exact hmoved.trans (ih (i + 1) _)

theorem kept_cacheGet (satisfied : Satisfied) (r : RelayPricing) : Kept r (r.cacheGetRandomSatisfiedChannel st satisfied).1 := by
  unfold cacheGetRandomSatisfiedChannel
  split
  · split
    · exact Kept.refl r
    · exact kept_selectAuto st satisfied _ _ _ r
  · exact Kept.refl r

theorem getChannel_fst (a : RetryInput) (r : RelayPricing) : (r.getChannel st a).1 =
      let r' := ((r.cacheGetRandomSatisfiedChannel st a.satisfied).1.handleGroupRatio st).1
      r'.setGroupRatio (st.ratioOf r'.userGroup r'.usingGroup) := by
  unfold getChannel
  simp only
  split
  · rfl
  · rfl
  · split <;> rfl

/-- So does a retry. -/
theorem kept_getChannel (a : RetryInput) (r : RelayPricing) : Kept r (r.getChannel st a).1 := by
  rw [getChannel_fst]
  have hselected := kept_cacheGet st a.satisfied r
  exact ⟨hselected.snapshot, hselected.input, hselected.estimate, hselected.preCharge, hselected.userGroup, hselected.tokenGroup⟩

/-- The group last selected is the one that is used from now on. -/
theorem handleGroupRatio_group (r : RelayPricing) :
    (r.handleGroupRatio st).1.autoGroup.getD (r.handleGroupRatio st).1.usingGroup = (r.handleGroupRatio st).1.usingGroup := by
  unfold handleGroupRatio
  cases r.autoGroup <;> rfl

/-- A retry looks the ratio up again. -/
theorem priced_getChannel (a : RetryInput) (r : RelayPricing) : Priced st (r.getChannel st a).1 := by
  rw [getChannel_fst]
  exact ⟨by exact handleGroupRatio_group st (r.cacheGetRandomSatisfiedChannel st a.satisfied).1, rfl⟩

theorem kept_increaseRetry : Kept r r.increaseRetry := by
  unfold increaseRetry
  split <;> exact ⟨rfl, rfl, rfl, rfl, rfl, rfl⟩

variable {st} {channel : Int} {b : SuccessInput} {served billed : RelayPricing}

/-- A channel found for `auto` was answered for the group that the selection names. -/
theorem selectAuto_serves {satisfied : Satisfied} {startGroupIndex : Nat} {groups : List String} {i : Nat}
    (h : (selectAuto st satisfied startGroupIndex groups i r).2 = some channel) :
    ∃ group priority, (selectAuto st satisfied startGroupIndex groups i r).1.autoGroup = some group ∧
      satisfied group priority = .ok (some channel) := by
  induction groups generalizing i r with
  | nil => simp [selectAuto] at h
  | cons autoGroup rest ih =>
    unfold selectAuto at h ⊢
    generalize (if startGroupIndex < i then 0 else r.retry) = priorityRetry at h ⊢
    simp only at h ⊢
    split at h
    · rename_i found hfound
      have hchannel : found = channel := by
        split at h <;> simpa using h
      subst hchannel
      refine ⟨autoGroup, priorityRetry, ?_, hfound⟩
      split <;> rfl
    · exact ih h

/-- The group a retry of an `auto` request goes on with is the group its channel was answered for. -/
theorem getChannel_serves {a : RetryInput} (hauto : r.tokenGroup = "auto")
    (h : r.getChannel st a = (r', .ok channel)) : ∃ priority, a.satisfied r'.usingGroup priority = .ok (some channel) := by
  have hgroup : r'.usingGroup = ((r.cacheGetRandomSatisfiedChannel st a.satisfied).1.handleGroupRatio st).1.usingGroup := by
    have hstate := congrArg RelayPricing.usingGroup (getChannel_fst st a r)
    rw [h] at hstate
    exact hstate
  have hfound : (r.cacheGetRandomSatisfiedChannel st a.satisfied).2 = .ok (some channel) := by
    unfold getChannel at h
    simp only at h
    split at h
    · cases h
    · cases h
    · rename_i found hfound
      split at h
      · cases h
      · cases h
        exact hfound
  rw [hgroup]
  unfold cacheGetRandomSatisfiedChannel at hfound ⊢
  rw [if_pos hauto] at hfound ⊢
  split at hfound
  · cases hfound
  rename_i hgroups
  rw [if_neg hgroups]
  obtain ⟨group, priority, hselected, hanswer⟩ := selectAuto_serves (Except.ok.inj hfound)
  refine ⟨priority, ?_⟩
  simp only [handleGroupRatio, hselected, Option.getD_some]
  exact hanswer

/-- One pass of the loop: the snapshot stays, the ratio in the price data is that of the group now used. -/
theorem retryOnce_keeps {a : RetryInput} (h : r.retryOnce st a = some r') : Kept r r' ∧ Priced st r' ∧
      (r.tokenGroup = "auto" → ∃ priority channel, a.satisfied r'.usingGroup priority = .ok (some channel)) := by
  unfold retryOnce at h
  simp only at h
  generalize hnext : increaseRetry { r with relay := { r.relay with originModelName := a.originModelName } } = next at h
  have hkept : Kept r next := by
    have hnamed : Kept r { r with relay := { r.relay with originModelName := a.originModelName } } := ⟨rfl, rfl, rfl, rfl, rfl, rfl⟩
    exact hnext ▸ hnamed.trans (kept_increaseRetry)
  split at h
  · exact absurd h (by simp)
  have hchannel := kept_getChannel st a next
  have hpriced := priced_getChannel st a next
  cases hget : next.getChannel st a with
  | mk found answer =>
    rw [hget] at h hchannel hpriced
    cases answer with
    | error e => exact absurd h (by simp)
    | ok channel =>
      obtain rfl : found = r' := by simpa using h
      refine ⟨hkept.trans hchannel, hpriced, fun hauto => ?_⟩
      obtain ⟨priority, hanswer⟩ := getChannel_serves (hkept.tokenGroup.trans hauto) hget
      exact ⟨priority, channel, hanswer⟩

/-- Retries keep the request, priced for the group they end in. -/
theorem retries_keep {inputs : List RetryInput} (hr : Priced st r) (h : r.retries st inputs = some r') : Kept r r' ∧ Priced st r' ∧
      (r.tokenGroup = "auto" → ∀ last, inputs.getLast? = some last →
        ∃ priority channel, last.satisfied r'.usingGroup priority = .ok (some channel)) := by
  induction inputs generalizing r with
  | nil =>
    obtain rfl : r = r' := by simpa [retries] using h
    exact ⟨Kept.refl r, hr, fun _ last hlast => by simp at hlast⟩
  | cons a rest ih =>
    unfold retries at h
    cases hone : r.retryOnce st a with
    | none => simp [hone] at h
    | some next =>
      rw [hone] at h
      obtain ⟨hkept, hpriced, hserves⟩ := retryOnce_keeps hone
      obtain ⟨hrest, hpriced', hserves'⟩ := ih hpriced h
      refine ⟨hkept.trans hrest, hpriced', fun hauto last hlast => ?_⟩
      cases rest with
      | nil =>
        obtain rfl : next = r' := by simpa [retries] using h
        obtain rfl : a = last := by simpa using hlast
        exact hserves hauto
      | cons b rest =>
        exact hserves' (hkept.tokenGroup.trans hauto) last hlast

/-- What a pricing by an expression leaves. -/
structure Frozen (st : PricingSettings) (eng : ExprEngine) (r r' : RelayPricing) (snap : BillingSnapshot) : Prop where
  priced : Priced st r'
  estimated : Estimated eng r'
  relay : r'.relay = r.relay
  userGroup : r'.userGroup = r.userGroup
  tokenGroup : r'.tokenGroup = r.tokenGroup
  usingGroup : r'.usingGroup = r.autoGroup.getD r.usingGroup
  snapshot : r'.info.tieredBillingSnapshot = some snap
  mode : snap.billingMode = "tiered_expr"
  ratio : snap.groupRatio = st.ratioOf r'.userGroup r'.usingGroup
  preCharge : r'.quotaToPreConsume = snap.estimatedQuotaAfterGroup

/-- The snapshot of an expression is frozen. -/
theorem modelPriceHelper_tiered
    (hmode : st.billingMode r.relay.originModelName = "tiered_expr") (h : r.modelPriceHelper st cfg eng a = .ok r') :
    ∃ snap, Frozen st eng r r' snap := by
  unfold modelPriceHelper handleGroupRatio modelPriceHelperTiered at h
  simp only [hmode, if_true] at h
  generalize hratio : st.ratioOf r.userGroup (r.autoGroup.getD r.usingGroup) = ratio at h
  cases hexpr : st.billingExpr r.relay.originModelName with
  | none => simp [hexpr] at h
  | some exprStr =>
    cases hinput : a.requestInput with
    | error e => simp [hexpr, hinput] at h
    | ok requestInput =>
      simp only [hexpr, hinput] at h
      split at h
      · exact absurd h (by simp)
      obtain rfl := Except.ok.inj h
      refine ⟨_, ⟨handleGroupRatio_group st r, hratio.symm⟩, ?_, rfl, rfl, rfl, rfl, rfl, rfl, hratio.symm, rfl⟩
      rintro snap ⟨⟩
      -- a model that is free costs nothing whatever its amount
      split
      · rename_i hfree
        rw [hfree.2, mul_zero, ExprEngine.quotaRound, Rounding.roundHalfAway_zero, eng.toInt_fits 0 (by decide) (by decide)]
      · rfl

/-- A model without one is priced for the group in use. -/
theorem modelPriceHelper_plain
    (hmode : st.billingMode r.relay.originModelName ≠ "tiered_expr") (h : r.modelPriceHelper st cfg eng a = .ok r') :
    Kept r r' ∧ Priced st r' ∧ r'.usingGroup = r.autoGroup.getD r.usingGroup := by
  unfold modelPriceHelper handleGroupRatio at h
  simp only [hmode, if_false] at h
  split at h
  · exact absurd h (by simp)
  · obtain rfl := Except.ok.inj h
    exact ⟨⟨rfl, rfl, rfl, rfl, rfl, rfl⟩, ⟨handleGroupRatio_group st r, rfl⟩, rfl⟩

/-! ## The parts -/

/-- The surcharge of tools is proportional to the ratio of the price data. -/
theorem toolCalls_ratio (pd : TextPriceData) (price : ℚ) (calls : Int) :
    toolCalls cfg pd price calls = toolCalls cfg { pd with groupRatio := 1 } price calls * pd.groupRatio := by
  unfold toolCalls
  split <;> ring

/-- The surcharge is at the ratio of the request. -/
theorem surcharge_eq_part (ts : TextSetting) :
    calculateTextToolCallSurcharge cfg ts r.relay.originModelName r.info = (r.surchargePart cfg ts).value := by
  unfold ChargePart.value surchargePart calculateTextToolCallSurcharge setGroupRatio
  simp only [toolCalls_ratio r.info.priceData]
  cases r.info.responsesUsageInfo with
  | none =>
    by_cases hsearch : Text.endsWith r.relay.originModelName "search-preview" = true
    · simp only [hsearch, if_true]
      cases r.info.imageGenerationCall <;> ring
    · simp only [hsearch, Bool.false_eq_true, if_false]
      cases r.info.imageGenerationCall <;> ring
  | some used => cases r.info.imageGenerationCall <;> ring

/-- The quota is made of the part of the snapshot and the surcharge. -/
theorem textConsumeQuota_eq_parts {priced : RelayPricing} (ts : TextSetting) {snap : BillingSnapshot} (u : Usage) (now : Int)
    (hsnap : r.info.tieredBillingSnapshot = some snap) (hmode : snap.billingMode = "tiered_expr") (hestimated : Estimated eng r)
    (hpre : 0 < r.relay.finalPreConsumedQuota → r.relay.finalPreConsumedQuota =
      eng.quotaRound (priced.estimatedQuotaBeforeGroup * priced.info.priceData.groupRatio)) :
    textConsumeQuota cfg ts eng r.relay r.info (some u) now =
      composeParts eng (r.settleRun eng snap u now).isOk (priced.tokenPart r eng snap u now) (r.surchargePart cfg ts) := by
  rw [TextQuotaAux.textConsumeQuota_tiered eng r.relay now hsnap hmode, surcharge_eq_part]
  unfold tokenPart composeParts settleRun TextInfo.settleParams
  cases eng.runExprWithRequest snap.exprString _ _ now with
  | ok out => rfl
  | error e =>
    unfold BillingSnapshot.fallbackQuota
    by_cases hnone : r.relay.finalPreConsumedQuota ≤ 0
    · rw [if_pos hnone, if_pos hnone, hestimated snap hsnap, Rounding.int64_add_int64]
      rfl
    · rw [if_neg hnone, if_neg hnone, hpre (by omega), Rounding.int64_add_int64]
      rfl

/-! ## The runs -/

/-- Before its first attempt a request has a snapshot and a pre-charge by the ratio of the group of its first channel. -/
theorem start_frozen {trusted : Bool} {priced : RelayPricing}
    (hmode : st.billingMode r.relay.originModelName = "tiered_expr") (h : r.start st cfg eng a trusted = .ok priced) :
    Priced st priced ∧ Estimated eng priced ∧ priced.tokenGroup = r.tokenGroup ∧
      (∃ snap, priced.info.tieredBillingSnapshot = some snap ∧ snap.billingMode = "tiered_expr" ∧
        snap.groupRatio = st.ratioOf priced.userGroup priced.usingGroup) ∧
      (0 < priced.relay.finalPreConsumedQuota → priced.relay.finalPreConsumedQuota =
        eng.quotaRound (priced.estimatedQuotaBeforeGroup * priced.info.priceData.groupRatio)) := by
  unfold start at h
  cases hprice : r.modelPriceHelper st cfg eng a with
  | error e => simp [hprice] at h
  | ok r' =>
    obtain ⟨snap, hfrozen⟩ := modelPriceHelper_tiered hmode hprice
    simp only [hprice] at h
    obtain rfl := Except.ok.inj h
    refine ⟨⟨hfrozen.priced.group, hfrozen.priced.ratio⟩, hfrozen.estimated, hfrozen.tokenGroup,
      ⟨snap, hfrozen.snapshot, hfrozen.mode, hfrozen.ratio⟩, ?_⟩
    intro hpos
    cases trusted with
    | true => simp at hpos
    | false =>
      simp only [Bool.false_eq_true, if_false]
      rw [hfrozen.preCharge, hfrozen.estimated snap hfrozen.snapshot, hfrozen.priced.ratio, hfrozen.ratio]

/-- The snapshot is frozen again when the attempt succeeds: the request is a compacted one, and an expression bills the model it
was mapped to. -/
def Refrozen (st : PricingSettings) (b : SuccessInput) : Prop :=
  b.compact ≠ none ∧ st.billingMode b.originModelName = "tiered_expr"

/-- A request settled with the snapshot it was first priced with. -/
theorem succeed_kept (hserved : Priced st served) (hre : ¬ Refrozen st b)
    (h : served.succeed st cfg eng b = .ok billed) : Kept served billed ∧ Priced st billed ∧ billed.usingGroup = served.usingGroup := by
  unfold succeed at h
  have hnamed : Kept served { served with relay := { served.relay with originModelName := b.originModelName } } :=
    ⟨rfl, rfl, rfl, rfl, rfl, rfl⟩
  cases hcompact : b.compact with
  | none =>
    simp only [hcompact] at h
    obtain rfl := Except.ok.inj h
    exact ⟨hnamed, ⟨hserved.group, hserved.ratio⟩, rfl⟩
  | some input =>
    simp only [hcompact] at h
    have hplain : st.billingMode b.originModelName ≠ "tiered_expr" := fun hmode => hre ⟨by simp [hcompact], hmode⟩
    obtain ⟨hkept, hpriced, hgroup⟩ := modelPriceHelper_plain (by exact hplain) h
    exact ⟨hnamed.trans hkept, hpriced, hgroup.trans hserved.group⟩

/-- A request settled with a snapshot of the attempt that succeeded. -/
theorem succeed_frozen (hre : Refrozen st b) (h : served.succeed st cfg eng b = .ok billed) :
    ∃ snap, Frozen st eng { served with relay := { served.relay with originModelName := b.originModelName } } billed snap := by
  unfold succeed at h
  cases hcompact : b.compact with
  | none => exact absurd hcompact hre.1
  | some input =>
    simp only [hcompact] at h
    exact modelPriceHelper_tiered (by exact hre.2) h

end GroupPricingAux

open GroupPricingAux

/-! ## The theorem -/

/-- A request is priced by an expression, fails on some channels and succeeds on the last, which an `auto` request found in the
group it goes on with. Its quota is made of the cost of the tokens and the surcharge of the tools, and both have the ratio of the group
that served it exactly when its snapshot was frozen for that attempt (and the tokens are not charged from the pre-charge instead), or the
group it was priced for has that ratio too. -/
theorem charge_by_one_ratio_iff (st : PricingSettings) (cfg : Config) (ts : TextSetting) (eng : ExprEngine)
    (a : RelayPricing.PriceInput) (trusted : Bool) (passes : List RelayPricing.RetryInput) (b : RelayPricing.SuccessInput)
    (u : Usage) (now : Int) (r priced served billed : RelayPricing) (snap : BillingSnapshot)
    (hmode : st.billingMode r.relay.originModelName = "tiered_expr") (hstart : r.start st cfg eng a trusted = .ok priced)
    (hretries : priced.retries st passes = some served) (hsucceed : served.succeed st cfg eng b = .ok billed)
    (hsnap : billed.info.tieredBillingSnapshot = some snap) :
    (r.tokenGroup = "auto" → ∀ last, passes.getLast? = some last →
        ∃ priority channel, last.satisfied served.usingGroup priority = .ok (some channel)) ∧
      textConsumeQuota cfg ts eng billed.relay billed.info (some u) now =
        composeParts eng (billed.settleRun eng snap u now).isOk (priced.tokenPart billed eng snap u now)
          (billed.surchargePart cfg ts) ∧ ((priced.tokenPart billed eng snap u now).ratio = st.ratioOf served.userGroup served.usingGroup ∧
          (billed.surchargePart cfg ts).ratio = st.ratioOf served.userGroup served.usingGroup ↔
        (Refrozen st b ∧ ((billed.settleRun eng snap u now).isOk = true ∨ billed.relay.finalPreConsumedQuota ≤ 0)) ∨
          st.ratioOf priced.userGroup priced.usingGroup = st.ratioOf served.userGroup served.usingGroup) := by
  obtain ⟨hpriced, hestimated, htoken, ⟨snap₀, hsnap₀, hmode₀, hratio₀⟩, hpre⟩ := start_frozen hmode hstart
  obtain ⟨hkept, hserved, hserves⟩ := retries_keep hpriced hretries
  refine ⟨fun hauto => hserves (htoken.trans hauto), ?_⟩
  by_cases hre : Refrozen st b
  · obtain ⟨snap', hfrozen⟩ := succeed_frozen hre hsucceed
    obtain rfl : snap' = snap := Option.some.inj (hfrozen.snapshot.symm.trans hsnap)
    have hgroup : billed.usingGroup = served.usingGroup := hfrozen.usingGroup.trans hserved.group
    have hcharge : billed.relay.finalPreConsumedQuota = priced.relay.finalPreConsumedQuota := by
      rw [hfrozen.relay]
      exact hkept.preCharge
    refine ⟨textConsumeQuota_eq_parts ts u now hsnap hfrozen.mode hfrozen.estimated (hcharge ▸ hpre), ?_⟩
    have hsnapRatio : snap'.groupRatio = st.ratioOf served.userGroup served.usingGroup := by
      rw [hfrozen.ratio, hfrozen.userGroup, hgroup]
    have hsurcharge : (billed.surchargePart cfg ts).ratio = st.ratioOf served.userGroup served.usingGroup := by
      unfold RelayPricing.surchargePart
      rw [hfrozen.priced.ratio, hfrozen.userGroup, hgroup]
    unfold RelayPricing.tokenPart
    cases billed.settleRun eng snap' u now with
    | ok out => simp [hre, hsnapRatio, hsurcharge, Except.isOk, Except.toBool]
    | error e =>
      by_cases hnone : billed.relay.finalPreConsumedQuota ≤ 0
      · simp [hre, hnone, hsnapRatio, hsurcharge]
      · simp [hnone, hsurcharge, hpriced.ratio, Except.isOk, Except.toBool]
  · obtain ⟨hbilled, hlast, hgroup⟩ := succeed_kept hserved hre hsucceed
    have hall := hkept.trans hbilled
    obtain rfl : snap₀ = snap := Option.some.inj (hsnap₀.symm.trans (hall.snapshot.symm.trans hsnap))
    have hestimate : Estimated eng billed := by
      intro snap hsnap
      rw [hall.estimate]
      exact hestimated snap (hall.snapshot.symm.trans hsnap)
    refine ⟨textConsumeQuota_eq_parts ts u now hsnap hmode₀ hestimate (by rw [hall.preCharge]; exact hpre), ?_⟩
    have htoken : (priced.tokenPart billed eng snap₀ u now).ratio = st.ratioOf priced.userGroup priced.usingGroup := by
      unfold RelayPricing.tokenPart
      split
      · exact hratio₀
      split
      · exact hratio₀
      · exact hpriced.ratio
    have hsurcharge : (billed.surchargePart cfg ts).ratio = st.ratioOf served.userGroup served.usingGroup := by
      unfold RelayPricing.surchargePart
      rw [hlast.ratio, hbilled.userGroup, hgroup]
    rw [htoken, hsurcharge]
    simp [hre]

/-! ## A retry in a dearer group -/

namespace GroupPricingAux

/-- Two groups for `auto`: the default one with ratio 1, the other with ratio 2; one retry. -/
def twoGroups : PricingSettings where
  groupRatioMap name := if name = "default" then some 1 else if name = "vip" then some 2 else none
  groupGroupRatioMap _ := none
  autoGroups := ["default", "vip"]
  groupInUserUsableGroups _ _ := true
  retryTimes := 1
  enableFreeModelPreConsume := false
  billingMode _ := "tiered_expr"
  billingExpr _ := some "p * 5 - cr * 4"
  plainPrice _ := .error ""

/-- A thousand searches cost ten dollars. -/
def pricedSearch : TextSetting := ⟨fun tool _ => if tool = "web_search" then 10 else 0, fun _ => none⟩

/-- A request that has searched once; its first channel was selected in the default group. -/
def autoRequest : RelayPricing where
  relay := sampleInfo "wallet_only"
  info := { TextQuotaAux.discountInfo with tieredBillingSnapshot := none, billingRequestInput := none, claudeWebSearchRequests := 1 }
  estimatedQuotaBeforeGroup := 0
  quotaToPreConsume := 0
  tokenGroup := "auto"
  userGroup := "default"
  usingGroup := "auto"
  autoGroup := some "default"
  autoGroupIndex := some 0
  crossGroupRetry := false
  retry := 0
  resetNextTry := false

/-- The prompt has 1000 tokens. -/
def autoInput : RelayPricing.PriceInput := ⟨.ok ⟨[], ""⟩, 1000, 0, 0⟩

/-- On the retry only the other group has a channel. -/
def vipRetry : RelayPricing.RetryInput :=
  ⟨"m", fun group _ => if group = "vip" then .ok (some 7) else .ok none, fun _ => none⟩

/-- The attempt that succeeds does not map the model. -/
def plainSuccess : RelayPricing.SuccessInput := ⟨"gpt-4o", none⟩

end GroupPricingAux

/-- The request was priced in the default group and served by the dearer one. Its tokens are charged at 2500 with ratio 1, its
search at 5000 with ratio 2: 12500, where the ratio of the group that served it makes 15000. -/
theorem retry_mixes_two_ratios :
    ∃ priced served billed snap,
      autoRequest.start twoGroups sampleConfig TextQuotaAux.discountEngine autoInput false = .ok priced ∧
      priced.retries twoGroups [vipRetry] = some served ∧
      served.succeed twoGroups sampleConfig TextQuotaAux.discountEngine plainSuccess = .ok billed ∧
      billed.info.tieredBillingSnapshot = some snap ∧
      served.usingGroup = "vip" ∧ twoGroups.ratioOf served.userGroup served.usingGroup = 2 ∧
      priced.tokenPart billed TextQuotaAux.discountEngine snap TextQuotaAux.promptReport 0 = ⟨2500, 1⟩ ∧
      billed.surchargePart sampleConfig pricedSearch = ⟨5000, 2⟩ ∧
      textConsumeQuota sampleConfig pricedSearch TextQuotaAux.discountEngine billed.relay billed.info (some TextQuotaAux.promptReport) 0 =
        12500 := by
  refine ⟨_, _, _, _, rfl, rfl, rfl, rfl, ?_⟩
  decide +kernel

/-- The retry in the dearer group mixes two ratios; without a retry both parts have the ratio of the group that served the request. -/
theorem charge_by_one_ratio_iff_vip :
    ∃ priced served billed snap billed',
      autoRequest.start twoGroups sampleConfig TextQuotaAux.discountEngine autoInput false = .ok priced ∧
      priced.retries twoGroups [vipRetry] = some served ∧
      served.succeed twoGroups sampleConfig TextQuotaAux.discountEngine plainSuccess = .ok billed ∧
      billed.info.tieredBillingSnapshot = some snap ∧
      ¬ ((priced.tokenPart billed TextQuotaAux.discountEngine snap TextQuotaAux.promptReport 0).ratio =
          twoGroups.ratioOf served.userGroup served.usingGroup ∧
        (billed.surchargePart sampleConfig pricedSearch).ratio = twoGroups.ratioOf served.userGroup served.usingGroup) ∧
      priced.succeed twoGroups sampleConfig TextQuotaAux.discountEngine plainSuccess = .ok billed' ∧
      (priced.tokenPart billed' TextQuotaAux.discountEngine snap TextQuotaAux.promptReport 0).ratio =
          twoGroups.ratioOf priced.userGroup priced.usingGroup ∧
        (billed'.surchargePart sampleConfig pricedSearch).ratio = twoGroups.ratioOf priced.userGroup priced.usingGroup := by
  refine ⟨_, _, _, _, _, rfl, rfl, rfl, rfl, fun hone => ?_, rfl, ?_⟩
  · rcases (charge_by_one_ratio_iff twoGroups sampleConfig pricedSearch TextQuotaAux.discountEngine autoInput false [vipRetry]
      plainSuccess TextQuotaAux.promptReport 0 autoRequest _ _ _ _ rfl rfl rfl rfl rfl).2.2.1 hone with ⟨hre, -⟩ | hsame
    · exact hre.1 rfl
    · exact absurd hsame (by decide +kernel)
  · exact (charge_by_one_ratio_iff twoGroups sampleConfig pricedSearch TextQuotaAux.discountEngine autoInput false []
      plainSuccess TextQuotaAux.promptReport 0 autoRequest _ _ _ _ rfl rfl rfl rfl rfl).2.2.2 (.inr rfl)

end NewApi
