import NewApi.Billing.TextQuota

/-!
# The group ratio of a request

`relay/helper/price.go`, `service/channel_select.go` and `getChannel` of `controller/relay.go`. Before its first attempt a request is
priced: the ratio of its group goes into its price data and, where its model is billed by an expression, into a snapshot. A retry with the
token group `auto` may select a channel of another group, and `getChannel` then replaces the ratio in the price data. A compacted request
is priced again after a success.

What the group's cache answers, and the name an attempt leaves in `OriginModelName`, are inputs.
-/

namespace NewApi

/-! ## What pricing and selection read -/

/-- The settings: the ratios of the groups, the groups `auto` stands for, how often a request is tried again and how each model
is billed. -/
structure PricingSettings where
  /-- `groupRatioMap`. -/
  groupRatioMap : String → Option ℚ
  /-- `groupGroupRatioMap`: by the user's group, then by the group that is used. -/
  groupGroupRatioMap : String → Option (String → Option ℚ)
  autoGroups : List String
  /-- `GroupInUserUsableGroups`: the user's group, and the group it may use. -/
  groupInUserUsableGroups : String → String → Bool
  retryTimes : Int
  enableFreeModelPreConsume : Bool
  billingMode : String → String
  billingExpr : String → Option String
  /-- The price data of a model that no expression bills, and its pre-charge by the ratio of the group. -/
  plainPrice : String → Except String (TextPriceData × (ℚ → Int))

variable (st : PricingSettings)

def PricingSettings.getGroupGroupRatio (userGroup usingGroup : String) : Option ℚ :=
  match st.groupGroupRatioMap userGroup with
  | none => none
  | some gp => gp usingGroup

def PricingSettings.getGroupRatio (name : String) : ℚ := (st.groupRatioMap name).getD 1

/-- The ratio a user's group has for the group that is used. -/
def PricingSettings.ratioOf (userGroup usingGroup : String) : ℚ :=
  match st.getGroupGroupRatio userGroup usingGroup with
  | some ratio => ratio
  | none => st.getGroupRatio usingGroup

def PricingSettings.getUserAutoGroup (userGroup : String) : List String :=
  st.autoGroups.filter fun group => st.groupInUserUsableGroups userGroup group

/-- A request, as far as its group and its price are concerned. The token group, the retry counter and its flag are those of
`RetryParam`; `auto_group` and its index are keys of the context. -/
structure RelayPricing where
  relay : RelayInfo
  info : TextInfo
  /-- `EstimatedQuotaBeforeGroup` of the snapshot. -/
  estimatedQuotaBeforeGroup : ℚ
  /-- `QuotaToPreConsume` of the price data. -/
  quotaToPreConsume : Int
  tokenGroup : String
  userGroup : String
  usingGroup : String
  autoGroup : Option String
  autoGroupIndex : Option Nat
  crossGroupRetry : Bool
  retry : Int
  resetNextTry : Bool

namespace RelayPricing

/-! ## Pricing -/

/-- `HandleGroupRatio`: the group that is used, and its ratio. -/
def handleGroupRatio (st : PricingSettings) (r : RelayPricing) : RelayPricing × ℚ :=
  let usingGroup := r.autoGroup.getD r.usingGroup
  ({ r with usingGroup := usingGroup }, st.ratioOf r.userGroup usingGroup)

def setGroupRatio (r : RelayPricing) (ratio : ℚ) : RelayPricing :=
  { r with info := { r.info with priceData := { r.info.priceData with groupRatio := ratio } } }

/-- The price data of a request billed by an expression: nothing but the ratio of the group. -/
def tieredPriceData (groupRatio : ℚ) : TextPriceData :=
  { modelPrice := 0, modelRatio := 0, completionRatio := 0, cacheRatio := 0, cacheCreationRatio := 0, cacheCreation5mRatio := 0
    cacheCreation1hRatio := 0, imageRatio := 0, groupRatio := groupRatio, usePrice := false, otherRatios := [] }

/-- What a call of `ModelPriceHelper` is given beside the request. -/
structure PriceInput where
  requestInput : Except String RequestInput
  promptTokens : Int
  maxTokens : Int
  now : Int

def modelPriceHelperTiered (st : PricingSettings) (cfg : Config) (eng : ExprEngine) (a : PriceInput) (groupRatio : ℚ)
    (r : RelayPricing) : Except String RelayPricing :=
  match st.billingExpr r.relay.originModelName with
  | none => .error ("model " ++ r.relay.originModelName ++ " is configured as tiered_expr but has no billing expression")
  | some exprStr =>
    match a.requestInput with
    | .error e => .error e
    | .ok requestInput =>
      match eng.runExprWithRequest exprStr { p := a.promptTokens, c := a.maxTokens, len := a.promptTokens } requestInput a.now with
      | .error e => .error ("model " ++ r.relay.originModelName ++ " tiered expr run failed: " ++ e)
      | .ok (rawCost, trace) =>
        let quotaBeforeGroup := rawCost / 1000000 * cfg.quotaPerUnit
        let preConsumedQuota :=
          if ¬ st.enableFreeModelPreConsume = true ∧ groupRatio = 0 then 0
          else eng.quotaRound (quotaBeforeGroup * groupRatio)
        let snapshot : BillingSnapshot :=
          { billingMode := "tiered_expr", exprString := exprStr, groupRatio := groupRatio
            estimatedQuotaAfterGroup := preConsumedQuota, estimatedTier := trace.matchedTier, quotaPerUnit := cfg.quotaPerUnit }
        .ok { r with
          info := { r.info with
            priceData := tieredPriceData groupRatio, tieredBillingSnapshot := some snapshot
            billingRequestInput := some requestInput }
          estimatedQuotaBeforeGroup := quotaBeforeGroup
          quotaToPreConsume := preConsumedQuota }

/-- `ModelPriceHelper`. A model that no expression bills leaves the snapshot of an earlier call where it is. -/
def modelPriceHelper (st : PricingSettings) (cfg : Config) (eng : ExprEngine) (a : PriceInput) (r : RelayPricing) :
    Except String RelayPricing :=
  let (r, groupRatio) := r.handleGroupRatio st
  if st.billingMode r.relay.originModelName = "tiered_expr" then r.modelPriceHelperTiered st cfg eng a groupRatio
  else match st.plainPrice r.relay.originModelName with
    | .error e => .error e
    | .ok (priceData, preCharge) =>
      .ok { r with
        info := { r.info with priceData := { priceData with groupRatio := groupRatio } }
        quotaToPreConsume := preCharge groupRatio }

/-- The request before its first attempt: it is priced, and what it was priced at is pre-charged unless the wallet is trusted.
The first channel has been selected before. -/
def start (st : PricingSettings) (cfg : Config) (eng : ExprEngine) (a : PriceInput) (trusted : Bool) (r : RelayPricing) :
    Except String RelayPricing :=
  match r.modelPriceHelper st cfg eng a with
  | .error e => .error e
  | .ok r => .ok { r with
      relay := { r.relay with finalPreConsumedQuota := if trusted then 0 else r.quotaToPreConsume }
      retry := 0
      resetNextTry := false }

/-! ## Selecting a channel for a retry -/

/-- What `GetRandomSatisfiedChannel` answers for a group and a priority. -/
abbrev Satisfied : Type := String → Int → Except String (Option Int)

/-- The loop of `CacheGetRandomSatisfiedChannel` over the groups `auto` stands for, from the `i`-th on. An error of the cache is
a group without a channel. -/
def selectAuto (st : PricingSettings) (satisfied : Satisfied) (startGroupIndex : Nat) :
    List String → Nat → RelayPricing → RelayPricing × Option Int
  | [], _, r => (r, none)
  | autoGroup :: rest, i, r =>
    let priorityRetry := if startGroupIndex < i then 0 else r.retry
    match satisfied autoGroup priorityRetry with
    | .ok (some channel) =>
      if r.crossGroupRetry = true ∧ st.retryTimes ≤ priorityRetry then
        ({ r with autoGroup := some autoGroup, autoGroupIndex := some (i + 1), retry := 0, resetNextTry := true }, some channel)
      else ({ r with autoGroup := some autoGroup, autoGroupIndex := some i }, some channel)
    | _ => selectAuto st satisfied startGroupIndex rest (i + 1) { r with autoGroupIndex := some (i + 1), retry := 0 }

def cacheGetRandomSatisfiedChannel (st : PricingSettings) (satisfied : Satisfied) (r : RelayPricing) :
    RelayPricing × Except String (Option Int) :=
  if r.tokenGroup = "auto" then
    if st.autoGroups = [] then (r, .error "auto groups is not enabled")
    else
      let startGroupIndex := r.autoGroupIndex.getD 0
      let (r, channel) := selectAuto st satisfied startGroupIndex ((st.getUserAutoGroup r.userGroup).drop startGroupIndex)
        startGroupIndex r
      (r, .ok channel)
  else (r, satisfied r.tokenGroup r.retry)

/-- What a pass of the loop after the first is given: the name the failed attempt before it left in `OriginModelName`, the cache,
and the error of `SetupContextForSelectedChannel` for a channel. -/
structure RetryInput where
  originModelName : String
  satisfied : Satisfied
  setup : Int → Option String

/-- `getChannel` on a retry: the ratio in the price data is that of the group just selected. -/
def getChannel (st : PricingSettings) (a : RetryInput) (r : RelayPricing) : RelayPricing × Except String Int :=
  let (r, found) := r.cacheGetRandomSatisfiedChannel st a.satisfied
  let (r, groupRatio) := r.handleGroupRatio st
  let r := r.setGroupRatio groupRatio
  match found with
  | .error e => (r, .error ("获取分组 " ++ r.tokenGroup ++ " 下模型 " ++ r.relay.originModelName ++ " 的可用渠道失败（retry）: " ++ e))
  | .ok none => (r, .error ("分组 " ++ r.tokenGroup ++ " 下模型 " ++ r.relay.originModelName ++ " 的可用渠道不存在（retry）"))
  | .ok (some channel) =>
    match a.setup channel with
    | some e => (r, .error e)
    | none => (r, .ok channel)

def increaseRetry (r : RelayPricing) : RelayPricing :=
  if r.resetNextTry then { r with resetNextTry := false } else { r with retry := r.retry + 1 }

/-- The attempt before has failed, and the loop goes on to its next pass: the counter is raised and tested, and a channel is
selected. `none` is a request that ends here. -/
def retryOnce (st : PricingSettings) (a : RetryInput) (r : RelayPricing) : Option RelayPricing :=
  let r := increaseRetry { r with relay := { r.relay with originModelName := a.originModelName } }
  if st.retryTimes < r.retry then none
  else match r.getChannel st a with
    | (_, .error _) => none
    | (r, .ok _) => some r

/-- The passes of the loop after the first. -/
def retries (st : PricingSettings) : List RetryInput → RelayPricing → Option RelayPricing
  | [], r => some r
  | a :: rest, r =>
    match r.retryOnce st a with
    | none => none
    | some r => r.retries st rest

/-! ## The attempt that succeeds -/

/-- What the attempt that succeeds brings: the name `ModelMappedHelper` leaves in `OriginModelName`, and, for a compacted
request, the input of its second pricing. -/
structure SuccessInput where
  originModelName : String
  compact : Option PriceInput

/-- The request as `PostTextConsumeQuota` gets it: `ResponsesHelper` prices a compacted request again. -/
def succeed (st : PricingSettings) (cfg : Config) (eng : ExprEngine) (a : SuccessInput) (r : RelayPricing) : Except String RelayPricing :=
  let r := { r with relay := { r.relay with originModelName := a.originModelName } }
  match a.compact with
  | none => .ok r
  | some input => r.modelPriceHelper st cfg eng input

end RelayPricing

/-! ## The parts of the settled quota -/

/-- A part of a quota: an amount that is the same for every group, and the ratio it is multiplied by. -/
structure ChargePart where
  amount : ℚ
  ratio : ℚ
  deriving DecidableEq, Repr

def ChargePart.value (part : ChargePart) : ℚ := part.amount * part.ratio

/-- The counts the expression of a snapshot is run on when the request is settled. -/
def TextInfo.settleParams (info : TextInfo) (eng : ExprEngine) (snap : BillingSnapshot) (u : Usage) : TokenParams :=
  buildTieredTokenParams u (decide (info.usageSemanticFromUsage (some u) = "anthropic")) (eng.usedVars snap.exprString)

/-- The run of a snapshot's expression on the report. -/
def RelayPricing.settleRun (r : RelayPricing) (eng : ExprEngine) (snap : BillingSnapshot) (u : Usage) (now : Int) :
    Except String (ℚ × TraceResult) :=
  eng.runExprWithRequest snap.exprString (r.info.settleParams eng snap u) (r.info.billingRequestInput.getD ⟨[], ""⟩) now

/-- The cost of the tokens: what the expression says of the report with the snapshot's ratio. Where the expression does not run
it is the pre-charge, with the ratio of the request as it was priced first, or else the snapshot's estimate. -/
def RelayPricing.tokenPart (priced r : RelayPricing) (eng : ExprEngine) (snap : BillingSnapshot) (u : Usage) (now : Int) : ChargePart :=
  match r.settleRun eng snap u now with
  | .ok (cost, _) => ⟨quotaConversion cost snap, snap.groupRatio⟩
  | .error _ =>
    if r.relay.finalPreConsumedQuota ≤ 0 then ⟨r.estimatedQuotaBeforeGroup, snap.groupRatio⟩
    else ⟨priced.estimatedQuotaBeforeGroup, priced.info.priceData.groupRatio⟩

/-- The surcharge of the tools, with the ratio of the price data: the amount is the surcharge of a group with ratio 1. -/
def RelayPricing.surchargePart (r : RelayPricing) (cfg : Config) (ts : TextSetting) : ChargePart :=
  ⟨calculateTextToolCallSurcharge cfg ts r.relay.originModelName (r.setGroupRatio 1).info, r.info.priceData.groupRatio⟩

/-- The parts together: rounded once where the expression ran, each for itself where it did not. -/
def composeParts (eng : ExprEngine) (ran : Bool) (token surcharge : ChargePart) : Int :=
  if surcharge.value = 0 then eng.quotaRound token.value
  else if ran then Rounding.int64 (Rounding.roundHalfAway (token.value + surcharge.value))
  else Rounding.int64 (eng.quotaRound token.value + Rounding.int64 (Rounding.roundHalfAway surcharge.value))

end NewApi
