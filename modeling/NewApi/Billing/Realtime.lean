import NewApi.Billing.Session

/-!
# Billing a realtime session

`service/quota.go` and `relay/channel/openai/relay_realtime.go`. While a realtime session runs, the handler bills every turn the upstream
reports (`preConsumeUsage`): it adds the turn's usage to the session's sum and debits the turn's quota past the billing session
(`PreWssConsumeQuota`). At the end it bills what is left of the two running usages, and `PostWssConsumeQuota` settles the billing session
on the quota of the sum.

Decimals are exact rationals; counts and quotas are cut to 64 bits where the code's are. Token counts, readings of quotas and outcomes of
statements are inputs.
-/

namespace NewApi

/-! ## Ratios and usages -/

/-- The ratio settings a realtime session reads, by model or by group. -/
structure RatioSetting where
  modelRatio : String → ℚ
  completionRatio : String → ℚ
  audioRatio : String → ℚ
  audioCompletionRatio : String → ℚ
  groupRatio : String → ℚ
  groupGroupRatio : String → String → Option ℚ

/-- `dto.RealtimeUsage`, as far as billing reads it. -/
@[ext] structure RealtimeUsage where
  totalTokens : Int
  inputTokens : Int
  outputTokens : Int
  cachedTokens : Int
  inputText : Int
  inputAudio : Int
  outputText : Int
  outputAudio : Int
  deriving DecidableEq, Repr

namespace RealtimeUsage

def none : RealtimeUsage := ⟨0, 0, 0, 0, 0, 0, 0, 0⟩

/-- The sum of two counts, as an `int` holds it. -/
def plus (a b : Int) : Int := Rounding.int64 (a + b)

def add (a b : RealtimeUsage) : RealtimeUsage :=
  ⟨plus a.totalTokens b.totalTokens, plus a.inputTokens b.inputTokens, plus a.outputTokens b.outputTokens,
    plus a.cachedTokens b.cachedTokens, plus a.inputText b.inputText, plus a.inputAudio b.inputAudio, plus a.outputText b.outputText,
    plus a.outputAudio b.outputAudio⟩

def sum (us : List RealtimeUsage) : RealtimeUsage := us.foldl add none

/-- The usage with the counted tokens of an input message added. -/
def addInput (u : RealtimeUsage) (textToken audioToken : Int) : RealtimeUsage :=
  { u with
    totalTokens := plus u.totalTokens (textToken + audioToken), inputTokens := plus u.inputTokens (textToken + audioToken),
    inputText := plus u.inputText textToken, inputAudio := plus u.inputAudio audioToken }

/-- The usage with the counted tokens of an output message added. -/
def addOutput (u : RealtimeUsage) (textToken audioToken : Int) : RealtimeUsage :=
  { u with
    totalTokens := plus u.totalTokens (textToken + audioToken), outputTokens := plus u.outputTokens (textToken + audioToken),
    outputText := plus u.outputText textToken, outputAudio := plus u.outputAudio audioToken }

end RealtimeUsage

structure QuotaInfo where
  usage : RealtimeUsage
  modelName : String
  usePrice : Bool
  modelPrice : ℚ
  modelRatio : ℚ
  groupRatio : ℚ

def calculateAudioQuota (cfg : Config) (rs : RatioSetting) (info : QuotaInfo) : Int :=
  if info.usePrice then Rounding.int64 (Rounding.trunc (info.modelPrice * cfg.quotaPerUnit * info.groupRatio))
  else
    let audioRatio := rs.audioRatio info.modelName
    let ratio := info.groupRatio * info.modelRatio
    let quota := ((info.usage.inputText : ℚ) + info.usage.outputText * rs.completionRatio info.modelName +
      info.usage.inputAudio * audioRatio + info.usage.outputAudio * audioRatio * rs.audioCompletionRatio info.modelName) * ratio
    let quota := if ratio ≠ 0 ∧ quota ≤ 0 then 1 else quota
    Rounding.int64 (Rounding.roundHalfAway quota)

/-- `types.PriceData`, as far as a realtime session reads it. -/
structure PriceData where
  modelPrice : ℚ
  modelRatio : ℚ
  groupRatio : ℚ
  usePrice : Bool

/-- The request's record of a realtime session beside its billing part; `autoGroup` is the group the context chose. -/
structure RealtimeInfo where
  usePrice : Bool
  originModelName : String
  upstreamModelName : String
  userGroup : String
  usingGroup : String
  autoGroup : Option String
  priceData : PriceData

/-- The price of one turn, as `PreWssConsumeQuota` sets it up: the ratios of the origin model at the time of the turn. -/
def RealtimeInfo.turnQuotaInfo (rs : RatioSetting) (info : RealtimeInfo) (usage : RealtimeUsage) : QuotaInfo :=
  let group := info.autoGroup.getD info.usingGroup
  { usage := usage, modelName := info.originModelName, usePrice := info.usePrice, modelPrice := 0
    modelRatio := rs.modelRatio info.originModelName
    groupRatio := (rs.groupGroupRatio info.userGroup group).getD (rs.groupRatio group) }

/-- The price of the whole session, as `PostWssConsumeQuota` sets it up: the upstream model and the price data fixed at the
start. -/
def RealtimeInfo.sessionQuotaInfo (info : RealtimeInfo) (usage : RealtimeUsage) : QuotaInfo :=
  { usage := usage, modelName := info.upstreamModelName, usePrice := info.priceData.usePrice
    modelPrice := info.priceData.modelPrice, modelRatio := info.priceData.modelRatio, groupRatio := info.priceData.groupRatio }

/-! ## Billing a turn -/

/-- `PostConsumeQuota`: the funding source by its sign, then the token. A failure of the token's part comes after the funding
source was charged. The least `int` has no opposite: it is its own. -/
def postConsumeQuota (cfg : Config) (st : Store) (relay : RelayInfo) (quota : Int) (funding token : Fault) : Store × Except String Unit :=
  let funded : Except String Store :=
    if relay.billingSource = some .subscription then
      if relay.subscriptionId = 0 then .error "subscription id is missing"
      else if quota = 0 then .ok st
      else postConsumeUserSubscriptionDelta st relay.subscriptionId quota funding
    else if 0 < quota then decreaseUserQuota cfg st relay.userId quota false funding
    else increaseUserQuota cfg st relay.userId (Rounding.int64 (-quota)) false funding
  match funded with
  | .error e => (st, .error e)
  | .ok st =>
    if relay.isPlayground then (st, .ok ())
    else
      match (if 0 < quota then decreaseTokenQuota cfg st relay.tokenId quota token
        else increaseTokenQuota cfg st relay.tokenId (Rounding.int64 (-quota)) token) with
      | .error e => (st, .error e)
      | .ok st => (st, .ok ())

/-- What the database and its caches answer to the billing of one turn. The token is whether it is unlimited, and what it has left. -/
structure TurnOutcome where
  userQuota : Except String Int
  token : Except String (Bool × Int)
  fundingDebit : Fault
  tokenDebit : Fault

def preWssConsumeQuota (cfg : Config) (rs : RatioSetting) (st : Store) (relay : RelayInfo) (info : RealtimeInfo)
    (usage : RealtimeUsage) (o : TurnOutcome) : Store × Except String Unit :=
  if info.usePrice then (st, .ok ())
  else
    match o.userQuota, o.token with
    | .error e, _ => (st, .error e)
    | .ok _, .error e => (st, .error e)
    | .ok userQuota, .ok (unlimitedQuota, remainQuota) =>
      let quota := calculateAudioQuota cfg rs (info.turnQuotaInfo rs usage)
      if userQuota < quota then
        (st, .error ("user quota is not enough, user quota: " ++ cfg.formatQuota userQuota ++ ", need quota: " ++
          cfg.formatQuota quota))
      else if unlimitedQuota = false ∧ remainQuota < quota then
        (st, .error ("token quota is not enough, token remain quota: " ++ cfg.formatQuota remainQuota ++ ", need quota: " ++
          cfg.formatQuota quota))
      else postConsumeQuota cfg st relay quota o.fundingDebit o.tokenDebit

/-! ## The handler -/

/-- A turn as it was billed: its usage and the answers its billing met. -/
structure Turn where
  usage : RealtimeUsage
  outcome : TurnOutcome

/-- The state of `OpenaiRealtimeHandler`: the store, its three usages, whether a goroutine has reported an error, and the turns
billed so far. -/
structure RealtimeState where
  store : Store
  usage : RealtimeUsage
  localUsage : RealtimeUsage
  sumUsage : RealtimeUsage
  failed : Bool
  turns : List Turn

/-- The messages of a connection, with the tokens counted in them. An error ends the reading. -/
inductive RealtimeEvent where
  | clientMessage (textToken audioToken : Int)
  | serverMessage (textToken audioToken : Int)
  | responseDone (usage : RealtimeUsage) (o : TurnOutcome)
  | responseDoneWithoutUsage (textToken audioToken : Int) (o : TurnOutcome)
  | error

section Handler

variable (cfg : Config) (rs : RatioSetting) (relay : RelayInfo) (info : RealtimeInfo)

/-- `preConsumeUsage`: the turn is added to the sum, then billed. -/
def RealtimeState.preConsumeUsage (s : RealtimeState) (usage : RealtimeUsage) (o : TurnOutcome) : RealtimeState × Except String Unit :=
  let (st, r) := preWssConsumeQuota cfg rs s.store relay info usage o
  ({ s with store := st, sumUsage := s.sumUsage.add usage, turns := s.turns ++ [⟨usage, o⟩] }, r)

/-- One message. A turn whose billing fails is not cleared. -/
def RealtimeState.step (s : RealtimeState) (e : RealtimeEvent) : RealtimeState :=
  if s.failed then s
  else match e with
    | .clientMessage textToken audioToken => { s with localUsage := s.localUsage.addInput textToken audioToken }
    | .serverMessage textToken audioToken => { s with localUsage := s.localUsage.addOutput textToken audioToken }
    | .responseDone usage o =>
      let s := { s with usage := s.usage.add usage }
      match s.preConsumeUsage cfg rs relay info s.usage o with
      | (s, .error _) => { s with failed := true }
      | (s, .ok ()) => { s with usage := .none, localUsage := .none }
    | .responseDoneWithoutUsage textToken audioToken o =>
      let s := { s with localUsage := s.localUsage.addInput textToken audioToken }
      match s.preConsumeUsage cfg rs relay info s.localUsage o with
      | (s, .error _) => { s with failed := true }
      | (s, .ok ()) => { s with localUsage := .none }
    | .error => { s with failed := true }

/-- The end of the handler: what is left in the two running usages is billed, errors ignored. -/
def RealtimeState.finish (s : RealtimeState) (o o' : TurnOutcome) : RealtimeState :=
  let s := if s.usage.totalTokens ≠ 0 then (s.preConsumeUsage cfg rs relay info s.usage o).1 else s
  if s.localUsage.totalTokens ≠ 0 then (s.preConsumeUsage cfg rs relay info s.localUsage o').1 else s

def realtimeHandler (st : Store) (events : List RealtimeEvent) (o o' : TurnOutcome) : RealtimeState :=
  (Run.exec (RealtimeState.step cfg rs relay info) ⟨st, .none, .none, .none, false, []⟩ events).finish cfg rs relay info o o'

/-- The quota `PostWssConsumeQuota` settles on; `tiered` is the quota of a billing expression, for a model that has one. -/
def postWssQuota (usage : RealtimeUsage) (tiered : Option Int) : Int :=
  if usage.totalTokens = 0 then 0 else tiered.getD (calculateAudioQuota cfg rs (info.sessionQuotaInfo usage))

/-- A realtime session from its pre-charge to the end of `PostWssConsumeQuota`: the handler, then the settlement of the billing
session. The store at its end, and the turns it billed. -/
def realtimeSession (st : Store) (s : BillingSession) (events : List RealtimeEvent) (o o' : TurnOutcome)
    (tiered : Option Int) (so : SettleOutcome) : Store × List Turn :=
  let h := realtimeHandler cfg rs s.relayInfo info st events o o'
  ((s.settle cfg h.store (postWssQuota cfg rs info h.sumUsage tiered) so).1, h.turns)

end Handler

end NewApi
