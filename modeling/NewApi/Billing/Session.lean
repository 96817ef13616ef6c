import NewApi.Billing.Store
import NewApi.Lib.Run

/-!
# The billing session

`service/billing_session.go` and `service/funding_source.go`: a session pre-charges a funding source (the user's wallet or a subscription)
and the token, may reserve more before the request is sent, and is settled on the actual quota or refunded. The outcomes of its statements
(`Fault`) and the cached reads are inputs.

Refund hands the credits to a goroutine: a job that a later step runs, and that reads the funding source then.
-/

namespace NewApi

open Tables

/-! ## Errors and the request's record -/

inductive ErrorCode where
  | invalidRequest | queryDataError | updateDataError | insufficientUserQuota | preConsumeTokenQuotaFailed
  deriving DecidableEq, Repr

/-- `types.NewAPIError`, as far as the session fills it; `recordErrorLog` is `none` where the option is not given. -/
structure NewAPIError where
  message : String
  errorCode : ErrorCode
  statusCode : Nat
  skipRetry : Bool
  recordErrorLog : Option Bool
  deriving DecidableEq, Repr

/-- `types.NewError` with `ErrOptionWithSkipRetry`. -/
def newError (message : String) (code : ErrorCode) : NewAPIError := ⟨message, code, 500, true, none⟩

/-- `types.NewErrorWithStatusCode` at 403 with `ErrOptionWithSkipRetry` and `ErrOptionWithNoRecordErrorLog`. -/
def newForbidden (message : String) (code : ErrorCode) : NewAPIError := ⟨message, code, 403, true, some false⟩

inductive BillingSource where
  | wallet | subscription
  deriving DecidableEq, Repr

/-- The fields of `RelayInfo` that billing reads and writes; `tokenQuota` is the request context's `token_quota`. -/
structure RelayInfo where
  userId : Int
  tokenId : Int
  tokenUnlimited : Bool
  tokenQuota : Int
  isPlayground : Bool
  forcePreConsume : Bool
  requestId : String
  originModelName : String
  billingPreference : String
  userQuota : Int
  finalPreConsumedQuota : Int
  billingSource : Option BillingSource
  subscriptionId : Int
  subscriptionPreConsumed : Int
  subscriptionPostDelta : Int
  subscriptionAmountTotal : Int
  subscriptionAmountUsedAfterPreConsume : Int
  subscriptionPlanId : Int
  subscriptionPlanTitle : String
  deriving DecidableEq, Repr

/-! ## Funding sources -/

structure WalletFunding where
  userId : Int
  consumed : Int
  deriving DecidableEq, Repr

structure SubscriptionFunding where
  requestId : String
  userId : Int
  modelName : String
  amount : Int
  subscriptionId : Int
  preConsumed : Int
  amountTotal : Int
  amountUsedAfter : Int
  planId : Int
  planTitle : String
  deriving DecidableEq, Repr

/-- `FundingSource`: the interface has the two implementations. -/
inductive FundingSource where
  | wallet (w : WalletFunding)
  | subscription (s : SubscriptionFunding)
  deriving DecidableEq, Repr

def FundingSource.source : FundingSource → BillingSource
  | .wallet _ => .wallet
  | .subscription _ => .subscription

/-- The reading of the token a pre-charge makes (through the cache) and the outcome of its debit. -/
structure TokenOutcome where
  read : Except String Int
  debit : Fault

/-- What the database and its caches answer to one attempt of `preConsume`. The plan is what `GetSubscriptionPlanInfoByUserSubscriptionId`
finds, the rollback the credit of the token. -/
structure PreConsumeOutcome where
  now : Int
  token : TokenOutcome
  funding : Fault
  planInfo : Option (Int × String)
  rollback : Fault

variable (cfg : Config) (st : Store)

/-- `FundingSource.PreConsume`. The subscription's ignores the argument and charges its own amount. -/
def FundingSource.preConsume (o : PreConsumeOutcome) (amount : Int) : FundingSource → Except String (Store × FundingSource)
  | .wallet w =>
    if amount ≤ 0 then .ok (st, .wallet w)
    else (decreaseUserQuota cfg st w.userId amount false o.funding).map (fun st => (st, .wallet { w with consumed := amount }))
  | .subscription s =>
    (preConsumeUserSubscription cfg st s.requestId s.userId s.amount o.now o.funding).map (fun (st, res) =>
      let plan := o.planInfo.getD (s.planId, s.planTitle)
      (st, .subscription { s with
        subscriptionId := res.userSubscriptionId, preConsumed := res.preConsumed, amountTotal := res.amountTotal,
        amountUsedAfter := res.amountUsedAfter, planId := plan.1, planTitle := plan.2 }))

/-- `FundingSource.Settle`: charge the difference, or give it back where it is negative. -/
def FundingSource.settle (delta : Int) (fault : Fault) : FundingSource → Except String Store
  | .wallet w =>
    if delta = 0 then .ok st
    else if 0 < delta then decreaseUserQuota cfg st w.userId delta false fault
    else increaseUserQuota cfg st w.userId (-delta) false fault
  | .subscription s => if delta = 0 then .ok st else postConsumeUserSubscriptionDelta st s.subscriptionId delta fault

/-- The outcomes of one attempt at a subscription's refund: the read of the record, the write of the used amount, the write of
the record. -/
structure AttemptOutcome where
  read : Fault
  delta : Fault
  save : Fault

/-- The outcomes of a refund job: the wallet's credit, the attempts at the subscription's refund by number, the credit of the
extra reserve, the token's credit. -/
structure RefundOutcome where
  wallet : Fault
  attempt : Nat → AttemptOutcome
  extra : Fault
  token : Fault

/-- `refundWithRetry`: up to `left` more attempts from attempt `i` on, ending at the first that succeeds. -/
def refundWithRetry (fn : Nat → Store → Store × Except String Unit) : Nat → Nat → Store → Store × Except String Unit
  | 0, _, st => (st, .ok ())
  | 1, i, st => fn i st
  | left + 2, i, st =>
    match fn i st with
    | (st, .ok ()) => (st, .ok ())
    | (st, .error _) => refundWithRetry fn (left + 1) (i + 1) st

def FundingSource.refund (o : RefundOutcome) : FundingSource → Store × Except String Unit
  | .wallet w =>
    if w.consumed ≤ 0 then (st, .ok ())
    else match increaseUserQuota cfg st w.userId w.consumed false o.wallet with
      | .ok st => (st, .ok ())
      | .error e => (st, .error e)
  | .subscription s =>
    if s.preConsumed ≤ 0 then (st, .ok ())
    else refundWithRetry (fun i st => refundSubscriptionPreConsume st s.requestId (o.attempt i).read (o.attempt i).delta
      (o.attempt i).save) 3 0 st

variable (info : RelayInfo)

def preConsumeTokenQuota (quota : Int) (o : TokenOutcome) : Except String Store :=
  if quota < 0 then .error negativeQuota
  else if info.isPlayground then .ok st
  else match o.read with
    | .error e => .error e
    | .ok remainQuota =>
      if info.tokenUnlimited = false ∧ remainQuota < quota then
        .error ("token quota is not enough, token remain quota: " ++ cfg.formatQuota remainQuota ++ ", need quota: " ++
          cfg.formatQuota quota)
      else decreaseTokenQuota cfg st info.tokenId quota o.debit

/-! ## The session -/

structure BillingSession where
  relayInfo : RelayInfo
  funding : FundingSource
  preConsumedQuota : Int
  tokenConsumed : Int
  extraReserved : Int
  trusted : Bool
  fundingSettled : Bool
  settled : Bool
  refunded : Bool
  deriving DecidableEq, Repr

def BillingSession.fresh (funding : FundingSource) : BillingSession :=
  ⟨info, funding, 0, 0, 0, false, false, false, false⟩

variable (s : BillingSession)

def BillingSession.syncRelayInfo : BillingSession :=
  let info := { s.relayInfo with
    finalPreConsumedQuota := s.preConsumedQuota, billingSource := some s.funding.source }
  match s.funding with
  | .subscription sub => { s with relayInfo := { info with
      subscriptionId := sub.subscriptionId
      subscriptionPreConsumed := sub.preConsumed + s.extraReserved
      subscriptionPostDelta := 0
      subscriptionAmountTotal := sub.amountTotal
      subscriptionAmountUsedAfterPreConsume := sub.amountUsedAfter + s.extraReserved
      subscriptionPlanId := sub.planId
      subscriptionPlanTitle := sub.planTitle } }
  | .wallet _ => { s with relayInfo := { info with subscriptionId := 0, subscriptionPreConsumed := 0 } }

/-- `shouldTrust`: the bypass of the pre-charge for a wallet and a token that both hold more than the trust quota. -/
def BillingSession.shouldTrust : Bool :=
  if s.relayInfo.forcePreConsume then false
  else if cfg.trustQuota ≤ 0 then false
  else if s.relayInfo.tokenUnlimited = false ∧ s.relayInfo.tokenQuota ≤ cfg.trustQuota then false
  else match s.funding.source with
    | .wallet => decide (cfg.trustQuota < s.relayInfo.userQuota)
    | .subscription => false

def fundingError (message : String) : NewAPIError :=
  if Text.contains message "no active subscription" || Text.contains message "subscription quota insufficient" then
    newForbidden ("订阅额度不足或未配置订阅: " ++ message) .insufficientUserQuota
  else newError message .updateDataError

/-- The first step of `preConsume`: debit the token, where there is something to debit. -/
def BillingSession.debitToken (o : PreConsumeOutcome) (s : BillingSession) (quota : Int) : Except String (Store × BillingSession) :=
  if 0 < quota then
    (preConsumeTokenQuota cfg st s.relayInfo quota o.token).map (fun st => (st, { s with tokenConsumed := quota }))
  else .ok (st, s)

/-- The rollback of `preConsume`: credit the token with what the failed attempt took. Its own failure is only logged. -/
def BillingSession.rollbackToken (fault : Fault) (s : BillingSession) : Store :=
  if 0 < s.tokenConsumed ∧ s.relayInfo.isPlayground = false then
    match increaseTokenQuota cfg st s.relayInfo.tokenId s.tokenConsumed fault with
    | .ok st => st
    | .error _ => st
  else st

/-- `preConsume`: the trust check, the token, then the funding source; a failure of the funding source rolls the token back. -/
def BillingSession.preConsume (o : PreConsumeOutcome) (s : BillingSession) (quota : Int) : Store × Except NewAPIError BillingSession :=
  let trusted := s.shouldTrust cfg
  let effectiveQuota := if trusted then 0 else quota
  match BillingSession.debitToken cfg st o { s with trusted := trusted } effectiveQuota with
  | .error e => (st, .error (newForbidden e .preConsumeTokenQuotaFailed))
  | .ok (st, s) =>
    match s.funding.preConsume cfg st o effectiveQuota with
    | .error e => (s.rollbackToken cfg st o.rollback, .error (fundingError e))
    | .ok (st, funding) =>
      (st, .ok (BillingSession.syncRelayInfo { s with funding := funding, preConsumedQuota := effectiveQuota }))

def BillingSession.reserveFunding (delta : Int) (fault : Fault) (s : BillingSession) : Except NewAPIError (Store × BillingSession) :=
  match s.funding with
  | .wallet w =>
    match decreaseUserQuota cfg st w.userId delta false fault with
    | .error e => .error (newError e .updateDataError)
    | .ok st => .ok (st, { s with funding := .wallet { w with consumed := w.consumed + delta } })
  | .subscription sub =>
    match postConsumeUserSubscriptionDelta st sub.subscriptionId delta fault with
    | .error e => .error (newForbidden ("订阅额度不足或未配置订阅: " ++ e) .insufficientUserQuota)
    | .ok st => .ok (st, s)

/-- `rollbackFundingReserve`; its own failure is only logged. -/
def BillingSession.rollbackFundingReserve (delta : Int) (fault : Fault) (s : BillingSession) : Store × BillingSession :=
  match s.funding with
  | .wallet w =>
    match increaseUserQuota cfg st w.userId delta false fault with
    | .error _ => (st, s)
    | .ok st => (st, { s with funding := .wallet { w with consumed := w.consumed - delta } })
  | .subscription sub =>
    match postConsumeUserSubscriptionDelta st sub.subscriptionId (-delta) fault with
    | .error _ => (st, s)
    | .ok st => (st, s)

def BillingSession.reserveToken (delta : Int) (o : TokenOutcome) (s : BillingSession) : Except NewAPIError Store :=
  if delta ≤ 0 ∨ s.relayInfo.isPlayground then .ok st
  else match preConsumeTokenQuota cfg st s.relayInfo delta o with
    | .error e => .error (newForbidden e .preConsumeTokenQuotaFailed)
    | .ok st => .ok st

/-- The outcomes of a `Reserve`: the funding source's debit, the token's reading and debit, and the funding source's credit
where the reserve is rolled back. -/
structure ReserveOutcome where
  funding : Fault
  token : TokenOutcome
  rollback : Fault

/-- `Reserve`: raise the pre-charge to the target. -/
def BillingSession.reserve (targetQuota : Int) (o : ReserveOutcome) (s : BillingSession) :
    Store × BillingSession × Except NewAPIError Unit :=
  if s.settled ∨ s.refunded ∨ s.trusted ∨ targetQuota ≤ s.preConsumedQuota then (st, s, .ok ())
  else
    let delta := targetQuota - s.preConsumedQuota
    match s.reserveFunding cfg st delta o.funding with
    | .error e => (st, s, .error e)
    | .ok (st, s) =>
      match s.reserveToken cfg st delta o.token with
      | .error e =>
        let (st, s) := s.rollbackFundingReserve cfg st delta o.rollback
        (st, s, .error e)
      | .ok st =>
        (st, BillingSession.syncRelayInfo { s with
          preConsumedQuota := s.preConsumedQuota + delta
          tokenConsumed := s.tokenConsumed + delta
          extraReserved := s.extraReserved + delta }, .ok ())

/-- The outcomes of a `Settle`: the funding source's adjustment and the token's. -/
structure SettleOutcome where
  funding : Fault
  token : Fault

/-- The token's part of `Settle`: nothing in the playground, else a debit or a credit by the sign of `delta`. -/
def BillingSession.settleToken (delta : Int) (fault : Fault) (s : BillingSession) : Store × Except String Unit :=
  if s.relayInfo.isPlayground then (st, .ok ())
  else
    match (if 0 < delta then decreaseTokenQuota cfg st s.relayInfo.tokenId delta fault
      else increaseTokenQuota cfg st s.relayInfo.tokenId (-delta) fault) with
    | .ok st => (st, .ok ())
    | .error e => (st, .error e)

/-- The log field `Settle` updates for a subscription. -/
def BillingSession.notePostDelta (delta : Int) (s : BillingSession) : BillingSession :=
  match s.funding with
  | .subscription _ => { s with relayInfo := { s.relayInfo with
      subscriptionPostDelta := s.relayInfo.subscriptionPostDelta + delta } }
  | .wallet _ => s

/-- `Settle`: charge the actual quota. The funding source is adjusted first; once it is, the session is settled even where the
token's adjustment fails. -/
def BillingSession.settle (actualQuota : Int) (o : SettleOutcome) (s : BillingSession) : Store × BillingSession × Except String Unit :=
  if s.settled then (st, s, .ok ())
  else
    let delta := actualQuota - s.preConsumedQuota
    if delta = 0 then (st, { s with settled := true }, .ok ())
    else
      match (if s.fundingSettled then .ok st else s.funding.settle cfg st delta o.funding) with
      | .error e => (st, s, .error e)
      | .ok st =>
        let s := { s with fundingSettled := true }
        let (st, tokenErr) := s.settleToken cfg st delta o.token
        (st, { s.notePostDelta delta with settled := true }, tokenErr)

/-- `needsRefundLocked`. -/
def BillingSession.needsRefund : Bool :=
  if s.settled || s.refunded || s.fundingSettled then false
  else if 0 < s.tokenConsumed then true
  else match s.funding with
    | .subscription sub => decide (0 < sub.preConsumed)
    | .wallet _ => false

/-- The values `Refund` copies for its goroutine. -/
structure RefundJob where
  tokenId : Int
  isPlayground : Bool
  tokenConsumed : Int
  extraReserved : Int
  subscriptionId : Int
  deriving DecidableEq, Repr

/-- `Refund`: mark the session and hand the credits over, once and only where there is something to give back. -/
def BillingSession.refund : BillingSession × Option RefundJob :=
  if s.settled || s.refunded || !s.needsRefund then (s, none)
  else ({ s with refunded := true },
    some ⟨s.relayInfo.tokenId, s.relayInfo.isPlayground, s.tokenConsumed, s.extraReserved, s.relayInfo.subscriptionId⟩)

/-- The store of a credit whose failure is only logged. -/
def logged : Except String Store → Store
  | .ok st' => st'
  | .error _ => st

/-- The goroutine of `Refund`: the funding source, a subscription's extra reserve, the token. -/
def RefundJob.perform (funding : FundingSource) (o : RefundOutcome) (job : RefundJob) : Store :=
  let st := (funding.refund cfg st o).1
  let st :=
    if 0 < job.extraReserved ∧ funding.source = .subscription ∧ 0 < job.subscriptionId then
      logged st (postConsumeUserSubscriptionDelta st job.subscriptionId (-job.extraReserved) o.extra)
    else st
  if 0 < job.tokenConsumed ∧ job.isPlayground = false then
    logged st (increaseTokenQuota cfg st job.tokenId job.tokenConsumed o.token)
  else st

/-! ## Creation -/

def normalizeBillingPreference (pref : String) : String :=
  let p := Text.trimSpace pref
  if p = "subscription_first" ∨ p = "wallet_first" ∨ p = "subscription_only" ∨ p = "wallet_only" then p
  else "subscription_first"

/-- What the database and its caches answer to `NewBillingSession`. -/
structure CreateOutcome where
  userQuota : Except String Int
  wallet : PreConsumeOutcome
  subscription : PreConsumeOutcome
  now : Int
  hasSub : Fault
  overflow : Fault

def tryWallet (quota : Int) (o : CreateOutcome) : Store × Except NewAPIError BillingSession :=
  match o.userQuota with
  | .error e => (st, .error (newError e .queryDataError))
  | .ok userQuota =>
    if userQuota ≤ 0 then
      (st, .error (newForbidden ("用户额度不足, 剩余额度: " ++ cfg.formatQuota userQuota) .insufficientUserQuota))
    else if userQuota - quota < 0 then
      (st, .error (newForbidden ("预扣费额度失败, 用户剩余额度: " ++ cfg.formatQuota userQuota ++ ", 需要预扣费额度: " ++
        cfg.formatQuota quota) .insufficientUserQuota))
    else
      (BillingSession.fresh { info with userQuota := userQuota } (.wallet ⟨info.userId, 0⟩)).preConsume cfg st o.wallet quota

/-- `trySubscription`: a subscription is charged at least one unit. -/
def trySubscription (quota : Int) (o : CreateOutcome) : Store × Except NewAPIError BillingSession :=
  let subConsume := if quota ≤ 0 then 1 else quota
  (BillingSession.fresh info (.subscription
    ⟨info.requestId, info.userId, info.originModelName, subConsume, 0, 0, 0, 0, 0, ""⟩)).preConsume cfg st o.subscription
      subConsume

/-- `NewBillingSession`: the user's preference decides which funding source is tried first and whether the other follows. -/
def newBillingSession (quota : Int) (o : CreateOutcome) : Store × Except NewAPIError BillingSession :=
  match normalizeBillingPreference info.billingPreference with
  | "subscription_only" => trySubscription cfg st info quota o
  | "wallet_only" => tryWallet cfg st info quota o
  | "wallet_first" =>
    match tryWallet cfg st info quota o with
    | (st, .error e) =>
      if e.errorCode = .insufficientUserQuota then trySubscription cfg st info quota o else (st, .error e)
    | created => created
  | _ =>
    match hasActiveUserSubscription st info.userId o.now o.hasSub with
    | .error e => (st, .error (newError e .queryDataError))
    | .ok false => tryWallet cfg st info quota o
    | .ok true =>
      match trySubscription cfg st info quota o with
      | (st, .error e) =>
        if e.errorCode = .insufficientUserQuota then
          match userActiveSubscriptionsAllowWalletOverflow st info.userId o.now o.overflow with
          | .error e => (st, .error (newError e .queryDataError))
          | .ok true => tryWallet cfg st info quota o
          | .ok false => (st, .error e)
        else (st, .error e)
      | created => created

/-! ## Runs of calls -/

/-- A session in use: the store, the session, the refund jobs that have not run yet, and the `Settle` calls made so far, each
with its amount and what it returned. -/
structure World where
  store : Store
  session : BillingSession
  jobs : List RefundJob
  settles : List (Int × Except String Unit)

/-- A call on the session with the outcomes of its statements, or a refund job being run. -/
inductive Call where
  | reserve (targetQuota : Int) (o : ReserveOutcome)
  | settle (actualQuota : Int) (o : SettleOutcome)
  | refund
  | runJob (o : RefundOutcome)

def World.step (w : World) : Call → World
  | .reserve t o =>
    let (st, s, _) := w.session.reserve cfg w.store t o
    { w with store := st, session := s }
  | .settle a o =>
    let (st, s, r) := w.session.settle cfg w.store a o
    { w with store := st, session := s, settles := w.settles ++ [(a, r)] }
  | .refund =>
    let (s, job) := w.session.refund
    { w with session := s, jobs := w.jobs ++ job.toList }
  | .runJob o =>
    match w.jobs with
    | [] => w
    | job :: jobs => { w with store := job.perform cfg w.store w.session.funding o, jobs := jobs }

def World.start (s : BillingSession) : World := ⟨st, s, [], []⟩

/-- The amount of the first `Settle` that succeeded. -/
def World.firstSettled (w : World) : Option Int := (w.settles.find? (fun p => p.2.isOk)).map Prod.fst

/-- What the request has taken so far: the amount of the first `Settle` that succeeded; where there is none, nothing once a
refund that took effect has run, and the pre-charge otherwise. -/
def World.taken (w : World) : Int :=
  match w.firstSettled with
  | some a => a
  | none => if w.session.refunded ∧ w.jobs = [] then 0 else w.session.preConsumedQuota

/-- The credits of a call succeed: the rollback of a reserve, the token's part of a settlement, every write of a refund. -/
def Call.creditsSucceed : Call → Prop
  | .reserve _ o => o.rollback = none
  | .settle _ o => o.token = none
  | .refund => True
  | .runJob o => o.wallet = none ∧ (∀ i, o.attempt i = ⟨none, none, none⟩) ∧ o.extra = none ∧ o.token = none

/-- A call as the callers make it: its credits succeed, and it is no `Settle` after a `Refund` that took effect. -/
def Call.Proper (w : World) (c : Call) : Prop :=
  c.creditsSucceed ∧ ∀ a o, c = .settle a o → w.session.refunded = false

/-! ## Books -/

/-- The session's books agree: the pre-charge, what it took from the token, and what the funding source accounts for. -/
structure BillingSession.Balanced (s : BillingSession) : Prop where
  token : s.preConsumedQuota = s.tokenConsumed
  funding : match s.funding with
    | .wallet w => s.preConsumedQuota = w.consumed
    | .subscription sub => s.preConsumedQuota = sub.preConsumed + s.extraReserved

/-- Where a funding source stands before a pre-charge at `now`: the user's quota, or the used amount of the subscription after
the reset that is due. -/
def FundingSource.standing (now : Int) : FundingSource → Int
  | .wallet w => st.userBalance w.userId
  | .subscription s =>
    match st.subs.lookup s.subscriptionId with
    | none => 0
    | some row =>
      match cfg.planById row.planId with
      | .error _ => row.amountUsed
      | .ok plan => (maybeResetUserSubscription cfg.calendar row plan now).1.amountUsed

/-- The funding source stands `n` below `before`: the user's quota is less by `n`, or the used amount of the subscription is
more by `n`, where a used amount never goes below 0. -/
def FundingSource.Took (before n : Int) : FundingSource → Prop
  | .wallet w => st.userBalance w.userId = before - n
  | .subscription s => ∃ row, st.subs.lookup s.subscriptionId = some row ∧ row.amountUsed = max 0 (before + n)

/-- The token stands `n` below `before`, and where it was in the playground. -/
def RelayInfo.TokenTook (before n : Int) (info : RelayInfo) : Prop :=
  st.tokenBalance info.tokenId = before - if info.isPlayground then 0 else n

/-! ## A small store, for concrete runs -/

/-- A store with a user of 900 quota, a token of 500, and a subscription of 100 with `used` used. -/
def sampleStore (used : Nat) : Store where
  users _ := ⟨900, 0⟩
  tokens _ := ⟨500, 0, 0⟩
  subs := ⟨[⟨7, 1, 1, 100, used, 0, 5000, "active", 0, 0, true, by decide, Int.natCast_nonneg used⟩], by simp⟩
  records := Table.empty

/-- A configuration with one plan that is never reset. -/
def sampleConfig : Config where
  batchUpdateEnabled := false
  quotaPerUnit := 500000
  formatQuota := toString
  calendar := Calendar.utc
  planById _ := .ok ⟨1, "basic", "never", 0⟩

/-- A request of the user with the given billing preference. -/
def sampleInfo (preference : String) : RelayInfo :=
  ⟨1, 3, false, 500, false, false, "20260101-a", "gpt-4o", preference, 0, 0, none, 0, 0, 0, 0, 0, 0, ""⟩

/-- A database that answers every statement of a pre-charge. -/
def samplePreConsume : PreConsumeOutcome := ⟨1000, ⟨.ok 500, none⟩, none, some (1, "basic"), none⟩

/-- A database that answers every statement of a creation. -/
def sampleCreate : CreateOutcome := ⟨.ok 900, samplePreConsume, samplePreConsume, 1000, none, none⟩

/-- A billing session on the user's wallet, pre-charged 10. -/
def sampleWalletCreated : Store × Except NewAPIError BillingSession :=
  newBillingSession sampleConfig (sampleStore 0) (sampleInfo "wallet_only") 10 sampleCreate

def sampleWalletSession : BillingSession :=
  ⟨{ sampleInfo "wallet_only" with userQuota := 900, finalPreConsumedQuota := 10, billingSource := some .wallet },
    .wallet ⟨1, 10⟩, 10, 10, 0, false, false, false, false⟩

theorem sampleWalletCreated_eq : sampleWalletCreated = (sampleWalletCreated.1, .ok sampleWalletSession) :=
  Prod.ext rfl (by decide +kernel)

end NewApi
