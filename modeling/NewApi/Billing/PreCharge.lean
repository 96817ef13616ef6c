import NewApi.Billing.Session

/-!
# Concurrent pre-charges of a wallet and a token

The wallet's attempt of `NewBillingSession`, one statement at a time: the user's quota is read and checked, the token is read and
checked, the token is debited, the user is debited, and a debit of the user that fails gives the token its amount back. Every read
goes through a cache and answers what it likes. The statements of one request in a row are `tryWallet` (`chargeAlone_eq_tryWallet`).
-/

namespace NewApi

open Run Threads

/-! ## The two checks -/

/-- `tryWallet` goes on with this reading of the user's quota. -/
def walletCovers (userQuota quota : Int) : Bool := decide (¬ userQuota ≤ 0 ∧ ¬ userQuota - quota < 0)

/-- `PreConsumeTokenQuota` goes on with this reading of the token. -/
def tokenCovers (info : RelayInfo) (remainQuota quota : Int) : Bool :=
  !decide (info.tokenUnlimited = false ∧ remainQuota < quota)

/-! ## Statements -/

/-- A request that is pre-charged from the user's wallet. -/
structure ChargeRequest where
  info : RelayInfo
  quota : Int

/-- Where a pre-charge stands between its statements. -/
inductive ChargeState where
  | ready
  | readToken (s : BillingSession) (quota : Int)
  | debitToken (s : BillingSession) (quota : Int)
  | debitFunding (s : BillingSession) (quota : Int)
  | rollback (s : BillingSession) (message : String)
  | done (result : Except NewAPIError BillingSession)
  deriving DecidableEq

/-- What a statement meets: the answer to a read, and the fault of a write. -/
structure ChargeAnswer where
  read : Except String Int
  fault : Fault

/-- The session of a wallet's attempt whose check the reading passed, and what it is charged. -/
def walletSession (cfg : Config) (req : ChargeRequest) (userQuota : Int) : ChargeState :=
  let s := BillingSession.fresh { req.info with userQuota := userQuota } (.wallet ⟨req.info.userId, 0⟩)
  let trusted := s.shouldTrust cfg
  let effectiveQuota := if trusted then 0 else req.quota
  let s := { s with trusted := trusted }
  if 0 < effectiveQuota then .readToken s effectiveQuota else .debitFunding s effectiveQuota

def chargeStatement (cfg : Config) (req : ChargeRequest) (answer : ChargeAnswer) (st : Store) : ChargeState → Store × ChargeState
  | .ready =>
    match answer.read with
    | .error e => (st, .done (.error (newError e .queryDataError)))
    | .ok userQuota =>
      if walletCovers userQuota req.quota then (st, walletSession cfg req userQuota)
      else if userQuota ≤ 0 then
        (st, .done (.error (newForbidden ("用户额度不足, 剩余额度: " ++ cfg.formatQuota userQuota) .insufficientUserQuota)))
      else
        (st, .done (.error (newForbidden ("预扣费额度失败, 用户剩余额度: " ++ cfg.formatQuota userQuota ++ ", 需要预扣费额度: " ++
          cfg.formatQuota req.quota) .insufficientUserQuota)))
  | .readToken s quota =>
    if s.relayInfo.isPlayground then (st, .debitFunding { s with tokenConsumed := quota } quota)
    else match answer.read with
      | .error e => (st, .done (.error (newForbidden e .preConsumeTokenQuotaFailed)))
      | .ok remainQuota =>
        if tokenCovers s.relayInfo remainQuota quota then (st, .debitToken s quota)
        else
          (st, .done (.error (newForbidden ("token quota is not enough, token remain quota: " ++ cfg.formatQuota remainQuota ++
            ", need quota: " ++ cfg.formatQuota quota) .preConsumeTokenQuotaFailed)))
  | .debitToken s quota =>
    match decreaseTokenQuota cfg st s.relayInfo.tokenId quota answer.fault with
    | .error e => (st, .done (.error (newForbidden e .preConsumeTokenQuotaFailed)))
    | .ok st => (st, .debitFunding { s with tokenConsumed := quota } quota)
  | .debitFunding s quota =>
    match s.funding.preConsume cfg st ⟨0, ⟨answer.read, none⟩, answer.fault, none, none⟩ quota with
    | .error e => (st, .rollback s e)
    | .ok (st, funding) =>
      (st, .done (.ok (BillingSession.syncRelayInfo { s with funding := funding, preConsumedQuota := quota })))
  | .rollback s message => (s.rollbackToken cfg st answer.fault, .done (.error (fundingError message)))
  | .done result => (st, .done result)

/-- A turn of a pre-charge with what its statement meets, or a credit from elsewhere: a top-up, a refund. -/
inductive ChargeEvent (ι : Type) where
  | turn (caller : ι) (answer : ChargeAnswer)
  | creditUser (id quota : Int) (db : Bool) (fault : Fault)
  | creditToken (id quota : Int) (fault : Fault)

variable {ι : Type} [DecidableEq ι]

def chargeStep (cfg : Config) (requests : ι → ChargeRequest) (c : Conf Store ι ChargeState) : ChargeEvent ι → Conf Store ι ChargeState
  | .turn i answer => c.act i (chargeStatement cfg (requests i) answer)
  | .creditUser id quota db fault => { c with shared := logged c.shared (increaseUserQuota cfg c.shared id quota db fault) }
  | .creditToken id quota fault => { c with shared := logged c.shared (increaseTokenQuota cfg c.shared id quota fault) }

def chargeStart (st : Store) : Conf Store ι ChargeState := ⟨st, fun _ => .ready⟩

/-! ## One request alone -/

/-- What the statements of a request meet where the database and its caches answer `o`. -/
def CreateOutcome.answer (o : CreateOutcome) : ChargeState → ChargeAnswer
  | .ready => ⟨o.userQuota, none⟩
  | .readToken _ _ => ⟨o.wallet.token.read, none⟩
  | .debitToken _ _ => ⟨o.wallet.token.read, o.wallet.token.debit⟩
  | .debitFunding _ _ => ⟨o.wallet.token.read, o.wallet.funding⟩
  | .rollback _ _ | .done _ => ⟨o.wallet.token.read, o.wallet.rollback⟩

/-- The next `fuel` statements of a request with no other in between. -/
def chargeAlone (cfg : Config) (req : ChargeRequest) (o : CreateOutcome) : Nat → Store × ChargeState → Store × ChargeState
  | 0, p => p
  | fuel + 1, (st, s) => chargeAlone cfg req o fuel (chargeStatement cfg req (o.answer s) st s)

/-! ## The condition -/

/-- No user and no token is overdrawn. -/
def Store.NonNeg (st : Store) : Prop := (∀ id, 0 ≤ st.userBalance id) ∧ ∀ id, 0 ≤ st.tokenBalance id

/-- A debit goes through: the batch updater takes it, or the database does. -/
def goesThrough (cfg : Config) (fault : Fault) : Bool := cfg.batchUpdateEnabled || fault.isNone

/-- The check that let the pre-charge come to its debit still passes, on what the user or the token has now. -/
def StillCovered (cfg : Config) (answer : ChargeAnswer) (st : Store) : ChargeState → Prop
  | .debitToken s quota =>
    goesThrough cfg answer.fault = true → tokenCovers s.relayInfo (st.tokenBalance s.relayInfo.tokenId) quota = true
  | .debitFunding s quota =>
    0 < quota → goesThrough cfg answer.fault = true → walletCovers (st.userBalance s.relayInfo.userId) quota = true
  | _ => True

instance (cfg : Config) (answer : ChargeAnswer) (st : Store) : DecidablePred (StillCovered cfg answer st)
  | .debitToken s quota => inferInstanceAs (Decidable (goesThrough cfg answer.fault = true →
      tokenCovers s.relayInfo (st.tokenBalance s.relayInfo.tokenId) quota = true))
  | .debitFunding s quota => inferInstanceAs (Decidable (0 < quota → goesThrough cfg answer.fault = true →
      walletCovers (st.userBalance s.relayInfo.userId) quota = true))
  | .ready | .readToken _ _ | .rollback _ _ | .done _ => inferInstanceAs (Decidable True)

def StillCoveredStep (cfg : Config) (c : Conf Store ι ChargeState) : ChargeEvent ι → Prop
  | .turn i answer => StillCovered cfg answer c.shared (c.threads i)
  | .creditUser _ _ _ _ | .creditToken _ _ _ => True

instance (cfg : Config) (c : Conf Store ι ChargeState) : DecidablePred (StillCoveredStep cfg c)
  | .turn i answer => inferInstanceAs (Decidable (StillCovered cfg answer c.shared (c.threads i)))
  | .creditUser _ _ _ _ | .creditToken _ _ _ => inferInstanceAs (Decidable True)

end NewApi
