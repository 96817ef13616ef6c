import NewApi.Billing.PreCharge
import NewApi.Lemmas.StoreAux

/-!
# Pre-charges and overdrafts

The check of a pre-charge and its debit are two statements, so what was checked may be gone when it is taken. No balance goes below
zero in a run exactly when, at each debit, the check that let it through still passes.
-/

namespace NewApi

open Run Threads Tables

namespace PreChargeAux

open StoreAux

variable {cfg : Config} {req : ChargeRequest} {answer : ChargeAnswer} {st : Store}

/-! ## One request alone -/

variable (o : CreateOutcome) {w : WalletFunding}

theorem chargeAlone_done (fuel : Nat) (result : Except NewAPIError BillingSession) :
    chargeAlone cfg req o fuel (st, .done result) = (st, .done result) := by
  induction fuel with
  | zero => rfl
  | succ fuel ih => exact ih

/-- The funding source's part of `preConsume`, from the session whose token is debited. -/
def debitFunding (cfg : Config) (o : PreConsumeOutcome) (quota : Int) (st : Store) (s : BillingSession) :
    Store × Except NewAPIError BillingSession :=
  match s.funding.preConsume cfg st o quota with
  | .error e => (s.rollbackToken cfg st o.rollback, .error (fundingError e))
  | .ok (st, funding) => (st, .ok (BillingSession.syncRelayInfo { s with funding := funding, preConsumedQuota := quota }))

/-- The debit of the wallet, run alone. -/
theorem chargeAlone_debitFunding (fuel : Nat) {s : BillingSession}
    (hs : s.funding = .wallet w) (quota : Int) : chargeAlone cfg req o (fuel + 2) (st, .debitFunding s quota) =
      ((debitFunding cfg o.wallet quota st s).1, .done (debitFunding cfg o.wallet quota st s).2) := by
  -- of the outcomes a wallet reads the fault of its debit only
  have hfunding : s.funding.preConsume cfg st ⟨0, ⟨o.wallet.token.read, none⟩, o.wallet.funding, none, none⟩ quota =
      s.funding.preConsume cfg st o.wallet quota := by
    rw [hs]
    rfl
  unfold debitFunding
  rw [chargeAlone]
  simp only [chargeStatement, CreateOutcome.answer, hfunding]
  cases s.funding.preConsume cfg st o.wallet quota with
  | error e =>
    exact chargeAlone_done o fuel _
  | ok p => exact chargeAlone_done o (fuel + 1) _

/-- The token's part and the funding source's. -/
theorem chargeAlone_readToken {s : BillingSession}
    (hs : s.funding = .wallet w) {quota : Int} (hquota : 0 < quota) : chargeAlone cfg req o 4 (st, .readToken s quota) =
      match BillingSession.debitToken cfg st o.wallet s quota with
      | .error e => (st, .done (.error (newForbidden e .preConsumeTokenQuotaFailed)))
      | .ok p => ((debitFunding cfg o.wallet quota p.1 p.2).1, .done (debitFunding cfg o.wallet quota p.1 p.2).2) := by
  have hs' : ({ s with tokenConsumed := quota } : BillingSession).funding = .wallet w := hs
  rw [chargeAlone]
  unfold BillingSession.debitToken preConsumeTokenQuota
  simp only [chargeStatement, CreateOutcome.answer, if_pos hquota, if_neg (not_lt.2 hquota.le)]
  by_cases hplay : s.relayInfo.isPlayground = true
  · simp only [hplay, if_true]
    exact chargeAlone_debitFunding o 1 hs' quota
  simp only [hplay, Bool.false_eq_true, if_false]
  cases o.wallet.token.read with
  | error e => exact chargeAlone_done o 3 _
  | ok remainQuota =>
    simp only [tokenCovers, Bool.not_eq_true', decide_eq_false_iff_not, ite_not]
    split
    · exact chargeAlone_done o 3 _
    rw [chargeAlone]
    simp only [chargeStatement, CreateOutcome.answer]
    cases decreaseTokenQuota cfg st s.relayInfo.tokenId quota o.wallet.token.debit with
    | error e => exact chargeAlone_done o 2 _
    | ok st' => exact chargeAlone_debitFunding o 0 hs' quota

/-- The pre-charge is the two debits. -/
theorem preConsume_parts (o : PreConsumeOutcome) (s : BillingSession) (quota : Int) :
    s.preConsume cfg st o quota =
      match BillingSession.debitToken cfg st o { s with trusted := s.shouldTrust cfg } (if s.shouldTrust cfg then 0 else quota) with
      | .error e => (st, .error (newForbidden e .preConsumeTokenQuotaFailed))
      | .ok p => debitFunding cfg o (if s.shouldTrust cfg then 0 else quota) p.1 p.2 := by
  unfold BillingSession.preConsume debitFunding
  simp only
  cases BillingSession.debitToken cfg st o { s with trusted := s.shouldTrust cfg } (if s.shouldTrust cfg then 0 else quota) with
  | error e => rfl
  | ok p => rfl

/-- The wallet's session, from the check of the user's quota on. -/
theorem chargeAlone_walletSession (userQuota : Int) : chargeAlone cfg req o 4 (st, walletSession cfg req userQuota) =
      let created := (BillingSession.fresh { req.info with userQuota := userQuota } (.wallet ⟨req.info.userId, 0⟩)).preConsume cfg st
        o.wallet req.quota
      (created.1, .done created.2) := by
  unfold walletSession
  simp only [preConsume_parts]
  have hwallet : (BillingSession.fresh { req.info with userQuota := userQuota } (.wallet ⟨req.info.userId, 0⟩)).funding =
      .wallet ⟨req.info.userId, 0⟩ := rfl
  generalize BillingSession.fresh { req.info with userQuota := userQuota } (.wallet ⟨req.info.userId, 0⟩) = s at hwallet ⊢
  have hwallet' : ({ s with trusted := s.shouldTrust cfg } : BillingSession).funding = .wallet ⟨req.info.userId, 0⟩ := hwallet
  generalize ({ s with trusted := s.shouldTrust cfg } : BillingSession) = t at hwallet' ⊢
  generalize (if s.shouldTrust cfg then 0 else req.quota) = quota
  split
  · rename_i hquota
    rw [chargeAlone_readToken o hwallet' hquota]
    cases BillingSession.debitToken cfg st o.wallet t quota with
    | error e => rfl
    | ok p => rfl
  · rename_i hquota
    rw [chargeAlone_debitFunding o 2 hwallet' quota]
    unfold BillingSession.debitToken
    rw [if_neg hquota]

end PreChargeAux

open PreChargeAux

/-- The statements of one request in a row are the wallet's attempt of `NewBillingSession`. -/
theorem chargeAlone_eq_tryWallet {cfg : Config} {req : ChargeRequest} (o : CreateOutcome) {st : Store} :
    chargeAlone cfg req o 5 (st, .ready) =
      ((tryWallet cfg st req.info req.quota o).1, .done (tryWallet cfg st req.info req.quota o).2) := by
  rw [chargeAlone]
  unfold tryWallet
  simp only [chargeStatement, CreateOutcome.answer, walletCovers, decide_eq_true_eq]
  cases o.userQuota with
  | error e => exact chargeAlone_done o 4 _
  | ok userQuota =>
    by_cases hnone : userQuota ≤ 0
    · simp only [hnone, not_true_eq_false, false_and, if_false, if_true]
      exact chargeAlone_done o 4 _
    by_cases hless : userQuota - req.quota < 0
    · simp only [hnone, hless, not_true_eq_false, and_false, if_false, if_true]
      exact chargeAlone_done o 4 _
    · simp only [hnone, hless, not_false_eq_true, and_self, if_false, if_true]
      exact chargeAlone_walletSession o userQuota

namespace PreChargeAux

open StoreAux

variable {cfg : Config} {req : ChargeRequest} {answer : ChargeAnswer} {st : Store} {quota : Int}

/-! ## What a statement does to the balances -/

/-- A debit of a wallet leaves it not negative exactly where it is covered. -/
theorem nonNeg_addUser (h : st.NonNeg) (b : Bool) (id n : Int) : (st.addUser b id n).NonNeg ↔ 0 ≤ st.userBalance id + n := by
  constructor
  · intro hmoved
    have hid := hmoved.1 id
    rwa [userBalance_addUser, if_pos rfl] at hid
  · refine fun hid => ⟨fun k => ?_, h.2⟩
    rw [userBalance_addUser]
    by_cases hk : k = id
    · rw [if_pos hk, hk]
      exact hid
    · rw [if_neg hk, add_zero]
      exact h.1 k

/-- So for a token. -/
theorem nonNeg_addToken (h : st.NonNeg) (b : Bool) (id n : Int) : (st.addToken b id n).NonNeg ↔ 0 ≤ st.tokenBalance id + n := by
  constructor
  · intro hmoved
    have hid := hmoved.2 id
    rwa [tokenBalance_addToken, if_pos rfl] at hid
  · refine fun hid => ⟨h.1, fun k => ?_⟩
    rw [tokenBalance_addToken]
    by_cases hk : k = id
    · rw [if_pos hk, hk]
      exact hid
    · rw [if_neg hk, add_zero]
      exact h.2 k

/-- A debit of a non-negative amount goes through, or the database refuses it. -/
theorem moveQuota_goesThrough (hquota : 0 ≤ quota) (fault : Fault) (moved : Store) : moveQuota cfg.batchUpdateEnabled quota fault moved =
      if goesThrough cfg fault = true then .ok moved else .error (fault.getD "") := by
  rw [moveQuota_eq hquota]
  simp [goesThrough]

/-! ## What a pre-charge holds between its statements -/

/-- The session is charged to the wallet of its request, and its token is limited. -/
structure WalletSession (s : BillingSession) : Prop where
  funding : s.funding = .wallet ⟨s.relayInfo.userId, 0⟩
  limited : s.relayInfo.tokenUnlimited = false

/-- A token is read and debited for a positive amount only. -/
def ChargeOk : ChargeState → Prop
  | .readToken s quota | .debitToken s quota => 0 < quota ∧ WalletSession s
  | .debitFunding s _ => WalletSession s
  | .ready | .rollback _ _ | .done _ => True

theorem chargeOk_walletSession (hlimited : req.info.tokenUnlimited = false) (userQuota : Int) :
    ChargeOk (walletSession cfg req userQuota) := by
  unfold walletSession
  simp only
  generalize BillingSession.shouldTrust cfg _ = trusted
  generalize (if trusted = true then 0 else req.quota) = quota
  split
  · rename_i hquota
    exact ⟨hquota, rfl, hlimited⟩
  · exact ⟨rfl, hlimited⟩

/-- A statement keeps what a call knows. -/
theorem chargeOk_statement (hlimited : req.info.tokenUnlimited = false) {s : ChargeState} (h : ChargeOk s) :
    ChargeOk (chargeStatement cfg req answer st s).2 := by
  cases s with
  | ready =>
    simp only [chargeStatement]
    split
    · trivial
    split
    · exact chargeOk_walletSession hlimited _
    · split <;> trivial
  | readToken s quota =>
    simp only [chargeStatement]
    split
    · exact ⟨h.2.funding, h.2.limited⟩
    split
    · trivial
    split
    · exact h
    · trivial
  | debitToken s quota =>
    simp only [chargeStatement]
    split
    · trivial
    · exact ⟨h.2.funding, h.2.limited⟩
  | debitFunding s quota =>
    simp only [chargeStatement]
    split <;> trivial
  | rollback _ _ | done _ => trivial

/-! ## When a statement overdraws -/

/-- The debit of the token overdraws exactly where it is no longer covered. -/
theorem debitToken_nonNeg {s : BillingSession} (hok : ChargeOk (.debitToken s quota)) (h : st.NonNeg) :
    (chargeStatement cfg req answer st (.debitToken s quota)).1.NonNeg ↔ StillCovered cfg answer st (.debitToken s quota) := by
  obtain ⟨hquota, hs⟩ := hok
  simp only [chargeStatement, StillCovered, decreaseTokenQuota]
  rw [moveQuota_goesThrough hquota.le]
  by_cases hgoes : goesThrough cfg answer.fault = true
  · simp only [hgoes, if_true, forall_const]
    rw [nonNeg_addToken h]
    simp only [tokenCovers, hs.limited, true_and, Bool.not_eq_true', decide_eq_false_iff_not]
    omega
  · simpa [hgoes] using h

/-- So does that of the wallet. -/
theorem debitFunding_nonNeg {s : BillingSession} (hok : ChargeOk (.debitFunding s quota)) (h : st.NonNeg) :
    (chargeStatement cfg req answer st (.debitFunding s quota)).1.NonNeg ↔ StillCovered cfg answer st (.debitFunding s quota) := by
  simp only [chargeStatement, StillCovered, hok.funding, FundingSource.preConsume, decreaseUserQuota, Bool.not_false, Bool.true_and]
  by_cases hquota : quota ≤ 0
  · simpa [hquota, not_lt.2 hquota] using h
  rw [if_neg hquota, moveQuota_goesThrough (by omega)]
  by_cases hgoes : goesThrough cfg answer.fault = true
  · simp only [hgoes, if_true, forall_const, Except.map]
    rw [nonNeg_addUser h]
    simp only [walletCovers, decide_eq_true_eq]
    omega
  · simpa [hgoes, Except.map] using h

/-- A rollback overdraws nothing. -/
theorem rollbackToken_nonNeg (h : st.NonNeg) (fault : Fault) (s : BillingSession) : (s.rollbackToken cfg st fault).NonNeg := by
  unfold BillingSession.rollbackToken
  split
  · split
    · rename_i hok
      obtain ⟨-, rfl⟩ := moveQuota_ok hok
      have := h.2 s.relayInfo.tokenId
      exact (nonNeg_addToken h _ _ _).2 (by omega)
    · exact h
  · exact h

/-- A statement of a pre-charge overdraws nobody exactly when the check that led to it still passes. -/
theorem chargeStatement_nonNeg {s : ChargeState} (hok : ChargeOk s) (h : st.NonNeg) :
    (chargeStatement cfg req answer st s).1.NonNeg ↔ StillCovered cfg answer st s := by
  cases s with
  | ready =>
    have hst : (chargeStatement cfg req answer st .ready).1 = st := by
      simp only [chargeStatement]
      split
      · rfl
      split
      · rfl
      · split <;> rfl
    simpa [hst, StillCovered] using h
  | readToken s quota =>
    have hst : (chargeStatement cfg req answer st (.readToken s quota)).1 = st := by
      simp only [chargeStatement]
      split
      · rfl
      split
      · rfl
      · split <;> rfl
    simpa [hst, StillCovered] using h
  | debitToken s quota => exact debitToken_nonNeg hok h
  | debitFunding s quota => exact debitFunding_nonNeg hok h
  | rollback s message => simpa [chargeStatement, StillCovered] using rollbackToken_nonNeg h answer.fault s
  | done result => simpa [chargeStatement, StillCovered] using h

variable {ι : Type} [DecidableEq ι] {requests : ι → ChargeRequest}

theorem chargeOk_step (hlimited : ∀ i, (requests i).info.tokenUnlimited = false) (c : Conf Store ι ChargeState) (e : ChargeEvent ι)
    (h : ∀ i, ChargeOk (c.threads i)) : ∀ i, ChargeOk ((chargeStep cfg requests c e).threads i) := by
  cases e with
  | turn i answer =>
    exact (Function.forall_update_iff c.threads (p := fun _ s => ChargeOk s)).2 ⟨chargeOk_statement (hlimited i) (h i), fun j _ => h j⟩
  | creditUser _ _ _ _ | creditToken _ _ _ => exact h

/-- A step overdraws exactly where its debit is no longer covered. -/
theorem chargeStep_nonNeg (c : Conf Store ι ChargeState) (e : ChargeEvent ι)
    (hok : ∀ i, ChargeOk (c.threads i)) (h : c.shared.NonNeg) : (chargeStep cfg requests c e).shared.NonNeg ↔ StillCoveredStep cfg c e := by
  cases e with
  | turn i answer => exact chargeStatement_nonNeg (hok i) h
  | creditUser id quota db fault =>
    refine iff_of_true ?_ trivial
    simp only [chargeStep]
    cases hcredit : increaseUserQuota cfg c.shared id quota db fault with
    | error message => exact h
    | ok st' =>
      obtain ⟨hquota, rfl⟩ := moveQuota_ok hcredit
      have := h.1 id
      exact (nonNeg_addUser h _ _ _).2 (by omega)
  | creditToken id quota fault =>
    refine iff_of_true ?_ trivial
    simp only [chargeStep]
    cases hcredit : increaseTokenQuota cfg c.shared id quota fault with
    | error message => exact h
    | ok st' =>
      obtain ⟨hquota, rfl⟩ := moveQuota_ok hcredit
      have := h.2 id
      exact (nonNeg_addToken h _ _ _).2 (by omega)

end PreChargeAux

/-- For any number of requests with limited tokens that are pre-charged from wallets, in any interleaving of their reads and debits,
with any readings, refused statements and credits from elsewhere: where no balance is negative before, none is in any state reached
exactly when at every debit the check that let the request come to it still passes on what the user or the token has now. -/
theorem preConsume_overdraws_iff {ι : Type} [DecidableEq ι] (cfg : Config) (requests : ι → ChargeRequest)
    (hlimited : ∀ i, (requests i).info.tokenUnlimited = false) (st : Store) (h0 : st.NonNeg) (es : List (ChargeEvent ι)) :
    (∀ pre, pre <+: es → (exec (chargeStep cfg requests) (chargeStart st) pre).shared.NonNeg) ↔
      Along (chargeStep cfg requests) (StillCoveredStep cfg) (chargeStart st) es := by
  refine (along_iff_reached (I := fun c : Conf Store ι ChargeState => ∀ i, ChargeOk (c.threads i))
    (P := fun c => c.shared.NonNeg) ?_ ?_ ?_ h0 es).symm
  · exact fun c e h => chargeOk_step hlimited c e h
  · exact fun c e hok h => chargeStep_nonNeg c e hok h
  · exact fun _ => trivial

namespace PreChargeAux

theorem sampleStore_nonNeg : (sampleStore 0).NonNeg := by
  constructor <;> intro id
  · show (0 : Int) ≤ 900 + 0
    omega
  · show (0 : Int) ≤ 500 + 0
    omega

/-- Two requests of a user with 900, of `quota` each, on the tokens with the given ids; each token has 500. -/
def twoRequests (quota : Int) (token : Fin 2 → Int) (i : Fin 2) : ChargeRequest :=
  ⟨{ sampleInfo "wallet_only" with tokenId := token i }, quota⟩

/-- Turns of the two requests, each with what its read answers; no statement is refused. -/
def chargeTurns (turns : List (Fin 2 × Int)) : List (ChargeEvent (Fin 2)) :=
  turns.map fun turn => .turn turn.1 ⟨.ok turn.2, none⟩

/-- What the user and the tokens of the two requests have after the turns. -/
def leftAfter (quota : Int) (token : Fin 2 → Int) (turns : List (Fin 2 × Int)) : Int × List Int :=
  let st := (exec (chargeStep sampleConfig (twoRequests quota token)) (chargeStart (sampleStore 0))
    (chargeTurns turns)).shared
  (st.userBalance 1, List.ofFn fun i => st.tokenBalance (token i))

end PreChargeAux

theorem preConsume_overdraws_iff_sample :
    let run := exec (chargeStep sampleConfig (twoRequests 300 fun _ => 3)) (chargeStart (sampleStore 0))
      (chargeTurns [(0, 900), (0, 500), (0, 0), (0, 0), (1, 600), (1, 200)])
    run.shared.userBalance 1 = 600 ∧ run.shared.NonNeg := by
  refine ⟨by decide +kernel, ?_⟩
  exact (preConsume_overdraws_iff sampleConfig (twoRequests 300 fun _ => 3) (fun _ => rfl) (sampleStore 0)
    sampleStore_nonNeg _).2 (by decide +kernel) _ List.prefix_rfl

/-- Two requests of 300 both read the token's 500 before either debits it, and the token is left 100 short; two requests of 500 on
different tokens both read the user's 900, and the user is left 100 short. -/
theorem checks_overtaken :
    leftAfter 300 (fun _ => 3) [(0, 900), (1, 900), (0, 500), (1, 500), (0, 0), (1, 0), (0, 0), (1, 0)] = (300, [-100, -100]) ∧
      leftAfter 500 (fun i => 3 + i) [(0, 900), (1, 900), (0, 500), (1, 500), (0, 0), (1, 0), (0, 0), (1, 0)] = (-100, [0, 0]) := by
  refine ⟨?_, ?_⟩ <;> decide +kernel

end NewApi
