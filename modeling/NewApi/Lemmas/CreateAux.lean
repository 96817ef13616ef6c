import NewApi.Lemmas.ResetAux
import NewApi.Lemmas.SessionAux

/-!
# Helpers for the billing theorems: what the creation of a session does

A pre-charge that succeeds opens a session (`Held`): its books agree, its pre-charge stands, and the funding source and the
token are below where they stood by exactly the pre-charge. One that fails leaves everything as it was, so the second attempt
of `NewBillingSession` starts where the first did.
-/

namespace NewApi
namespace SessionAux

open Tables StoreAux ResetAux

variable {cfg : Config} {st st' : Store} {amount quota userId now : Int} {s : BillingSession} {info : RelayInfo} {f : FundingSource}
  {fault : Fault} {e : NewAPIError} {requestId : String} {p : Store × SubscriptionPreConsumeResult}

/-- An open session with its pre-charge taken and nothing else. -/
structure Held (before tokenBefore : Int) (st : Store) (s : BillingSession) : Prop where
  settled : s.settled = false
  fundingSettled : s.fundingSettled = false
  refunded : s.refunded = false
  balanced : s.Balanced
  sound : Sound s
  backed : Backed st s.funding
  cut : 0 ≤ before ∨ ∃ w, s.funding = .wallet w
  took : s.funding.Took st before s.preConsumedQuota
  tokenTook : s.relayInfo.TokenTook st tokenBefore s.preConsumedQuota

/-! ## The subscription's pre-charge -/

/-- What a subscription's pre-charge of `amount` leaves: the users and the tokens untouched, the charged row above the standing
it had by `amount` and within its total, and the record of the charge. -/
structure Precharged (cfg : Config) (st0 st st' : Store) (requestId : String) (amount now : Int)
    (res : SubscriptionPreConsumeResult) : Prop where
  users : st'.users = st.users
  tokens : st'.tokens = st.tokens
  preConsumed : res.preConsumed = amount
  row : ∃ candidate plan row, st0.subs.lookup res.userSubscriptionId = some candidate ∧
    cfg.planById candidate.planId = .ok plan ∧ st'.subs.lookup res.userSubscriptionId = some row ∧
    row.amountUsed = (maybeResetUserSubscription cfg.calendar candidate plan now).1.amountUsed + amount ∧
    (0 < row.amountTotal → row.amountUsed ≤ row.amountTotal)
  record : ∃ record, st'.records.lookup requestId = some record ∧ record.status = .consumed ∧
    record.userSubscriptionId = res.userSubscriptionId ∧ record.preConsumed = amount

/-- The candidate a pre-charge took is a row of the table, and its record is the request's. -/
theorem Precharged.of_takes {hpos : 0 < amount} {candidate : UserSubscription} {plan : SubscriptionPlan}
    (hcandidate : st.subs.lookup candidate.id = some candidate) (hplan : cfg.planById candidate.planId = .ok plan)
    (htakes : Takes requestId userId amount hpos st candidate (maybeResetUserSubscription cfg.calendar candidate plan now).1 p) :
    Precharged cfg st st p.1 requestId amount now p.2 := by
  have hreset := maybeReset_resetTo cfg.calendar candidate plan now
  refine ⟨htakes.users, htakes.tokens, htakes.preConsumed, ?_, ?_⟩
  · rw [htakes.chosen]
    refine ⟨candidate, plan, _, hcandidate, hplan, htakes.row, rfl, fun htotal => ?_⟩
    simp only [UserSubscription.charge, hreset.amountTotal] at htotal ⊢
    exact htakes.room htotal
  · refine ⟨⟨requestId, userId, candidate.id, amount, .consumed⟩, ?_, rfl, htakes.chosen.symm, rfl⟩
    rw [Table.lookup_insert htakes.records, if_pos rfl]

/-- A subscription's pre-charge that succeeds on a new request id. -/
theorem preConsumeUserSubscription_ok (hfresh : st.records.lookup requestId = none)
    (h : preConsumeUserSubscription cfg st requestId userId amount now fault = .ok p) :
    0 < amount ∧ Text.trimSpace requestId ≠ "" ∧ Precharged cfg st st p.1 requestId amount now p.2 := by
  obtain ⟨hreq, hpos, ⟨hknown, -⟩ | ⟨-, hloop⟩⟩ := preConsume_cases h
  · rw [hfresh] at hknown
    cases hknown
  have hstored := stored_activeSubs st userId now
  obtain ⟨candidate, hmem, plan, hplan, htakes⟩ := consumeFirst_takes hstored hloop
  exact ⟨hpos, hreq, .of_takes (hstored.lookup candidate hmem) hplan htakes⟩

/-! ## One attempt -/

theorem map_ok {ε α β : Type} {x : Except ε α} {g : α → β} {b : β} (h : x.map g = .ok b) : ∃ a, x = .ok a ∧ g a = b := by
  cases x with
  | error e => cases h
  | ok a =>
    cases h
    exact ⟨a, rfl, rfl⟩

variable {o : PreConsumeOutcome} {p : Store × FundingSource}

/-- The debit of the token by a session that has taken nothing from it. -/
theorem debitToken_ok {p : Store × BillingSession} (h0 : s.tokenConsumed = 0) (h : BillingSession.debitToken cfg st o s quota = .ok p) :
    p.2 = { s with tokenConsumed := max 0 quota } ∧
      p.1 = st.addToken cfg.batchUpdateEnabled s.relayInfo.tokenId (-tokenShare s.relayInfo (max 0 quota)) := by
  unfold BillingSession.debitToken at h
  split at h
  · rename_i hq
    obtain ⟨st', hst', rfl⟩ := map_ok h
    rw [max_eq_right (le_of_lt hq)]
    exact ⟨rfl, preConsumeTokenQuota_ok hst'⟩
  · cases h
    rw [max_eq_left (by omega), ← h0]
    refine ⟨rfl, ?_⟩
    rw [h0]
    simp only [tokenShare, ite_self, neg_zero, addToken_zero]

/-- The credit that takes the token's debit back, where it meets no fault. -/
theorem rollbackToken_eq (cfg : Config) (st : Store) (s : BillingSession) (h : 0 ≤ s.tokenConsumed) : s.rollbackToken cfg st none =
      st.addToken cfg.batchUpdateEnabled s.relayInfo.tokenId (tokenShare s.relayInfo s.tokenConsumed) := by
  unfold BillingSession.rollbackToken tokenShare
  by_cases hp : s.relayInfo.isPlayground = true
  · simp only [hp, Bool.true_eq_false, and_false, if_false, if_true, addToken_zero]
  by_cases hc : 0 < s.tokenConsumed
  · have hok : increaseTokenQuota cfg st s.relayInfo.tokenId s.tokenConsumed none = .ok _ := moveQuota_of_nonneg h
    simp only [hp, hc, and_self, if_true, if_false, hok, Bool.false_eq_true]
  have hzero : s.tokenConsumed = 0 := by omega
  simp only [hp, hc, false_and, if_false, Bool.false_eq_true]
  rw [hzero, addToken_zero]

/-- A pre-charge that fails, its rollback meeting no fault, leaves the tables as they were. -/
theorem preConsume_error (ho : o.rollback = none)
    (h : (BillingSession.fresh info f).preConsume cfg st o quota = (st', .error e)) : st' = st := by
  unfold BillingSession.preConsume at h
  simp only at h
  split at h
  · cases h
    rfl
  rename_i st1 s1 hdebit
  obtain ⟨hs1, hst1⟩ := debitToken_ok rfl hdebit
  simp only at hs1 hst1
  split at h
  · cases h
    have hroll := rollbackToken_eq cfg st1 s1 (by rw [hs1]; exact le_max_left 0 _)
    rw [ho, hroll, hst1, hs1]
    rw [addToken_addToken, neg_add_cancel, addToken_zero]
  · cases h

/-- Where a wallet's pre-charge of a non-negative amount leaves it. -/
theorem walletPreConsume_ok {userId : Int} (hq : 0 ≤ amount) (h : (FundingSource.wallet ⟨userId, 0⟩).preConsume cfg st o amount = .ok p) :
    p = (st.addUser cfg.batchUpdateEnabled userId (-amount), .wallet ⟨userId, amount⟩) := by
  simp only [FundingSource.preConsume] at h
  split at h
  · have h0 : amount = 0 := by omega
    cases h
    rw [h0, neg_zero, addUser_zero]
  · obtain ⟨st', hst', rfl⟩ := map_ok h
    obtain ⟨-, rfl⟩ := moveQuota_ok hst'
    simp

/-- What a pre-charge that succeeds has done: the token first, then the funding source. -/
theorem preConsume_ok (h : (BillingSession.fresh info f).preConsume cfg st o quota = (st', .ok s)) :
    ∃ trusted q st1 f', trusted = (BillingSession.fresh info f).shouldTrust cfg ∧ q = (if trusted = true then 0 else quota) ∧
      st1 = st.addToken cfg.batchUpdateEnabled info.tokenId (-tokenShare info (max 0 q)) ∧ f.preConsume cfg st1 o q = .ok (st', f') ∧
      s = BillingSession.syncRelayInfo ⟨info, f', q, max 0 q, 0, trusted, false, false, false⟩ := by
  unfold BillingSession.preConsume at h
  simp only at h
  split at h
  · cases h
  rename_i st1 s1 hdebit
  obtain ⟨hs1, hm⟩ := debitToken_ok rfl hdebit
  subst hs1
  split at h
  · cases h
  rename_i st2 f' hfund
  cases h
  exact ⟨_, _, st1, f', rfl, rfl, hm, hfund, rfl⟩

/-- An attempt that opened a session: the token gave its share, then the funding source the pre-charge. -/
theorem held_of_charges {st1 : Store} {q before : Int} {trusted : Bool}
    (hq : 0 ≤ q) (hm : MovesToken st st1 info.tokenId (-tokenShare info q)) (htokens : st'.tokens = st1.tokens) (hfunding : match f with
      | .wallet w => q = w.consumed
      | .subscription s => q = s.preConsumed ∧ 0 < s.preConsumed)
    (hcut : 0 ≤ before ∨ ∃ w, f = .wallet w) (hb : Backed st' f) (htook : f.Took st' before q) :
    Held before (st.tokenBalance info.tokenId) st' (BillingSession.syncRelayInfo ⟨info, f, q, q, 0, trusted, false, false, false⟩) := by
  have htok : info.TokenTook st' (st.tokenBalance info.tokenId) q := by
    have h0 : info.TokenTook st (st.tokenBalance info.tokenId) 0 := by simp [RelayInfo.TokenTook]
    have h1 := tokenTook_moves hm h0
    unfold RelayInfo.TokenTook Store.tokenBalance at h1 ⊢
    rwa [htokens, ← zero_add q]
  refine ⟨by simp, by simp, by simp, ⟨by simp, ?_⟩, ⟨by simpa using hq, by simp, ?_⟩, by simpa using hb,
    by simpa using hcut, by simpa using htook, ?_⟩
  · cases f with
    | wallet w => exact hfunding
    | subscription s => simpa using hfunding.1
  · cases f with
    | wallet w => trivial
    | subscription s => exact ⟨hfunding.2, sync_subscriptionId _ rfl⟩
  · simp only [sync_keeps]
    exact (tokenTook_congr (by simp) (by simp)).2 htok

/-- A pre-charge keeps its funding source. -/
theorem source_preConsume (h : f.preConsume cfg st o amount = .ok p) : p.2.source = f.source := by
  cases f with
  | wallet w =>
    simp only [FundingSource.preConsume] at h
    split at h
    · cases h
      rfl
    · obtain ⟨_, _, rfl⟩ := map_ok h
      rfl
  | subscription s =>
    obtain ⟨_, _, rfl⟩ := map_ok h
    rfl

variable {o : CreateOutcome}

/-- The attempts of `NewBillingSession`: the wallet's, on the user's quota. -/
theorem tryWallet_source (h : tryWallet cfg st info quota o = (st', .ok s)) : s.funding.source = .wallet := by
  unfold tryWallet at h
  split at h
  · cases h
  split at h
  · cases h
  split at h
  · cases h
  obtain ⟨trusted, q, st1, f, -, -, -, hfund, rfl⟩ := preConsume_ok h
  simp only [sync_keeps]
  exact source_preConsume hfund

/-- A wallet session that is not made leaves the store. -/
theorem tryWallet_error (ho : o.wallet.rollback = none) (h : tryWallet cfg st info quota o = (st', .error e)) : st' = st := by
  unfold tryWallet at h
  split at h
  · cases h
    rfl
  split at h
  · cases h
    rfl
  split at h
  · cases h
    rfl
  · exact preConsume_error ho h

/-- So does a subscription session that is not made. -/
theorem trySubscription_error
    (ho : o.subscription.rollback = none) (h : trySubscription cfg st info quota o = (st', .error e)) : st' = st :=
  preConsume_error ho h

/-- A wallet attempt that succeeds: the token gave the request's share, then the user's quota the pre-charge. -/
theorem tryWallet_charges (h : tryWallet cfg st info quota o = (st', .ok s)) (hq : 0 ≤ quota ∨ s.trusted = true) :
    ∃ read trusted q st1, (∃ userQuota, read = { info with userQuota := userQuota }) ∧ 0 ≤ q ∧
      st1 = st.addToken cfg.batchUpdateEnabled read.tokenId (-tokenShare read q) ∧
      st' = st1.addUser cfg.batchUpdateEnabled info.userId (-q) ∧
      s = BillingSession.syncRelayInfo ⟨read, .wallet ⟨info.userId, q⟩, q, q, 0, trusted, false, false, false⟩ := by
  unfold tryWallet at h
  split at h
  · cases h
  rename_i userQuota _
  split at h
  · cases h
  split at h
  · cases h
  obtain ⟨trusted, q, st1, f, -, hqe, hm, hfund, rfl⟩ := preConsume_ok h
  have hq0 : 0 ≤ q := by
    rw [hqe]
    split
    · exact le_refl 0
    · rename_i hn
      exact hq.resolve_right (by simpa using hn)
  obtain ⟨hst', rfl⟩ := Prod.mk.inj (walletPreConsume_ok hq0 hfund)
  rw [max_eq_right hq0] at hm ⊢
  exact ⟨_, trusted, q, st1, ⟨userQuota, rfl⟩, hq0, hm, hst', rfl⟩

/-- A wallet session holds what it has taken. -/
theorem tryWallet_ok (h : tryWallet cfg st info quota o = (st', .ok s)) (hq : 0 ≤ quota ∨ s.trusted = true) (now : Int) :
    Held (s.funding.standing cfg st now) (st.tokenBalance info.tokenId) st' s ∧ s.relayInfo.tokenId = info.tokenId := by
  obtain ⟨read, trusted, q, st1, ⟨userQuota, hread⟩, hq0, rfl, rfl, rfl⟩ := tryWallet_charges h hq
  have hm := movesToken_addToken cfg.batchUpdateEnabled st read.tokenId (-tokenShare read q)
  have htoken : read.tokenId = info.tokenId := by rw [hread]
  rw [← htoken]
  refine ⟨held_of_charges hq0 hm rfl rfl (.inr ⟨_, rfl⟩) trivial ?_, by simp⟩
  simp only [sync_keeps, FundingSource.Took, FundingSource.standing, userBalance_addUser, if_true]
  rfl

/-- No subscription has used less than nothing. -/
theorem standing_nonneg (cfg : Config) (st : Store) (now : Int) (s : SubscriptionFunding) :
    0 ≤ (FundingSource.subscription s).standing cfg st now := by
  simp only [FundingSource.standing]
  split
  · exact le_refl 0
  rename_i row _
  split
  · exact row.used_nonneg
  · exact UserSubscription.used_nonneg _

/-- A subscription attempt that succeeds: the token gave its share, then a subscription the pre-charge. -/
theorem trySubscription_charges (h : trySubscription cfg st info quota o = (st', .ok s)) :
    ∃ q st1 res sub, 0 < q ∧ st1 = st.addToken cfg.batchUpdateEnabled info.tokenId (-tokenShare info q) ∧
      preConsumeUserSubscription cfg st1 info.requestId info.userId q o.subscription.now o.subscription.funding = .ok (st', res) ∧
      sub.requestId = info.requestId ∧ sub.subscriptionId = res.userSubscriptionId ∧ sub.preConsumed = res.preConsumed ∧
      s = BillingSession.syncRelayInfo ⟨info, .subscription sub, q, q, 0, false, false, false, false⟩ := by
  unfold trySubscription at h
  have hpos : 0 < (if quota ≤ 0 then 1 else quota) := by
    split <;> omega
  generalize (if quota ≤ 0 then 1 else quota) = subConsume at h hpos
  obtain ⟨trusted, q, st1, f, htr, hq, hst1, hfund, rfl⟩ := preConsume_ok h
  -- the trust bypass never applies to a subscription
  have htr : trusted = false := by
    rw [htr]
    unfold BillingSession.shouldTrust
    split
    · rfl
    split
    · rfl
    · split <;> rfl
  subst htr
  subst hq
  obtain ⟨⟨st2, res⟩, hpre, hres⟩ := map_ok hfund
  obtain ⟨rfl, rfl⟩ := hres
  rw [max_eq_right hpos.le] at hst1 ⊢
  exact ⟨q, st1, res, _, hpos, hst1, hpre, rfl, rfl, rfl, rfl⟩

/-- Such an attempt on a new request id opens a session on the subscription it charged. -/
theorem trySubscription_ok (hfresh : st.records.lookup info.requestId = none) (h : trySubscription cfg st info quota o = (st', .ok s)) :
    Held (s.funding.standing cfg st o.subscription.now) (st.tokenBalance info.tokenId) st' s ∧
      s.relayInfo.tokenId = info.tokenId := by
  obtain ⟨q, st1, res, sub, hpos, hst1, hpre, hrequest, hid, hamount, rfl⟩ := trySubscription_charges h
  have hm : MovesToken st st1 info.tokenId (-tokenShare info q) := by
    rw [hst1]
    exact movesToken_addToken cfg.batchUpdateEnabled st info.tokenId (-tokenShare info q)
  obtain ⟨-, hreq, hp⟩ := preConsumeUserSubscription_ok (by rw [hm.records]; exact hfresh) hpre
  obtain ⟨candidate, plan, row, hcand, hplan, hrow, hused, htotal⟩ := hp.row
  rw [hm.subs] at hcand
  rw [← hid] at hcand hrow
  have hpreConsumed : sub.preConsumed = q := hamount.trans hp.preConsumed
  refine ⟨held_of_charges hpos.le hm hp.tokens ⟨hpreConsumed.symm, ?_⟩ (.inl ?_) ⟨?_, ?_, ⟨row, hrow, htotal⟩, ?_⟩ ⟨row, hrow, ?_⟩, by simp⟩
  · rw [hpreConsumed]
    exact hpos
  · exact standing_nonneg cfg st _ _
  · have hkey : candidate.id = sub.subscriptionId := Table.lookup_key hcand
    rw [← hkey]
    exact candidate.id_pos
  · rw [hrequest]
    exact hreq
  · obtain ⟨record, hrec, hstatus, hrecordId, hrecordAmount⟩ := hp.record
    rw [hrequest, hid, hpreConsumed]
    exact ⟨record, hrec, hstatus, hrecordId, hrecordAmount⟩
  · simp only [sync_keeps, FundingSource.standing]
    rw [hcand]
    simp only [hplan]
    rw [← hused]
    exact (max_eq_right row.used_nonneg).symm

/-! ## The attempts of `NewBillingSession` -/

/-- Where the preference lets a creation come to the wallet: with the subscriptions first, the user has none that is active, or none of
the active ones forbids it. -/
def WalletAllowed (st : Store) (info : RelayInfo) (now : Int) : Prop :=
  normalizeBillingPreference info.billingPreference = "subscription_first" →
    st.activeSubs info.userId now = [] ∨ ∀ sub ∈ st.activeSubs info.userId now, sub.allowWalletOverflow = true

/-- Everything a creation can do, its rollbacks meeting no fault: it is rejected and leaves the tables, or one of the two attempts, made
on the tables as they were, opened the session. -/
inductive Created (cfg : Config) (st : Store) (info : RelayInfo) (quota : Int) (o : CreateOutcome) :
    Store × Except NewAPIError BillingSession → Prop
  | rejected (e : NewAPIError) : Created cfg st info quota o (st, .error e)
  | wallet (st' : Store) (s : BillingSession) (hallowed : WalletAllowed st info o.now)
      (h : tryWallet cfg st info quota o = (st', .ok s)) : Created cfg st info quota o (st', .ok s)
  | subscription (st' : Store) (s : BillingSession) (h : trySubscription cfg st info quota o = (st', .ok s)) :
      Created cfg st info quota o (st', .ok s)

section Attempts

/-- A wallet session is made as it should be, where the wallet may be used. -/
theorem created_tryWallet (ho : o.wallet.rollback = none) (hallowed : WalletAllowed st info o.now) :
    Created cfg st info quota o (tryWallet cfg st info quota o) := by
  cases hwallet : tryWallet cfg st info quota o with
  | mk st' result =>
    cases result with
    | error e =>
      rw [tryWallet_error ho hwallet]
      exact .rejected e
    | ok s => exact .wallet st' s hallowed hwallet

/-- A subscription session is made as it should be. -/
theorem created_trySubscription (ho : o.subscription.rollback = none) :
    Created cfg st info quota o (trySubscription cfg st info quota o) := by
  cases hsubscription : trySubscription cfg st info quota o with
  | mk st' result =>
    cases result with
    | error e =>
      rw [trySubscription_error ho hsubscription]
      exact .rejected e
    | ok s => exact .subscription st' s hsubscription

/-- Without an active subscription the wallet may be used. -/
theorem walletAllowed_of_none (h : hasActiveUserSubscription st info.userId o.now fault = .ok false) : WalletAllowed st info o.now := by
  unfold hasActiveUserSubscription at h
  split at h
  · cases h
  split at h
  · cases h
  intro _
  have hempty := Except.ok.inj h
  exact .inl (List.isEmpty_iff.1 (by simpa using hempty))

/-- And where every active one lets it be. -/
theorem walletAllowed_of_overflow
    (h : userActiveSubscriptionsAllowWalletOverflow st info.userId o.now fault = .ok true) : WalletAllowed st info o.now := by
  unfold userActiveSubscriptionsAllowWalletOverflow at h
  split at h
  · cases h
  split at h
  · cases h
  · intro _
    exact .inr (List.all_eq_true.1 (Except.ok.inj h))

/-- Whatever the preference, a session is made as it should be. -/
theorem newBillingSession_created (hw : o.wallet.rollback = none) (hs : o.subscription.rollback = none) :
    Created cfg st info quota o (newBillingSession cfg st info quota o) := by
  -- an attempt that failed left the tables, so the next one is made on them
  have hfailed : ∀ {st1 e}, tryWallet cfg st info quota o = (st1, .error e) → st1 = st := fun h => tryWallet_error hw h
  have hfailed' : ∀ {st1 e}, trySubscription cfg st info quota o = (st1, .error e) → st1 = st := fun h => trySubscription_error hs h
  unfold newBillingSession
  split
  · exact created_trySubscription hs
  · rename_i hpref
    exact created_tryWallet hw fun hfirst => by simp [hpref] at hfirst
  · rename_i hpref
    have hallowed : WalletAllowed st info o.now := fun hfirst => by simp [hpref] at hfirst
    split
    · rename_i st1 e herr
      rw [hfailed herr]
      split
      · exact created_trySubscription hs
      · exact .rejected e
    · exact created_tryWallet hw hallowed
  · split
    · exact .rejected _
    · rename_i hnone
      exact created_tryWallet hw (walletAllowed_of_none hnone)
    · split
      · rename_i st1 e herr
        rw [hfailed' herr]
        split
        · split
          · exact .rejected _
          · rename_i hallow
            exact created_tryWallet hw (walletAllowed_of_overflow hallow)
          · exact .rejected e
        · exact .rejected e
      · exact created_trySubscription hs

end Attempts

/-- A session that `NewBillingSession` opens is held on the funding source it names, from where that stood before. -/
theorem newBillingSession_ok (hfresh : st.records.lookup info.requestId = none) (hw : o.wallet.rollback = none)
    (hs : o.subscription.rollback = none) (hq : 0 ≤ quota ∨ s.trusted = true ∨ s.funding.source = .subscription)
    (h : newBillingSession cfg st info quota o = (st', .ok s)) :
    Held (s.funding.standing cfg st o.subscription.now) (st.tokenBalance info.tokenId) st' s ∧ s.relayInfo.tokenId = info.tokenId := by
  have hcreated : Created cfg st info quota o (st', .ok s) := h ▸ newBillingSession_created hw hs
  cases hcreated with
  | wallet _ _ _ hwallet =>
    have hsource := tryWallet_source hwallet
    refine tryWallet_ok hwallet (hq.imp_right fun hq => hq.resolve_right ?_) _
    rw [hsource]
    decide
  | subscription _ _ hsubscription => exact trySubscription_ok hfresh hsubscription

/-! ## A session on a wallet -/

/-- A pre-charge that fails leaves the users' quotas alone, whatever comes of its rollback. -/
theorem users_preConsume_error {o : PreConsumeOutcome} (h : (BillingSession.fresh info f).preConsume cfg st o quota = (st', .error e)) :
    st'.users = st.users := by
  unfold BillingSession.preConsume at h
  simp only at h
  split at h
  · cases h
    rfl
  rename_i st1 s1 hdebit
  have hst1 := (debitToken_ok rfl hdebit).2
  have husers : st1.users = st.users := by
    simp only at hst1
    rw [hst1]
    exact (movesToken_addToken _ _ _ _).users
  split at h
  · cases h
    rw [← husers]
    unfold BillingSession.rollbackToken
    split
    · split
      · rename_i hok
        exact (movesToken_increase hok).users
      · rfl
    · rfl
  · cases h

theorem trySubscription_source (h : trySubscription cfg st info quota o = (st', .ok s)) : s.funding.source = .subscription := by
  obtain ⟨trusted, q, st1, f, -, -, -, hfund, rfl⟩ := preConsume_ok h
  simp only [sync_keeps]
  exact source_preConsume hfund

/-- An open session on the user's wallet, with the pre-charge taken from it. -/
structure WalletHeld (st : Store) (info : RelayInfo) (st' : Store) (s : BillingSession) : Prop where
  settled : s.settled = false
  fundingSettled : s.fundingSettled = false
  funding : ∃ consumed, s.funding = .wallet ⟨info.userId, consumed⟩
  source : s.relayInfo.billingSource = some .wallet
  userId : s.relayInfo.userId = info.userId
  took : st'.userBalance info.userId = st.userBalance info.userId - s.preConsumedQuota

/-- What a wallet session has taken from the wallet. -/
theorem tryWallet_held (h : tryWallet cfg st info quota o = (st', .ok s)) (hq : 0 ≤ quota ∨ s.trusted = true) :
    WalletHeld st info st' s := by
  obtain ⟨_, trusted, q, st1, ⟨userQuota, rfl⟩, hq0, rfl, rfl, rfl⟩ := tryWallet_charges h hq
  refine ⟨by simp, by simp, ⟨q, by simp⟩, rfl, rfl, ?_⟩
  simp only [sync_keeps, userBalance_addUser, userBalance_addToken, if_true]
  rfl

/-- The same of a session that ended up on the wallet. -/
theorem newBillingSession_wallet (h : newBillingSession cfg st info quota o = (st', .ok s)) (hw : s.funding.source = .wallet)
    (hq : 0 ≤ quota ∨ s.trusted = true) : WalletHeld st info st' s := by
  have notSubscription : ∀ {st1}, trySubscription cfg st1 info quota o = (st', .ok s) → False := by
    intro st1 h1
    have := trySubscription_source h1
    rw [hw] at this
    cases this
  unfold newBillingSession at h
  split at h
  · exact (notSubscription h).elim
  · exact tryWallet_held h hq
  · split at h
    · split at h
      · exact (notSubscription h).elim
      · cases h
    · exact tryWallet_held h hq
  · split at h
    · cases h
    · exact tryWallet_held h hq
    · split at h
      · rename_i st1 e herr
        split at h
        · split at h
          · cases h
          · have hheld := tryWallet_held h hq
            have husers := users_preConsume_error herr
            refine { hheld with took := ?_ }
            rw [hheld.took]
            simp only [Store.userBalance, husers]
          · cases h
        · cases h
      · exact (notSubscription h).elim

end SessionAux
end NewApi
