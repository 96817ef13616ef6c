import NewApi.Lemmas.StoreAux

/-!
# Helpers for the billing theorems: what one call of the session does

`Took` says how far a funding source stands from where it stood before, and `TokenTook` the same of the token. Each function
of the session has a lemma here in these terms. A session is `Backed` while its pre-charge stands: a subscription's row exists
and is within its total, and the record of the pre-charge has not been refunded.
-/

namespace NewApi

namespace SessionAux

open Tables StoreAux

variable {st st' : Store} {before tokenBefore n m delta : Int} {f : FundingSource} {s : BillingSession} (cfg : Config)

/-! ## What the bookkeeping of the request's record keeps -/

section Sync

variable (s : BillingSession)

/-- Telling the relay about the session changes nothing that is charged by. -/
@[simp] theorem sync_keeps : s.syncRelayInfo.funding = s.funding ∧ s.syncRelayInfo.preConsumedQuota = s.preConsumedQuota ∧
    s.syncRelayInfo.tokenConsumed = s.tokenConsumed ∧ s.syncRelayInfo.extraReserved = s.extraReserved ∧
    s.syncRelayInfo.trusted = s.trusted ∧ s.syncRelayInfo.settled = s.settled ∧ s.syncRelayInfo.fundingSettled = s.fundingSettled ∧
    s.syncRelayInfo.refunded = s.refunded ∧ s.syncRelayInfo.relayInfo.tokenId = s.relayInfo.tokenId ∧
    s.syncRelayInfo.relayInfo.isPlayground = s.relayInfo.isPlayground := by
  unfold BillingSession.syncRelayInfo
  split <;> simp

theorem sync_subscriptionId {f : SubscriptionFunding} (h : s.funding = .subscription f) :
    s.syncRelayInfo.relayInfo.subscriptionId = f.subscriptionId := by
  simp [BillingSession.syncRelayInfo, h]

/-- The token is read through its id and the playground flag alone. -/
theorem tokenTook_congr {st : Store} {before n : Int} {info info' : RelayInfo} (hid : info'.tokenId = info.tokenId)
    (hp : info'.isPlayground = info.isPlayground) : info'.TokenTook st before n ↔ info.TokenTook st before n := by
  simp only [RelayInfo.TokenTook, hid, hp]

end Sync

/-! ## Charges, seen from before -/

/-- A charge moves the distance from before by its amount, unless a subscription's was cut off. -/
theorem took_charges (h : f.Took st before n)
    (hcut : 0 ≤ before + n ∨ ∃ w, f = .wallet w) (hc : Charges st st' f m) : f.Took st' before (n + m) := by
  have hs := hc.source
  cases f with
  | wallet w =>
    simp only [FundingSource.Took] at h hs ⊢
    omega
  | subscription s =>
    obtain ⟨row, hrow, hu⟩ := h
    obtain ⟨row0, row', hrow0, hrow', hu', -, -⟩ := hs
    rw [hrow] at hrow0
    cases hrow0
    refine ⟨row', hrow', ?_⟩
    rcases hcut with hcut | ⟨w, hw⟩
    · omega
    · cases hw

/-- What was taken is read off the users and subscriptions. -/
theorem took_of_subs (hu : st'.users = st.users) (hs : st'.subs = st.subs) (h : f.Took st before n) : f.Took st' before n := by
  cases f with
  | wallet w =>
    simp only [FundingSource.Took, Store.userBalance, hu] at h ⊢
    exact h
  | subscription s =>
    simp only [FundingSource.Took, hs] at h ⊢
    exact h

/-- Moving a token changes nothing that was taken. -/
theorem took_movesToken {id : Int} (hm : MovesToken st st' id m) (h : f.Took st before n) : f.Took st' before n :=
  took_of_subs hm.users hm.subs h

/-- A charge changes nothing of the token. -/
theorem tokenTook_charges {info : RelayInfo} (hc : Charges st st' f m) (h : info.TokenTook st before n) : info.TokenTook st' before n := by
  simp only [RelayInfo.TokenTook, Store.tokenBalance, hc.tokens] at h ⊢
  exact h

/-- The request's share of a further charge moves the token by it. -/
theorem tokenTook_moves {info : RelayInfo} (hm : MovesToken st st' info.tokenId (-tokenShare info m)) (h : info.TokenTook st before n) :
    info.TokenTook st' before (n + m) := by
  have ht := hm.token
  unfold RelayInfo.TokenTook at h ⊢
  unfold tokenShare at ht
  by_cases hp : info.isPlayground = true
  · simp only [hp, if_true, neg_zero] at h ht ⊢
    omega
  · rw [if_neg hp] at h ht ⊢
    omega

/-! ## The bookkeeping of the funding source -/

/-- The funding source with its own account of the pre-charge raised by `n`: a wallet's `consumed`; a subscription's extra
reserve is kept by the session. -/
def bump (n : Int) : FundingSource → FundingSource
  | .wallet w => .wallet { w with consumed := w.consumed + n }
  | .subscription s => .subscription s

/-- A charge is the same for a source that has consumed more. -/
theorem charges_bump (h : Charges st st' f m) : Charges st st' (bump n f) m := by
  cases f with
  | wallet w => exact ⟨h.tokens, h.records, h.source⟩
  | subscription s => exact h

/-- What was taken is the same too. -/
theorem took_bump : (bump m f).Took st before n ↔ f.Took st before n := by
  cases f <;> rfl

theorem bump_bump : bump (-n) (bump n f) = f := by
  cases f with
  | wallet w => simp [bump]
  | subscription s => rfl

/-- The pre-charge of a funding source stands. -/
def Backed (st : Store) : FundingSource → Prop
  | .wallet _ => True
  | .subscription s => 0 < s.subscriptionId ∧ Text.trimSpace s.requestId ≠ "" ∧
      (∃ row, st.subs.lookup s.subscriptionId = some row ∧ (0 < row.amountTotal → row.amountUsed ≤ row.amountTotal)) ∧
      ∃ record, st.records.lookup s.requestId = some record ∧ record.status = .consumed ∧
        record.userSubscriptionId = s.subscriptionId ∧ record.preConsumed = s.preConsumed

/-- And whether the source is in the store. -/
theorem backed_bump : Backed st (bump n f) ↔ Backed st f := by
  cases f <;> rfl

/-- A charge leaves the source in the store. -/
theorem Charges.backed (hc : Charges st st' f n) (h : Backed st f) : Backed st' f := by
  cases f with
  | wallet w => trivial
  | subscription s =>
    obtain ⟨hid, hreq, -, hrec⟩ := h
    obtain ⟨row, row', -, hrow', -, ht, hb⟩ := hc.source
    refine ⟨hid, hreq, ⟨row', hrow', fun hpos => ?_⟩, ?_⟩
    · rw [ht] at hpos ⊢
      exact hb hpos
    · rwa [hc.records]

/-- So does moving a token. -/
theorem MovesToken.backed {id : Int} (hm : MovesToken st st' id n) (h : Backed st f) : Backed st' f := by
  cases f with
  | wallet w => trivial
  | subscription s =>
    simp only [Backed, hm.subs, hm.records] at h ⊢
    exact h

/-- Doing nothing charges nothing. -/
theorem Backed.charges_zero (h : Backed st f) : Charges st st f 0 := by
  cases f with
  | wallet w => exact ⟨rfl, rfl, by simp⟩
  | subscription s =>
    obtain ⟨-, -, ⟨row, hrow, ht⟩, -⟩ := h
    have := row.used_nonneg
    exact ⟨rfl, rfl, row, row, hrow, hrow, by omega, rfl, ht⟩

/-! ## Reserve -/

/-- A reservation that goes through charges its amount and notes it. -/
theorem reserveFunding_ok {cfg : Config} {fault : Fault}
    {p : Store × BillingSession} (hd : 0 < delta) (h : s.reserveFunding cfg st delta fault = .ok p) :
    Charges st p.1 s.funding delta ∧ p.2 = { s with funding := bump delta s.funding } := by
  unfold BillingSession.reserveFunding at h
  split at h
  · rename_i w hw
    split at h
    · cases h
    rename_i st' hst'
    cases h
    simp only [hw, bump]
    exact ⟨charges_decreaseUserQuota hst', trivial⟩
  · rename_i sub hsub
    split at h
    · cases h
    rename_i st' hst'
    cases h
    simp only [hsub, bump]
    refine ⟨charges_postConsume (by omega) hst', ?_⟩
    cases s
    simp_all

/-- The rollback of that debit, where its credit meets no fault, gives it back whole. -/
theorem rollbackFundingReserve_ok (s : BillingSession) (hd : 0 < delta) (hb : Backed st s.funding) :
    ∃ st', s.rollbackFundingReserve cfg st delta none = (st', { s with funding := bump (-delta) s.funding }) ∧
      Charges st st' s.funding (-delta) := by
  unfold BillingSession.rollbackFundingReserve
  cases hf : s.funding with
  | wallet w =>
    have hok : increaseUserQuota cfg st w.userId delta false none = .ok _ := moveQuota_of_nonneg (by omega)
    refine ⟨_, ?_, charges_increaseUserQuota hok⟩
    simp only [hok, bump, ← sub_eq_add_neg]
  | subscription sub =>
    rw [hf] at hb
    obtain ⟨hid, -, ⟨row, hrow, ht⟩, -⟩ := hb
    obtain ⟨st', hok⟩ := postConsume_credit hid (by omega : 0 ≤ delta) hrow ht
    refine ⟨st', ?_, charges_postConsume (by omega) hok⟩
    simp only [hok, bump]
    cases s
    simp_all

/-- A reserve's debit of the token takes the request's share. -/
theorem reserveToken_ok {cfg : Config} {o : TokenOutcome} (hd : 0 < delta) (h : s.reserveToken cfg st delta o = .ok st') :
    MovesToken st st' s.relayInfo.tokenId (-tokenShare s.relayInfo delta) := by
  unfold BillingSession.reserveToken at h
  split at h
  · rename_i hp
    cases h
    have hp : s.relayInfo.isPlayground = true := hp.resolve_left (by omega)
    simp only [tokenShare, hp, if_true]
    exact MovesToken.refl st _
  · split at h
    · cases h
    rename_i hst'
    cases h
    rw [preConsumeTokenQuota_ok hst']
    exact movesToken_addToken _ st _ _

/-- The session after a reserve of `delta`. -/
def BillingSession.reserved (s : BillingSession) (delta : Int) : BillingSession :=
  BillingSession.syncRelayInfo { s with
    funding := bump delta s.funding
    preConsumedQuota := s.preConsumedQuota + delta
    tokenConsumed := s.tokenConsumed + delta
    extraReserved := s.extraReserved + delta }

/-- What a `Reserve` does: nothing in sum, or it charges a positive amount to the funding source and then to the token. -/
theorem reserve_cases {t : Int} {o : ReserveOutcome} (hb : Backed st s.funding) (ho : o.rollback = none) :
    ∃ st' s' r, s.reserve cfg st t o = (st', s', r) ∧
      ((s' = s ∧ Charges st st' s.funding 0) ∨
        ∃ st1 delta, 0 < delta ∧ s.settled = false ∧ s.refunded = false ∧ Charges st st1 s.funding delta ∧
          MovesToken st1 st' s.relayInfo.tokenId (-tokenShare s.relayInfo delta) ∧
          s' = BillingSession.reserved s delta) := by
  unfold BillingSession.reserve
  split
  · exact ⟨st, s, _, rfl, .inl ⟨rfl, hb.charges_zero⟩⟩
  rename_i hopen
  simp only [not_or, Bool.not_eq_true, not_le] at hopen
  obtain ⟨hset, href, -, hlt⟩ := hopen
  have hd : 0 < t - s.preConsumedQuota := by omega
  simp only
  split
  · exact ⟨st, s, _, rfl, .inl ⟨rfl, hb.charges_zero⟩⟩
  rename_i st1 s1 hfund
  obtain ⟨hc, hs1⟩ := reserveFunding_ok hd hfund
  subst hs1
  split
  · -- the token refused: the debit of the funding source is taken back
    obtain ⟨st2, hroll, hc2⟩ := rollbackFundingReserve_ok cfg
      { s with funding := bump (t - s.preConsumedQuota) s.funding } hd (backed_bump.2 (Charges.backed hc hb))
    rw [ho, hroll]
    refine ⟨st2, _, _, rfl, .inl ⟨?_, ?_⟩⟩
    · simp only [bump_bump]
    · have hsum := Charges.trans (le_of_lt hd) (charges_bump (n := t - s.preConsumedQuota) hc) hc2
      rw [add_neg_cancel] at hsum
      have := charges_bump (n := -(t - s.preConsumedQuota)) hsum
      rwa [bump_bump] at this
  · rename_i st2 htok
    exact ⟨st2, _, _, rfl, .inr ⟨st1, _, hd, hset, href, hc, reserveToken_ok hd htok, rfl⟩⟩

/-! ## Settle -/

/-- The session after a settlement that moved the funding source by `delta`. -/
def BillingSession.settledBy (s : BillingSession) (delta : Int) : BillingSession :=
  { BillingSession.notePostDelta delta { s with fundingSettled := true } with settled := true }

/-- What a `Settle` does on an open session: nothing and an error, or it charges the difference and marks the session settled. -/
theorem settle_cases {a : Int} {o : SettleOutcome}
    (hset : s.settled = false) (hfs : s.fundingSettled = false) (hb : Backed st s.funding) (ho : o.token = none) :
    (∃ e, s.settle cfg st a o = (st, s, .error e)) ∨
      ∃ st1 st' s', s.settle cfg st a o = (st', s', .ok ()) ∧ Charges st st1 s.funding (a - s.preConsumedQuota) ∧
        MovesToken st1 st' s.relayInfo.tokenId (-tokenShare s.relayInfo (a - s.preConsumedQuota)) ∧
        (s' = { s with settled := true } ∨ s' = BillingSession.settledBy s (a - s.preConsumedQuota)) := by
  have hset : ¬ s.settled = true := by simp [hset]
  have hfs : ¬ s.fundingSettled = true := by simp [hfs]
  unfold BillingSession.settle
  rw [if_neg hset]
  simp only [if_neg hfs]
  split
  · rename_i hd
    refine .inr ⟨st, st, _, rfl, ?_, ?_, .inl rfl⟩
    · rw [hd]
      exact hb.charges_zero
    · rw [hd]
      simp only [tokenShare, ite_self, neg_zero]
      exact MovesToken.refl st _
  · rename_i hd
    split
    · exact .inl ⟨_, rfl⟩
    rename_i st1 hst1
    obtain ⟨st', htok, hmov⟩ := movesToken_settleToken { s with fundingSettled := true }
    rw [ho, htok]
    exact .inr ⟨st1, st', _, rfl, charges_settle hd hst1, hmov, .inr rfl⟩

/-! ## The refund job -/

/-- The subscription's refund, where nothing fails: the used amount goes back by the recorded pre-charge. -/
theorem refundSubscription_ok {s : SubscriptionFunding} (hb : Backed st (.subscription s)) (hpos : 0 < s.preConsumed) :
    ∃ st1 st', refundSubscriptionPreConsume st s.requestId none none none = (st', .ok ()) ∧
      Charges st st1 (.subscription s) (-s.preConsumed) ∧ st'.users = st1.users ∧ st'.tokens = st1.tokens ∧
      st'.subs = st1.subs := by
  obtain ⟨hid, hreq, ⟨row, hrow, ht⟩, record, hrec, hstatus, hsub, hpre⟩ := hb
  obtain ⟨st1, hok⟩ := postConsume_credit hid (le_of_lt hpos) hrow ht
  refine ⟨st1, { st1 with records := st1.records.save { record with status := .refunded } }, ?_,
    charges_postConsume (by omega) hok, rfl, rfl, rfl⟩
  unfold refundSubscriptionPreConsume
  simp only [if_neg hreq, hrec, hstatus, reduceCtorEq, if_false, hpre, hsub, hok]
  rw [if_neg (by omega)]

/-- The funding source's refund, where nothing fails, gives back the pre-charge it accounts for itself. -/
theorem refund_took {o : RefundOutcome}
    (hb : Backed st f) (hw : o.wallet = none) (ha : ∀ i, o.attempt i = ⟨none, none, none⟩) (htook : f.Took st before n)
    (hcut : 0 ≤ before + n ∨ ∃ w, f = .wallet w) (hown : match f with
      | .wallet w => 0 ≤ w.consumed
      | .subscription s => 0 < s.preConsumed) : ∃ st', (f.refund cfg st o).1 = st' ∧ st'.tokens = st.tokens ∧
      (match f with
        | .wallet w => f.Took st' before (n - w.consumed)
        | .subscription s => f.Took st' before (n - s.preConsumed) ∧
            ∃ row, st'.subs.lookup s.subscriptionId = some row ∧ (0 < row.amountTotal → row.amountUsed ≤ row.amountTotal)) := by
  cases f with
  | wallet w =>
    simp only [FundingSource.refund] at hown ⊢
    split
    · have h0 : w.consumed = 0 := by omega
      exact ⟨st, rfl, rfl, by rw [h0, sub_zero]; exact htook⟩
    have hok : increaseUserQuota cfg st w.userId w.consumed false none = .ok _ := moveQuota_of_nonneg hown
    have hc := charges_increaseUserQuota hok
    rw [hw, hok]
    exact ⟨_, rfl, hc.tokens, by have := took_charges htook hcut hc; rwa [← sub_eq_add_neg] at this⟩
  | subscription s =>
    simp only [FundingSource.refund] at hown ⊢
    obtain ⟨st1, st', hok, hc, hu, ht, hs⟩ := refundSubscription_ok hb hown
    have hretry : (refundWithRetry (fun i st => refundSubscriptionPreConsume st s.requestId (o.attempt i).read
        (o.attempt i).delta (o.attempt i).save) 3 0 st) = (st', .ok ()) := by
      simp only [refundWithRetry, ha, hok]
    rw [if_neg (by omega), hretry]
    refine ⟨st', rfl, ht.trans hc.tokens, ?_, ?_⟩
    · have := took_charges htook hcut hc
      exact took_of_subs hu hs this
    · obtain ⟨-, -, hrow, -⟩ := Charges.backed hc hb
      rwa [hs]

/-- What holds of a session beside its books: its amounts are not negative, and a subscription's pre-charge is positive and
known to the request's record. -/
structure Sound (s : BillingSession) : Prop where
  pre_nonneg : 0 ≤ s.preConsumedQuota
  extra_nonneg : 0 ≤ s.extraReserved
  sub : match s.funding with
    | .wallet _ => True
    | .subscription f => 0 < f.preConsumed ∧ s.relayInfo.subscriptionId = f.subscriptionId

/-- The values `Refund` copies from a session. -/
def jobOf (s : BillingSession) : RefundJob :=
  ⟨s.relayInfo.tokenId, s.relayInfo.isPlayground, s.tokenConsumed, s.extraReserved, s.relayInfo.subscriptionId⟩

/-- The token's part of the refund job, where it meets no fault. -/
theorem creditToken_took (hbal : s.Balanced) (hsound : Sound s) (htook : s.funding.Took st before n)
    (htok : s.relayInfo.TokenTook st tokenBefore s.preConsumedQuota) :
    ∀ st', (if 0 < s.tokenConsumed ∧ s.relayInfo.isPlayground = false then
        logged st (increaseTokenQuota cfg st s.relayInfo.tokenId s.tokenConsumed none) else st) = st' →
      s.funding.Took st' before n ∧ s.relayInfo.TokenTook st' tokenBefore 0 := by
  rintro st' rfl
  have hpre := hsound.pre_nonneg
  have htc := hbal.token
  split
  · rename_i hc
    obtain ⟨st', hok⟩ : ∃ st', increaseTokenQuota cfg st s.relayInfo.tokenId s.tokenConsumed none = .ok st' :=
      ⟨_, moveQuota_of_nonneg (by omega)⟩
    have hm := movesToken_increase hok
    simp only [hok, logged]
    refine ⟨took_movesToken hm htook, ?_⟩
    have hshare : s.tokenConsumed = -tokenShare s.relayInfo (-s.preConsumedQuota) := by simp [tokenShare, hc.2, htc]
    rw [hshare] at hm
    have := tokenTook_moves hm htok
    rwa [add_neg_cancel] at this
  · rename_i hc
    refine ⟨htook, ?_⟩
    unfold RelayInfo.TokenTook at htok ⊢
    by_cases hp : s.relayInfo.isPlayground = true
    · simpa [hp] using htok
    have h0 : s.preConsumedQuota = 0 := by
      simp only [hp, and_true, not_lt] at hc
      omega
    simpa [h0] using htok

/-- What was reserved on top, given back to a subscription, where it meets no fault. -/
theorem creditExtra_took {f : SubscriptionFunding} {row : UserSubscription} {extra : Int} (hid : 0 < f.subscriptionId)
    (hextra : 0 ≤ extra) (hcut : 0 ≤ before) (hrow : st.subs.lookup f.subscriptionId = some row)
    (hrowt : 0 < row.amountTotal → row.amountUsed ≤ row.amountTotal) (htook : (FundingSource.subscription f).Took st before extra) :
    ∃ st', (if 0 < extra ∧ (FundingSource.subscription f).source = .subscription ∧ 0 < f.subscriptionId then
        logged st (postConsumeUserSubscriptionDelta st f.subscriptionId (-extra) none) else st) = st' ∧
      st'.tokens = st.tokens ∧ (FundingSource.subscription f).Took st' before 0 := by
  by_cases hpos : 0 < extra
  · obtain ⟨st', hok⟩ := postConsume_credit hid hextra hrow hrowt
    have hcharges : Charges st st' (.subscription f) (-extra) := charges_postConsume (by omega) hok
    have hback := took_charges htook (.inl (by omega)) hcharges
    rw [add_neg_cancel] at hback
    refine ⟨st', ?_, hcharges.tokens, hback⟩
    rw [if_pos ⟨hpos, rfl, hid⟩, hok]
    rfl
  · have hzero : extra = 0 := by omega
    rw [hzero] at htook
    exact ⟨st, if_neg fun hc => hpos hc.1, rfl, htook⟩

/-- The refund job brings the funding source and the token back to where they stood before. -/
theorem perform_took {o : RefundOutcome}
    (hcredits : (Call.runJob o).creditsSucceed) (hbal : s.Balanced) (hsound : Sound s) (hb : Backed st s.funding)
    (hcut : 0 ≤ before ∨ ∃ w, s.funding = .wallet w) (htook : s.funding.Took st before s.preConsumedQuota)
    (htok : s.relayInfo.TokenTook st tokenBefore s.preConsumedQuota) : s.funding.Took ((jobOf s).perform cfg st s.funding o) before 0 ∧
      s.relayInfo.TokenTook ((jobOf s).perform cfg st s.funding o) tokenBefore 0 := by
  obtain ⟨hw, ha, hx, ht⟩ := hcredits
  have hpre := hsound.pre_nonneg
  have hcut' : 0 ≤ before + s.preConsumedQuota ∨ ∃ w, s.funding = .wallet w := hcut.imp_left (by omega)
  have hbalf := hbal.funding
  have hsub := hsound.sub
  simp only [RefundJob.perform, jobOf, hx, ht]
  cases hf : s.funding with
  | wallet w =>
    rw [hf] at hbalf hb htook hcut'
    obtain ⟨st1, hst1, htokens, htook1⟩ := refund_took cfg hb hw ha htook hcut' (by simp only; omega)
    simp only at htook1
    have hno : ¬ (0 < s.extraReserved ∧ (FundingSource.wallet w).source = .subscription ∧
        0 < s.relayInfo.subscriptionId) := by simp [FundingSource.source]
    have htook2 : s.funding.Took st1 before 0 := by
      rw [hf]
      rwa [hbalf, sub_self] at htook1
    have htok1 : s.relayInfo.TokenTook st1 tokenBefore s.preConsumedQuota := by
      unfold RelayInfo.TokenTook Store.tokenBalance at htok ⊢
      rwa [htokens]
    rw [hst1, if_neg hno, ← hf]
    exact creditToken_took cfg hbal hsound htook2 htok1 _ rfl
  | subscription f =>
    rw [hf] at hbalf hb htook hcut' hsub
    obtain ⟨st1, hst1, htokens, htook1, row, hrow, hrowt⟩ :=
      refund_took cfg hb hw ha htook hcut' hsub.1
    have hextra : s.preConsumedQuota - f.preConsumed = s.extraReserved := by omega
    have hbefore : 0 ≤ before := by
      rcases hcut with hbefore | ⟨w, hw⟩
      · exact hbefore
      · rw [hf] at hw
        cases hw
    rw [hextra] at htook1
    obtain ⟨st2, hst2, htokens2, htook2⟩ := creditExtra_took hb.1 hsound.extra_nonneg hbefore hrow hrowt htook1
    have htok2 : s.relayInfo.TokenTook st2 tokenBefore s.preConsumedQuota := by
      unfold RelayInfo.TokenTook Store.tokenBalance at htok ⊢
      rwa [htokens2, htokens]
    rw [hst1, hsub.2, hst2, ← hf]
    rw [← hf] at htook2
    exact creditToken_took cfg hbal hsound htook2 htok2 _ rfl

end SessionAux
end NewApi
