import NewApi.Lemmas.CreateAux

/-!
# What a creation takes

`NewBillingSession` tries one funding source, or two, and each attempt debits the token before its source. A creation that is rejected
leaves every table as it found it, through both attempts; one that succeeds has debited one source, and the token by the same amount.
-/

namespace NewApi

open Tables SessionAux StoreAux ResetAux

/-- Exactly one funding source gave `amount`, and every other one is as it was. A subscription gives it after the reset that was due,
and the subscriptions the pre-charge passed over on its way are reset where that was due. -/
inductive OneSource (cfg : Config) (now : Int) (info : RelayInfo) (st st' : Store) (amount : Int) : BillingSource → Prop
  | wallet (users : ∀ id, st'.userBalance id = st.userBalance id - if id = info.userId then amount else 0)
      (subs : st'.subs = st.subs) (records : st'.records = st.records) : OneSource cfg now info st st' amount .wallet
  | subscription (sub : UserSubscription) (plan : SubscriptionPlan) (hpos : 0 < amount) (active : sub ∈ st.activeSubs info.userId now)
      (hplan : cfg.planById sub.planId = .ok plan) (users : st'.users = st.users)
      (row : st'.subs.lookup sub.id = some ((maybeResetUserSubscription cfg.calendar sub plan now).1.charge amount hpos))
      (others : ∀ k row, k ≠ sub.id → st.subs.lookup k = some row → ∃ row', st'.subs.lookup k = some row' ∧ Visited cfg now row row')
      (absent : ∀ k, st.subs.lookup k = none → st'.subs.lookup k = none)
      (records : ∀ id, st'.records.lookup id =
        if id = info.requestId then some ⟨info.requestId, info.userId, sub.id, amount, .consumed⟩ else st.records.lookup id) :
      OneSource cfg now info st st' amount .subscription

namespace CreationAux

variable {cfg : Config} {st st' : Store} {info : RelayInfo} {amount now quota : Int} {fault : Fault} {o : CreateOutcome}
  {s : BillingSession}

/-- A subscription's pre-charge on a new request id takes the amount from one subscription. -/
theorem oneSource_preConsume {res : SubscriptionPreConsumeResult} (hfresh : st.records.lookup info.requestId = none)
    (h : preConsumeUserSubscription cfg st info.requestId info.userId amount now fault = .ok (st', res)) :
    OneSource cfg now info st st' amount .subscription := by
  obtain ⟨-, hpos, ⟨hknown, -⟩ | ⟨-, hloop⟩⟩ := preConsume_cases h
  · rw [hfresh] at hknown
    cases hknown
  have hstored := stored_activeSubs st info.userId now
  obtain ⟨sub, hmem, plan, hplan, htakes⟩ := consumeFirst_takes hstored hloop
  refine .subscription sub plan hpos (List.mem_insertionSort _ |>.1 hmem) hplan htakes.users htakes.row ?_ ?_ ?_
  · intro k row hk hrow
    cases consumeFirst_consumes hstored hrow hloop with
    | passes row' _ hrow' hvisited => exact ⟨row', hrow', hvisited⟩
    | takes _ hchosen _ _ _ => exact absurd (hchosen.symm.trans htakes.chosen) hk
  · intro k hk
    -- a row that is not in the table is no candidate
    have hnot : k ∉ ((st.activeSubs info.userId now).insertionSort spendsBefore).map (·.id) := by
      intro hin
      obtain ⟨c, hc, rfl⟩ := List.mem_map.1 hin
      rw [hstored.lookup c hc] at hk
      cases hk
    rw [(consumeFirst_frame hstored hnot hloop).2]
    exact hk
  · intro id
    exact Table.lookup_insert htakes.records id

/-- The token gives its share, outside the playground. -/
theorem tokenBalance_share (b : Bool) (amount id : Int) :
    (st.addToken b info.tokenId (-tokenShare info amount)).tokenBalance id =
      st.tokenBalance id - if id = info.tokenId ∧ info.isPlayground = false then amount else 0 := by
  rw [tokenBalance_addToken]
  unfold tokenShare
  by_cases hid : id = info.tokenId
  · cases hplay : info.isPlayground
    · simp only [hid, and_self, if_true, Bool.false_eq_true, if_false]
      omega
    · simp [hid]
  · simp [hid]

/-- A wallet session takes from the wallet and the token only. -/
theorem tryWallet_oneSource (h : tryWallet cfg st info quota o = (st', .ok s)) (hq : 0 ≤ quota ∨ s.trusted = true) :
    OneSource cfg now info st st' s.preConsumedQuota .wallet ∧
      ∀ id, st'.tokenBalance id = st.tokenBalance id - if id = info.tokenId ∧ info.isPlayground = false then s.preConsumedQuota else 0 := by
  obtain ⟨_, trusted, q, st1, ⟨userQuota, rfl⟩, -, rfl, rfl, rfl⟩ := tryWallet_charges h hq
  simp only [sync_keeps]
  refine ⟨.wallet (fun id => ?_) rfl rfl, fun id => ?_⟩
  · rw [userBalance_addUser, userBalance_addToken]
    split <;> omega
  · exact tokenBalance_share _ q id

/-- A subscription session takes from one subscription and the token only. -/
theorem trySubscription_oneSource
    (h : trySubscription cfg st info quota o = (st', .ok s)) (hfresh : st.records.lookup info.requestId = none) :
    OneSource cfg o.subscription.now info st st' s.preConsumedQuota .subscription ∧
      ∀ id, st'.tokenBalance id = st.tokenBalance id - if id = info.tokenId ∧ info.isPlayground = false then s.preConsumedQuota else 0 := by
  obtain ⟨q, st1, res, sub, hpos, hst1, hpre, -, -, -, rfl⟩ := trySubscription_charges h
  have hm : MovesToken st st1 info.tokenId (-tokenShare info q) := by
    rw [hst1]
    exact movesToken_addToken _ st _ _
  have hfresh1 : st1.records.lookup info.requestId = none := by
    rw [hm.records]
    exact hfresh
  have hone := oneSource_preConsume hfresh1 hpre
  obtain ⟨-, -, hcharged⟩ := preConsumeUserSubscription_ok hfresh1 hpre
  simp only [sync_keeps]
  refine ⟨?_, fun id => ?_⟩
  · cases hone with
    | subscription sub plan hpos active hplan users row others absent records =>
      simp only [Store.activeSubs, hm.subs, hm.users, hm.records] at active users others absent records
      exact .subscription sub plan hpos active hplan users row others absent records
  · rw [← tokenBalance_share cfg.batchUpdateEnabled q id, ← hst1]
    unfold Store.tokenBalance
    rw [hcharged.tokens]

end CreationAux

open CreationAux

/-- Whatever the preference, the balances and the answers of the database, the rollbacks meeting no fault: a creation that is rejected
leaves the tables as they were. One that succeeds has debited one funding source by the session's pre-charge and the token (outside the
playground) by the same amount, where the wallet's requested amount is not negative or was bypassed, and the subscription's request id
is new. With the subscriptions first, it comes to the wallet only for a user without an active subscription or with none that forbids
it. -/
theorem newBillingSession_one_source (cfg : Config) (st : Store) (info : RelayInfo) (quota : Int) (o : CreateOutcome)
    (hrollback : o.wallet.rollback = none ∧ o.subscription.rollback = none) :
    match newBillingSession cfg st info quota o with
    | (st', .error _) => st' = st
    | (st', .ok s) =>
      ((match s.funding.source with
        | .wallet => 0 ≤ quota ∨ s.trusted = true
        | .subscription => st.records.lookup info.requestId = none) →
        OneSource cfg o.subscription.now info st st' s.preConsumedQuota s.funding.source ∧
          ∀ id, st'.tokenBalance id =
            st.tokenBalance id - if id = info.tokenId ∧ info.isPlayground = false then s.preConsumedQuota else 0) ∧
      (normalizeBillingPreference info.billingPreference = "subscription_first" → s.funding.source = .wallet →
        st.activeSubs info.userId o.now = [] ∨ ∀ sub ∈ st.activeSubs info.userId o.now, sub.allowWalletOverflow = true) := by
  have hcreated : Created cfg st info quota o (newBillingSession cfg st info quota o) :=
    newBillingSession_created hrollback.1 hrollback.2
  generalize newBillingSession cfg st info quota o = created at hcreated ⊢
  cases hcreated with
  | rejected e => rfl
  | wallet st' s hallowed h =>
    simp only [tryWallet_source h]
    exact ⟨tryWallet_oneSource h, fun hfirst _ => hallowed hfirst⟩
  | subscription st' s h =>
    simp only [trySubscription_source h]
    exact ⟨trySubscription_oneSource h, fun _ hwallet => absurd hwallet (by decide)⟩

/-! ## A request id that is charged already -/

namespace CreationAux

/-- A creation of 10 on the subscription that has used nothing, and the same request once more. -/
def createdOnce : Store × Except NewAPIError BillingSession :=
  newBillingSession sampleConfig (sampleStore 0) (sampleInfo "subscription_first") 10 sampleCreate

def createdTwice : Store × Except NewAPIError BillingSession :=
  newBillingSession sampleConfig createdOnce.1 (sampleInfo "subscription_first") 10 sampleCreate

/-- What the user has left, what the subscription has used, what the token has left. -/
def standings (st : Store) : Int × Option Int × Int :=
  (st.userBalance 1, (st.subs.lookup 7).map (·.amountUsed), st.tokenBalance 3)

end CreationAux

theorem newBillingSession_one_source_sample :
    sampleWalletCreated = (sampleWalletCreated.1, .ok sampleWalletSession) ∧
      OneSource sampleConfig 1000 (sampleInfo "wallet_only") (sampleStore 0) sampleWalletCreated.1 10 .wallet ∧
      sampleWalletCreated.1.tokenBalance 3 = 490 := by
  have h := newBillingSession_one_source sampleConfig (sampleStore 0) (sampleInfo "wallet_only") 10 sampleCreate ⟨rfl, rfl⟩
  have heq : newBillingSession sampleConfig (sampleStore 0) (sampleInfo "wallet_only") 10 sampleCreate =
    (sampleWalletCreated.1, .ok sampleWalletSession) := sampleWalletCreated_eq
  rw [heq] at h
  obtain ⟨hone, htoken⟩ := h.1 (.inl (by decide))
  exact ⟨sampleWalletCreated_eq, hone, htoken 3⟩

/-- The pre-charge of a subscription is made once per request id: a second creation succeeds with a pre-charge of 10 in its session,
takes 10 from the token, and debits no funding source. -/
theorem second_creation_not_debited :
    (createdOnce.2.toOption.map (·.preConsumedQuota) = some 10 ∧ standings createdOnce.1 = (900, some 10, 490)) ∧
      createdTwice.2.toOption.map (·.preConsumedQuota) = some 10 ∧ standings createdTwice.1 = (900, some 10, 480) := by
  decide +kernel

end NewApi
