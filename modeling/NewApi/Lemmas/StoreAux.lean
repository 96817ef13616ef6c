import NewApi.Billing.Session

/-!
# Helpers for the billing theorems: what one statement moves

Every write of the billing session is one of two kinds. It moves the remaining quota of a token (`MovesToken`), or it charges a funding
source (`Charges`): the user's quota goes down by the amount, or the used amount of a subscription goes up by it, held at 0 from below. A
credit is a charge of a negative amount. Nothing above this module looks into the statements again.
-/

namespace NewApi
namespace StoreAux

open Tables

variable {quota id delta n : Int} {fault : Fault} {st' st moved : Store} {cfg : Config} {batch : Bool} {row : UserSubscription} (b : Bool)
  {w : WalletFunding} {s : SubscriptionFunding} {f : FundingSource}

theorem UserRow.balance_add (n : Int) (u : UserRow) : (u.add b n).balance = u.balance + n := by
  cases b <;> simp [UserRow.add, UserRow.balance] <;> omega

theorem TokenRow.balance_add (n : Int) (t : TokenRow) : (t.add b n).balance = t.balance + n := by
  cases b <;> simp [TokenRow.add, TokenRow.balance] <;> omega

/-- A move that goes through had a non-negative amount and moved the row. -/
theorem moveQuota_ok (h : moveQuota batch quota fault moved = .ok st') : 0 ≤ quota ∧ st' = moved := by
  unfold moveQuota at h
  split at h
  · cases h
  split at h
  · cases h
    exact ⟨by omega, rfl⟩
  split at h
  · cases h
  · cases h
    exact ⟨by omega, rfl⟩

/-- A statement that is not refused goes through. -/
theorem moveQuota_of_nonneg (h : 0 ≤ quota) : moveQuota batch quota none moved = .ok moved := by
  unfold moveQuota
  rw [if_neg (by omega)]
  simp

/-- A statement goes through unless the database refuses it. -/
theorem moveQuota_eq (h : 0 ≤ quota) : moveQuota batch quota fault moved =
      if batch = true ∨ fault = none then .ok moved else .error (fault.getD "") := by
  unfold moveQuota
  rw [if_neg (by omega)]
  cases batch <;> cases fault <;> simp

/-! ## The token -/

/-- `st'` is `st` with the token's remaining quota moved by `n`. -/
structure MovesToken (st st' : Store) (id n : Int) : Prop where
  users : st'.users = st.users
  subs : st'.subs = st.subs
  records : st'.records = st.records
  token : st'.tokenBalance id = st.tokenBalance id + n

theorem MovesToken.refl (st : Store) (id : Int) : MovesToken st st id 0 := ⟨rfl, rfl, rfl, by omega⟩

/-- Adding to a token changes its balance alone. -/
theorem tokenBalance_addToken (id n k : Int) : (st.addToken b id n).tokenBalance k = st.tokenBalance k + if k = id then n else 0 := by
  unfold Store.tokenBalance Store.addToken
  by_cases hk : k = id
  · subst hk
    simp [TokenRow.balance_add]
  · simp [hk]

@[simp] theorem userBalance_addToken (id n k : Int) : (st.addToken b id n).userBalance k = st.userBalance k := rfl

/-- Adding to a token moves it. -/
theorem movesToken_addToken (st : Store) (id n : Int) : MovesToken st (st.addToken b id n) id n := by
  refine ⟨rfl, rfl, rfl, ?_⟩
  rw [tokenBalance_addToken, if_pos rfl]

theorem addToken_zero : st.addToken b id 0 = st := by
  have hrow : (st.tokens id).add b 0 = st.tokens id := by
    cases b <;> simp [TokenRow.add]
  unfold Store.addToken
  rw [hrow, Function.update_eq_self]

/-- Two additions are one. -/
theorem addToken_addToken (id m n : Int) : (st.addToken b id m).addToken b id n = st.addToken b id (m + n) := by
  have hrow : ((st.tokens id).add b m).add b n = (st.tokens id).add b (m + n) := by
    cases b <;> simp only [TokenRow.add, Bool.false_eq_true, if_false, if_true] <;> congr 1 <;> omega
  unfold Store.addToken
  simp only [Function.update_self, Function.update_idem, hrow]

/-- An increase moves the token up. -/
theorem movesToken_increase (h : increaseTokenQuota cfg st id quota fault = .ok st') : MovesToken st st' id quota := by
  obtain ⟨-, rfl⟩ := moveQuota_ok h
  exact movesToken_addToken _ st id quota

/-- A decrease moves it down. -/
theorem movesToken_decrease (h : decreaseTokenQuota cfg st id quota fault = .ok st') : MovesToken st st' id (-quota) := by
  obtain ⟨-, rfl⟩ := moveQuota_ok h
  exact movesToken_addToken _ st id (-quota)

/-- What a charge of `n` takes from the token of a request: nothing in the playground. -/
def tokenShare (info : RelayInfo) (n : Int) : Int := if info.isPlayground then 0 else n

/-- A token's pre-charge that goes through takes the request's share. -/
theorem preConsumeTokenQuota_ok {info : RelayInfo} {o : TokenOutcome} (h : preConsumeTokenQuota cfg st info quota o = .ok st') :
    st' = st.addToken cfg.batchUpdateEnabled info.tokenId (-tokenShare info quota) := by
  unfold preConsumeTokenQuota at h
  unfold tokenShare
  split at h
  · cases h
  split at h
  · rename_i hp
    cases h
    rw [if_pos hp, neg_zero, addToken_zero]
  · rename_i hp
    rw [if_neg hp]
    split at h
    · cases h
    split at h
    · cases h
    · exact (moveQuota_ok h).2

/-! ## The funding source -/

/-- `st'` is `st` with the funding source charged by `n`: the user's quota less by `n`, or the subscription's used amount more
by `n`, not below 0 and not above the total. -/
structure Charges (st st' : Store) (funding : FundingSource) (n : Int) : Prop where
  tokens : st'.tokens = st.tokens
  records : st'.records = st.records
  source : match funding with
    | .wallet w => st'.userBalance w.userId = st.userBalance w.userId - n
    | .subscription s => ∃ row row', st.subs.lookup s.subscriptionId = some row ∧
        st'.subs.lookup s.subscriptionId = some row' ∧ row'.amountUsed = max 0 (row.amountUsed + n) ∧
        row'.amountTotal = row.amountTotal ∧ (0 < row.amountTotal → row'.amountUsed ≤ row.amountTotal)

/-- Adding to a user changes that balance alone. -/
theorem userBalance_addUser (id n k : Int) : (st.addUser b id n).userBalance k = st.userBalance k + if k = id then n else 0 := by
  unfold Store.userBalance Store.addUser
  by_cases hk : k = id
  · subst hk
    simp [UserRow.balance_add]
  · simp [hk]

theorem addUser_zero : st.addUser b id 0 = st := by
  have hrow : (st.users id).add b 0 = st.users id := by
    cases b <;> simp [UserRow.add]
  unfold Store.addUser
  rw [hrow, Function.update_eq_self]

/-- Taking from a user charges the wallet. -/
theorem charges_addUser (st : Store) (w : WalletFunding) (n : Int) : Charges st (st.addUser b w.userId (-n)) (.wallet w) n := by
  refine ⟨rfl, rfl, ?_⟩
  simp only [userBalance_addUser, if_true]
  omega

/-- A decrease charges the wallet. -/
theorem charges_decreaseUserQuota
    (h : decreaseUserQuota cfg st w.userId quota false fault = .ok st') : Charges st st' (.wallet w) quota := by
  obtain ⟨-, rfl⟩ := moveQuota_ok h
  exact charges_addUser _ st w quota

/-- An increase gives back to it. -/
theorem charges_increaseUserQuota
    (h : increaseUserQuota cfg st w.userId quota false fault = .ok st') : Charges st st' (.wallet w) (-quota) := by
  obtain ⟨-, rfl⟩ := moveQuota_ok h
  have hc := charges_addUser cfg.batchUpdateEnabled st w (-quota)
  simpa using hc

/-- A subscription whose used amount was moved by `delta`, held at 0 from below. -/
def moveUsed (row : UserSubscription) (delta : Int) : UserSubscription :=
  { row with amountUsed := max 0 (row.amountUsed + delta), used_nonneg := le_max_left 0 (row.amountUsed + delta) }

/-- What `PostConsumeUserSubscriptionDelta` does where it goes through. -/
theorem postConsume_ok (hd : delta ≠ 0) (h : postConsumeUserSubscriptionDelta st id delta fault = .ok st') :
    ∃ row, st.subs.lookup id = some row ∧ st' = { st with subs := st.subs.save (moveUsed row delta) } ∧
      (0 < row.amountTotal → max 0 (row.amountUsed + delta) ≤ row.amountTotal) := by
  unfold postConsumeUserSubscriptionDelta at h
  split at h
  · cases h
  split at h
  · cases h
  split at h
  · cases h
  rename_i row hrow
  simp only at h
  split at h
  · cases h
  rename_i htotal
  simp only [not_and, not_lt] at htotal
  exact ⟨row, hrow, (Except.ok.inj h).symm, htotal⟩

/-- The row of a moved amount is found. -/
theorem lookup_moveUsed (hrow : st.subs.lookup id = some row) :
    (st.subs.save (moveUsed row delta)).lookup id = some (moveUsed row delta) := by
  have hid : id = (moveUsed row delta).id := (Table.lookup_key hrow).symm
  rw [Table.lookup_save, if_pos hid, hrow]
  rfl

/-- A subscription's row after the used amount moved by `delta`. -/
theorem charges_postConsume (hd : delta ≠ 0)
    (h : postConsumeUserSubscriptionDelta st s.subscriptionId delta fault = .ok st') : Charges st st' (.subscription s) delta := by
  obtain ⟨row, hrow, rfl, htotal⟩ := postConsume_ok hd h
  exact ⟨rfl, rfl, row, moveUsed row delta, hrow, lookup_moveUsed hrow, rfl, rfl, htotal⟩

/-- A credit of a subscription that meets no fault goes through where the row stays within its total. -/
theorem postConsume_credit (hid : 0 < id) (hn : 0 ≤ n)
    (hrow : st.subs.lookup id = some row) (htotal : 0 < row.amountTotal → row.amountUsed ≤ row.amountTotal) :
    ∃ st', postConsumeUserSubscriptionDelta st id (-n) none = .ok st' := by
  unfold postConsumeUserSubscriptionDelta
  rw [if_neg (by omega)]
  split
  · exact ⟨st, rfl⟩
  simp only [hrow]
  rw [if_neg]
  · exact ⟨_, rfl⟩
  · rintro ⟨hpos, hlt⟩
    have := htotal hpos
    have := row.used_nonneg
    omega

/-- A settlement charges the difference. -/
theorem charges_settle (hd : delta ≠ 0) (h : f.settle cfg st delta fault = .ok st') : Charges st st' f delta := by
  cases f with
  | wallet w =>
    simp only [FundingSource.settle, if_neg hd] at h
    split at h
    · exact charges_decreaseUserQuota h
    · have hc := charges_increaseUserQuota h
      rwa [neg_neg] at hc
  | subscription s =>
    simp only [FundingSource.settle, if_neg hd] at h
    exact charges_postConsume hd h

/-- The token's part of a settlement that meets no fault takes the request's share of the difference. -/
theorem movesToken_settleToken (s : BillingSession) :
    ∃ st', s.settleToken cfg st delta none = (st', .ok ()) ∧
      MovesToken st st' s.relayInfo.tokenId (-tokenShare s.relayInfo delta) := by
  unfold BillingSession.settleToken tokenShare
  by_cases hp : s.relayInfo.isPlayground = true
  · exact ⟨st, by rw [if_pos hp], by rw [if_pos hp]; exact MovesToken.refl st _⟩
  rw [if_neg hp, if_neg hp]
  by_cases hd : 0 < delta
  · have hok : decreaseTokenQuota cfg st s.relayInfo.tokenId delta none = .ok _ := moveQuota_of_nonneg (by omega)
    refine ⟨_, ?_, movesToken_decrease hok⟩
    rw [if_pos hd, hok]
  · have hok : increaseTokenQuota cfg st s.relayInfo.tokenId (-delta) none = .ok _ := moveQuota_of_nonneg (by omega)
    refine ⟨_, ?_, movesToken_increase hok⟩
    rw [if_neg hd, hok]

/-- Two charges add up where the first takes something: what it added is there for the second to give back. -/
theorem Charges.trans {st'' : Store} {m : Int} (hm : 0 ≤ m) (h : Charges st st' f m)
    (h' : Charges st' st'' f n) : Charges st st'' f (m + n) := by
  refine ⟨h'.tokens.trans h.tokens, h'.records.trans h.records, ?_⟩
  have h1 := h.source
  have h2 := h'.source
  cases f with
  | wallet w =>
    omega
  | subscription s =>
    obtain ⟨row, row', hrow, hrow', hu, ht, -⟩ := h1
    obtain ⟨row1, row'', hrow1, hrow'', hu', ht', hb'⟩ := h2
    rw [hrow'] at hrow1
    cases hrow1
    refine ⟨row, row'', hrow, hrow'', ?_, ht'.trans ht, fun hpos => ?_⟩
    · have := row.used_nonneg
      omega
    · rw [← ht] at hpos ⊢
      exact hb' hpos

end StoreAux
end NewApi
