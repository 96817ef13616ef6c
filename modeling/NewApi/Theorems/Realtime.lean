import NewApi.Billing.Realtime
import NewApi.Lemmas.CreateAux

/-!
# A realtime session is charged for its turns twice

The turns of a realtime session are debited one by one while it runs, and the billing session is then settled on the quota of
their sum without regard to those debits. So the wallet pays the quota of the sum and, on top of it, every turn that was
debited. The charge is right, to one unit a turn, exactly when the turns' own quotas come to no more than that. Which turns are billed,
and which of them are debited, is read off the messages and the answers of the database (`billedTurns`, `Turn.debit`).
-/

namespace NewApi

section Turns

variable (cfg : Config) (rs : RatioSetting) (relay : RelayInfo) (info : RealtimeInfo)

/-- The price of a turn. -/
def Turn.quota (t : Turn) : Int := calculateAudioQuota cfg rs (info.turnQuotaInfo rs t.usage)

/-- The readings of the user's and the token's quota allow the debit. The least `int` is never taken: its opposite is refused as
negative. -/
def Turn.allowed (t : Turn) : Bool :=
  match t.outcome.userQuota, t.outcome.token with
  | .ok userQuota, .ok (unlimitedQuota, remainQuota) =>
    t.quota cfg rs info ≤ userQuota ∧ (unlimitedQuota = true ∨ t.quota cfg rs info ≤ remainQuota) ∧
      t.quota cfg rs info ≠ -9223372036854775808
  | _, _ => false

/-- What a turn takes from the wallet when it is billed: its quota, where the readings allow it and the statement is not refused. -/
def Turn.debit (t : Turn) : Int :=
  if t.allowed cfg rs info = true ∧ (cfg.batchUpdateEnabled = true ∨ t.outcome.fundingDebit = none) then t.quota cfg rs info else 0

def turnDebits (ts : List Turn) : Int := (ts.map (Turn.debit cfg rs info)).sum

/-- The billing of a turn reports an error, of the token's statement also after the wallet was debited. -/
def Turn.refused (t : Turn) : Bool :=
  ¬ (t.allowed cfg rs info = true ∧ (cfg.batchUpdateEnabled = true ∨
    t.outcome.fundingDebit = none ∧ (relay.isPlayground = true ∨ t.outcome.tokenDebit = none)))

/-- What the end of the handler bills of the two running usages. -/
def leftOver (o o' : TurnOutcome) (usage localUsage : RealtimeUsage) : List Turn :=
  (if usage.totalTokens ≠ 0 then [⟨usage, o⟩] else []) ++ if localUsage.totalTokens ≠ 0 then [⟨localUsage, o'⟩] else []

/-- The turns a connection bills, from its messages and the answers of the database. The usages are those that run since the last
turn; a turn that is refused is the last before the end. -/
def billedTurns (o o' : TurnOutcome) : RealtimeUsage → RealtimeUsage → List RealtimeEvent → List Turn
  | usage, localUsage, [] => leftOver o o' usage localUsage
  | usage, localUsage, .clientMessage textToken audioToken :: events =>
    billedTurns o o' usage (localUsage.addInput textToken audioToken) events
  | usage, localUsage, .serverMessage textToken audioToken :: events =>
    billedTurns o o' usage (localUsage.addOutput textToken audioToken) events
  | usage, localUsage, .responseDone reported answers :: events =>
    let t : Turn := ⟨usage.add reported, answers⟩
    t :: if t.refused cfg rs relay info then leftOver o o' t.usage localUsage else billedTurns o o' .none .none events
  | usage, localUsage, .responseDoneWithoutUsage textToken audioToken answers :: events =>
    let t : Turn := ⟨localUsage.addInput textToken audioToken, answers⟩
    t :: if t.refused cfg rs relay info then leftOver o o' usage t.usage else billedTurns o o' usage .none events
  | usage, localUsage, .error :: _ => leftOver o o' usage localUsage

end Turns

namespace RealtimeAux

open StoreAux SessionAux

variable {st : Store} {cfg : Config} {info : RealtimeInfo} {relay : RelayInfo} {quota : Int} {rs : RatioSetting}

/-- A price is an `int`. -/
theorem quota_range (cfg : Config) (rs : RatioSetting) (hprice : info.usePrice = false) (t : Turn) :
    -9223372036854775808 ≤ t.quota cfg rs info ∧ t.quota cfg rs info < 9223372036854775808 := by
  have hturn : (info.turnQuotaInfo rs t.usage).usePrice = false := hprice
  simp only [Turn.quota, calculateAudioQuota, hturn, Bool.false_eq_true, if_false]
  exact Rounding.int64_range _

theorem userBalance_movesToken {st' : Store} {id n : Int} (h : MovesToken st st' id n) (user : Int) :
    st'.userBalance user = st.userBalance user := by
  simp only [Store.userBalance, h.users]

/-- A statement that takes a quota by its sign goes through unless the database refuses it. -/
theorem signedMove_eq {b : Bool} {f : Fault} {moved : Store} :
    (if 0 < quota then moveQuota b quota f moved else moveQuota b (-quota) f moved) =
    if b = true ∨ f = none then .ok moved else .error (f.getD "") := by
  split
  · exact moveQuota_eq (by omega)
  · exact moveQuota_eq (by omega)

/-- The wallet's and the token's part of a turn's debit: what the wallet gives, and whether an error is reported. -/
theorem postConsumeQuota_wallet (cfg : Config) (st : Store) (f t : Fault) (hsrc : relay.billingSource = some .wallet)
    (hlow : -9223372036854775808 < quota) (hhigh : quota < 9223372036854775808) :
    (postConsumeQuota cfg st relay quota f t).1.userBalance relay.userId = st.userBalance relay.userId -
        (if cfg.batchUpdateEnabled = true ∨ f = none then quota else 0) ∧
      ((postConsumeQuota cfg st relay quota f t).2 = .ok () ↔
        cfg.batchUpdateEnabled = true ∨ f = none ∧ (relay.isPlayground = true ∨ t = none)) := by
  have hns : ¬ relay.billingSource = some .subscription := by simp [hsrc]
  have hcut : Rounding.int64 (-quota) = -quota := Rounding.int64_of_lt (by omega) (by omega)
  have hbal := (charges_addUser cfg.batchUpdateEnabled st ⟨relay.userId, 0⟩ quota).source
  unfold postConsumeQuota
  simp only [if_neg hns, decreaseUserQuota, increaseUserQuota, decreaseTokenQuota, increaseTokenQuota, Bool.not_false, Bool.true_and,
    hcut, signedMove_eq]
  generalize st.addUser cfg.batchUpdateEnabled relay.userId (-quota) = moved at hbal ⊢
  by_cases hgo : cfg.batchUpdateEnabled = true ∨ f = none
  · simp only [if_pos hgo]
    by_cases hplay : relay.isPlayground = true
    · simp only [hplay, true_or, and_true]
      exact ⟨hbal, by simp [hgo]⟩
    simp only [hplay]
    by_cases htoken : cfg.batchUpdateEnabled = true ∨ t = none
    · simp only [if_pos htoken]
      exact ⟨(userBalance_movesToken (movesToken_addToken _ moved relay.tokenId _) _).trans hbal, by tauto⟩
    · simp only [if_neg htoken]
      exact ⟨hbal, by simp only [reduceCtorEq]; tauto⟩
  · simp only [if_neg hgo, sub_zero, reduceCtorEq]
    exact ⟨trivial, by tauto⟩

/-- The opposite of the least `int` is negative, so that no wallet is credited with it. -/
theorem postConsumeQuota_least {f t : Fault} (hsrc : relay.billingSource = some .wallet) :
    postConsumeQuota cfg st relay (-9223372036854775808) f t = (st, .error negativeQuota) := by
  have hns : ¬ relay.billingSource = some .subscription := by simp [hsrc]
  have hcut : Rounding.int64 9223372036854775808 = -9223372036854775808 := by decide
  simp [postConsumeQuota, hns, hcut, increaseUserQuota, moveQuota]

/-- Billing one turn on a wallet: the wallet gives the turn's debit, and an error is reported where the turn is refused. -/
theorem preWssConsumeQuota_wallet (cfg : Config) (rs : RatioSetting) (st : Store)
    (hsrc : relay.billingSource = some .wallet) (hprice : info.usePrice = false) (t : Turn) :
    (preWssConsumeQuota cfg rs st relay info t.usage t.outcome).1.userBalance relay.userId =
        st.userBalance relay.userId - t.debit cfg rs info ∧
      ((preWssConsumeQuota cfg rs st relay info t.usage t.outcome).2 = .ok () ↔ t.refused cfg rs relay info = false) := by
  obtain ⟨hlow, hhigh⟩ := quota_range cfg rs hprice t
  have hquota : calculateAudioQuota cfg rs (info.turnQuotaInfo rs t.usage) = t.quota cfg rs info := rfl
  unfold preWssConsumeQuota Turn.debit Turn.refused Turn.allowed
  simp only [hprice, Bool.false_eq_true, if_false, hquota]
  generalize t.quota cfg rs info = q at hlow hhigh ⊢
  rcases t.outcome.userQuota with e | userQuota
  · simp
  rcases t.outcome.token with e | ⟨unlimitedQuota, remainQuota⟩
  · simp
  by_cases hread : q ≤ userQuota ∧ (unlimitedQuota = true ∨ q ≤ remainQuota)
  · have huser : ¬ userQuota < q := by omega
    have htoken : ¬ (unlimitedQuota = false ∧ remainQuota < q) := by
      rintro ⟨hlimited, hless⟩
      rcases hread.2 with h | h
      · simp [h] at hlimited
      · omega
    simp only [huser, htoken, if_false]
    by_cases hleast : q = -9223372036854775808
    · rw [hleast, postConsumeQuota_least hsrc]
      simp
    obtain ⟨hbal, herror⟩ := postConsumeQuota_wallet cfg st t.outcome.fundingDebit t.outcome.tokenDebit hsrc (by omega) hhigh
    refine ⟨by simp [hbal, hread, hleast], herror.trans ?_⟩
    simp only [hread, hleast, ne_eq, not_false_eq_true, and_self, decide_true, true_and, decide_eq_false_iff_not, not_not]
  · -- one of the two readings is too low
    by_cases huser : userQuota < q
    · have hless : ¬ q ≤ userQuota := by omega
      simp [huser, hless]
    have htoken : unlimitedQuota = false ∧ remainQuota < q := by
      rw [not_and_or, not_or, Bool.not_eq_true, not_le, not_le] at hread
      exact hread.resolve_left huser
    have hless : ¬ q ≤ remainQuota := by omega
    simp [huser, htoken, hless]

section Handler

variable {st0 : Store} {s : RealtimeState}

/-- The books of the handler: the wallet has given the debits of the turns billed so far, and the sum is their sum. -/
structure Books (cfg : Config) (rs : RatioSetting) (relay : RelayInfo) (info : RealtimeInfo) (st0 : Store)
    (s : RealtimeState) : Prop where
  wallet : s.store.userBalance relay.userId = st0.userBalance relay.userId - turnDebits cfg rs info s.turns
  sum : s.sumUsage = RealtimeUsage.sum (s.turns.map Turn.usage)

/-- The books only read the store, the sum and the turns. -/
theorem Books.congr {s' : RealtimeState} (h : Books cfg rs relay info st0 s) (hst : s'.store = s.store)
    (hsum : s'.sumUsage = s.sumUsage) (hturns : s'.turns = s.turns) : Books cfg rs relay info st0 s' := by
  constructor
  · rw [hst, hturns, h.wallet]
  · rw [hsum, hturns, h.sum]

/-- A connection that has failed reads nothing more. -/
theorem exec_failed (h : s.failed = true) (events : List RealtimeEvent) :
    Run.exec (RealtimeState.step cfg rs relay info) s events = s := by
  induction events with
  | nil => rfl
  | cons e events ih =>
    have hstep : s.step cfg rs relay info e = s := if_pos h
    rw [Run.exec_cons, hstep, ih]

variable (hsrc : relay.billingSource = some .wallet) (hprice : info.usePrice = false)
include hsrc hprice

/-- Billing a turn keeps the books. -/
theorem books_preConsumeUsage (h : Books cfg rs relay info st0 s) (usage : RealtimeUsage) (o : TurnOutcome) :
    Books cfg rs relay info st0 (s.preConsumeUsage cfg rs relay info usage o).1 := by
  constructor
  · have hdebit := (preWssConsumeQuota_wallet cfg rs s.store hsrc hprice ⟨usage, o⟩).1
    simp only [RealtimeState.preConsumeUsage, turnDebits, List.map_append, List.map_cons, List.map_nil, List.sum_append,
      List.sum_cons, List.sum_nil]
    rw [hdebit, h.wallet]
    simp only [turnDebits]
    omega
  · simp only [RealtimeState.preConsumeUsage, h.sum, RealtimeUsage.sum, List.map_append, List.map_cons, List.map_nil,
      List.foldl_append, List.foldl_cons, List.foldl_nil]

/-- A running usage that has tokens is billed at the end. -/
theorem books_leftOver (h : Books cfg rs relay info st0 s) (usage : RealtimeUsage) (o : TurnOutcome) :
    let s' := if usage.totalTokens ≠ 0 then (s.preConsumeUsage cfg rs relay info usage o).1 else s
    Books cfg rs relay info st0 s' ∧ s'.turns = s.turns ++ (if usage.totalTokens ≠ 0 then [⟨usage, o⟩] else []) ∧
      s'.localUsage = s.localUsage := by
  by_cases htokens : usage.totalTokens ≠ 0
  · simp only [if_pos htokens]
    exact ⟨books_preConsumeUsage hsrc hprice h usage o, rfl, rfl⟩
  · simp only [if_neg htokens]
    exact ⟨h, (List.append_nil _).symm, trivial⟩

/-- The end of the handler keeps the books, and adds what is left of the two running usages to the turns. -/
theorem books_finish (h : Books cfg rs relay info st0 s) (o o' : TurnOutcome) :
    Books cfg rs relay info st0 (s.finish cfg rs relay info o o') ∧
      (s.finish cfg rs relay info o o').turns = s.turns ++ leftOver o o' s.usage s.localUsage := by
  obtain ⟨hfirst, hturns, hlocal⟩ := books_leftOver hsrc hprice h s.usage o
  obtain ⟨hsecond, hturns', -⟩ := books_leftOver hsrc hprice hfirst s.localUsage o'
  unfold RealtimeState.finish
  simp only [hlocal]
  exact ⟨hsecond, by rw [hturns', hturns, List.append_assoc]; rfl⟩

/-- A response bills the turn `t` from `s₁`: refused, it is the last before the end; else the handler goes on from `next`, and
bills `rest`. -/
theorem books_response {o o' : TurnOutcome} {e : RealtimeEvent} {events : List RealtimeEvent} {rest : List Turn} (t : Turn)
    (s₁ : RealtimeState) (next : RealtimeState → RealtimeState) (h : Books cfg rs relay info st0 s₁)
    (hstep : s.step cfg rs relay info e = match s₁.preConsumeUsage cfg rs relay info t.usage t.outcome with
      | (s', .error _) => { s' with failed := true }
      | (s', .ok ()) => next s')
    (hnext : ∀ s', Books cfg rs relay info st0 s' → s'.usage = s₁.usage → s'.failed = s₁.failed →
      let final := (Run.exec (RealtimeState.step cfg rs relay info) (next s') events).finish cfg rs relay info o o'
      Books cfg rs relay info st0 final ∧ final.turns = s'.turns ++ rest) :
    let final := (Run.exec (RealtimeState.step cfg rs relay info) s (e :: events)).finish cfg rs relay info o o'
    Books cfg rs relay info st0 final ∧ final.turns =
      s₁.turns ++ t :: if t.refused cfg rs relay info then leftOver o o' s₁.usage s₁.localUsage else rest := by
  have hrefused := (preWssConsumeQuota_wallet cfg rs s₁.store hsrc hprice t).2
  have hbilled := books_preConsumeUsage hsrc hprice h t.usage t.outcome
  rw [Run.exec_cons, hstep]
  cases hanswer : (preWssConsumeQuota cfg rs s₁.store relay info t.usage t.outcome).2 with
  | error err =>
    rw [hanswer] at hrefused
    have hlast : t.refused cfg rs relay info = true := by simpa using hrefused
    obtain ⟨hend, hleft⟩ := books_finish hsrc hprice
      (s := { (s₁.preConsumeUsage cfg rs relay info t.usage t.outcome).1 with failed := true }) (hbilled.congr rfl rfl rfl) o o'
    simp only [RealtimeState.preConsumeUsage, hanswer, exec_failed, hlast, if_true] at hend hleft ⊢
    exact ⟨hend, by rw [hleft, List.append_assoc]; rfl⟩
  | ok u =>
    obtain ⟨hend, hrest⟩ := hnext _ hbilled rfl rfl
    simp only [RealtimeState.preConsumeUsage, hanswer, hrefused.1 hanswer, Bool.false_eq_true, if_false] at hend hrest ⊢
    exact ⟨hend, by rw [hrest, List.append_assoc]; rfl⟩

/-- The handler from any state that has not failed: the books are kept, and the turns it adds are those the messages say. -/
theorem books_run (o o' : TurnOutcome) (events : List RealtimeEvent) (h : Books cfg rs relay info st0 s) (hrunning : s.failed = false) :
    let final := (Run.exec (RealtimeState.step cfg rs relay info) s events).finish cfg rs relay info o o'
    Books cfg rs relay info st0 final ∧ final.turns = s.turns ++ billedTurns cfg rs relay info o o' s.usage s.localUsage events := by
  induction events generalizing s with
  | nil => exact books_finish hsrc hprice h o o'
  | cons e events ih =>
    have hgo : ¬ s.failed = true := by simp [hrunning]
    cases e with
    | clientMessage textToken audioToken =>
      have hstep : s.step cfg rs relay info (.clientMessage textToken audioToken) =
        { s with localUsage := s.localUsage.addInput textToken audioToken } := if_neg hgo
      rw [Run.exec_cons, hstep]
      exact ih (h.congr rfl rfl rfl) hrunning
    | serverMessage textToken audioToken =>
      have hstep : s.step cfg rs relay info (.serverMessage textToken audioToken) =
        { s with localUsage := s.localUsage.addOutput textToken audioToken } := if_neg hgo
      rw [Run.exec_cons, hstep]
      exact ih (h.congr rfl rfl rfl) hrunning
    | error =>
      have hstep : s.step cfg rs relay info .error = { s with failed := true } := if_neg hgo
      rw [Run.exec_cons, hstep, exec_failed rfl]
      exact books_finish (s := { s with failed := true }) hsrc hprice (h.congr rfl rfl rfl) o o'
    | responseDone reported answers =>
      refine books_response hsrc hprice ⟨s.usage.add reported, answers⟩ { s with usage := s.usage.add reported }
        ({ · with usage := .none, localUsage := .none }) (h.congr rfl rfl rfl) (if_neg hgo) ?_
      intro s' hbooks _ hfailed
      exact ih (hbooks.congr rfl rfl rfl) (hfailed.trans hrunning)
    | responseDoneWithoutUsage textToken audioToken answers =>
      refine books_response hsrc hprice ⟨s.localUsage.addInput textToken audioToken, answers⟩
        { s with localUsage := s.localUsage.addInput textToken audioToken } ({ · with localUsage := .none }) (h.congr rfl rfl rfl)
        (if_neg hgo) ?_
      intro s' hbooks husage hfailed
      obtain ⟨hend, hturns⟩ := ih (s := { s' with localUsage := .none }) (hbooks.congr rfl rfl rfl) (hfailed.trans hrunning)
      refine ⟨hend, hturns.trans ?_⟩
      simp only [husage]

end Handler

/-- The settlement of a wallet's open session takes the difference, whatever comes of the token's part. -/
theorem settle_wallet {s : BillingSession} {w : WalletFunding} {so : SettleOutcome} (a : Int)
    (hf : s.funding = .wallet w) (hset : s.settled = false) (hfs : s.fundingSettled = false) (hso : so.funding = none) :
    (s.settle cfg st a so).1.userBalance w.userId = st.userBalance w.userId - (a - s.preConsumedQuota) := by
  have hset : ¬ s.settled = true := by simp [hset]
  have hfs : ¬ s.fundingSettled = true := by simp [hfs]
  unfold BillingSession.settle
  rw [if_neg hset]
  simp only [if_neg hfs]
  split
  · rename_i hd
    rw [hd, sub_zero]
  rename_i hd
  obtain ⟨st1, hst1⟩ : ∃ st1, s.funding.settle cfg st (a - s.preConsumedQuota) so.funding = .ok st1 := by
    rw [hso, hf]
    simp only [FundingSource.settle, if_neg hd]
    split <;> exact ⟨_, moveQuota_of_nonneg (by omega)⟩
  have hc := charges_settle hd hst1
  rw [hf] at hc
  have hbal := hc.source
  rw [hst1, ← hbal]
  simp only [BillingSession.settleToken]
  split
  · rfl
  split
  · rename_i st2 h2
    split at h2
    · exact userBalance_movesToken (movesToken_decrease h2) _
    · exact userBalance_movesToken (movesToken_increase h2) _
  · rfl

end RealtimeAux
open RealtimeAux SessionAux

section Session

variable (cfg : Config) (rs : RatioSetting) (info : RealtimeInfo)

/-- The wallet gave the quota of the session's summed usage, to within one unit a turn. -/
def ChargedOnce (st : Store) (userId : Int) (r : Store × List Turn) : Prop :=
  |st.userBalance userId - r.1.userBalance userId -
    calculateAudioQuota cfg rs (info.sessionQuotaInfo (RealtimeUsage.sum (r.2.map Turn.usage)))| ≤ r.2.length

/-- The direct debits of the turns stay within one unit a turn. Where the usage reports no tokens at all the session is settled
on 0, and where the model has a billing expression on the quota of that: then the debits must make up the difference. -/
def DebitsWithinRounding (tiered : Option Int) (turns : List Turn) : Prop :=
  let usage := RealtimeUsage.sum (turns.map Turn.usage)
  let quota := calculateAudioQuota cfg rs (info.sessionQuotaInfo usage)
  if usage.totalTokens = 0 then |turnDebits cfg rs info turns - quota| ≤ turns.length
  else match tiered with
    | none => |turnDebits cfg rs info turns| ≤ turns.length
    | some t => |t + turnDebits cfg rs info turns - quota| ≤ turns.length

end Session

/-- What a realtime session takes from a wallet: its settled quota, and the direct debits of the turns its messages make. -/
theorem realtimeSession_net (cfg : Config) (rs : RatioSetting) (info : RealtimeInfo) {st st1 : Store}
    {relay : RelayInfo} {quota : Int} {o : CreateOutcome} {s : BillingSession}
    (hnew : newBillingSession cfg st relay quota o = (st1, .ok s)) (hquota : 0 ≤ quota)
    (hwallet : s.funding.source = .wallet) (hprice : info.usePrice = false) (events : List RealtimeEvent)
    (o1 o2 : TurnOutcome) (tiered : Option Int) (so : SettleOutcome) (hsettle : so.funding = none) :
    let r := realtimeSession cfg rs info st1 s events o1 o2 tiered so
    r.2 = billedTurns cfg rs s.relayInfo info o1 o2 .none .none events ∧
    st.userBalance relay.userId - r.1.userBalance relay.userId =
      postWssQuota cfg rs info (RealtimeUsage.sum (r.2.map Turn.usage)) tiered + turnDebits cfg rs info r.2 := by
  obtain ⟨hset, hfs, ⟨consumed, hf⟩, hsrc, huser, htook⟩ := newBillingSession_wallet hnew hwallet (.inl hquota)
  have hstart : Books cfg rs s.relayInfo info st1 ⟨st1, .none, .none, .none, false, []⟩ := ⟨by simp [turnDebits], rfl⟩
  obtain ⟨hbooks, hturns⟩ := books_run hsrc hprice o1 o2 events hstart rfl
  have hwal := hbooks.wallet
  rw [huser] at hwal
  refine ⟨hturns, ?_⟩
  simp only [realtimeSession, realtimeHandler]
  rw [hbooks.sum, settle_wallet _ hf hset hfs hsettle, hwal, htook]
  omega

/-- A realtime session on a wallet, of a model without a fixed price, is charged the quota of its summed usage, to within one
unit a turn, exactly when the direct debits of the turns its messages make stay within that. -/
theorem realtime_charged_once_iff (cfg : Config) (rs : RatioSetting) (info : RealtimeInfo) {st st1 : Store}
    {relay : RelayInfo} {quota : Int} {o : CreateOutcome} {s : BillingSession}
    (hnew : newBillingSession cfg st relay quota o = (st1, .ok s)) (hquota : 0 ≤ quota)
    (hwallet : s.funding.source = .wallet) (hprice : info.usePrice = false) (events : List RealtimeEvent)
    (o1 o2 : TurnOutcome) (tiered : Option Int) (so : SettleOutcome) (hsettle : so.funding = none) :
    ChargedOnce cfg rs info st relay.userId (realtimeSession cfg rs info st1 s events o1 o2 tiered so) ↔
      DebitsWithinRounding cfg rs info tiered (billedTurns cfg rs s.relayInfo info o1 o2 .none .none events) := by
  obtain ⟨hturns, hnet⟩ := realtimeSession_net cfg rs info hnew hquota hwallet hprice events o1 o2 tiered so hsettle
  unfold ChargedOnce DebitsWithinRounding
  rw [hnet, hturns]
  simp only [postWssQuota]
  split
  · rw [zero_add]
  cases tiered with
  | none => rw [Option.getD_none, add_sub_cancel_left]
  | some t => rw [Option.getD_some]

/-! ## One turn -/

section Sample

def sampleRatios : RatioSetting := ⟨fun _ => 1, fun _ => 1, fun _ => 1, fun _ => 1, fun _ => 1, fun _ _ => none⟩

/-- A realtime request of a model priced by ratios. -/
def sampleRealtime : RealtimeInfo :=
  ⟨false, "gpt-4o-realtime-preview", "gpt-4o-realtime-preview", "default", "default", none, ⟨0, 1, 1, false⟩⟩

def sampleTurn : TurnOutcome := ⟨.ok 890, .ok (false, 490), none, none⟩

/-- A response of some text tokens read and some written. -/
def textTurn (read written : Int) : RealtimeUsage := ⟨read + written, read, written, 0, read, 0, written, 0⟩

/-- A connection with one response. -/
def sampleSessionOf (usage : RealtimeUsage) : Store × List Turn :=
  realtimeSession sampleConfig sampleRatios sampleRealtime sampleWalletCreated.1 sampleWalletSession
    [.responseDone usage sampleTurn] sampleTurn sampleTurn none ⟨none, none⟩

/-- One turn of 100 tokens read and 100 written is priced 200, and the wallet of 900 has 500 left. -/
theorem one_turn_charged_twice :
    sampleWalletCreated = (sampleWalletCreated.1, .ok sampleWalletSession) ∧
      (sampleStore 0).userBalance 1 = 900 ∧ (sampleSessionOf (textTurn 100 100)).1.userBalance 1 = 500 ∧
      calculateAudioQuota sampleConfig sampleRatios
        (sampleRealtime.sessionQuotaInfo (RealtimeUsage.sum ((sampleSessionOf (textTurn 100 100)).2.map Turn.usage))) = 200 ∧
      ¬ ChargedOnce sampleConfig sampleRatios sampleRealtime (sampleStore 0) 1 (sampleSessionOf (textTurn 100 100)) := by
  refine ⟨sampleWalletCreated_eq, by decide +kernel, by decide +kernel, by decide +kernel, ?_⟩
  unfold ChargedOnce
  decide +kernel

/-- Of 200 tokens the debit is too much; that of a single one stays within the unit a turn may be off by. -/
theorem realtime_charged_once_iff_sample :
    ¬ ChargedOnce sampleConfig sampleRatios sampleRealtime (sampleStore 0) 1 (sampleSessionOf (textTurn 100 100)) ∧
      ChargedOnce sampleConfig sampleRatios sampleRealtime (sampleStore 0) 1 (sampleSessionOf (textTurn 1 0)) := by
  have hiff := fun usage => realtime_charged_once_iff sampleConfig sampleRatios sampleRealtime sampleWalletCreated_eq (by decide) rfl rfl
    [.responseDone usage sampleTurn] sampleTurn sampleTurn none ⟨none, none⟩ rfl
  constructor
  · refine mt (hiff _).1 ?_
    unfold DebitsWithinRounding
    decide +kernel
  · refine (hiff _).2 ?_
    unfold DebitsWithinRounding
    decide +kernel

end Sample

end NewApi
