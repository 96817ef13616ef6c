import NewApi.Lemmas.CreateAux

/-!
# A billing session takes what was settled, and nothing where it was refunded

After any calls on a session that `NewBillingSession` opened, the funding source and the token stand below where they stood before by
exactly what the request has taken: the amount of the first `Settle` that succeeded, nothing once a refund has run, the pre-charge
otherwise. The used amount of a subscription is held at 0 from below, so a settlement on a negative amount gives back no more than was
used.
-/

namespace NewApi
namespace SessionAux

open Tables StoreAux

variable {s : BillingSession} {st st1 st' : Store} {cfg : Config}

/-- The parties of a session: its funding source and its token, as the accounts they are. -/
structure SameParties (s0 s : BillingSession) : Prop where
  funding : ∀ st before n, s.funding.Took st before n ↔ s0.funding.Took st before n
  tokenId : s.relayInfo.tokenId = s0.relayInfo.tokenId
  isPlayground : s.relayInfo.isPlayground = s0.relayInfo.isPlayground

theorem SameParties.refl (s : BillingSession) : SameParties s s := ⟨fun _ _ _ => Iff.rfl, rfl, rfl⟩

theorem SameParties.trans {s0 s' : BillingSession} (h : SameParties s0 s) (h' : SameParties s s') : SameParties s0 s' :=
  ⟨fun st b n => (h'.funding st b n).trans (h.funding st b n), h'.tokenId.trans h.tokenId,
    h'.isPlayground.trans h.isPlayground⟩

inductive Stage (before tokenBefore : Int) (w : World) : Prop where
  /-- The pre-charge is held. -/
  | held (h : Held before tokenBefore w.store w.session) (hjobs : w.jobs = []) (hfirst : w.firstSettled = none)
  /-- The session was settled on `a`. -/
  | settled (a : Int) (hset : w.session.settled = true) (hrefunded : w.session.refunded = false) (hjobs : w.jobs = [])
      (hfirst : w.firstSettled = some a) (hbal : w.session.Balanced) (htook : w.session.funding.Took w.store before a)
      (htok : w.session.relayInfo.TokenTook w.store tokenBefore a)
  /-- A refund took effect and its job has not run: all is as if the pre-charge were held. -/
  | refunding (hrefunded : w.session.refunded = true)
      (h : Held before tokenBefore w.store { w.session with refunded := false }) (hjobs : w.jobs = [jobOf w.session])
      (hfirst : w.firstSettled = none)
  /-- The refund has run. -/
  | refunded (hset : w.session.settled = false) (hrefunded : w.session.refunded = true) (hjobs : w.jobs = [])
      (hfirst : w.firstSettled = none) (hbal : w.session.Balanced) (htook : w.session.funding.Took w.store before 0)
      (htok : w.session.relayInfo.TokenTook w.store tokenBefore 0)

/-! ## What the calls keep -/

/-- What is held stays where nothing is charged. -/
theorem Held.quiet {before tokenBefore : Int} {st' : Store} (h : Held before tokenBefore st s)
    (hc : Charges st st' s.funding 0) : Held before tokenBefore st' s := by
  have hpre := h.sound.pre_nonneg
  have htook := took_charges h.took (h.cut.imp_left (by omega)) hc
  rw [add_zero] at htook
  exact { h with backed := Charges.backed hc h.backed, took := htook, tokenTook := tokenTook_charges hc h.tokenTook }

/-- A reserve that goes through keeps the session held, on the larger pre-charge. -/
theorem Held.reserved {before tokenBefore delta : Int}
    (h : Held before tokenBefore st s) (hd : 0 < delta) (hc : Charges st st1 s.funding delta)
    (hm : MovesToken st1 st' s.relayInfo.tokenId (-tokenShare s.relayInfo delta)) :
    Held before tokenBefore st' (BillingSession.reserved s delta) := by
  have hpre := h.sound.pre_nonneg
  have hext := h.sound.extra_nonneg
  have hbalf := h.balanced.funding
  have hsub := h.sound.sub
  have htook := took_charges h.took (h.cut.imp_left (by omega)) hc
  have htok := tokenTook_moves hm (tokenTook_charges hc h.tokenTook)
  refine ⟨?_, ?_, ?_, ⟨?_, ?_⟩, ⟨?_, ?_, ?_⟩, ?_, ?_, ?_, ?_⟩ <;>
    simp only [BillingSession.reserved, sync_keeps]
  · exact h.settled
  · exact h.fundingSettled
  · exact h.refunded
  · rw [h.balanced.token]
  · cases hf : s.funding with
    | wallet _ | subscription _ =>
      rw [hf] at hbalf
      simp only [bump] at hbalf ⊢
      omega
  · omega
  · omega
  · cases hf : s.funding with
    | wallet w => trivial
    | subscription f =>
      rw [hf] at hsub
      exact ⟨hsub.1, sync_subscriptionId _ rfl⟩
  · exact backed_bump.2 (MovesToken.backed hm (Charges.backed hc h.backed))
  · rcases h.cut with hcut | ⟨w, hw⟩
    · exact .inl hcut
    · rw [hw]
      exact .inr ⟨_, rfl⟩
  · exact took_bump.2 (took_movesToken hm htook)
  · exact (tokenTook_congr (by simp) (by simp)).2 htok

/-- A session that is closed is not refunded. -/
theorem refund_closed (h : s.settled = true ∨ s.refunded = true) : s.refund = (s, none) := by
  unfold BillingSession.refund
  rcases h with h | h <;> simp [h]

/-- A session that is settled is not settled again. -/
theorem settle_closed (h : s.settled = true) (a : Int) (o : SettleOutcome) : s.settle cfg st a o = (st, s, .ok ()) := by
  unfold BillingSession.settle
  rw [if_pos h]

/-- One more `Settle` in the record: the first that succeeded stays, and a failed one is not it. -/
theorem find_append_settle (l : List (Int × Except String Unit)) (a : Int) (r : Except String Unit) :
    ((l ++ [(a, r)]).find? (fun p => p.2.isOk)).map Prod.fst = match (l.find? (fun p => p.2.isOk)).map Prod.fst with
      | some b => some b
      | none => if r.isOk then some a else none := by
  rw [List.find?_append]
  cases h : l.find? (fun p => p.2.isOk) with
  | some p => rfl
  | none => cases hr : r.isOk <;> simp [hr]

theorem sameParties_settledBy (delta : Int) : SameParties s (BillingSession.settledBy s delta) := by
  unfold BillingSession.settledBy BillingSession.notePostDelta
  split <;> exact ⟨fun _ _ _ => Iff.rfl, rfl, rfl⟩

theorem sameParties_reserved (delta : Int) : SameParties s (BillingSession.reserved s delta) := by
  refine ⟨fun st before n => ?_, by simp [BillingSession.reserved], by simp [BillingSession.reserved]⟩
  simp only [BillingSession.reserved, sync_keeps]
  exact took_bump

/-- A settlement keeps the books balanced. -/
theorem settledBy_kept (delta : Int) (h : s.Balanced) :
    (BillingSession.settledBy s delta).Balanced ∧ (BillingSession.settledBy s delta).settled = true ∧
      (BillingSession.settledBy s delta).refunded = s.refunded := by
  unfold BillingSession.settledBy BillingSession.notePostDelta
  split <;> exact ⟨⟨h.token, h.funding⟩, rfl, rfl⟩

/-- After a settlement the settled amount was taken. -/
theorem Held.settle_took {before tokenBefore a : Int} {s' : BillingSession}
    (h : Held before tokenBefore st s) (hc : Charges st st1 s.funding (a - s.preConsumedQuota))
    (hm : MovesToken st1 st' s.relayInfo.tokenId (-tokenShare s.relayInfo (a - s.preConsumedQuota))) (hs' : SameParties s s') :
    s'.funding.Took st' before a ∧ s'.relayInfo.TokenTook st' tokenBefore a := by
  have hpre := h.sound.pre_nonneg
  have htook := took_charges h.took (h.cut.imp_left (by omega)) hc
  have htok := tokenTook_moves hm (tokenTook_charges hc h.tokenTook)
  rw [add_sub_cancel] at htook htok
  exact ⟨(hs'.funding _ _ _).2 (took_movesToken hm htook), (tokenTook_congr hs'.tokenId hs'.isPlayground).2 htok⟩

/-- A refund of a held session hands over its job, or finds nothing to give back. -/
theorem refund_cases : s.refund = (s, none) ∨ s.refund = ({ s with refunded := true }, some (jobOf s)) := by
  unfold BillingSession.refund
  split
  · exact .inl rfl
  · exact .inr rfl

/-! ## One call -/

variable {before tokenBefore : Int} {w : World} (h : Stage before tokenBefore w)

include h

/-- A session is held, with nothing on its way, or it is closed. -/
theorem Stage.held_or_closed : (Held before tokenBefore w.store w.session ∧ w.jobs = [] ∧ w.firstSettled = none) ∨
      w.session.settled = true ∨ w.session.refunded = true := by
  cases h with
  | held h hjobs hfirst => exact .inl ⟨h, hjobs, hfirst⟩
  | settled a hset => exact .inr (.inl hset)
  | refunding hrefunded | refunded _ hrefunded => exact .inr (.inr hrefunded)

/-- A call that changes nothing. -/
theorem Stage.idle {w' : World} (hw : w' = w) : Stage before tokenBefore w' ∧ SameParties w.session w'.session := by
  rw [hw]
  exact ⟨h, SameParties.refl _⟩

/-- A reservation keeps the stage. -/
theorem stage_reserve {t : Int} {o : ReserveOutcome} (ho : o.rollback = none) :
    Stage before tokenBefore (w.step cfg (.reserve t o)) ∧ SameParties w.session (w.step cfg (.reserve t o)).session := by
  rcases h.held_or_closed with ⟨h, hjobs, hfirst⟩ | hclosed
  · obtain ⟨st', s', r, heq, hcase⟩ := reserve_cases cfg (t := t) h.backed ho
    simp only [World.step, heq]
    rcases hcase with ⟨rfl, hc⟩ | ⟨st1, delta, hd, -, -, hc, hm, rfl⟩
    · exact ⟨.held (h.quiet hc) hjobs hfirst, SameParties.refl _⟩
    · exact ⟨.held (h.reserved hd hc hm) hjobs hfirst, sameParties_reserved _⟩
  · exact h.idle (by rw [World.step, BillingSession.reserve, if_pos (hclosed.imp_right .inl)])

/-- `Settle` keeps the stage or settles a held session, where no refund has taken effect before it. -/
theorem stage_settle {a : Int} {o : SettleOutcome} (ho : o.token = none) (hproper : w.session.refunded = false) :
    Stage before tokenBefore (w.step cfg (.settle a o)) ∧ SameParties w.session (w.step cfg (.settle a o)).session := by
  cases h with
  | held h hjobs hfirst =>
    rcases settle_cases cfg (a := a) h.settled h.fundingSettled h.backed ho with
      ⟨e, heq⟩ | ⟨st1, st', s', heq, hc, hm, hs'⟩
    · simp only [World.step, heq]
      refine ⟨.held h hjobs ?_, SameParties.refl _⟩
      unfold World.firstSettled at hfirst ⊢
      simp only [find_append_settle, hfirst]
      rfl
    · have hparties : SameParties w.session s' := by
        rcases hs' with rfl | rfl
        · exact ⟨fun _ _ _ => Iff.rfl, rfl, rfl⟩
        · exact sameParties_settledBy _
      have hkept : s'.Balanced ∧ s'.settled = true ∧ s'.refunded = w.session.refunded := by
        rcases hs' with rfl | rfl
        · exact ⟨⟨h.balanced.token, h.balanced.funding⟩, rfl, rfl⟩
        · exact settledBy_kept _ h.balanced
      obtain ⟨htook, htok⟩ := h.settle_took hc hm hparties
      simp only [World.step, heq]
      refine ⟨.settled a hkept.2.1 (hkept.2.2.trans hproper) hjobs ?_ hkept.1 htook htok, hparties⟩
      unfold World.firstSettled at hfirst ⊢
      simp only [find_append_settle, hfirst]
      rfl
  | settled b hset hrefunded hjobs hfirst hbal htook htok =>
    simp only [World.step, settle_closed hset]
    refine ⟨.settled b hset hrefunded hjobs ?_ hbal htook htok, SameParties.refl _⟩
    unfold World.firstSettled at hfirst ⊢
    simp only [find_append_settle, hfirst]
  | refunding hrefunded _ _ _ | refunded _ hrefunded _ _ _ _ _ =>
    rw [hproper] at hrefunded
    cases hrefunded

/-- `Refund` keeps the stage or starts the refund of a held session. -/
theorem stage_refund : Stage before tokenBefore (w.step cfg .refund) ∧ SameParties w.session (w.step cfg .refund).session := by
  have hidle : w.session.refund = (w.session, none) → w.step cfg .refund = w := by
    intro heq
    simp only [World.step, heq, Option.toList_none, List.append_nil]
  rcases h.held_or_closed with ⟨hheld, hjobs, hfirst⟩ | hclosed
  · rcases refund_cases with heq | heq
    · exact h.idle (hidle heq)
    simp only [World.step, heq, Option.toList_some, hjobs, List.nil_append]
    refine ⟨.refunding rfl ?_ rfl hfirst, ⟨fun _ _ _ => Iff.rfl, rfl, rfl⟩⟩
    have hflag := hheld.refunded
    simp only [← hflag]
    exact hheld
  · exact h.idle (hidle (refund_closed hclosed))

/-- A refund job that runs ends the refund under way. -/
theorem stage_runJob {o : RefundOutcome} (ho : (Call.runJob o).creditsSucceed) :
    Stage before tokenBefore (w.step cfg (.runJob o)) ∧ SameParties w.session (w.step cfg (.runJob o)).session := by
  have hidle : w.jobs = [] → w.step cfg (.runJob o) = w := fun hjobs => by rw [World.step, hjobs]
  cases hstage : h with
  | held _ hjobs | settled _ _ _ hjobs | refunded _ _ hjobs => exact h.idle (hidle hjobs)
  | refunding hrefunded h hjobs hfirst =>
    simp only [World.step, hjobs]
    obtain ⟨htook, htok⟩ := perform_took cfg ho h.balanced h.sound h.backed h.cut h.took h.tokenTook
    exact ⟨.refunded h.settled hrefunded rfl hfirst ⟨h.balanced.token, h.balanced.funding⟩ htook htok, SameParties.refl _⟩

/-- Every call, as the callers make it, keeps the stages and the parties. -/
theorem stage_step {c : Call} (hc : c.Proper w) :
    Stage before tokenBefore (w.step cfg c) ∧ SameParties w.session (w.step cfg c).session := by
  cases c with
  | reserve t o => exact stage_reserve h hc.1
  | settle a o => exact stage_settle h hc.1 (hc.2 a o rfl)
  | refund => exact stage_refund h
  | runJob o => exact stage_runJob h hc.1

/-- At every stage the books agree and the parties have given what the request has taken. -/
theorem Stage.taken : w.session.Balanced ∧ w.session.funding.Took w.store before w.taken ∧
      w.session.relayInfo.TokenTook w.store tokenBefore w.taken := by
  unfold World.taken
  cases h with
  | held h hjobs hfirst =>
    simp only [hfirst, h.refunded, Bool.false_eq_true, false_and, if_false]
    exact ⟨h.balanced, h.took, h.tokenTook⟩
  | settled a hset hrefunded hjobs hfirst hbal htook htok =>
    simp only [hfirst]
    exact ⟨hbal, htook, htok⟩
  | refunding hrefunded h hjobs hfirst =>
    simp only [hfirst, hjobs, List.cons_ne_nil, and_false, if_false]
    exact ⟨⟨h.balanced.token, h.balanced.funding⟩, h.took, h.tokenTook⟩
  | refunded hset hrefunded hjobs hfirst hbal htook htok =>
    simp only [hfirst, hrefunded, hjobs, and_self, if_true]
    exact ⟨hbal, htook, htok⟩

end SessionAux

open SessionAux Tables

/-- Conservation. Take a session that `NewBillingSession` opened on a new request id, with a requested amount that is not
negative unless the pre-charge was bypassed or a subscription was charged, and any run of calls as the callers make them. Then
the books of the session agree, the funding source stands below where it stood before the pre-charge by what the request has
taken (for a subscription, as far as its used amount can go back), the token stands below by the same amount (in the playground
by nothing), and a further `Settle` of a settled session or `Refund` of a closed one changes nothing. -/
theorem billingSession_conservation (cfg : Config) {st st' : Store} {info : RelayInfo} {quota : Int} {o : CreateOutcome}
    {s : BillingSession} (hnew : newBillingSession cfg st info quota o = (st', .ok s))
    (hfresh : st.records.lookup info.requestId = none)
    (hrollback : o.wallet.rollback = none ∧ o.subscription.rollback = none)
    (hquota : 0 ≤ quota ∨ s.trusted = true ∨ s.funding.source = .subscription) (calls : List Call)
    (hcalls : Run.Along (World.step cfg) (fun w c => c.Proper w) (World.start st' s) calls) :
    let w := Run.exec (World.step cfg) (World.start st' s) calls
    w.session.Balanced ∧
      s.funding.Took w.store (s.funding.standing cfg st o.subscription.now) w.taken ∧
      s.relayInfo.TokenTook w.store (st.tokenBalance info.tokenId) w.taken ∧
      (∀ a so, w.session.settled = true → w.session.settle cfg w.store a so = (w.store, w.session, .ok ())) ∧
      (w.session.settled = true ∨ w.session.refunded = true → w.session.refund = (w.session, none)) := by
  obtain ⟨hheld, -⟩ := newBillingSession_ok hfresh hrollback.1 hrollback.2 hquota hnew
  -- along the run: the stage, and the parties of the session as it was opened
  have hrun := hcalls.invariant (P := fun w => Stage (s.funding.standing cfg st o.subscription.now)
      (st.tokenBalance info.tokenId) w ∧ SameParties s w.session)
    (fun w c hc ⟨hw, hp⟩ => ⟨(stage_step hw hc).1, hp.trans (stage_step hw hc).2⟩)
    ⟨.held hheld rfl rfl, SameParties.refl s⟩
  obtain ⟨hstage, hparties⟩ := hrun
  obtain ⟨hbal, htook, htok⟩ := hstage.taken
  exact ⟨hbal, (hparties.funding _ _ _).1 htook, (tokenTook_congr hparties.tokenId hparties.isPlayground).1 htok,
    fun a so hset => settle_closed hset a so, refund_closed⟩

/-! ## A subscription gives back no more than it had used -/

section Sample

/-- The creation of a session on the subscription that had used nothing, pre-charged 10. -/
def sampleCreated : Store × Except NewAPIError BillingSession :=
  newBillingSession sampleConfig (sampleStore 0) (sampleInfo "subscription_only") 10 sampleCreate

def sampleSession : BillingSession :=
  ⟨{ sampleInfo "subscription_only" with
      finalPreConsumedQuota := 10, billingSource := some .subscription, subscriptionId := 7, subscriptionPreConsumed := 10,
      subscriptionAmountTotal := 100, subscriptionAmountUsedAfterPreConsume := 10, subscriptionPlanId := 1,
      subscriptionPlanTitle := "basic" },
    .subscription ⟨"20260101-a", 1, "gpt-4o", 10, 7, 10, 100, 10, 1, "basic"⟩, 10, 10, 0, false, false, false, false⟩

theorem sampleCreated_eq : sampleCreated = (sampleCreated.1, .ok sampleSession) :=
  Prod.ext rfl (by decide +kernel)

/-- Settled on -5, the subscription stands at the 0 it had used before the request: it has not got the 5 that exact
conservation would give it. -/
theorem settle_below_used_not_exact :
    sampleCreated = (sampleCreated.1, .ok sampleSession) ∧
      let w := Run.exec (World.step sampleConfig) (World.start sampleCreated.1 sampleSession) [.settle (-5) ⟨none, none⟩]
      w.firstSettled = some (-5) ∧
        sampleSession.funding.standing sampleConfig (sampleStore 0) 1000 = 0 ∧
        (w.store.subs.lookup 7).map UserSubscription.amountUsed = some 0 ∧
        ¬ (w.store.subs.lookup 7).map UserSubscription.amountUsed = some (0 + -5) :=
  ⟨sampleCreated_eq, by decide +kernel, by decide +kernel, by decide +kernel, by decide +kernel⟩

/-- A reserve up to 30, a settlement on 25 and a refund that comes too late. -/
def sampleCalls : List Call := [.reserve 30 ⟨none, ⟨.ok 490, none⟩, none⟩, .settle 25 ⟨none, none⟩, .refund]

theorem sampleCalls_proper :
    Run.Along (World.step sampleConfig) (fun w c => c.Proper w) (World.start sampleCreated.1 sampleSession) sampleCalls := by
  refine ⟨⟨rfl, fun a o h => by cases h⟩, ⟨rfl, fun a o _ => ?_⟩, ⟨trivial, fun a o h => by cases h⟩, trivial⟩
  decide +kernel

theorem billingSession_conservation_sample :
    sampleCreated = (sampleCreated.1, .ok sampleSession) ∧
      let w := Run.exec (World.step sampleConfig) (World.start sampleCreated.1 sampleSession) sampleCalls
      w.taken = 25 ∧ w.session.Balanced ∧ sampleSession.funding.Took w.store 0 w.taken ∧
        sampleSession.relayInfo.TokenTook w.store 500 w.taken := by
  have h := billingSession_conservation sampleConfig sampleCreated_eq (by decide +kernel) ⟨rfl, rfl⟩ (.inl (by decide))
    sampleCalls sampleCalls_proper
  exact ⟨sampleCreated_eq, by decide +kernel, h.1, h.2.1, h.2.2.1⟩

end Sample

end NewApi
