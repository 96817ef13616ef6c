import NewApi.Model.TopUp

/-!
# An order is successful exactly when it was credited

`order_success_iff_credited` follows one order through any deliveries, completions by hand and failed statements. It asks that a call that
marks the order also pays it (`PaysStep`). The transactions do, but for a user who is gone and a quota of nothing. `EpayNotify` does not:
where the increase is refused the order stays successful, and a second delivery passes over it (`epay_marks_without_credit`). Nothing
happens to an order that is not pending (`ended_order_stays`).
-/

namespace NewApi

open Run Tables

namespace TopUpAux

variable {env : TopUpEnv} {db : TopUpDb} {e : TopUpEvent} {t : String} {c : Completion} {credits : List (String × Int)}

/-! ## How a call can go -/

/-- Everything a call can do: nothing; end a pending order otherwise; mark it without a credit, which a call that pays does not; or mark
it and credit its user. -/
inductive TopUpWay (env : TopUpEnv) (db : TopUpDb) (e : TopUpEvent) : TopUpDb → Prop
  | stays : TopUpWay env db e db
  | closes (topUp topUp' : TopUp) (hlook : db.orders.lookup e.tradeNo = some topUp) (hpending : topUp.status = .pending)
      (hkey : topUp'.tradeNo = topUp.tradeNo) (hstatus : topUp'.status ≠ .success) :
      TopUpWay env db e { db with orders := db.orders.save topUp' }
  | marks (topUp topUp' : TopUp) (hlook : db.orders.lookup e.tradeNo = some topUp) (hpending : topUp.status = .pending)
      (hkey : topUp'.tradeNo = topUp.tradeNo) (hunpaid : ¬e.call.Pays env e.increase topUp) :
      TopUpWay env db e { db with orders := db.orders.save topUp' }
  | credits (topUp topUp' : TopUp) (quota : Int) (touch : TopUpUser → TopUpUser) (hlook : db.orders.lookup e.tradeNo = some topUp)
      (hpending : topUp.status = .pending) (hkey : topUp'.tradeNo = topUp.tradeNo) (hstatus : topUp'.status = .success)
      (hquota : e.call.Pays env e.increase topUp → 0 < quota) (htouch : ∀ u, (touch u).quota = u.quota + quota) :
      TopUpWay env db e (TopUpDb.updateUser { db with orders := db.orders.save topUp' } topUp.userId touch)

/-- What a transactional completion does where it goes through. -/
theorem run_way {db' : TopUpDb} (h : c.run db e.tradeNo e.now e.read e.write = .ok db') (htouch : ∀ u, (c.touch u).quota = u.quota)
    (hpays : ∀ topUp, e.call.Pays env e.increase topUp → c.rejectsEmpty = true ∨ 0 < c.quota topUp) : TopUpWay env db e db' := by
  unfold Completion.run at h
  split at h
  · cases h
  · cases h
  · rename_i topUp _ hlook
    split at h
    · cases h
    split at h
    · rw [← Except.ok.inj h]
      exact .stays
    split at h
    · cases h
    rename_i hpending
    split at h
    · cases h
    rename_i hempty
    split at h
    · cases h
    split at h
    · cases h
    rw [← Except.ok.inj h]
    refine .credits topUp _ (c.quota topUp) _ hlook (not_not.1 hpending) rfl rfl (fun hp => ?_) (fun u => htouch _)
    rcases hpays topUp hp with hrejects | hpos
    · by_contra hle
      exact hempty ⟨hrejects, not_lt.1 hle⟩
    · exact hpos

/-- A gateway's completion leaves the tables or goes through. -/
theorem recharged_way (htouch : ∀ u, (c.touch u).quota = u.quota)
    (hpays : ∀ topUp, e.call.Pays env e.increase topUp → c.rejectsEmpty = true ∨ 0 < c.quota topUp) :
    TopUpWay env db e (recharged db (c.run db e.tradeNo e.now e.read e.write)).1 := by
  cases hrun : c.run db e.tradeNo e.now e.read e.write with
  | error msg => exact .stays
  | ok db' => exact run_way hrun htouch hpays

/-- A notification of epay. -/
theorem epayNotify_way {note : EpayNotification} (hcall : e.call = .epayNotify note) :
    TopUpWay env db e (epayNotify env db e.tradeNo note e.read e.write e.increase).1 := by
  unfold epayNotify
  split
  · exact .stays
  split
  · exact .stays
  split
  · exact .stays
  · exact .stays
  · rename_i topUp _ hlook
    split
    · exact .stays
    rename_i hopen
    rw [not_or, not_not, not_not] at hopen
    split
    · exact .stays
    simp only
    split
    · rename_i hrefused
      refine .marks topUp _ hlook hopen.2 rfl fun hpays => ?_
      rw [hcall] at hpays
      rcases hrefused with hneg | hfault
      · exact absurd hpays.2 (not_lt.2 hneg.le)
      · exact hfault hpays.1
    · refine .credits topUp _ _ _ hlook hopen.2 rfl rfl (fun hpays => ?_) fun _ => rfl
      rw [hcall] at hpays
      exact hpays.2

/-- An order is closed. -/
theorem close_way (expected : PaymentProvider) (expired : Bool) :
    TopUpWay env db e (updatePendingTopUpStatus db e.tradeNo expected expired e.read e.write).1 := by
  unfold updatePendingTopUpStatus
  split
  · exact .stays
  split
  · exact .stays
  · exact .stays
  · rename_i topUp _ hlook
    split
    · exact .stays
    split
    · exact .stays
    rename_i hpending
    split
    · exact .stays
    · refine .closes topUp _ hlook (not_not.1 hpending) rfl ?_
      cases expired <;> simp

/-- The ways of a call. -/
theorem topUpStep_way (env : TopUpEnv) (db : TopUpDb) (e : TopUpEvent) : TopUpWay env db e (topUpStep env db e) := by
  unfold topUpStep
  split
  · exact epayNotify_way ‹_›
  · rename_i customerId hcall
    unfold recharge
    split
    · exact .stays
    refine recharged_way (fun _ => rfl) fun topUp hpays => .inr ?_
    rw [hcall] at hpays
    exact hpays
  · rename_i customerEmail hcall
    unfold rechargeCreem
    split
    · exact .stays
    refine recharged_way (fun u => ?_) fun topUp hpays => .inr ?_
    · simp only [creemCompletion]
      split <;> rfl
    · rw [hcall] at hpays
      exact hpays
  · unfold rechargeWaffo
    split
    · exact .stays
    · exact recharged_way (fun _ => rfl) fun _ _ => .inl rfl
  · unfold rechargeWaffoPancake
    split
    · exact .stays
    · exact recharged_way (fun _ => rfl) fun _ _ => .inl rfl
  · unfold manualCompleteTopUp
    split
    · exact .stays
    split
    · exact .stays
    · rename_i db' hrun
      exact run_way hrun (fun _ => rfl) fun _ _ => .inl rfl
  · exact close_way _ _

/-! ## One order -/

/-- What the credits of a run are for one order. -/
def creditsFor (t : String) (credits : List (String × Int)) : List (String × Int) := credits.filter fun c => decide (c.1 = t)

theorem creditsFor_append (credits more : List (String × Int)) :
    creditsFor t (credits ++ more) = creditsFor t credits ++ creditsFor t more := List.filter_append _ _

/-- The order is successful and was credited once, or neither. -/
def Agrees (t : String) (db : TopUpDb) (credits : List (String × Int)) : Prop :=
  ∃ topUp, db.orders.lookup t = some topUp ∧
    ((topUp.status ≠ .success ∧ creditsFor t credits = []) ∨
      (topUp.status = .success ∧ ∃ quota, 0 < quota ∧ creditsFor t credits = [(t, quota)]))

theorem lookup_save_order {topUp topUp' : TopUp} (hlook : db.orders.lookup e.tradeNo = some topUp) (hkey : topUp'.tradeNo = topUp.tradeNo) :
    (db.orders.save topUp').lookup t = if t = e.tradeNo then some topUp' else db.orders.lookup t := by
  have hid : topUp'.tradeNo = e.tradeNo := hkey.trans (Table.lookup_key hlook)
  rw [Table.lookup_save, hid]
  split
  · rename_i ht
    rw [ht, hlook]
    rfl
  · rfl

/-- A call for another order leaves this one, and credits nothing for it. -/
theorem topUpStep_other (hother : e.tradeNo ≠ t) :
    (topUpStep env db e).orders.lookup t = db.orders.lookup t ∧ creditsFor t (topUpCredits env db e) = [] := by
  refine ⟨?_, ?_⟩
  · have hway := topUpStep_way env db e
    generalize topUpStep env db e = db' at hway ⊢
    cases hway with
    | stays => rfl
    | closes _ _ hlook _ hkey _ | marks _ _ hlook _ hkey _ | credits _ _ _ _ hlook _ hkey _ _ _ =>
      exact (lookup_save_order hlook hkey).trans (if_neg (Ne.symm hother))
  · unfold topUpCredits
    split
    · rfl
    simp only
    split
    · rfl
    · simp [creditsFor, hother]

/-- What an update adds to the quota of a user who is there. -/
theorem quotaOf_updateUser {id quota : Int} {touch : TopUpUser → TopUpUser} (huser : (db.users id).isSome = true)
    (htouch : ∀ u, (touch u).quota = u.quota + quota) : (db.updateUser id touch).quotaOf id = db.quotaOf id + quota := by
  obtain ⟨u, hu⟩ := Option.isSome_iff_exists.1 huser
  simp [TopUpDb.quotaOf, TopUpDb.updateUser, hu, htouch]

theorem agrees_own (hpays : PaysStep env e.tradeNo db e) (h : Agrees e.tradeNo db credits) :
    Agrees e.tradeNo (topUpStep env db e) (credits ++ topUpCredits env db e) := by
  obtain ⟨topUp, hlook, hagrees⟩ := h
  have hmore : topUpCredits env db e =
      if (topUpStep env db e).quotaOf topUp.userId - db.quotaOf topUp.userId = 0 then []
      else [(e.tradeNo, (topUpStep env db e).quotaOf topUp.userId - db.quotaOf topUp.userId)] := by
    simp only [topUpCredits, hlook]
  obtain ⟨huser, hcall⟩ := hpays rfl topUp hlook
  have hway := topUpStep_way env db e
  generalize topUpStep env db e = db', topUpCredits env db e = more at hway hmore ⊢
  have hfresh : topUp.status = .pending → creditsFor e.tradeNo credits = [] := by
    intro hpending
    rcases hagrees with ⟨-, hnone⟩ | ⟨hsuccess, -⟩
    · exact hnone
    · rw [hpending] at hsuccess
      cases hsuccess
  cases hway with
  | stays =>
    rw [sub_self, if_pos rfl] at hmore
    rw [hmore, List.append_nil]
    exact ⟨topUp, hlook, hagrees⟩
  | closes found topUp' hfound hpending hkey hstatus =>
    rw [hlook] at hfound
    cases hfound
    have hgained : TopUpDb.quotaOf { db with orders := db.orders.save topUp' } topUp.userId - db.quotaOf topUp.userId = 0 := sub_self _
    rw [if_pos hgained] at hmore
    rw [hmore, List.append_nil]
    exact ⟨topUp', (lookup_save_order hlook hkey).trans (if_pos rfl), .inl ⟨hstatus, hfresh hpending⟩⟩
  | marks found topUp' hfound hpending hkey hunpaid =>
    rw [hlook] at hfound
    cases hfound
    exact absurd hcall hunpaid
  | credits found topUp' quota touch hfound hpending hkey hstatus hquota htouch =>
    rw [hlook] at hfound
    cases hfound
    have hgained : (TopUpDb.updateUser { db with orders := db.orders.save topUp' } topUp.userId touch).quotaOf topUp.userId =
        db.quotaOf topUp.userId + quota := quotaOf_updateUser huser htouch
    rw [hgained, add_sub_cancel_left, if_neg (hquota hcall).ne'] at hmore
    refine ⟨topUp', (lookup_save_order hlook hkey).trans (if_pos rfl), .inr ⟨hstatus, quota, hquota hcall, ?_⟩⟩
    rw [creditsFor_append, hfresh hpending, hmore]
    simp [creditsFor]

/-- Every call that pays keeps the agreement. -/
theorem agrees_step (hpays : PaysStep env t db e) (h : Agrees t db credits) :
    Agrees t (topUpStep env db e) (credits ++ topUpCredits env db e) := by
  by_cases hown : e.tradeNo = t
  · subst hown
    exact agrees_own hpays h
  obtain ⟨hlook, hnone⟩ := topUpStep_other hown
  obtain ⟨topUp, hfound, hagrees⟩ := h
  refine ⟨topUp, hlook.trans hfound, ?_⟩
  rw [creditsFor_append, hnone, List.append_nil]
  exact hagrees

end TopUpAux

open TopUpAux

/-- In every sequence of calls for top-up orders, with any statement of any call refused, in which the calls for order `t` pay: the order
is successful exactly when its user's quota was increased for it, and it was increased once at most. -/
theorem order_success_iff_credited (env : TopUpEnv) (db : TopUpDb) (t : String) (topUp : TopUp)
    (hlook : db.orders.lookup t = some topUp) (hpending : topUp.status = .pending) (es : List TopUpEvent)
    (hpays : Along (topUpStep env) (PaysStep env t) db es) :
    ∀ pre, pre <+: es →
      ((((exec (topUpStep env) db pre).orders.lookup t).map (·.status) = some .success ↔
          ∃ quota, 0 < quota ∧ (t, quota) ∈ trace (topUpStep env) (topUpCredits env) db pre) ∧
        (creditsFor t (trace (topUpStep env) (topUpCredits env) db pre)).length ≤ 1) := by
  rintro pre ⟨post, rfl⟩
  have hpre := ((along_append _ _ pre post).1 hpays).1
  have h0 : Agrees t db [] := by
    refine ⟨topUp, hlook, .inl ⟨?_, rfl⟩⟩
    rw [hpending]
    intro hsuccess
    cases hsuccess
  obtain ⟨found, hfound, hagrees⟩ := hpre.invariant_traced (fun _ _ _ hok h => agrees_step hok h) h0
  rw [List.nil_append] at hagrees
  have hmem : ∀ quota, (t, quota) ∈ trace (topUpStep env) (topUpCredits env) db pre ↔
      (t, quota) ∈ creditsFor t (trace (topUpStep env) (topUpCredits env) db pre) := by
    intro quota
    simp [creditsFor]
  simp only [hfound, Option.map_some, Option.some.injEq, hmem]
  rcases hagrees with ⟨hopen, hnone⟩ | ⟨hsuccess, quota, hpos, hone⟩
  · simp [hnone, hopen]
  · rw [hone]
    exact ⟨⟨fun _ => ⟨quota, hpos, List.mem_singleton_self _⟩, fun _ => hsuccess⟩, le_refl 1⟩

/-- An order that is no longer pending is never touched again: whatever calls for it or for other orders follow, and whichever of their
statements are refused, its row stays as it is and nothing more is credited for it. -/
theorem ended_order_stays (env : TopUpEnv) (db : TopUpDb) (t : String) (topUp : TopUp) (hlook : db.orders.lookup t = some topUp)
    (hended : topUp.status ≠ .pending) (es : List TopUpEvent) :
    (exec (topUpStep env) db es).orders.lookup t = some topUp ∧ creditsFor t (trace (topUpStep env) (topUpCredits env) db es) = [] := by
  have hstep : ∀ db e, db.orders.lookup t = some topUp →
      (topUpStep env db e).orders.lookup t = some topUp ∧ creditsFor t (topUpCredits env db e) = [] := by
    intro db e hlook
    by_cases hown : e.tradeNo = t
    · subst hown
      -- every way but the first is open to pending orders only
      have hsame : topUpStep env db e = db := by
        have hway := topUpStep_way env db e
        generalize topUpStep env db e = db' at hway
        cases hway with
        | stays => rfl
        | closes _ _ hfound hpending | marks _ _ hfound hpending | credits _ _ _ _ hfound hpending =>
          exact absurd hpending (Option.some.inj (hlook.symm.trans hfound) ▸ hended)
      simp [topUpCredits, hsame, hlook, creditsFor]
    · obtain ⟨hother, hnone⟩ := @topUpStep_other env db e t hown
      exact ⟨hother.trans hlook, hnone⟩
  induction es generalizing db with
  | nil => exact ⟨hlook, rfl⟩
  | cons e es ih =>
    obtain ⟨hnext, hnone⟩ := hstep db e hlook
    simpa [creditsFor_append, hnone] using ih _ hnext

namespace TopUpAux

def defaultUnits : TopUpEnv := ⟨500000, fun money => Rounding.trunc (money * 500000)⟩

def pendingOrder (provider : PaymentProvider) (amount : Int) : TopUp :=
  { tradeNo := "T1", userId := 1, amount := amount, money := 3, paymentMethod := "alipay", paymentProvider := provider }

/-- The tables with one order, whose user has a quota of 100. -/
def oneOrder (topUp : TopUp) : TopUpDb where
  orders := ⟨[topUp], List.nodup_singleton _⟩
  users id := if id = topUp.userId then some ⟨100, "", ""⟩ else none

def epayDelivery (write increase : Fault) : TopUpEvent :=
  { tradeNo := "T1", call := .epayNotify ⟨true, true, "alipay"⟩, write := write, increase := increase }

end TopUpAux

theorem order_success_iff_credited_sample :
    let es := [epayDelivery (some "connection lost") none, epayDelivery none none, epayDelivery none none,
      { tradeNo := "T1", call := .manual, now := 5 }]
    trace (topUpStep defaultUnits) (topUpCredits defaultUnits) (oneOrder (pendingOrder .epay 3)) es = [("T1", 1500000)] ∧
      (creditsFor "T1" (trace (topUpStep defaultUnits) (topUpCredits defaultUnits) (oneOrder (pendingOrder .epay 3)) es)).length ≤ 1 := by
  refine ⟨by decide +kernel, ?_⟩
  exact (order_success_iff_credited defaultUnits (oneOrder (pendingOrder .epay 3)) "T1" _ rfl rfl _ (by decide +kernel) _ List.prefix_rfl).2

theorem ended_order_stays_sample :
    creditsFor "T1" (trace (topUpStep defaultUnits) (topUpCredits defaultUnits) (oneOrder { pendingOrder .epay 3 with status := .success })
      [epayDelivery none none, { tradeNo := "T1", call := .manual }]) = [] :=
  (ended_order_stays defaultUnits (oneOrder { pendingOrder .epay 3 with status := .success }) "T1" _ rfl (by decide) _).2

/-- The increase of the quota is refused after the order was marked: the order is successful, nothing was credited, and neither a second
delivery nor a completion by hand credits it. -/
theorem epay_marks_without_credit :
    let es := [epayDelivery none (some "connection lost"), epayDelivery none none, { tradeNo := "T1", call := .manual, now := 5 }]
    ((exec (topUpStep defaultUnits) (oneOrder (pendingOrder .epay 3)) es).orders.lookup "T1").map (·.status) = some .success ∧
      trace (topUpStep defaultUnits) (topUpCredits defaultUnits) (oneOrder (pendingOrder .epay 3)) es = [] := by
  decide +kernel

end NewApi
