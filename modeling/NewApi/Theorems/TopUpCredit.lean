import NewApi.Theorems.TopUpOnce

/-!
# What a top-up credits

The completion by hand credits what the gateway's own does for every order but those of Creem, whose `Amount` is raw quota and seldom
worth itself as units (`manual_credits_as_gateway`, `manual_multiplies_creem`).

A request in tokens is priced for the tokens asked for, but the order keeps whole units only, so those tokens are credited exactly when
they are what a number of units is worth (`tokens_credited`, `tokens_cut`).
-/

namespace NewApi

open Tables

namespace CreditAux

open TopUpAux

variable {env : TopUpEnv} {db : TopUpDb} {topUp : TopUp} {c : Completion}

/-! ## Completions of a pending order -/

/-- The tables a transaction leaves. -/
def settled (db : TopUpDb) : Except String TopUpDb → TopUpDb
  | .error _ => db
  | .ok db' => db'

theorem recharged_fst (result : Except String TopUpDb) : (recharged db result).1 = settled db result := by
  cases result <;> rfl

/-- What a completion credits for a pending order. -/
def gain (c : Completion) (topUp : TopUp) : Int := if c.rejectsEmpty = true ∧ c.quota topUp ≤ 0 then 0 else c.quota topUp

/-- A completion that refuses to credit nothing credits a positive quota or none. -/
theorem gain_of_rejectsEmpty (h : c.rejectsEmpty = true) : gain c topUp = max 0 (c.quota topUp) := by
  unfold gain
  rw [h]
  by_cases hle : c.quota topUp ≤ 0
  · rw [if_pos ⟨rfl, hle⟩, max_eq_left hle]
  · rw [if_neg fun hempty => hle hempty.2, max_eq_right (not_le.1 hle).le]

theorem quotaOf_updateUser_of {id quota : Int} {touch : TopUpUser → TopUpUser} (htouch : ∀ u, (touch u).quota = u.quota + quota) (k : Int) :
    (db.updateUser id touch).quotaOf k = db.quotaOf k + if k = id ∧ (db.users k).isSome = true then quota else 0 := by
  by_cases hk : k = id
  · subst hk
    by_cases huser : (db.users k).isSome = true
    · rw [if_pos ⟨rfl, huser⟩]
      exact quotaOf_updateUser huser htouch
    · rw [Option.not_isSome_iff_eq_none] at huser
      simp [TopUpDb.quotaOf, TopUpDb.updateUser, huser]
  · simp [TopUpDb.quotaOf, TopUpDb.updateUser, hk]

theorem quotaOfUnits_zero (env : TopUpEnv) : env.quotaOfUnits 0 = 0 := by
  have htrunc : Rounding.trunc 0 = 0 := by
    exact_mod_cast Rounding.trunc_intCast 0
  rw [TopUpEnv.quotaOfUnits, zero_mul, htrunc, Rounding.int64_of_lt (by decide) (by decide)]

variable (hlook : db.orders.lookup topUp.tradeNo = some topUp) (hpending : topUp.status = .pending)

include hlook hpending

/-- A completion of a pending order that does not fail credits its gain to the order's user. -/
theorem quotaOf_settled
    (hexpects : ∀ provider ∈ c.expects, topUp.paymentProvider = provider) (htouch : ∀ u, (c.touch u).quota = u.quota) (now k : Int) :
    (settled db (c.run db topUp.tradeNo now none none)).quotaOf k =
      db.quotaOf k + if k = topUp.userId ∧ (db.users k).isSome = true then gain c topUp else 0 := by
  have hprovider : ¬∃ provider ∈ c.expects, topUp.paymentProvider ≠ provider := by
    rintro ⟨provider, hmem, hne⟩
    exact hne (hexpects provider hmem)
  have hnotSuccess : ¬(c.acceptsSuccess = true ∧ topUp.status = .success) := by
    rw [hpending]
    rintro ⟨-, hsuccess⟩
    cases hsuccess
  simp only [Completion.run, hlook]
  rw [if_neg hprovider, if_neg hnotSuccess, if_neg (not_not.2 hpending)]
  unfold gain
  by_cases hempty : c.rejectsEmpty = true ∧ c.quota topUp ≤ 0
  · rw [if_pos hempty, if_pos hempty, ite_self, add_zero]
    rfl
  rw [if_neg hempty, if_neg hempty]
  split
  · rename_i hgone
    have hnone : ¬(k = topUp.userId ∧ (db.users k).isSome = true) := by
      rintro ⟨rfl, hsome⟩
      rw [hgone.2] at hsome
      cases hsome
    rw [if_neg hnone, add_zero]
    rfl
  · have hcredit : ∀ u : TopUpUser, (c.touch { u with quota := u.quota + c.quota topUp }).quota = u.quota + c.quota topUp :=
      fun u => htouch _
    exact quotaOf_updateUser_of hcredit k

/-- `EpayNotify` for a pending order, none of whose statements fails. -/
theorem quotaOf_epayNotify (env : TopUpEnv) (hprovider : topUp.paymentProvider = .epay) (type : String) (k : Int) :
    (epayNotify env db topUp.tradeNo ⟨true, true, type⟩ none none none).1.quotaOf k =
      db.quotaOf k + if k = topUp.userId ∧ (db.users k).isSome = true then max 0 (env.quotaOfUnits topUp.amount) else 0 := by
  simp only [epayNotify, hlook, hpending, hprovider, ne_eq, not_true_eq_false, or_self, if_false, Bool.true_eq_false, or_false]
  split
  · rename_i hneg
    rw [max_eq_left hneg.le, ite_self, add_zero]
    rfl
  · rename_i hnonneg
    rw [max_eq_right (not_lt.1 hnonneg)]
    exact quotaOf_updateUser_of (fun _ => rfl) k

/-- What a manual completion credits. -/
theorem quotaOf_manual (env : TopUpEnv) (hno : topUp.tradeNo ≠ "") (hprovider : topUp.paymentProvider ≠ .stripe) (now k : Int) :
    (manualCompleteTopUp env db topUp.tradeNo now none none).1.quotaOf k =
      db.quotaOf k + if k = topUp.userId ∧ (db.users k).isSome = true then max 0 (env.quotaOfUnits topUp.amount) else 0 := by
  have hsettled : (manualCompleteTopUp env db topUp.tradeNo now none none).1 =
      settled db ((manualCompletion env).run db topUp.tradeNo now none none) := by
    simp only [manualCompleteTopUp, if_neg hno]
    cases (manualCompletion env).run db topUp.tradeNo now none none <;> rfl
  have hquota : (manualCompletion env).quota topUp = env.quotaOfUnits topUp.amount := by
    simp only [manualCompletion, if_neg hprovider]
  have hany : ∀ provider ∈ (manualCompletion env).expects, topUp.paymentProvider = provider := by
    intro provider hmem
    cases hmem
  rw [hsettled, quotaOf_settled hlook hpending hany (fun _ => rfl), gain_of_rejectsEmpty rfl, hquota]

/-- What Waffo credits. -/
theorem quotaOf_waffo (env : TopUpEnv) (now k : Int) :
    (recharged db ((waffoCompletion env topUp.paymentProvider).run db topUp.tradeNo now none none)).1.quotaOf k =
      db.quotaOf k + if k = topUp.userId ∧ (db.users k).isSome = true then max 0 (env.quotaOfUnits topUp.amount) else 0 := by
  have hexpects : ∀ provider ∈ (waffoCompletion env topUp.paymentProvider).expects, topUp.paymentProvider = provider := by
    intro provider hmem
    exact Option.some.inj hmem
  rw [recharged_fst, quotaOf_settled hlook hpending hexpects (fun _ => rfl), gain_of_rejectsEmpty rfl]
  rfl

/-- What Creem credits. -/
theorem quotaOf_creem (hprovider : topUp.paymentProvider = .creem) (customerEmail : String) (now k : Int) :
    (recharged db ((creemCompletion customerEmail).run db topUp.tradeNo now none none)).1.quotaOf k =
      db.quotaOf k + if k = topUp.userId ∧ (db.users k).isSome = true then topUp.amount else 0 := by
  have hexpects : ∀ provider ∈ (creemCompletion customerEmail).expects, topUp.paymentProvider = provider := by
    intro provider hmem
    exact hprovider.trans (Option.some.inj hmem)
  have htouch : ∀ u, ((creemCompletion customerEmail).touch u).quota = u.quota := by
    intro u
    simp only [creemCompletion]
    split <;> rfl
  have hgain : gain (creemCompletion customerEmail) topUp = topUp.amount := by
    simp [gain, creemCompletion]
  rw [recharged_fst, quotaOf_settled hlook hpending hexpects htouch, hgain]

end CreditAux

open CreditAux TopUpAux

/-- For every pending order of epay, Creem, Waffo or Waffo Pancake, with any amount and money: the completion by hand adds to the quota of
every user what the gateway's own completion adds, unless the order is one of Creem whose user exists and whose amount, which is raw
quota, is not worth itself as units. -/
theorem manual_credits_as_gateway (env : TopUpEnv) (db : TopUpDb) (topUp : TopUp)
    (hlook : db.orders.lookup topUp.tradeNo = some topUp) (hpending : topUp.status = .pending) (hno : topUp.tradeNo ≠ "")
    (hprovider : topUp.paymentProvider ∈ [PaymentProvider.epay, .creem, .waffo, .waffoPancake])
    (hlow : -9223372036854775808 ≤ topUp.amount) (hhigh : topUp.amount < 9223372036854775808) (type customer : String) (now : Int) :
    (∀ id, (manualCompleteTopUp env db topUp.tradeNo now none none).1.quotaOf id - db.quotaOf id =
      (gatewayCompletes env db topUp type customer now).quotaOf id - db.quotaOf id) ↔
    (topUp.paymentProvider = .creem → (db.users topUp.userId).isSome = true → 0 ≤ topUp.amount ∧
      18446744073709551616 ∣ Rounding.trunc (topUp.amount * env.quotaPerUnit) - topUp.amount) := by
  have hstripe : topUp.paymentProvider ≠ .stripe := by
    intro hstripe
    rw [hstripe] at hprovider
    exact absurd hprovider (by decide)
  have hmanual := quotaOf_manual hlook hpending env hno hstripe now
  -- but for Creem, both paths credit the units
  have halike : topUp.paymentProvider ≠ .creem → ∀ id, (gatewayCompletes env db topUp type customer now).quotaOf id =
      (manualCompleteTopUp env db topUp.tradeNo now none none).1.quotaOf id := by
    intro hcreem id
    rw [hmanual]
    cases hp : topUp.paymentProvider with
    | epay =>
      simp only [gatewayCompletes, hp]
      exact quotaOf_epayNotify hlook hpending env hp type id
    | stripe => exact absurd hp hstripe
    | creem => exact absurd hp hcreem
    | waffo =>
      simp only [gatewayCompletes, hp, rechargeWaffo, if_neg hno]
      rw [← hp, quotaOf_waffo hlook hpending env]
    | waffoPancake =>
      simp only [gatewayCompletes, hp, rechargeWaffoPancake, if_neg hno]
      rw [← hp, quotaOf_waffo hlook hpending env]
    | balance =>
      rw [hp] at hprovider
      exact absurd hprovider (by decide)
  by_cases hcreem : topUp.paymentProvider = .creem
  · have hgateway : ∀ id, (gatewayCompletes env db topUp type customer now).quotaOf id =
        db.quotaOf id + if id = topUp.userId ∧ (db.users id).isSome = true then topUp.amount else 0 := by
      intro id
      simp only [gatewayCompletes, hcreem, rechargeCreem, if_neg hno]
      exact quotaOf_creem hlook hpending hcreem customer now id
    have hworth : max 0 (env.quotaOfUnits topUp.amount) = topUp.amount ↔ 0 ≤ topUp.amount ∧
        18446744073709551616 ∣ Rounding.trunc (topUp.amount * env.quotaPerUnit) - topUp.amount := by
      rw [← Rounding.int64_eq_iff hlow hhigh, ← TopUpEnv.quotaOfUnits]
      rcases eq_or_ne topUp.amount 0 with hzero | hne
      · simp [hzero, quotaOfUnits_zero]
      · omega
    simp only [hmanual, hgateway, add_sub_cancel_left, hcreem, true_imp_iff, ← hworth]
    constructor
    · intro h hsome
      simpa [hsome] using h topUp.userId
    · intro h id
      split
      · rename_i hid
        exact h (hid.1 ▸ hid.2)
      · rfl
  · refine iff_of_true (fun id => ?_) fun h => absurd h hcreem
    rw [halike hcreem]

theorem manual_credits_as_gateway_sample :
    let db := oneOrder (pendingOrder .waffo 3)
    (manualCompleteTopUp defaultUnits db "T1" 5 none none).1.quotaOf 1 - db.quotaOf 1 = 1500000 ∧
      ∀ id, (manualCompleteTopUp defaultUnits db "T1" 5 none none).1.quotaOf id - db.quotaOf id =
        (gatewayCompletes defaultUnits db (pendingOrder .waffo 3) "" "" 5).quotaOf id - db.quotaOf id := by
  refine ⟨by decide +kernel, ?_⟩
  exact (manual_credits_as_gateway defaultUnits (oneOrder (pendingOrder .waffo 3)) (pendingOrder .waffo 3) rfl rfl (by decide)
    (by decide) (by decide) (by decide) "" "" 5).2 nofun

/-- A product of Creem with the quota of one unit: its gateway credits 500000, the completion by hand 500000 times as much. -/
theorem manual_multiplies_creem :
    let topUp := CreemProduct.order ⟨"prod-1", 1, 500000⟩ 1 "ref_1"
    let db := oneOrder topUp
    (gatewayCompletes defaultUnits db topUp "" "" 5).quotaOf 1 - db.quotaOf 1 = 500000 ∧
      (manualCompleteTopUp defaultUnits db "ref_1" 5 none none).1.quotaOf 1 - db.quotaOf 1 = 250000000000 := by
  decide +kernel

namespace CreditAux

/-! ## From tokens to units and back -/

/-- What a request of epay inserts. -/
theorem requestEpay_ok {s : PaySettings} {db db' : TopUpDb} {req : EpayRequest} {order : TopUp}
    (h : requestEpay s db req = (db', .ok order)) :
    ∃ group, req.group = .ok group ∧ (s.displayTokens = true → s.quotaPerUnit ≠ 0) ∧ order = req.order s group ∧
      db.orders.insert order = some db'.orders ∧ db'.users = db.users := by
  unfold requestEpay at h
  split at h
  · cases h
  split at h
  · cases h
  rename_i group hgroup
  split at h
  · cases h
  rename_i hunit
  split at h
  · cases h
  split at h
  · cases h
  split at h
  · cases h
  split at h
  · cases h
  split at h
  · cases h
  · cases h
  · rename_i orders _ hinsert
    obtain ⟨rfl, horder⟩ := Prod.mk.inj h
    obtain rfl := Except.ok.inj horder
    exact ⟨group, hgroup, fun htokens hzero => hunit ⟨htokens, hzero⟩, rfl, hinsert, rfl⟩

open Rounding

/-- Tokens that are the whole part of the worth of a number of units, which the division does not round down below that number. -/
def WholeUnits (quotaPerUnit : ℚ) (tokens : Int) : Prop :=
  0 ≤ tokens ∧ ∃ units : Int, -9223372036854775808 ≤ units ∧ units < 9223372036854775808 ∧
    (tokens : ℚ) ≤ units * quotaPerUnit ∧ units * quotaPerUnit < tokens + 1 ∧ units * quotaPerUnit - tokens ≤ |quotaPerUnit| / (2 * 10 ^ 16)

section

variable {unit : ℚ} {tokens units : Int} (hunit : 0 < unit)

include hunit

/-- The whole units of an amount are those whose tokens are at most half of the last decimal place above it. -/
theorem floor_units (hlow : (tokens : ℚ) ≤ units * unit) (hhigh : units * unit - tokens ≤ unit / (2 * 10 ^ 16)) :
    ⌊tokens / unit + 1 / (2 * 10 ^ 16)⌋ = units := by
  have hle : (tokens : ℚ) / unit ≤ units := (div_le_iff₀ hunit).2 hlow
  have hge : (units : ℚ) - 1 / (2 * 10 ^ 16) ≤ tokens / unit := by
    rw [le_div_iff₀ hunit]
    linarith
  rw [Int.floor_eq_iff]
  constructor
  · linarith
  · linarith

/-- Where the units, cut to a word, are worth the tokens again, their price is within half of the last decimal place. -/
theorem units_of_credit (htokens : 0 < tokens) (hlt : tokens < 9223372036854775808)
    (hcut : units = ⌊tokens / unit + 1 / (2 * 10 ^ 16)⌋ ∨ units < ⌊tokens / unit + 1 / (2 * 10 ^ 16)⌋ ∧
      9223372036854775808 ≤ ⌊tokens / unit + 1 / (2 * 10 ^ 16)⌋ ∧ -9223372036854775808 ≤ units ∧ units ≤ 9223372036854775808)
    (hcredit : int64 (trunc (units * unit)) = tokens) :
    (tokens : ℚ) ≤ units * unit ∧ units * unit < tokens + 1 ∧ units * unit - tokens ≤ unit / (2 * 10 ^ 16) := by
  have hcast : (0 : ℚ) < tokens := by exact_mod_cast htokens
  have hquot : (tokens : ℚ) / unit * unit = tokens := div_mul_cancel₀ _ hunit.ne'
  have hfloor : (⌊tokens / unit + 1 / (2 * 10 ^ 16)⌋ : ℚ) * unit ≤ tokens + unit / (2 * 10 ^ 16) := by
    have := mul_le_mul_of_nonneg_right (Int.floor_le ((tokens : ℚ) / unit + 1 / (2 * 10 ^ 16))) hunit.le
    linarith
  have hle : (units : ℚ) * unit ≤ tokens + unit / (2 * 10 ^ 16) := by
    refine (mul_le_mul_of_nonneg_right ?_ hunit.le).trans hfloor
    rcases hcut with heq | hlt
    · rw [heq]
    · exact_mod_cast hlt.1.le
  -- the product is less than a word away from the tokens, so cutting it to a word changes nothing
  have hexact : trunc (units * unit) = tokens := by
    have hdvd := (int64_eq_iff (by omega) hlt).1 hcredit
    rcases hcut with hwhole | ⟨-, hlarge, hmin, hmax⟩
    · have hnonneg : 0 ≤ units := hwhole ▸ Int.floor_nonneg.2 (by positivity)
      rcases hnonneg.eq_or_lt with hzero | hpos
      · rw [← hzero, Int.cast_zero, zero_mul] at hdvd
        have htrunc : trunc 0 = 0 := by exact_mod_cast trunc_intCast 0
        omega
      · have hone : (1 : ℚ) ≤ units := by exact_mod_cast hpos
        have hsmall : (units : ℚ) * unit ≤ (2 * tokens : Int) := by
          push_cast
          nlinarith
        have hbounds := trunc_bounds le_rfl (by omega) (by push_cast; positivity) hsmall
        omega
    · have hmin' : (-9223372036854775808 : ℚ) ≤ units := by exact_mod_cast hmin
      have hmax' : (units : ℚ) ≤ 9223372036854775808 := by exact_mod_cast hmax
      have hlarge' : (9223372036854775808 : ℚ) ≤ ⌊tokens / unit + 1 / (2 * 10 ^ 16)⌋ := by exact_mod_cast hlarge
      have hlt' : (tokens : ℚ) ≤ 9223372036854775807 := by exact_mod_cast Int.le_of_lt_add_one hlt
      have hone : unit ≤ 1 := by
        have := (mul_le_mul_of_nonneg_right hlarge' hunit.le).trans hfloor
        linarith
      have hbounds : -9223372036854775808 ≤ trunc (units * unit) ∧ trunc (units * unit) ≤ 9223372036854775808 :=
        trunc_bounds (by decide) (by decide) (by push_cast; nlinarith) (by push_cast; linarith)
      omega
  obtain ⟨hlow, hhigh⟩ := (trunc_eq_of_pos htokens).1 hexact
  exact ⟨hlow, hhigh, by linarith⟩

end

/-- The tokens come back from the conversion to units and back exactly where they are whole units. -/
theorem credit_eq_iff {env : TopUpEnv} {tokens : Int} (hunit : env.quotaPerUnit ≠ 0) (hlt : tokens < 9223372036854775808) :
    max 0 (env.quotaOfUnits (int64 (trunc (env.unitsOfTokens tokens)) : Int)) = tokens ↔ WholeUnits env.quotaPerUnit tokens := by
  rcases lt_trichotomy tokens 0 with hneg | hzero | hpos
  · exact ⟨fun h => absurd (h ▸ le_max_left _ _) hneg.not_ge, fun h => absurd h.1 hneg.not_ge⟩
  · subst hzero
    have hround : roundTo 16 0 = 0 := by exact_mod_cast roundTo_intCast 16 0
    have hworth : max 0 (env.quotaOfUnits (int64 (trunc (env.unitsOfTokens 0)) : Int)) = 0 := by
      simp [TopUpEnv.unitsOfTokens, hround, trunc, int64, quotaOfUnits_zero]
    exact ⟨fun _ => ⟨le_rfl, 0, by decide, by decide, by simp [div_nonneg]⟩, fun _ => hworth⟩
  · have hcredit : max 0 (env.quotaOfUnits (int64 (trunc (env.unitsOfTokens tokens)) : Int)) = tokens ↔
        int64 (trunc ((int64 (trunc (env.unitsOfTokens tokens)) : Int) * env.quotaPerUnit)) = tokens := by
      unfold TopUpEnv.quotaOfUnits
      omega
    have hcast : (0 : ℚ) ≤ tokens := by exact_mod_cast hpos.le
    rw [hcredit, TopUpEnv.unitsOfTokens]
    rcases lt_or_gt_of_ne hunit with hunit | hunit
    · have hminus : 0 < -env.quotaPerUnit := by linarith
      have htrunc : trunc (roundTo 16 (tokens / env.quotaPerUnit)) = -⌊tokens / -env.quotaPerUnit + 1 / (2 * 10 ^ 16)⌋ := by
        rw [← trunc_roundTo 16 (by positivity), ← trunc_neg, ← roundTo_neg, div_neg, neg_neg]
      have hnonneg : 0 ≤ ⌊tokens / -env.quotaPerUnit + 1 / (2 * 10 ^ 16)⌋ := Int.floor_nonneg.2 (by positivity)
      have hflip : ∀ units : Int, (units : ℚ) * env.quotaPerUnit = (-units : Int) * -env.quotaPerUnit := by
        intro units
        push_cast
        ring
      rw [htrunc, WholeUnits, abs_of_neg hunit]
      constructor
      · intro h
        obtain ⟨hmin, hmax⟩ := int64_range (-⌊tokens / -env.quotaPerUnit + 1 / (2 * 10 ^ 16)⌋)
        rw [hflip] at h
        refine ⟨hpos.le, _, hmin, hmax, ?_⟩
        rw [hflip]
        exact units_of_credit hminus hpos hlt (by unfold int64 at *; rw [Int.bmod_def] at *; omega) h
      · rintro ⟨-, units, hmin, hmax, hlow, hhigh, hround⟩
        rw [hflip] at hlow hround
        rw [floor_units hminus hlow hround, neg_neg, int64_of_lt hmin hmax, (trunc_eq_of_pos hpos).2 ⟨hflip units ▸ hlow, hhigh⟩,
          int64_of_lt (by omega) hlt]
    · have hnonneg : 0 ≤ ⌊tokens / env.quotaPerUnit + 1 / (2 * 10 ^ 16)⌋ := Int.floor_nonneg.2 (by positivity)
      rw [trunc_roundTo 16 (by positivity), WholeUnits, abs_of_pos hunit]
      constructor
      · intro h
        obtain ⟨hmin, hmax⟩ := int64_range ⌊tokens / env.quotaPerUnit + 1 / (2 * 10 ^ 16)⌋
        exact ⟨hpos.le, _, hmin, hmax, units_of_credit hunit hpos hlt (by unfold int64 at *; rw [Int.bmod_def] at *; omega) h⟩
      · rintro ⟨-, units, hmin, hmax, hlow, hhigh, hround⟩
        rw [floor_units hunit hlow hround, int64_of_lt hmin hmax, (trunc_eq_of_pos hpos).2 ⟨hlow, hhigh⟩, int64_of_lt (by omega) hlt]

end CreditAux

/-- In TOKENS display mode, for every request that `RequestEpay` accepts: the money of the order is the price of the tokens asked for, and
`EpayNotify` credits the user these tokens exactly where they are the whole part of the worth of a number of units. -/
theorem tokens_credited (s : PaySettings) (htokens : s.displayTokens = true) (db db' : TopUpDb) (req : EpayRequest) (order : TopUp)
    (haccept : requestEpay s db req = (db', .ok order)) (huser : (db.users req.userId).isSome = true) (type : String) :
    (∃ group, req.group = .ok group ∧ order.money = getPayMoney s req.amount group) ∧
      ((epayNotify s.toTopUpEnv db' order.tradeNo ⟨true, true, type⟩ none none none).1.quotaOf req.userId =
        db'.quotaOf req.userId + req.amount ↔ WholeUnits s.quotaPerUnit req.amount) := by
  obtain ⟨group, hgroup, hunit, rfl, hinsert, husers⟩ := requestEpay_ok haccept
  refine ⟨⟨group, hgroup, rfl⟩, ?_⟩
  have hlook : db'.orders.lookup (req.order s group).tradeNo = some (req.order s group) := by
    rw [Table.lookup_insert hinsert, if_pos rfl]
  have hamount : (req.order s group).amount = Rounding.int64 (Rounding.trunc (s.unitsOfTokens req.amount)) := by
    simp only [EpayRequest.order, htokens, if_true]
  have hhas : req.userId = (req.order s group).userId ∧ (db'.users req.userId).isSome = true := ⟨rfl, husers ▸ huser⟩
  rw [quotaOf_epayNotify hlook rfl s.toTopUpEnv rfl, if_pos hhas, hamount, add_right_inj]
  exact credit_eq_iff (hunit htokens) req.amount_lt

namespace CreditAux

/-- The default unit and price, with amounts in tokens. -/
def tokenShop : PaySettings where
  toTopUpEnv := defaultUnits
  displayTokens := true
  minTopUp := 1
  price := 73 / 10
  topupGroupRatio _ := 1
  amountDiscount _ := none
  payMethods := ["alipay"]
  epayClient := true
  inexactFloat64 x := x

def noOrders : TopUpDb where
  orders := Table.empty
  users id := if id = 1 then some ⟨100, "", ""⟩ else none

def asksFor (tokens : Int) (h : tokens < 9223372036854775808 := by decide) : EpayRequest where
  userId := 1
  group := .ok "default"
  amount := tokens
  paymentMethod := "alipay"
  tradeNo := "T1"
  amount_lt := h

end CreditAux

theorem tokens_credited_sample :
    let db := (requestEpay tokenShop noOrders (asksFor 1000000)).1
    db.quotaOf 1 = 100 ∧ (epayNotify tokenShop.toTopUpEnv db "T1" ⟨true, true, "alipay"⟩ none none none).1.quotaOf 1 =
      db.quotaOf 1 + 1000000 := by
  refine ⟨by decide +kernel, ?_⟩
  exact ((tokens_credited tokenShop rfl noOrders (requestEpay tokenShop noOrders (asksFor 1000000)).1 (asksFor 1000000)
    ((asksFor 1000000).order tokenShop "default") (Prod.ext rfl (by decide +kernel)) rfl "alipay").2).2
    ⟨by decide, 2, by decide, by decide, by norm_num [tokenShop, defaultUnits, asksFor]⟩

/-- A request for 750000 tokens is priced as a unit and a half, and one unit is credited for it. -/
theorem tokens_cut :
    let req := asksFor 750000
    let db := (requestEpay tokenShop noOrders req).1
    (requestEpay tokenShop noOrders req).2 = .ok (req.order tokenShop "default") ∧
      getPayMoney tokenShop 750000 "default" = 3 / 2 * tokenShop.price ∧
      (epayNotify tokenShop.toTopUpEnv db "T1" ⟨true, true, "alipay"⟩ none none none).1.quotaOf 1 = db.quotaOf 1 + 500000 := by
  decide +kernel

end NewApi
