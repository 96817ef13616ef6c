import NewApi.Lemmas.RetryLoopAux
import NewApi.Theorems.GroupPricing

/-!
# How many attempts a request makes, and on which channels

The selection sets the retry counter back to 0 when it moves to another auto group, and the next pass is then not counted. The index never
goes back, and within one group the counter only rises: every auto group has at most `RetryTimes + 1` attempts. The first attempt is on
the middleware's channel, so a pinned one is tried even where no group is left. An error with a `channel:` code is worth another attempt
before the retry decision asks for a pinned channel or the skip-retry option.
-/

namespace NewApi

open RelayPricing RetryLoopAux

/-- The most attempts a request makes: `RetryTimes + 1` for every auto group it may use, and one where there is none. -/
def attemptBound (st : PricingSettings) (r : RelayPricing) : Nat :=
  if r.tokenGroup = "auto" then max 1 ((st.getUserAutoGroup r.userGroup).length * (st.retryTimes + 1).toNat)
  else (st.retryTimes + 1).toNat

/-! ## Bounding the attempts -/

namespace RetryBoundAux

/-- The loop begins with a counter of its own. -/
abbrev restarted (r : RelayPricing) : RelayPricing := { r with retry := 0, resetNextTry := false }

/-- The attempts a request may still make before a pass. -/
def attemptsLeft (st : PricingSettings) (r : RelayPricing) : Nat :=
  if st.retryTimes < r.retry then 0
  else if r.tokenGroup = "auto" then
    ((st.getUserAutoGroup r.userGroup).length - r.autoGroupIndex.getD 0) * (st.retryTimes + 1).toNat - r.retry.toNat
  else (st.retryTimes + 1 - r.retry).toNat

theorem attemptsLeft_of_sameRetry (st : PricingSettings) {r r' : RelayPricing} (h : SameRetry r r') :
    attemptsLeft st r = attemptsLeft st r' := by
  unfold attemptsLeft
  rw [h.tokenGroup, h.userGroup, h.autoGroupIndex, h.retry]

/-- What a pass keeps of the counter and its flag. -/
structure Counting (r : RelayPricing) : Prop where
  nonneg : 0 ≤ r.retry
  counted : r.resetNextTry = false

variable {st : PricingSettings} {p : RelayPass} {r r' : RelayPricing} {s : Selected}

theorem increaseRetry_congr (h : SameRetry r r') : SameRetry r.increaseRetry r'.increaseRetry := by
  unfold increaseRetry
  rw [h.resetNextTry]
  split
  · exact ⟨h.tokenGroup, h.userGroup, h.crossGroupRetry, h.autoGroupIndex, h.retry, rfl⟩
  · exact ⟨h.tokenGroup, h.userGroup, h.crossGroupRetry, h.autoGroupIndex, congrArg (· + 1) h.retry, rfl⟩

theorem Counting.of_sameRetry (h : SameRetry r r') (hr' : Counting r') : Counting r :=
  ⟨h.retry ▸ hr'.nonneg, h.resetNextTry ▸ hr'.counted⟩

/-- An attempt in an auto group uses up one of those left. -/
theorem auto_uses_attempt (hgroup : r.tokenGroup = "auto") (hcount : Counting r) (htest : r.retry ≤ st.retryTimes) {j : Nat} {k : Int}
    (hj : j < (groupsLeft st r).length) (hk : k = if j = 0 then r.retry else 0) :
    attemptsLeft st (served st (r.autoGroupIndex.getD 0 + j) k none r).increaseRetry + 1 ≤ attemptsLeft st r ∧
      Counting (served st (r.autoGroupIndex.getD 0 + j) k none r).increaseRetry := by
  have hnonneg := hcount.nonneg
  have hleft : attemptsLeft st r =
      ((st.getUserAutoGroup r.userGroup).length - r.autoGroupIndex.getD 0) * (st.retryTimes + 1).toNat - r.retry.toNat := by
    unfold attemptsLeft
    rw [if_neg (not_lt.2 htest), if_pos hgroup]
  rw [hleft]
  unfold groupsLeft at hj
  rw [List.length_drop] at hj
  -- moving on gives up the attempts of a whole group
  have hmove : ∀ b, b < (st.getUserAutoGroup r.userGroup).length - r.autoGroupIndex.getD 0 →
      b * (st.retryTimes + 1).toNat + (st.retryTimes + 1).toNat ≤
        ((st.getUserAutoGroup r.userGroup).length - r.autoGroupIndex.getD 0) * (st.retryTimes + 1).toNat := by
    intro b hb
    rw [← Nat.succ_mul]
    exact Nat.mul_le_mul_right _ hb
  have hone := hmove 0 (by omega)
  by_cases hcross : r.crossGroupRetry = true ∧ st.retryTimes ≤ k
  · rw [served, if_pos hcross, increaseRetry_of_reset rfl]
    refine ⟨?_, le_refl 0, rfl⟩
    have hnext := hmove ((st.getUserAutoGroup r.userGroup).length - (r.autoGroupIndex.getD 0 + j + 1)) (by omega)
    have hafter : ¬ st.retryTimes < 0 := by omega
    simp only [attemptsLeft, if_neg hafter, if_pos hgroup, Option.getD_some, Int.toNat_zero, Nat.sub_zero]
    omega
  · have hflag : resetNextTry { r with autoGroup := none, autoGroupIndex := some (r.autoGroupIndex.getD 0 + j), retry := k } = false :=
      hcount.counted
    rw [served, if_neg hcross, increaseRetry_of_count hflag]
    have hk0 : 0 ≤ k := by
      rw [hk]
      split
      · exact hnonneg
      · exact le_refl 0
    refine ⟨?_, Int.add_nonneg hk0 Int.one_nonneg, hcount.counted⟩
    by_cases hused : st.retryTimes < k + 1
    · simp only [attemptsLeft, if_pos hused]
      omega
    simp only [attemptsLeft, if_neg hused, if_pos hgroup, Option.getD_some]
    rcases Nat.eq_zero_or_pos j with rfl | hpos
    · rw [hk, Nat.add_zero (r.autoGroupIndex.getD 0)]
      omega
    · have hnext := hmove ((st.getUserAutoGroup r.userGroup).length - (r.autoGroupIndex.getD 0 + j)) (by omega)
      omega

/-- An attempt uses up one of those left, whatever the group. -/
theorem select_uses_attempt (hcount : Counting r) (htest : r.retry ≤ st.retryTimes) (h : p.select st none r = (r', some s)) :
    attemptsLeft st r'.increaseRetry + 1 ≤ attemptsLeft st r ∧ Counting r'.increaseRetry := by
  by_cases hgroup : r.tokenGroup = "auto"
  · obtain ⟨j, k, hfirst, -, hsame⟩ := select_auto hgroup h
    have hinc := increaseRetry_congr hsame
    have hused := auto_uses_attempt hgroup hcount htest (firstServed_lt hfirst) (firstServed_retry hfirst)
    rw [attemptsLeft_of_sameRetry st hinc]
    exact ⟨hused.1, Counting.of_sameRetry hinc hused.2⟩
  · obtain ⟨-, hsame⟩ := select_group hgroup h
    have hinc := increaseRetry_congr hsame
    rw [attemptsLeft_of_sameRetry st hinc]
    rw [increaseRetry_of_count hcount.counted] at hinc ⊢
    have hnonneg := hcount.nonneg
    refine ⟨?_, Counting.of_sameRetry hinc ⟨Int.add_nonneg hnonneg Int.one_nonneg, hcount.counted⟩⟩
    simp only [attemptsLeft, if_neg hgroup, if_neg (not_lt.2 htest)]
    split <;> omega

/-- The passes are bounded by the attempts left. -/
theorem passes_bounded (policy : RetryPolicy) (context : RetryContext) (passes : List RelayPass)
    (hcount : Counting r) : (relayPasses policy context st passes none r).1.length ≤ attemptsLeft st r ∧
      (attemptsLeft st r < passes.length → (relayPasses policy context st passes none r).2 = true) := by
  induction passes generalizing r with
  | nil => exact ⟨Nat.zero_le _, fun h => absurd h (Nat.not_lt_zero _)⟩
  | cons p rest ih =>
    rcases relayPasses_cases policy context rest none with hend | ⟨r', s, htest, hselect, hlast | ⟨e, -, -, hagain⟩⟩
    · rw [hend]
      exact ⟨Nat.zero_le _, fun _ => rfl⟩
    · obtain ⟨e, hlast⟩ := hlast
      have hused := (select_uses_attempt hcount htest hselect).1
      rw [hlast]
      exact ⟨by simp only [List.length_singleton]; omega, fun _ => rfl⟩
    · obtain ⟨hused, hcount'⟩ := select_uses_attempt hcount htest hselect
      obtain ⟨hlength, hended⟩ := ih hcount'
      rw [hagain]
      refine ⟨by simp only [List.length_cons]; omega, fun h => hended ?_⟩
      rw [List.length_cons] at h
      omega

/-- The attempts of a whole loop that begins with a channel at hand. -/
theorem loop_bounded (policy : RetryPolicy) (context : RetryContext) (st : PricingSettings) (passes : List RelayPass) (first : Selected)
    (r : RelayPricing) : (relayPasses policy context st passes (some first) (restarted r)).1.length ≤ attemptBound st r ∧
      (attemptBound st r < passes.length → (relayPasses policy context st passes (some first) (restarted r)).2 = true) := by
  cases passes with
  | nil => exact ⟨Nat.zero_le _, fun h => absurd h (Nat.not_lt_zero _)⟩
  | cons p rest =>
    rcases relayPasses_cases policy context rest (some first) with
      hend | ⟨r', s, htest, hselect, hways⟩
    · rw [hend]
      exact ⟨Nat.zero_le _, fun _ => rfl⟩
    cases hselect
    change 0 ≤ st.retryTimes at htest
    -- the first attempt, and those left after it
    have hleft : attemptsLeft st (increaseRetry (restarted r)) + 1 ≤ attemptBound st r := by
      rw [increaseRetry_of_count rfl]
      unfold attemptsLeft attemptBound
      by_cases hgroup : r.tokenGroup = "auto"
      · simp only [if_pos hgroup]
        have hmono : ((st.getUserAutoGroup r.userGroup).length - r.autoGroupIndex.getD 0) * (st.retryTimes + 1).toNat ≤
            (st.getUserAutoGroup r.userGroup).length * (st.retryTimes + 1).toNat :=
          Nat.mul_le_mul_right _ (Nat.sub_le _ _)
        split <;> omega
      · simp only [if_neg hgroup]
        split <;> omega
    rcases hways with ⟨e, hlast⟩ | ⟨e, -, -, hagain⟩
    · rw [hlast]
      exact ⟨by simp only [List.length_singleton]; omega, fun _ => rfl⟩
    have hcount : Counting (increaseRetry (restarted r)) := by
      exact ⟨Int.one_nonneg, rfl⟩
    obtain ⟨hlength, hended⟩ := passes_bounded policy context rest hcount
    rw [hagain]
    refine ⟨by simp only [List.length_cons]; omega, fun h => hended ?_⟩
    rw [List.length_cons] at h
    omega

end RetryBoundAux

open RetryBoundAux

/-- Whatever channels come and go between attempts, the loop makes no more attempts than the bound and then stops. -/
theorem relay_attempts_bounded (policy : RetryPolicy) (affinitySkipRetry : Bool) (st : PricingSettings) (d : DistributeInput)
    (passes : List RelayPass) (r : RelayPricing) {contacts : List Contact} {ended : Bool}
    (h : relayRequest policy affinitySkipRetry st d passes r = some (contacts, ended)) :
    contacts.length ≤ attemptBound st r ∧ (attemptBound st r < passes.length → ended = true) := by
  obtain ⟨⟨r₁, first⟩, hdistribute, heq⟩ := Option.map_eq_some_iff.1 h
  have hbound := loop_bounded policy ⟨affinitySkipRetry, d.specificChannel.isSome⟩ st passes first r₁
  have hgroups := distribute_sameGroups hdistribute
  rw [attemptBound, hgroups.1, hgroups.2] at hbound
  simp only at heq
  rw [heq] at hbound
  exact hbound

namespace RetryLoopAux

/-- A server that retries what its status says, and an upstream error it retries. -/
def retryPolicy : RetryPolicy := ⟨fun e => e, fun _ => false, fun code => decide (500 ≤ code)⟩

def badGateway : RelayError := ⟨"bad_response_status_code", 502, false, "bad gateway"⟩

/-- A request in the group `auto` that has no channel yet. -/
def freshRequest : RelayPricing := { GroupPricingAux.autoRequest with autoGroup := none, autoGroupIndex := none, crossGroupRetry := true }

/-- A pass that selects the channel and fails with the error. -/
def failingPass (channel : Int) (e : RelayError) : RelayPass := ⟨⟨"m", fun _ _ => .ok (some channel), fun _ => none⟩, none, .error e⟩

/-- A token that pins a channel, and one that does not. -/
def pinnedTo (id : Int) : DistributeInput := ⟨some id, none, fun _ _ => false, fun _ _ => .ok none⟩

def unpinned (id : Int) : DistributeInput := ⟨none, none, fun _ _ => false, fun _ _ => .ok (some id)⟩

end RetryLoopAux

/-- Two groups and one retry: the fifth pass makes no attempt. -/
theorem relay_attempts_bounded_two_groups :
    let passes := List.replicate 5 (failingPass 1 badGateway)
    ∃ contacts, relayRequest retryPolicy false GroupPricingAux.twoGroups (unpinned 1) passes freshRequest = some (contacts, true) ∧
      contacts.length = 4 ∧ contacts.length ≤ attemptBound GroupPricingAux.twoGroups freshRequest := by
  intro passes
  obtain ⟨contacts, hrun, hlength⟩ : ∃ contacts,
      relayRequest retryPolicy false GroupPricingAux.twoGroups (unpinned 1) passes freshRequest = some (contacts, true) ∧
        contacts.length = 4 := ⟨_, rfl, rfl⟩
  exact ⟨contacts, hrun, hlength, (relay_attempts_bounded _ _ _ _ _ _ hrun).1⟩

/-- Without auto groups, a request that pins a channel still makes its attempt. -/
theorem pinned_attempt_without_groups :
    let st := { GroupPricingAux.twoGroups with autoGroups := [] }
    ∃ contacts, relayRequest retryPolicy false st (pinnedTo 3) [failingPass 1 badGateway] freshRequest = some (contacts, true) ∧
      ¬ contacts.length ≤ (st.getUserAutoGroup freshRequest.userGroup).length * (st.retryTimes + 1).toNat := by
  intro st
  exact ⟨[⟨⟨3, none⟩, some badGateway⟩], rfl, by decide⟩

/-! ## Pinned channels and errors that forbid a retry -/

/-- A pinned request is tried on its channel only, and no attempt follows an error that carries the skip-retry option. -/
structure RespectsPinning (d : DistributeInput) (contacts : List Contact) : Prop where
  pinned : ∀ id, d.specificChannel = some id → ∀ c ∈ contacts, c.selected.channel = id
  skipRetry : ∀ before c later e, contacts = before ++ c :: later → c.error = some e → e.skipRetry = true → later = []

namespace RetryPinAux

variable {policy : RetryPolicy} {context : RetryContext} {st : PricingSettings} {e : RelayError} {r r' : RelayPricing} {d : DistributeInput}
  {retryTimes : Int} {first : Selected} {contacts : List Contact}

theorem not_affinity_of_shouldRetry (h : shouldRetry policy context e retryTimes = true) : context.affinitySkipRetry = false := by
  unfold shouldRetry at h
  cases haffinity : context.affinitySkipRetry with
  | false => rfl
  | true => simp [haffinity] at h

/-- Where no channel error comes, only errors without the option are followed by an attempt, and none of a pinned request. -/
theorem passes_respect (context : RetryContext) (st : PricingSettings) {E : Set RelayError}
    (hE : ∀ e ∈ E, (policy.normalizeViolationFeeError e).isChannelError = true →
      context.specificChannel = false ∧ (policy.normalizeViolationFeeError e).skipRetry = false) (passes : List RelayPass)
    (hpasses : ∀ p ∈ passes, ∀ e, p.handled = .error e → e ∈ E) (first : Option Selected) (r : RelayPricing) :
    ∀ before c later, (relayPasses policy context st passes first r).1 = before ++ c :: later → later ≠ [] →
      context.specificChannel = false ∧ ∀ e, c.error = some e → e.skipRetry = false := by
  induction passes generalizing first r with
  | nil =>
    intro before c later h
    cases before <;> cases h
  | cons p rest ih =>
    intro before c later h hlater
    rcases relayPasses_cases policy context rest first with hend | ⟨r', s, -, -, ⟨e, hlast⟩ | ⟨e, hhandled, hretry, hagain⟩⟩
    · rw [hend] at h
      cases before <;> cases h
    · rw [hlast] at h
      cases before with
      | nil =>
        cases h
        exact absurd rfl hlater
      | cons b before => cases before <;> cases h
    · rw [hagain] at h
      cases before with
      | nil =>
        cases h
        have hfree : context.specificChannel = false ∧ (policy.normalizeViolationFeeError e).skipRetry = false := by
          cases hchannel : (policy.normalizeViolationFeeError e).isChannelError with
          | true => exact hE e (hpasses p List.mem_cons_self e hhandled) hchannel
          | false =>
            unfold shouldRetry at hretry
            cases hskip : (policy.normalizeViolationFeeError e).skipRetry <;> cases hpin : context.specificChannel <;>
              simp [hskip, hpin, hchannel] at hretry ⊢
        refine ⟨hfree.1, ?_⟩
        rintro e' ⟨⟩
        exact hfree.2
      | cons b before =>
        obtain ⟨-, htail⟩ := List.cons.inj h
        exact ih (fun p' hp' => hpasses p' (List.mem_cons_of_mem _ hp')) none r'.increaseRetry before c later htail hlater

theorem no_attempt_of_used (passes : List RelayPass) (first : Option Selected) (h : st.retryTimes < r.retry) :
    (relayPasses policy context st passes first r).1 = [] := by
  cases passes with
  | nil => rfl
  | cons p rest => simp only [relayPasses, if_pos h]

/-- Without auto groups a later pass of the group `auto` makes no attempt. -/
theorem no_attempt_of_no_groups (passes : List RelayPass) (hgroup : r.tokenGroup = "auto")
    (hnone : st.getUserAutoGroup r.userGroup = []) : (relayPasses policy context st passes none r).1 = [] := by
  cases passes with
  | nil => rfl
  | cons p rest =>
    rcases relayPasses_cases policy context rest none with hend | ⟨r', s, -, hselect, -⟩
    · rw [hend]
    obtain ⟨j, k, hfirst, -⟩ := select_auto hgroup hselect
    rw [groupsLeft, hnone, List.drop_nil] at hfirst
    cases hfirst

/-- Where nothing is tried again there is one attempt. -/
theorem single_attempt (policy : RetryPolicy) (context : RetryContext) (first : Selected) (passes : List RelayPass)
    (h : st.retryTimes ≤ 0 ∨ context.affinitySkipRetry = true ∨ (r.tokenGroup = "auto" ∧ st.getUserAutoGroup r.userGroup = [])) :
    (relayPasses policy context st passes (some first) (restarted r)).1 = [] ∨
      ∃ e, (relayPasses policy context st passes (some first) (restarted r)).1 = [⟨first, e⟩] := by
  cases passes with
  | nil => exact .inl rfl
  | cons p rest =>
    rcases relayPasses_cases policy context rest (some first) with
      hend | ⟨r', s, -, hselect, ⟨e, hlast⟩ | ⟨e, -, hretry, hagain⟩⟩
    · rw [hend]
      exact .inl rfl
    · cases hselect
      rw [hlast]
      exact .inr ⟨e, rfl⟩
    · cases hselect
      have hnone : (relayPasses policy context st rest none (increaseRetry (restarted r))).1 = [] := by
        rcases h with hused | haffinity | ⟨hgroup, hgroups⟩
        · exact no_attempt_of_used rest none (lt_of_le_of_lt hused Int.one_pos)
        · rw [not_affinity_of_shouldRetry hretry] at haffinity
          cases haffinity
        · exact no_attempt_of_no_groups rest hgroup hgroups
      rw [hagain, hnone]
      exact .inr ⟨_, rfl⟩

/-- The first attempt is on the channel of the distributor. -/
theorem head_on_first (policy : RetryPolicy) (context : RetryContext) (st : PricingSettings) (first : Selected)
    (passes : List RelayPass) (r : RelayPricing) :
    ∀ c later, (relayPasses policy context st passes (some first) r).1 = c :: later → c.selected = first := by
  intro c later h
  cases passes with
  | nil => cases h
  | cons p rest =>
    rcases relayPasses_cases policy context rest (some first) with hend | ⟨r', s, -, hselect, ⟨e, hlast⟩ | ⟨e, -, -, hagain⟩⟩
    · rw [hend] at h
      cases h
    · cases hselect
      rw [hlast] at h
      cases h
      rfl
    · cases hselect
      rw [hagain] at h
      cases h
      rfl

/-- One attempt respects a pin. -/
theorem respects_of_single
    (hpinned : ∀ id, d.specificChannel = some id → first.channel = id) (h : contacts = [] ∨ ∃ e, contacts = [⟨first, e⟩]) :
    RespectsPinning d contacts := by
  rcases h with rfl | ⟨e, rfl⟩
  · refine ⟨fun id _ c hc => absurd hc List.not_mem_nil, ?_⟩
    intro before c later e heq
    cases before <;> cases heq
  · constructor
    · intro id hpin c hc
      rw [List.mem_singleton.1 hc]
      exact hpinned id hpin
    · intro before c later e' heq
      cases before with
      | nil =>
        cases heq
        exact fun _ _ => rfl
      | cons b before => cases before <;> cases heq

theorem respects_of_free
    (hpinned : ∀ id, d.specificChannel = some id → first.channel = id) (hhead : ∀ c later, contacts = c :: later → c.selected = first)
    (hfree : ∀ before c later, contacts = before ++ c :: later → later ≠ [] →
      d.specificChannel.isSome = false ∧ ∀ e, c.error = some e → e.skipRetry = false) : RespectsPinning d contacts := by
  constructor
  · intro id hpin c hc
    cases contacts with
    | nil => cases hc
    | cons c₀ later =>
      by_cases hlater : later = []
      · subst hlater
        rw [List.mem_singleton.1 hc, hhead c₀ [] rfl]
        exact hpinned id hpin
      · have hnone := (hfree [] c₀ later rfl hlater).1
        rw [hpin] at hnone
        cases hnone
  · intro before c later e heq herror hskip
    by_contra hlater
    have hno := (hfree before c later heq hlater).2 e herror
    rw [hskip] at hno
    cases hno

/-- A pass that finds a channel and a body makes an attempt on it. -/
theorem attempt_of_select {p : RelayPass} (rest : List RelayPass) {first : Option Selected}
    {s : Selected} (htest : r.retry ≤ st.retryTimes) (hselect : p.select st first r = (r', some s))
    (hbody : p.body = none) : ∃ e later, (relayPasses policy context st (p :: rest) first r).1 = ⟨s, e⟩ :: later := by
  simp only [relayPasses, if_neg (not_lt.2 htest), hselect, hbody, Option.isSome_none, Bool.false_eq_true, if_false]
  split
  · split <;> exact ⟨_, _, rfl⟩
  · exact ⟨_, _, rfl⟩
  · exact ⟨_, _, rfl⟩

/-- The index the middleware leaves points to a group, where there is one and a retry is left for it. -/
theorem index_lt_of_distribute (hfresh : r.autoGroupIndex = none)
    (hretry : 0 < st.retryTimes) (hgroups : st.getUserAutoGroup r.userGroup ≠ []) (h : r.distribute st d = some (r', first)) :
    r'.autoGroupIndex.getD 0 < (st.getUserAutoGroup r'.userGroup).length := by
  have hpos : 0 < (st.getUserAutoGroup r.userGroup).length := List.length_pos_of_ne_nil hgroups
  rcases distribute_cases h with ⟨-, rfl⟩ | ⟨-, haffinity⟩ | ⟨-, -, r₁, hget, -, rfl⟩
  · rwa [hfresh]
  · obtain ⟨group, rfl⟩ := affinity_eq haffinity
    rwa [hfresh]
  · rcases cacheGet_cases hget with ⟨-, rfl⟩ | ⟨-, j, k, hserved, rfl⟩
    · rwa [hfresh]
    have hj := firstServed_lt hserved
    have hk := firstServed_retry hserved
    simp only [ite_self] at hk
    simp only [groupsLeft, hfresh, Option.getD_none, List.drop_zero] at hj
    have hstay : ¬ (r.crossGroupRetry = true ∧ st.retryTimes ≤ k) := by
      rintro ⟨-, hle⟩
      omega
    simp only [served, hfresh, if_neg hstay, Option.getD_none, Option.getD_some, Nat.zero_add]
    exact hj

/-- A pass whose cache serves every group finds a channel. -/
theorem select_of_serving (channel : Int)
    (hgroups : r.tokenGroup = "auto" → r.autoGroupIndex.getD 0 < (st.getUserAutoGroup r.userGroup).length) :
    ∃ r' place, (failingPass channel e).select st none r = (r', some ⟨channel, place⟩) := by
  by_cases hgroup : r.tokenGroup = "auto"
  · have hleft : groupsLeft st r ≠ [] := by
      unfold groupsLeft
      rw [ne_eq, List.drop_eq_nil_iff, not_le]
      exact hgroups hgroup
    obtain ⟨group, rest, hcons⟩ := List.exists_cons_of_ne_nil hleft
    have hserved : firstServed (failingPass channel e).input.satisfied (groupsLeft st r) r.retry = some (0, r.retry, channel) := by
      rw [hcons]
      exact firstServed_cons_served rfl
    exact select_of_firstServed hgroup hserved rfl
  · have hget : { r with relay := { r.relay with originModelName := "m" } }.cacheGetRandomSatisfiedChannel st
        (failingPass channel e).input.satisfied = ({ r with relay := { r.relay with originModelName := "m" } }, .ok (some channel)) := by
      unfold cacheGetRandomSatisfiedChannel
      rw [if_neg hgroup]
      rfl
    exact select_of_cacheGet hget rfl

/-- The first attempt fails with a channel error, and another channel is there for the next. -/
theorem second_attempt (policy : RetryPolicy) (context : RetryContext) (st : PricingSettings) (first : Selected)
    (other : Int) (hretry : 0 < st.retryTimes)
    (haffinity : context.affinitySkipRetry = false) (hchannel : (policy.normalizeViolationFeeError e).isChannelError = true)
    (hgroups : r.tokenGroup = "auto" → r.autoGroupIndex.getD 0 < (st.getUserAutoGroup r.userGroup).length) :
    ∃ place e' later, (relayPasses policy context st [failingPass other e, failingPass other e] (some first) (restarted r)).1 =
      ⟨first, some (policy.normalizeViolationFeeError e)⟩ :: ⟨⟨other, place⟩, e'⟩ :: later := by
  obtain ⟨r', place, hselect⟩ := select_of_serving (r := { r with retry := 0 + 1, resetNextTry := false }) other hgroups
  have htest : (0 : Int) + 1 ≤ st.retryTimes := hretry
  obtain ⟨e', later, hsecond⟩ :=
    attempt_of_select [] htest hselect rfl
  refine ⟨place, e', later, ?_⟩
  have hfirst : (relayPasses policy context st [failingPass other e, failingPass other e] (some first) (restarted r)).1 =
        ⟨first, some (policy.normalizeViolationFeeError e)⟩ ::
          (relayPasses policy context st [failingPass other e] none { r with retry := 0 + 1, resetNextTry := false }).1 := by
    have htest' : ¬ st.retryTimes < 0 := by omega
    conv_lhs => unfold relayPasses
    simp only [RelayPass.select, failingPass, if_neg htest', Option.isSome_none, Bool.false_eq_true, if_false,
      shouldRetry, haffinity, hchannel, if_true]
    rfl
  rw [hfirst, hsecond]

/-- A pinned channel is the first. -/
theorem pinned_of_distribute {st : PricingSettings} {r₁ : RelayPricing}
    (hfirst : r.distribute st d = some (r₁, first)) {id : Int} (hpin : d.specificChannel = some id) : first.channel = id := by
  rcases distribute_cases hfirst with ⟨hpin', -⟩ | ⟨hnone, -⟩ | ⟨hnone, -⟩
  · exact Option.some.inj (hpin'.symm.trans hpin)
  · rw [hpin] at hnone
    cases hnone
  · rw [hpin] at hnone
    cases hnone

/-- A second attempt on another channel than the pinned one, after an error that carries the option. -/
theorem not_respects_of_second {first second : Selected} {e' : Option RelayError}
    {later : List Contact} (hother : d.specificChannel ≠ some second.channel)
    (hskip : d.specificChannel = none → e.skipRetry = true) : ¬ RespectsPinning d (⟨first, some e⟩ :: ⟨second, e'⟩ :: later) := by
  intro hrespects
  cases hpin : d.specificChannel with
  | some id =>
    have hid := hrespects.pinned id hpin ⟨second, e'⟩ (by simp)
    exact hother (hpin.trans (congrArg some hid.symm))
  | none =>
    have hlast := hrespects.skipRetry [] _ _ _ rfl rfl (hskip hpin)
    cases hlast

end RetryPinAux

open RetryPinAux

/-- Whatever channels there are, a request whose attempts fail with errors of a kind respects its pinning and the skip-retry option if
and only if it cannot be tried again at all, or no error of that kind has a `channel:` code while the request pins its channel or the
error carries the option. -/
theorem retries_respect_pinning_iff (policy : RetryPolicy) (affinitySkipRetry : Bool) (st : PricingSettings) (d : DistributeInput)
    {r r₁ : RelayPricing} {first : Selected} (hfresh : r.autoGroupIndex = none) (hfirst : r.distribute st d = some (r₁, first))
    (E : Set RelayError) :
    (∀ passes : List RelayPass, (∀ p ∈ passes, ∀ e, p.handled = .error e → e ∈ E) → ∀ contacts ended,
      relayRequest policy affinitySkipRetry st d passes r = some (contacts, ended) → RespectsPinning d contacts) ↔
    (st.retryTimes ≤ 0 ∨ affinitySkipRetry = true ∨ (r.tokenGroup = "auto" ∧ st.getUserAutoGroup r.userGroup = []) ∨
      ∀ e ∈ E, (policy.normalizeViolationFeeError e).isChannelError = true →
        d.specificChannel = none ∧ (policy.normalizeViolationFeeError e).skipRetry = false) := by
  have hgroups := distribute_sameGroups hfirst
  have hrun : ∀ passes, relayRequest policy affinitySkipRetry st d passes r =
      some (relayPasses policy ⟨affinitySkipRetry, d.specificChannel.isSome⟩ st passes (some first)
        { r₁ with retry := 0, resetNextTry := false }) := by
    intro passes
    unfold relayRequest
    rw [hfirst]
    rfl
  constructor
  · intro h
    by_contra hnot
    push Not at hnot
    obtain ⟨hretry, haffinity, hsome, e, he, hchannel, hbad⟩ := hnot
    rw [ne_eq, Bool.not_eq_true] at haffinity
    have hindex : r₁.tokenGroup = "auto" → r₁.autoGroupIndex.getD 0 < (st.getUserAutoGroup r₁.userGroup).length := by
      intro hgroup
      exact index_lt_of_distribute hfresh hretry (hsome (hgroups.1 ▸ hgroup)) hfirst
    -- another channel than the pinned one
    obtain ⟨other, hother⟩ : ∃ other : Int, d.specificChannel ≠ some other := by
      cases hpin : d.specificChannel with
      | none => exact ⟨0, by simp⟩
      | some id => exact ⟨id + 1, by simp⟩
    obtain ⟨place, e', later, hcontacts⟩ := second_attempt policy
      ⟨affinitySkipRetry, d.specificChannel.isSome⟩ st first other hretry haffinity hchannel hindex
    have hkind : ∀ p ∈ [failingPass other e, failingPass other e], ∀ e₀, p.handled = .error e₀ → e₀ ∈ E := by
      intro p hp e₀ he₀
      simp only [List.mem_cons, List.not_mem_nil, or_false, or_self] at hp
      subst hp
      cases he₀
      exact he
    have hresult := hrun [failingPass other e, failingPass other e]
    generalize relayPasses policy ⟨affinitySkipRetry, d.specificChannel.isSome⟩ st [failingPass other e, failingPass other e] (some first)
      { r₁ with retry := 0, resetNextTry := false } = run at hcontacts hresult
    have hrespects := h _ hkind run.1 run.2 hresult
    rw [hcontacts] at hrespects
    refine not_respects_of_second hother (fun hpin => ?_) hrespects
    by_contra hno
    exact hbad hpin (by simpa using hno)
  · intro h passes hpasses contacts ended hresult
    rw [hrun] at hresult
    have hcontacts : (relayPasses policy ⟨affinitySkipRetry, d.specificChannel.isSome⟩ st passes (some first)
        { r₁ with retry := 0, resetNextTry := false }).1 = contacts := by
      rw [Option.some.inj hresult]
    have hpinned : ∀ id, d.specificChannel = some id → first.channel = id := fun id hpin => pinned_of_distribute hfirst hpin
    rcases or_assoc.2 (h.imp_right or_assoc.2) with hstop | hkind
    · rw [← hgroups.1, ← hgroups.2] at hstop
      have hsingle := single_attempt policy ⟨affinitySkipRetry, d.specificChannel.isSome⟩ first passes hstop
      rw [hcontacts] at hsingle
      exact respects_of_single hpinned hsingle
    · have hkind' : ∀ e ∈ E, (policy.normalizeViolationFeeError e).isChannelError = true →
          d.specificChannel.isSome = false ∧ (policy.normalizeViolationFeeError e).skipRetry = false := by
        intro e he hchannel
        obtain ⟨hnone, hskip⟩ := hkind e he hchannel
        exact ⟨by rw [hnone]; rfl, hskip⟩
      have hfree := passes_respect ⟨affinitySkipRetry, d.specificChannel.isSome⟩ st hkind' passes hpasses (some first)
        { r₁ with retry := 0, resetNextTry := false }
      have hhead := head_on_first policy ⟨affinitySkipRetry, d.specificChannel.isSome⟩ st first passes
        { r₁ with retry := 0, resetNextTry := false }
      rw [hcontacts] at hfree hhead
      exact respects_of_free hpinned hhead hfree

/-- An error of the model mapping, which carries the skip-retry option. -/
def modelMappedError : RelayError := ⟨"channel:model_mapped_error", 500, true, "model_mapping_contains_cycle"⟩

/-- A token pins channel 3, which fails with a bad gateway: channel 7 is not tried. -/
theorem retries_respect_pinning_of_bad_gateway :
    ∃ contacts, relayRequest retryPolicy false GroupPricingAux.twoGroups (pinnedTo 3) (List.replicate 2 (failingPass 7 badGateway))
        freshRequest = some (contacts, true) ∧
      contacts = [⟨⟨3, none⟩, some badGateway⟩] ∧ RespectsPinning (pinnedTo 3) contacts := by
  refine ⟨[⟨⟨3, none⟩, some badGateway⟩], rfl, rfl, ?_⟩
  have hcondition : ∀ e ∈ ({badGateway} : Set RelayError), (retryPolicy.normalizeViolationFeeError e).isChannelError = true →
      (pinnedTo 3).specificChannel = none ∧ (retryPolicy.normalizeViolationFeeError e).skipRetry = false := by
    rintro e rfl hchannel
    exact absurd hchannel (by decide)
  refine (retries_respect_pinning_iff retryPolicy false GroupPricingAux.twoGroups (pinnedTo 3) (r := freshRequest) rfl rfl {badGateway}).2
    (.inr (.inr (.inr hcondition))) (List.replicate 2 (failingPass 7 badGateway)) ?_ _ true rfl
  intro p hp e he
  rw [List.eq_of_mem_replicate hp] at he
  cases he
  rfl

/-- A token pins channel 3, whose model mapping is a cycle: the error says that nothing may be tried again, and the request goes on to
channel 7. -/
theorem pinned_request_leaves_channel :
    let run := relayRequest retryPolicy false GroupPricingAux.twoGroups (pinnedTo 3)
      (List.replicate 2 (failingPass 7 modelMappedError)) freshRequest
    ∃ contacts, run = some (contacts, false) ∧ contacts.map (fun c => c.selected.channel) = [3, 7] ∧
      (∀ c ∈ contacts, c.error = some modelMappedError) ∧ ¬ RespectsPinning (pinnedTo 3) contacts := by
  intro run
  refine ⟨[⟨⟨3, none⟩, some modelMappedError⟩, ⟨⟨7, some 0⟩, some modelMappedError⟩], rfl, rfl, by decide, fun h => ?_⟩
  have hchannel := h.pinned 3 rfl ⟨⟨7, some 0⟩, some modelMappedError⟩ (by simp)
  exact absurd hchannel (by decide)

end NewApi
