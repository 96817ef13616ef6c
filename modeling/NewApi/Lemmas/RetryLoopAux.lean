import NewApi.Relay.RetryLoop

/-!
# What a pass of the retry loop does

The selection from the auto groups takes the first group, from the one the index points to, that has a channel: the group it points to
is asked with the retry counter and every later one with 0.
-/

namespace NewApi

open RelayPricing

namespace RetryLoopAux

variable {channel k : Int} {j : Nat} {r r' : RelayPricing} {p : RelayPass} {d : DistributeInput} {s first : Selected}

/-! ## The first group that has a channel -/

/-- The first group that has a channel, the retry it was asked with and the channel. -/
def firstServed (satisfied : Satisfied) : List String → Int → Option (Nat × Int × Int)
  | [], _ => none
  | group :: rest, retry =>
    match satisfied group retry with
    | .ok (some channel) => some (0, retry, channel)
    | _ => (firstServed satisfied rest 0).map fun (j, k, channel) => (j + 1, k, channel)

variable {st : PricingSettings} {satisfied : Satisfied} {groups : List String} {retry : Int} {group : String} {start i : Nat}

/-- The first group serves. -/
theorem firstServed_cons_served (h : satisfied group retry = .ok (some channel)) :
    firstServed satisfied (group :: groups) retry = some (0, retry, channel) := by
  simp only [firstServed, h]

/-- A group that does not serve is passed over, and the next starts from 0. -/
theorem firstServed_cons_unserved (h : ∀ channel, satisfied group retry ≠ .ok (some channel)) :
    firstServed satisfied (group :: groups) retry = (firstServed satisfied groups 0).map fun (j, k, channel) => (j + 1, k, channel) := by
  conv_lhs => unfold firstServed
  split
  · rename_i channel hserved
    exact absurd hserved (h channel)
  · rfl

/-- The first group has the channel, or it has none and a later one has it. -/
theorem firstServed_cons (h : firstServed satisfied (group :: groups) retry = some (j, k, channel)) :
    (satisfied group retry = .ok (some channel) ∧ j = 0 ∧ k = retry) ∨ (∀ channel, satisfied group retry ≠ .ok (some channel)) ∧
      ∃ j', j = j' + 1 ∧ firstServed satisfied groups 0 = some (j', k, channel) := by
  by_cases hserved : ∃ channel, satisfied group retry = .ok (some channel)
  · obtain ⟨channel', hserved⟩ := hserved
    rw [firstServed_cons_served hserved] at h
    cases h
    exact .inl ⟨hserved, rfl, rfl⟩
  · have hunserved := not_exists.1 hserved
    rw [firstServed_cons_unserved hunserved] at h
    obtain ⟨⟨j', k', channel'⟩, hrest, heq⟩ := Option.map_eq_some_iff.1 h
    cases heq
    exact .inr ⟨hunserved, j', rfl, hrest⟩

/-- The group that serves is in the list. -/
theorem firstServed_lt (h : firstServed satisfied groups retry = some (j, k, channel)) : j < groups.length := by
  induction groups generalizing retry j with
  | nil => cases h
  | cons group rest ih =>
    rcases firstServed_cons h with ⟨-, rfl, -⟩ | ⟨-, j', rfl, hrest⟩
    · exact Nat.succ_pos _
    · exact Nat.succ_lt_succ (ih hrest)

/-- Only the first group is asked with the count. -/
theorem firstServed_retry (h : firstServed satisfied groups retry = some (j, k, channel)) : k = if j = 0 then retry else 0 := by
  induction groups generalizing retry j with
  | nil => cases h
  | cons group rest ih =>
    rcases firstServed_cons h with ⟨-, rfl, rfl⟩ | ⟨-, j', rfl, hrest⟩
    · rfl
    · exact (ih hrest).trans (ite_self 0)

/-- The request after a channel was found in the group at `i`, asked with `k`. -/
def served (st : PricingSettings) (i : Nat) (k : Int) (group : Option String) (r : RelayPricing) : RelayPricing :=
  if r.crossGroupRetry = true ∧ st.retryTimes ≤ k then
    { r with autoGroup := group, autoGroupIndex := some (i + 1), retry := 0, resetNextTry := true }
  else { r with autoGroup := group, autoGroupIndex := some i, retry := k }

/-- The selection finds the first group that has a channel. -/
theorem selectAuto_of_firstServed (st : PricingSettings) (hi : start ≤ i) (hretry : start < i → r.retry = 0)
    (h : firstServed satisfied groups r.retry = some (j, k, channel)) :
    selectAuto st satisfied start groups i r = (served st (i + j) k groups[j]? r, some channel) := by
  induction groups generalizing i r j with
  | nil => cases h
  | cons group rest ih =>
    have hpriority : (if start < i then 0 else r.retry) = r.retry := ite_eq_right_iff.2 fun hlt => (hretry hlt).symm
    rcases firstServed_cons h with ⟨hserved, rfl, rfl⟩ | ⟨hunserved, j', rfl, hrest⟩
    · simp only [selectAuto, hpriority, hserved, served]
      split <;> rfl
    have hnext := ih (Nat.le_succ_of_le hi) (r := { r with autoGroupIndex := some (i + 1), retry := 0 }) (fun _ => rfl) hrest
    have hstep : selectAuto st satisfied start (group :: rest) i r =
        selectAuto st satisfied start rest (i + 1) { r with autoGroupIndex := some (i + 1), retry := 0 } := by
      conv_lhs => unfold selectAuto
      simp only [hpriority]
    rw [hstep, hnext, show i + 1 + j' = i + (j' + 1) by omega, List.getElem?_cons_succ]
    rfl

/-- Where no group has a channel the selection finds none. -/
theorem selectAuto_of_none (st : PricingSettings) (hi : start ≤ i) (hretry : start < i → r.retry = 0)
    (h : firstServed satisfied groups r.retry = none) : (selectAuto st satisfied start groups i r).2 = none := by
  induction groups generalizing i r with
  | nil => rfl
  | cons group rest ih =>
    have hpriority : (if start < i then 0 else r.retry) = r.retry := ite_eq_right_iff.2 fun hlt => (hretry hlt).symm
    unfold selectAuto
    simp only [hpriority]
    split
    · rename_i channel hserved
      rw [firstServed_cons_served hserved] at h
      cases h
    · rename_i hunserved
      rw [firstServed_cons_unserved hunserved, Option.map_eq_none_iff] at h
      exact ih (Nat.le_succ_of_le hi) (fun _ => rfl) h

/-! ## Selecting for a pass -/

/-- The groups from the one the index points to. -/
def groupsLeft (st : PricingSettings) (r : RelayPricing) : List String := (st.getUserAutoGroup r.userGroup).drop (r.autoGroupIndex.getD 0)

/-- The selection over the auto groups, with what it leaves the request as. -/
theorem cacheGet_auto (hgroup : r.tokenGroup = "auto") :
    (∃ j k channel, firstServed satisfied (groupsLeft st r) r.retry = some (j, k, channel) ∧
      r.cacheGetRandomSatisfiedChannel st satisfied =
        (served st (r.autoGroupIndex.getD 0 + j) k (groupsLeft st r)[j]? r, .ok (some channel))) ∨
    (firstServed satisfied (groupsLeft st r) r.retry = none ∧
      ∀ r' channel, r.cacheGetRandomSatisfiedChannel st satisfied ≠ (r', .ok (some channel))) := by
  unfold cacheGetRandomSatisfiedChannel
  rw [if_pos hgroup]
  by_cases hempty : st.autoGroups = []
  · have hnone : groupsLeft st r = [] := by simp [groupsLeft, PricingSettings.getUserAutoGroup, hempty]
    refine .inr ⟨by rw [hnone]; rfl, fun r' channel h => ?_⟩
    rw [if_pos hempty] at h
    cases h
  · rw [if_neg hempty]
    cases hfirst : firstServed satisfied (groupsLeft st r) r.retry with
    | some found =>
      obtain ⟨j, k, channel⟩ := found
      refine .inl ⟨j, k, channel, rfl, ?_⟩
      have hselect := selectAuto_of_firstServed st (le_refl (r.autoGroupIndex.getD 0)) (fun h => absurd h (lt_irrefl _)) hfirst
      unfold groupsLeft at hselect
      simp only [hselect]
      rfl
    | none =>
      refine .inr ⟨rfl, fun r' channel h => ?_⟩
      have hselect := selectAuto_of_none st (le_refl (r.autoGroupIndex.getD 0)) (fun h => absurd h (lt_irrefl _)) hfirst
      unfold groupsLeft at hselect
      simp only [Prod.mk.injEq] at h
      rw [hselect] at h
      cases h.2

/-- Two requests are at the same place of their retries. -/
structure SameRetry (r r' : RelayPricing) : Prop where
  tokenGroup : r.tokenGroup = r'.tokenGroup
  userGroup : r.userGroup = r'.userGroup
  crossGroupRetry : r.crossGroupRetry = r'.crossGroupRetry
  autoGroupIndex : r.autoGroupIndex = r'.autoGroupIndex
  retry : r.retry = r'.retry
  resetNextTry : r.resetNextTry = r'.resetNextTry

/-- A selection without a pinned channel goes through the cache. -/
theorem select_none (h : p.select st none r = (r', some s)) :
    ∃ r₁, { r with relay := { r.relay with originModelName := p.input.originModelName } }.cacheGetRandomSatisfiedChannel st
      p.input.satisfied = (r₁, .ok (some s.channel)) ∧ p.input.setup s.channel = none ∧ s.place = r'.place ∧ SameRetry r' r₁ := by
  unfold RelayPass.select getChannel at h
  generalize { r with relay := { r.relay with originModelName := p.input.originModelName } } = r₀ at h ⊢
  generalize hget : r₀.cacheGetRandomSatisfiedChannel st p.input.satisfied = got at h ⊢
  obtain ⟨r₁, found⟩ := got
  cases found with
  | error e => cases h
  | ok found =>
    cases found with
    | none => cases h
    | some channel =>
      simp only at h
      cases hsetup : p.input.setup channel with
      | some e =>
        rw [hsetup] at h
        cases h
      | none =>
        rw [hsetup] at h
        cases h
        exact ⟨r₁, rfl, hsetup, rfl, rfl, rfl, rfl, rfl, rfl, rfl⟩

/-- With the group auto it is the first group served. -/
theorem select_auto (hgroup : r.tokenGroup = "auto") (h : p.select st none r = (r', some s)) :
    ∃ j k, firstServed p.input.satisfied (groupsLeft st r) r.retry = some (j, k, s.channel) ∧ s.place = r'.place ∧
      SameRetry r' (served st (r.autoGroupIndex.getD 0 + j) k none r) := by
  obtain ⟨r₁, hget, -, hplace, hsame⟩ := select_none h
  generalize hr₀ : { r with relay := { r.relay with originModelName := p.input.originModelName } } = r₀ at hget
  have hgroup₀ : r₀.tokenGroup = "auto" := by
    rw [← hr₀]
    exact hgroup
  rcases cacheGet_auto hgroup₀ with ⟨j, k, channel, hfirst, hfound⟩ | ⟨-, hnone⟩
  · rw [hfound] at hget
    cases hget
    subst hr₀
    refine ⟨j, k, hfirst, hplace, ?_⟩
    unfold served at hsame ⊢
    split at hsame
    · rename_i hcross
      rw [if_pos hcross]
      exact ⟨hsame.1, hsame.2, hsame.3, hsame.4, hsame.5, hsame.6⟩
    · rename_i hcross
      rw [if_neg hcross]
      exact ⟨hsame.1, hsame.2, hsame.3, hsame.4, hsame.5, hsame.6⟩
  · exact absurd hget (hnone _ _)

/-- A channel that is selected and has a key is the channel of the pass. -/
theorem select_of_cacheGet {r₁ : RelayPricing}
    (hget : { r with relay := { r.relay with originModelName := p.input.originModelName } }.cacheGetRandomSatisfiedChannel st
      p.input.satisfied = (r₁, .ok (some channel))) (hsetup : p.input.setup channel = none) :
    ∃ r' place, p.select st none r = (r', some ⟨channel, place⟩) := by
  simp only [RelayPass.select, getChannel, hget, hsetup]
  exact ⟨_, _, rfl⟩

/-- A group that serves is selected from. -/
theorem select_of_firstServed (hgroup : r.tokenGroup = "auto")
    (hserved : firstServed p.input.satisfied (groupsLeft st r) r.retry = some (j, k, channel)) (hsetup : p.input.setup channel = none) :
    ∃ r' place, p.select st none r = (r', some ⟨channel, place⟩) := by
  rcases cacheGet_auto
      (r := { r with relay := { r.relay with originModelName := p.input.originModelName } }) hgroup with
    ⟨j', k', channel', hserved', hget⟩ | ⟨hnone, -⟩
  · change firstServed p.input.satisfied (groupsLeft st r) r.retry = some (j', k', channel') at hserved'
    rw [hserved] at hserved'
    cases hserved'
    exact select_of_cacheGet hget hsetup
  · change firstServed p.input.satisfied (groupsLeft st r) r.retry = none at hnone
    rw [hserved] at hnone
    cases hnone

/-- The channel of a later pass in another group is that of the group, and the request stays where it is. -/
theorem select_group (hgroup : r.tokenGroup ≠ "auto")
    (h : p.select st none r = (r', some s)) : p.input.satisfied r.tokenGroup r.retry = .ok (some s.channel) ∧ SameRetry r' r := by
  obtain ⟨r₁, hget, -, -, hsame⟩ := select_none h
  unfold cacheGetRandomSatisfiedChannel at hget
  rw [if_neg hgroup] at hget
  simp only [Prod.mk.injEq] at hget
  obtain ⟨rfl, hfound⟩ := hget
  exact ⟨hfound, hsame.1, hsame.2, hsame.3, hsame.4, hsame.5, hsame.6⟩

/-! ## The middleware -/

/-- A selection with a counter of its own that finds a channel: in `auto` it sets the index as the loop would. -/
theorem cacheGet_cases (h : r.cacheGetRandomSatisfiedChannel st satisfied = (r', .ok (some channel))) : (r.tokenGroup ≠ "auto" ∧ r' = r) ∨
      (r.tokenGroup = "auto" ∧ ∃ j k, firstServed satisfied (groupsLeft st r) r.retry = some (j, k, channel) ∧
        r' = served st (r.autoGroupIndex.getD 0 + j) k (groupsLeft st r)[j]? r) := by
  by_cases hgroup : r.tokenGroup = "auto"
  · rcases cacheGet_auto hgroup with ⟨j, k, channel', hfirst, hfound⟩ | ⟨-, hnone⟩
    · rw [hfound] at h
      cases h
      exact .inr ⟨hgroup, j, k, hfirst, rfl⟩
    · exact absurd h (hnone r' channel)
  · unfold cacheGetRandomSatisfiedChannel at h
    rw [if_neg hgroup, Prod.mk.injEq] at h
    exact .inl ⟨hgroup, h.1.symm⟩

/-- How the middleware finds its channel: it is pinned, preferred, or selected. -/
theorem distribute_cases (h : r.distribute st d = some (r', first)) : (d.specificChannel = some first.channel ∧ r' = r) ∨
    (d.specificChannel = none ∧ r.affinity st d = some (r', first)) ∨ (d.specificChannel = none ∧ r.affinity st d = none ∧ ∃ r₁,
      { r with tokenGroup := r.usingGroup, retry := 0, resetNextTry := false }.cacheGetRandomSatisfiedChannel st d.satisfied =
        (r₁, .ok (some first.channel)) ∧ first.place = r₁.place ∧ r' = { r₁ with tokenGroup := r.tokenGroup }) := by
  unfold distribute at h
  cases hpin : d.specificChannel with
  | some id =>
    rw [hpin] at h
    cases h
    exact .inl ⟨rfl, rfl⟩
  | none =>
    rw [hpin] at h
    cases haffinity : r.affinity st d with
    | some found =>
      simp only [haffinity] at h
      exact .inr (.inl ⟨rfl, h⟩)
    | none =>
      simp only [haffinity] at h
      split at h
      · rename_i r₁ id hget
        cases h
        exact .inr (.inr ⟨rfl, rfl, r₁, hget, rfl, rfl⟩)
      · cases h

/-- A preferred channel is taken without a selection. -/
theorem distribute_of_affinity {found : RelayPricing × Selected} (hpin : d.specificChannel = none)
    (h : r.affinity st d = some found) : r.distribute st d = some found := by
  simp only [distribute, hpin, h]

/-- The preferred channel changes no more than the group in use. -/
theorem affinity_eq (h : r.affinity st d = some (r', first)) : ∃ group, r' = { r with autoGroup := group } := by
  unfold affinity at h
  split at h
  · cases h
  split at h
  · obtain ⟨i, -, heq⟩ := Option.map_eq_some_iff.1 h
    cases heq
    exact ⟨_, rfl⟩
  · split at h
    · cases h
      exact ⟨r.autoGroup, rfl⟩
    · cases h

/-- The distributor keeps the groups of the request. -/
theorem distribute_sameGroups (h : r.distribute st d = some (r', first)) : r'.tokenGroup = r.tokenGroup ∧ r'.userGroup = r.userGroup := by
  rcases distribute_cases h with ⟨-, rfl⟩ | ⟨-, haffinity⟩ | ⟨-, -, r₁, hget, -, rfl⟩
  · exact ⟨rfl, rfl⟩
  · obtain ⟨group, rfl⟩ := affinity_eq haffinity
    exact ⟨rfl, rfl⟩
  · refine ⟨rfl, ?_⟩
    rcases cacheGet_cases hget with ⟨-, rfl⟩ | ⟨-, j, k, -, rfl⟩
    · rfl
    · unfold served
      split <;> rfl

/-! ## One pass -/

/-- A pass ends the loop without an attempt, makes the last attempt, or makes one that is tried again. -/
theorem relayPasses_cases (policy : RetryPolicy) (context : RetryContext) (rest : List RelayPass)
    (first : Option Selected) : relayPasses policy context st (p :: rest) first r = ([], true) ∨
      ∃ r' s, r.retry ≤ st.retryTimes ∧ p.select st first r = (r', some s) ∧
        ((∃ e, relayPasses policy context st (p :: rest) first r = ([⟨s, e⟩], true)) ∨
          ∃ e, p.handled = .error e ∧
            shouldRetry policy context (policy.normalizeViolationFeeError e) (st.retryTimes - r'.retry) = true ∧
              relayPasses policy context st (p :: rest) first r =
                (⟨s, some (policy.normalizeViolationFeeError e)⟩ :: (relayPasses policy context st rest none r'.increaseRetry).1,
                  (relayPasses policy context st rest none r'.increaseRetry).2)) := by
  by_cases htest : st.retryTimes < r.retry
  · left
    simp only [relayPasses, if_pos htest]
  simp only [relayPasses, if_neg htest]
  generalize p.select st first r = selected
  obtain ⟨r', found⟩ := selected
  cases found with
  | none => exact .inl rfl
  | some s =>
    by_cases hbody : p.body.isSome = true
    · left
      simp only [if_pos hbody]
    right
    refine ⟨r', s, not_lt.1 htest, rfl, ?_⟩
    simp only [if_neg hbody]
    cases hend : p.handled with
    | success | panic => exact .inl ⟨none, rfl⟩
    | error e =>
      by_cases hretry : shouldRetry policy context (policy.normalizeViolationFeeError e) (st.retryTimes - r'.retry) = true
      · refine .inr ⟨e, rfl, hretry, ?_⟩
        simp only [if_pos hretry]
      · refine .inl ⟨some (policy.normalizeViolationFeeError e), ?_⟩
        simp only [if_neg hretry]

/-- Once a group is used up the next pass is not counted. -/
theorem increaseRetry_of_reset (h : r.resetNextTry = true) : r.increaseRetry = { r with resetNextTry := false } := if_pos h

theorem increaseRetry_of_count (h : r.resetNextTry = false) : r.increaseRetry = { r with retry := r.retry + 1 } := if_neg (by simp [h])

end RetryLoopAux

end NewApi
