import NewApi.Lemmas.ChannelPickAux
import NewApi.Theorems.RetryLoop

/-!
# The order of the attempts over the auto groups

The documentation of the selection says that each auto group exhausts its priorities before the next group is tried. The selection counts
attempts and not priorities: a group that has a channel is asked `RetryTimes + 1` times, for the lowest priority again and again once it
has no other, and is left then. A request that begins with a preferred channel begins the retries with the second priority of the first
group.
-/

namespace NewApi

open RelayPricing RetryLoopAux ChannelPickAux ChannelCache RetryBoundAux

section Statement

variable {Config : Type} (env : ChannelEnv Config) (cache : ChannelCache Config) (modelName path : String)

/-- The priorities a group has for the request, from the highest down. -/
def ChannelCache.groupLevels (group : String) : List Int :=
  match (cache.candidates env group modelName path).mapM cache.fetch with
  | .ok channels => levels channels
  | .error _ => []

def ChannelCache.levelCounts (groups : List String) : List Nat := groups.map fun g => (cache.groupLevels env modelName path g).length

/-- The cache, as the selection asks it. -/
def ChannelCache.serve (intn : RandIntn) : Satisfied :=
  fun group retry => (cache.getRandomSatisfiedChannel env group modelName retry.toNat path intn.1).map (Option.map Channel.id)

/-- What the middleware is given where the token pins no channel. -/
def ChannelCache.distributeInput (preferred : Option Int) (intn : RandIntn) : DistributeInput :=
  ⟨none, preferred, fun group id => cache.isChannelEnabledForGroupModel env group modelName id, cache.serve env modelName path intn⟩

/-- The group and the priority of an attempt, by their places. -/
def ChannelCache.position (groups : List String) (s : Selected) : Option (Nat × Nat) :=
  s.place.bind fun i => (cache.channelsIDM s.channel).map fun c =>
    (i, (groups[i]?.elim [] (cache.groupLevels env modelName path)).idxOf c.getPriority)

/-- The preferred channel of a request, with the place of the first group that has it. -/
def ChannelCache.preferredPlace (groups : List String) (preferred : Option Int) : Option (Int × Nat) :=
  preferred.bind fun id => (groups.findIdx? fun g => cache.isChannelEnabledForGroupModel env g modelName id).map fun i => (id, i)

/-- The channel has the highest priority of the group at `i`. -/
def ChannelCache.Leads (groups : List String) (id : Int) (i : Nat) : Prop :=
  ∃ c g, cache.channelsIDM id = some c ∧ groups[i]? = some g ∧ (cache.groupLevels env modelName path g).head? = some c.getPriority

/-- The passes of a request whose channels stay and whose attempts fail with errors that are tried again. -/
def ChannelCache.AllFail (policy : RetryPolicy) (passes : List RelayPass) : Prop :=
  ∀ p ∈ passes, (∃ intn, p.input.satisfied = cache.serve env modelName path intn) ∧
    ∃ e, p.handled = .error e ∧ shouldRetry policy ⟨false, false⟩ (policy.normalizeViolationFeeError e) 1 = true

end Statement

/-- The documented order from the group at `i` on: the groups one after the other, and each priority of a group once. -/
def documentedOrder : Nat → List Nat → List (Nat × Nat)
  | _, [] => []
  | i, count :: rest => (List.range count).map (fun level => (i, level)) ++ documentedOrder (i + 1) rest

/-- The groups have the priorities that are asked for: the last group with channels at least as many as attempts, every other one exactly
as many. -/
def LevelsFit (retryTimes : Nat) : List Nat → Prop
  | [] => True
  | count :: rest =>
    (count = 0 ∨ if ∀ n ∈ rest, n = 0 then retryTimes + 1 ≤ count else count = retryTimes + 1) ∧ LevelsFit retryTimes rest

namespace RetryOrderAux

variable {count i k : Nat} {counts : List Nat} {x : Nat × Nat} {e : RelayError} {first : Selected} {id : Int}

/-! ## The order the selection visits groups in -/

/-- The attempts in the group at `i` from the `k`-th on. -/
def block (retryTimes k i count : Nat) : List (Nat × Nat) :=
  if count = 0 then [] else (List.range' k (retryTimes + 1 - k)).map fun attempt => (i, min attempt (count - 1))

/-- The attempts from the `k`-th in the group at `i` on. -/
def visits (retryTimes : Nat) : Nat → Nat → List Nat → List (Nat × Nat)
  | _, _, [] => []
  | k, i, count :: rest => block retryTimes k i count ++ visits retryTimes 0 (i + 1) rest

variable {R : Nat}

theorem block_zero : block R k i 0 = [] := if_pos rfl

theorem block_cons (hk : k ≤ R) (hcount : count ≠ 0) : block R k i count = (i, min k (count - 1)) :: block R (k + 1) i count := by
  unfold block
  rw [if_neg hcount, if_neg hcount, show R + 1 - k = (R + 1 - (k + 1)) + 1 by omega, List.range'_succ, List.map_cons]

theorem block_used : block R (R + 1) i count = [] := by
  unfold block
  split
  · rfl
  · simp

theorem visits_zero (rest : List Nat) : visits R k i (0 :: rest) = visits R 0 (i + 1) rest := by
  rw [visits, block_zero, List.nil_append]

/-- An attempt in a group that has channels: the group is left after the last. -/
theorem visits_cons (hk : k ≤ R) (i : Nat) (hcount : count ≠ 0) (rest : List Nat) : visits R k i (count :: rest) = (i, min k (count - 1)) ::
      if R ≤ k then visits R 0 (i + 1) rest else visits R (k + 1) i (count :: rest) := by
  rw [visits, block_cons hk hcount, List.cons_append]
  split
  · rename_i hle
    obtain rfl : k = R := le_antisymm hk hle
    rw [block_used, List.nil_append]
  · rfl

/-! ## The visits and the documented order -/

theorem documentedOrder_of_zero (h : ∀ n ∈ counts, n = 0) (i : Nat) : documentedOrder i counts = [] := by
  induction counts generalizing i with
  | nil => rfl
  | cons count rest ih =>
    obtain ⟨rfl, hrest⟩ := List.forall_mem_cons.1 h
    exact ih hrest (i + 1)

theorem visits_of_zero (h : ∀ n ∈ counts, n = 0) (k i : Nat) : visits R k i counts = [] := by
  induction counts generalizing k i with
  | nil => rfl
  | cons count rest ih =>
    obtain ⟨rfl, hrest⟩ := List.forall_mem_cons.1 h
    exact ih hrest 0 (i + 1)

theorem le_of_mem_documentedOrder (h : x ∈ documentedOrder i counts) : i ≤ x.1 := by
  induction counts generalizing i with
  | nil => cases h
  | cons count rest ih =>
    rw [documentedOrder, List.mem_append, List.mem_map] at h
    rcases h with ⟨level, -, rfl⟩ | hrest
    · exact le_refl _
    · exact (Nat.le_succ i).trans (ih hrest)

/-- The documented order tries nothing twice. -/
theorem nodup_documentedOrder (i : Nat) (counts : List Nat) : (documentedOrder i counts).Nodup := by
  induction counts generalizing i with
  | nil => exact List.nodup_nil
  | cons count rest ih =>
    rw [documentedOrder, List.nodup_append']
    refine ⟨List.nodup_range.map fun a b h => (Prod.mk.inj h).2, ih (i + 1), ?_⟩
    intro x hx hx'
    obtain ⟨level, -, rfl⟩ := List.mem_map.1 hx
    exact absurd (le_of_mem_documentedOrder hx') (Nat.not_succ_le_self i)

theorem le_of_mem_visits (h : x ∈ visits R k i counts) : i ≤ x.1 := by
  induction counts generalizing k i with
  | nil => cases h
  | cons count rest ih =>
    rw [visits, List.mem_append] at h
    rcases h with hblock | hrest
    · unfold block at hblock
      split at hblock
      · cases hblock
      · obtain ⟨attempt, -, rfl⟩ := List.mem_map.1 hblock
        exact le_refl _
    · exact (Nat.le_succ i).trans (ih hrest)

/-- Where a group has channels, one is visited. -/
theorem visits_ne_nil (h : ¬ ∀ n ∈ counts, n = 0) (i : Nat) : visits R 0 i counts ≠ [] := by
  induction counts generalizing i with
  | nil => exact absurd (fun n hn => absurd hn List.not_mem_nil) h
  | cons count rest ih =>
    by_cases hcount : count = 0
    · subst hcount
      exact ih (fun hrest => h (List.forall_mem_cons.2 ⟨rfl, hrest⟩)) (i + 1)
    · rw [visits_cons (Nat.zero_le R) i hcount]
      exact List.cons_ne_nil _ _

/-- Both begin with the highest priority of the first group that has channels. -/
theorem head_visits : (visits R 0 i counts).head? = (documentedOrder i counts).head? := by
  induction counts generalizing i with
  | nil => rfl
  | cons count rest ih =>
    cases count with
    | zero =>
      rw [visits_zero, ih]
      rfl
    | succ count =>
      rw [visits_cons (Nat.zero_le R) i (Nat.succ_ne_zero count), documentedOrder, List.range_succ_eq_map]
      simp

/-- It begins with the first group that has channels. -/
theorem head_documentedOrder : (documentedOrder i counts).head? = some x ↔
      ∃ j, x = (i + j, 0) ∧ (∃ n ∈ counts[j]?, n ≠ 0) ∧ ∀ n ∈ counts.take j, n = 0 := by
  induction counts generalizing i with
  | nil => simp [documentedOrder]
  | cons count rest ih =>
    cases count with
    | zero =>
      have hskip : documentedOrder i (0 :: rest) = documentedOrder (i + 1) rest := rfl
      rw [hskip, ih]
      constructor
      · rintro ⟨j, rfl, hne, hzero⟩
        exact ⟨j + 1, by rw [Nat.add_right_comm, Nat.add_assoc], hne, by simpa using hzero⟩
      · rintro ⟨j, rfl, ⟨n, hn, hne⟩, hzero⟩
        cases j with
        | zero =>
          cases hn
          exact absurd rfl hne
        | succ j => exact ⟨j, by rw [Nat.add_right_comm, Nat.add_assoc], ⟨n, hn, hne⟩, by simpa using hzero⟩
    | succ count =>
      have hhead : (documentedOrder i ((count + 1) :: rest)).head? = some (i, 0) := by
        rw [documentedOrder, List.range_succ_eq_map]
        rfl
      rw [hhead]
      constructor
      · rintro ⟨⟩
        exact ⟨0, rfl, ⟨count + 1, rfl, Nat.succ_ne_zero count⟩, fun n hn => absurd hn List.not_mem_nil⟩
      · rintro ⟨j, rfl, -, hzero⟩
        cases j with
        | zero => rfl
        | succ j => exact absurd (hzero (count + 1) List.mem_cons_self) (Nat.succ_ne_zero count)

theorem range_split {m n : Nat} (h : m ≤ n) : List.range n = List.range m ++ List.range' m (n - m) := by
  have happend := List.range'_append_1 (s := 0) (m := m) (n := n - m)
  rw [Nat.zero_add, Nat.add_sub_cancel' h] at happend
  rw [List.range_eq_range', List.range_eq_range', happend]

/-- With enough priorities the attempts in a group begin as documented. -/
theorem block_of_le (h : R + 1 ≤ count) (i : Nat) : block R 0 i count = (List.range (R + 1)).map fun level => (i, level) := by
  unfold block
  rw [if_neg (by omega), Nat.sub_zero, ← List.range_eq_range']
  refine List.map_congr_left fun attempt hattempt => ?_
  rw [List.mem_range] at hattempt
  rw [Nat.min_eq_left (by omega)]

/-- With too few priorities the lowest is visited again. -/
theorem le_of_nodup_block (hcount : count ≠ 0) (h : (block R 0 i count).Nodup) : R + 1 ≤ count := by
  by_contra hlt
  unfold block at h
  rw [if_neg hcount] at h
  have hinj := List.inj_on_of_nodup_map h (x := count - 1) (y := count)
    (by rw [List.mem_range'_1]; omega) (by rw [List.mem_range'_1]; omega) (by simp)
  omega

/-- Groups without channels fit. -/
theorem levelsFit_of_zero (h : ∀ n ∈ counts, n = 0) : LevelsFit R counts := by
  induction counts with
  | nil => trivial
  | cons count rest ih =>
    obtain ⟨hcount, hrest⟩ := List.forall_mem_cons.1 h
    exact ⟨.inl hcount, ih hrest⟩

/-- The visits begin as documented exactly where the groups have the priorities that are asked for. -/
theorem visits_prefix_iff (i : Nat) (counts : List Nat) : visits R 0 i counts <+: documentedOrder i counts ↔ LevelsFit R counts := by
  induction counts generalizing i with
  | nil => simp [visits, documentedOrder, LevelsFit]
  | cons count rest ih =>
    by_cases hcount : count = 0
    · subst hcount
      rw [visits_zero, documentedOrder, LevelsFit, List.range_zero, List.map_nil, List.nil_append, ih]
      simp
    · rw [visits, documentedOrder, LevelsFit]
      simp only [hcount, false_or]
      by_cases hrest : ∀ n ∈ rest, n = 0
      · -- the last group with channels
        rw [visits_of_zero hrest, documentedOrder_of_zero hrest, List.append_nil, List.append_nil, if_pos hrest]
        constructor
        · intro h
          have hlength := h.length_le
          unfold block at hlength
          rw [if_neg hcount] at hlength
          simp only [List.length_map, List.length_range', List.length_range] at hlength
          exact ⟨by omega, levelsFit_of_zero hrest⟩
        · rintro ⟨hle, -⟩
          rw [block_of_le hle, range_split hle, List.map_append]
          exact List.prefix_append _ _
      · rw [if_neg hrest]
        constructor
        · intro h
          have hnodup : (block R 0 i count ++ visits R 0 (i + 1) rest).Nodup :=
            (nodup_documentedOrder i (count :: rest)).sublist h.sublist
          have hle : R + 1 ≤ count := le_of_nodup_block hcount (List.nodup_append'.1 hnodup).1
          have hsplit : (List.range count).map (fun level => (i, level)) =
              block R 0 i count ++ (List.range' (R + 1) (count - (R + 1))).map fun level => (i, level) := by
            rw [block_of_le hle, ← List.map_append, ← range_split hle]
          rw [hsplit, List.append_assoc, List.prefix_append_right_inj] at h
          obtain ⟨x, later, hcons⟩ := List.exists_cons_of_ne_nil (visits_ne_nil hrest (i + 1))
          have hx : i + 1 ≤ x.1 := le_of_mem_visits (by rw [hcons]; exact List.mem_cons_self)
          -- a priority left over would come before the next group
          have hequal : count = R + 1 := by
            by_contra hne
            rw [show count - (R + 1) = (count - (R + 1) - 1) + 1 by omega, List.range'_succ, List.map_cons, List.cons_append, hcons,
              List.cons_prefix_cons] at h
            rw [h.1] at hx
            exact absurd hx (Nat.not_succ_le_self i)
          subst hequal
          rw [Nat.sub_self, List.range'_zero, List.map_nil, List.nil_append] at h
          exact ⟨rfl, (ih (i + 1)).1 h⟩
        · rintro ⟨rfl, hfit⟩
          rw [block_of_le (le_refl _), List.prefix_append_right_inj]
          exact (ih (i + 1)).2 hfit

/-! ## What the cache serves -/

/-- What a request asks the cache for, and the groups it may have it from. -/
structure Ask (Config : Type) where
  env : ChannelEnv Config
  cache : ChannelCache Config
  modelName : String
  path : String
  groups : List String

section Serve

variable {α : Type}

variable {Config : Type} (q : Ask Config)

abbrev Ask.levels : String → List Int := q.cache.groupLevels q.env q.modelName q.path

abbrev Ask.serve : RandIntn → Satisfied := q.cache.serve q.env q.modelName q.path

abbrev Ask.tallyOf : List String → List Nat := q.cache.levelCounts q.env q.modelName q.path

abbrev Ask.tally : List Nat := q.tallyOf q.groups

abbrev Ask.position : Selected → Option (Nat × Nat) := q.cache.position q.env q.modelName q.path q.groups

abbrev Ask.input : Option Int → RandIntn → DistributeInput := q.cache.distributeInput q.env q.modelName q.path

abbrev Ask.Leads : Int → Nat → Prop := q.cache.Leads q.env q.modelName q.path q.groups

/-- The groups and the priorities of the attempts. -/
abbrev Ask.positions (contacts : List Contact) : List (Option (Nat × Nat)) := contacts.map fun c => q.position c.selected

def failWith (env : ChannelEnv Config) (cache : ChannelCache Config) (modelName path : String) (intn : RandIntn)
    (e : RelayError) : RelayPass :=
  ⟨⟨modelName, cache.serve env modelName path intn, fun _ => none⟩, none, .error e⟩

abbrev Ask.fail : RandIntn → RelayError → RelayPass := failWith q.env q.cache q.modelName q.path

variable {q} {s : Nat} {r r' : RelayPricing} {policy : RetryPolicy} {group : String} (intn : RandIntn)

/-- A group with channels serves one of the priority asked for, or of its lowest. -/
theorem serve_of_levels (h : q.levels group ≠ []) (k : Nat) :
    ∃ c, q.cache.channelsIDM c.id = some c ∧ q.serve intn group k = .ok (some c.id) ∧
      (q.levels group).idxOf c.getPriority = min k ((q.levels group).length - 1) := by
  unfold Ask.levels groupLevels at h ⊢
  cases hfetch : (q.cache.candidates q.env group q.modelName q.path).mapM q.cache.fetch with
  | error e =>
    rw [hfetch] at h
    exact absurd rfl h
  | ok channels =>
    simp only [hfetch] at h ⊢
    have hne : channels ≠ [] := by
      rintro rfl
      exact h (by simp [levels])
    obtain ⟨c, htarget, hserved⟩ := getRandom_some k intn hfetch hne
    obtain ⟨hc, hpriority⟩ := mem_targets.1 htarget
    refine ⟨c, cached_of_mem hfetch hc, ?_, ?_⟩
    · unfold Ask.serve serve
      rw [Int.toNat_natCast, hserved]
      rfl
    · have hlevel := targetPriority_eq k hne
      rw [← hpriority] at hlevel
      obtain ⟨hlt, heq⟩ := List.getElem?_eq_some_iff.1 hlevel
      rw [← heq]
      exact (nodup_levels channels).idxOf_getElem _ hlt

/-- A group without channels serves none. -/
theorem serve_of_no_levels (h : q.levels group = []) (retry : Int) (channel : Int) : q.serve intn group retry ≠ .ok (some channel) := by
  intro hserved
  unfold Ask.serve serve at hserved
  cases hget : q.cache.getRandomSatisfiedChannel q.env group q.modelName retry.toNat q.path intn.1 with
  | error e =>
    rw [hget] at hserved
    cases hserved
  | ok found =>
    cases found with
    | none =>
      rw [hget] at hserved
      cases hserved
    | some c =>
      obtain ⟨channels, hfetch, hc⟩ := candidate_of_getRandom hget
      simp only [Ask.levels, groupLevels, hfetch] at h
      exact levels_ne_nil (List.ne_nil_of_mem hc) h

variable (q) in
/-- The first group that serves a channel is the one the visits are at. -/
theorem firstServed_visits (groups : List String) (hk : k ≤ R) (i : Nat) : (firstServed (q.serve intn) groups k = none ∧
      visits R k i (q.tallyOf groups) = []) ∨
    ∃ (j kj : Nat) (c : Channel), firstServed (q.serve intn) groups k = some (j, (kj : Int), c.id) ∧ kj ≤ R ∧
      q.cache.channelsIDM c.id = some c ∧
      visits R k i (q.tallyOf groups) = (i + j, (groups[j]?.elim [] q.levels).idxOf c.getPriority) ::
          if R ≤ kj then visits R 0 (i + j + 1) ((q.tallyOf groups).drop (j + 1))
          else visits R (kj + 1) (i + j) ((q.tallyOf groups).drop j) := by
  induction groups generalizing k i with
  | nil => exact .inl ⟨rfl, rfl⟩
  | cons group rest ih =>
    have hcounts : q.tallyOf (group :: rest) = (q.levels group).length :: q.tallyOf rest := rfl
    rw [hcounts]
    by_cases hlevels : q.levels group = []
    · rw [firstServed_cons_unserved (serve_of_no_levels intn hlevels k), hlevels, List.length_nil, visits_zero]
      rcases ih (Nat.zero_le R) (i + 1) with ⟨hnone, hvisits⟩ | ⟨j, kj, c, hserved, hkj, hcached, hvisits⟩
      · left
        rw [Nat.cast_zero] at hnone
        rw [hnone, hvisits]
        exact ⟨rfl, rfl⟩
      · right
        rw [Nat.cast_zero] at hserved
        refine ⟨j + 1, kj, c, ?_, hkj, hcached, ?_⟩
        · rw [hserved]
          rfl
        · rw [hvisits, List.getElem?_cons_succ, List.drop_succ_cons, List.drop_succ_cons, Nat.add_right_comm i 1 j]
          rfl
    · right
      obtain ⟨c, hcached, hserved, hlevel⟩ := serve_of_levels intn hlevels k
      refine ⟨0, k, c, firstServed_cons_served hserved, hk, hcached, ?_⟩
      rw [visits_cons hk i (mt List.length_eq_zero_iff.1 hlevels), ← hlevel]
      rfl

/-! ## A run of failing attempts -/

/-- Before a pass the request is in the group at `s`, and its next attempt there is the `k`-th. -/
structure AtPlace (st : PricingSettings) (groups : List String) (r : RelayPricing) (s k : Nat) : Prop where
  tokenGroup : r.tokenGroup = "auto"
  userGroup : st.getUserAutoGroup r.userGroup = groups
  crossGroupRetry : r.crossGroupRetry = true
  index : r.autoGroupIndex.getD 0 = s
  retry : r.retry = k
  counted : r.resetNextTry = false

variable {st : PricingSettings}

theorem levelCounts_drop (groups : List String) : (q.tallyOf groups).drop s = q.tallyOf (groups.drop s) := by
  unfold Ask.tallyOf levelCounts
  rw [List.map_drop]

theorem place_served (hcounted : r.resetNextTry = false) (k : Int) (group : Option String) : (served st i k group r).place = some i := by
  unfold served place
  split
  · rfl
  · simp [hcounted]

theorem place_congr (h : SameRetry r r') : r.place = r'.place := by
  unfold place
  rw [h.autoGroupIndex, h.resetNextTry]

theorem AtPlace.keep {s' k' : Nat} (hat : AtPlace st q.groups r s k) (htoken : r'.tokenGroup = r.tokenGroup)
    (huser : r'.userGroup = r.userGroup) (hcross : r'.crossGroupRetry = r.crossGroupRetry) (hindex : r'.autoGroupIndex = some s')
    (hretry : r'.retry = k') (hcounted : r'.resetNextTry = false) : AtPlace st q.groups r' s' k' :=
  ⟨htoken.trans hat.tokenGroup, huser ▸ hat.userGroup, hcross.trans hat.crossGroupRetry, congrArg (Option.getD · 0) hindex, hretry,
    hcounted⟩

/-- After a failed attempt the request is at its next attempt in the group, or the first in the next. -/
theorem atPlace_increaseRetry {kj : Nat} (hR : st.retryTimes = R) (hat : AtPlace st q.groups r s k)
    (hsame : SameRetry r' (served st i kj none r)) : (R ≤ kj → r'.retry = 0 ∧ AtPlace st q.groups r'.increaseRetry (i + 1) 0) ∧
      (¬ R ≤ kj → r'.retry = kj ∧ AtPlace st q.groups r'.increaseRetry i (kj + 1)) := by
  constructor
  · intro hle
    have hserved : served st i kj none r = { r with autoGroup := none, autoGroupIndex := some (i + 1), retry := 0, resetNextTry := true } :=
      if_pos ⟨hat.crossGroupRetry, by rw [hR]; exact_mod_cast hle⟩
    rw [hserved] at hsame
    rw [increaseRetry_of_reset hsame.resetNextTry]
    exact ⟨hsame.retry, hat.keep hsame.tokenGroup hsame.userGroup hsame.crossGroupRetry hsame.autoGroupIndex hsame.retry rfl⟩
  · intro hlt
    have hserved : served st i kj none r = { r with autoGroup := none, autoGroupIndex := some i, retry := kj } :=
      if_neg fun hcross => hlt (by have := hcross.2; rw [hR] at this; exact_mod_cast this)
    rw [hserved] at hsame
    have hcounted : r'.resetNextTry = false := hsame.resetNextTry.trans hat.counted
    rw [increaseRetry_of_count hcounted]
    refine ⟨hsame.retry, hat.keep hsame.tokenGroup hsame.userGroup hsame.crossGroupRetry hsame.autoGroupIndex ?_ hcounted⟩
    exact congrArg (· + 1) hsame.retry

/-- The attempt of a pass is the next visit, and those left are of the place the request is at afterwards. -/
theorem visit_of_select {p : RelayPass} {sel : Selected} (hR : st.retryTimes = R)
    (hat : AtPlace st q.groups r s k) (hk : k ≤ R) (intn : RandIntn) (hfixed : p.input.satisfied = q.serve intn)
    (hselect : p.select st none r = (r', some sel)) :
    ∃ x s' k', k' ≤ R ∧ q.position sel = some x ∧ AtPlace st q.groups r'.increaseRetry s' k' ∧
      r'.retry = (if k' = 0 then 0 else (k' : Int) - 1) ∧
      visits R k s (q.tally.drop s) = x :: visits R k' s' (q.tally.drop s') := by
  obtain ⟨j, k₀, hfirst, hplace, hsame⟩ := select_auto hat.tokenGroup hselect
  rw [hfixed, groupsLeft, hat.userGroup, hat.index, hat.retry] at hfirst
  rw [hat.index] at hsame
  rcases firstServed_visits q intn (q.groups.drop s) hk s with ⟨hnone, -⟩ | ⟨j', kj, c, hserved, hkj, hcached, hvisits⟩
  · rw [hnone] at hfirst
    cases hfirst
  rw [hserved] at hfirst
  obtain ⟨rfl, rfl, hchannel⟩ : j' = j ∧ (kj : Int) = k₀ ∧ c.id = sel.channel := by simpa using hfirst
  rw [← levelCounts_drop, List.drop_drop, List.drop_drop, List.getElem?_drop, ← Nat.add_assoc] at hvisits
  have hposition : q.position sel = some (s + j', (q.groups[s + j']?.elim [] q.levels).idxOf c.getPriority) := by
    unfold Ask.position position
    rw [hplace, place_congr hsame, place_served hat.counted, ← hchannel, hcached]
    rfl
  obtain ⟨hnext, hstay⟩ := atPlace_increaseRetry hR hat hsame
  by_cases hle : R ≤ kj
  · rw [if_pos hle] at hvisits
    obtain ⟨hretry, hat'⟩ := hnext hle
    exact ⟨_, s + j' + 1, 0, Nat.zero_le R, hposition, hat', hretry, hvisits⟩
  · rw [if_neg hle] at hvisits
    obtain ⟨hretry, hat'⟩ := hstay hle
    refine ⟨_, s + j', kj + 1, by omega, hposition, hat', ?_, hvisits⟩
    omega

variable (q) in
/-- The retries visit the levels in turn. -/
theorem run_visits (policy : RetryPolicy) (context : RetryContext) (hR : st.retryTimes = R) (passes : List RelayPass)
    (hfixed : ∀ p ∈ passes, ∃ intn, p.input.satisfied = q.serve intn) (hat : AtPlace st q.groups r s k) (hk : k ≤ R) :
    q.positions (relayPasses policy context st passes none r).1 <+: (visits R k s (q.tally.drop s)).map some := by
  induction passes generalizing r s k with
  | nil => exact List.nil_prefix
  | cons p rest ih =>
    rcases relayPasses_cases policy context rest none with hend | ⟨r', sel, -, hselect, hways⟩
    · rw [hend]
      exact List.nil_prefix
    obtain ⟨intn, hintn⟩ := hfixed p List.mem_cons_self
    obtain ⟨x, s', k', hk', hposition, hat', -, hvisits⟩ := visit_of_select hR hat hk intn hintn hselect
    rw [hvisits, List.map_cons, ← hposition]
    rcases hways with ⟨e, hlast⟩ | ⟨e, -, -, hagain⟩
    · rw [hlast]
      exact List.cons_prefix_cons.2 ⟨rfl, List.nil_prefix⟩
    · rw [hagain]
      exact List.cons_prefix_cons.2 ⟨rfl, ih (fun p' hp' => hfixed p' (List.mem_cons_of_mem p hp')) hat' hk'⟩

/-- An error that is tried again with one retry left is tried again with more. -/
theorem shouldRetry_of_one {context : RetryContext} (h : shouldRetry policy context e 1 = true)
    {retryTimes : Int} (hpos : 0 < retryTimes) : shouldRetry policy context e retryTimes = true := by
  unfold shouldRetry at h ⊢
  rw [if_neg (not_le.2 hpos)]
  exact h

variable (q) in
/-- Enough failing passes make every visit that is left. -/
theorem run_all_visits
    (he : shouldRetry policy ⟨false, false⟩ (policy.normalizeViolationFeeError e) 1 = true) (hR : st.retryTimes = R) (hpos : 0 < R)
    (intn : RandIntn) (n : Nat) (hat : AtPlace st q.groups r s k) (hk : k ≤ R) (hn : (visits R k s (q.tally.drop s)).length ≤ n) :
    q.positions (relayPasses policy ⟨false, false⟩ st (List.replicate n (q.fail intn e)) none r).1 =
      (visits R k s (q.tally.drop s)).map some := by
  induction n generalizing r s k with
  | zero =>
    rw [List.length_eq_zero_iff.1 (Nat.le_zero.1 hn)]
    rfl
  | succ n ih =>
    rw [List.replicate_succ]
    have hserved := firstServed_visits q intn (q.groups.drop s) hk s
    rw [← levelCounts_drop] at hserved
    rcases hserved with ⟨-, hnil⟩ | ⟨j, kj, c, hserved, -⟩
    · have hprefix := run_visits q policy ⟨false, false⟩ hR (q.fail intn e :: List.replicate n (q.fail intn e)) (fun p hp => by
          rw [← List.replicate_succ] at hp
          rw [List.eq_of_mem_replicate hp]
          exact ⟨intn, rfl⟩) hat hk
      rw [hnil] at hprefix ⊢
      exact List.prefix_nil.1 hprefix
    · have hfirst : firstServed (q.fail intn e).input.satisfied (groupsLeft st r) r.retry = some (j, (kj : Int), c.id) := by
        rw [groupsLeft, hat.userGroup, hat.index, hat.retry]
        exact hserved
      obtain ⟨r', place, hselect⟩ := select_of_firstServed hat.tokenGroup hfirst rfl
      obtain ⟨x, s', k', hk', hposition, hat', hretry, hvisits⟩ := visit_of_select hR hat hk intn rfl hselect
      have htest : ¬ st.retryTimes < r.retry := by
        rw [hR, hat.retry]
        exact_mod_cast not_lt.2 hk
      have hagain : shouldRetry policy ⟨false, false⟩ (policy.normalizeViolationFeeError e) (st.retryTimes - r'.retry) = true := by
        refine shouldRetry_of_one he ?_
        rw [hR, hretry]
        split <;> omega
      have hrun : (relayPasses policy ⟨false, false⟩ st (q.fail intn e :: List.replicate n (q.fail intn e)) none r).1 =
          ⟨⟨c.id, place⟩, some (policy.normalizeViolationFeeError e)⟩ :: (relayPasses policy ⟨false, false⟩ st
            (List.replicate n (q.fail intn e)) none r'.increaseRetry).1 := by
        simp only [relayPasses, if_neg htest, hselect]
        simp only [failWith, Option.isSome_none, Bool.false_eq_true, if_false, hagain, if_true]
      rw [hvisits, List.length_cons] at hn
      rw [hrun, hvisits, List.map_cons, Ask.positions, List.map_cons, hposition]
      exact congrArg _ (ih hat' hk' (Nat.le_of_succ_le_succ hn))

/-! ## The first attempt -/

variable (q) in
/-- The preferred channel of the first group that has it. -/
theorem affinity_auto (husing : r.usingGroup = "auto") (hgroups : st.getUserAutoGroup r.userGroup = q.groups)
    (preferred : Option Int) (intn : RandIntn) : r.affinity st (q.input preferred intn) =
      (q.cache.preferredPlace q.env q.modelName q.groups preferred).map fun found =>
        ({ r with autoGroup := q.groups[found.2]? }, ⟨found.1, some found.2⟩) := by
  unfold affinity preferredPlace
  rw [← hgroups]
  cases preferred with
  | none => rfl
  | some id =>
    simp only [distributeInput, if_pos husing, Option.bind_some, Option.map_map]
    rfl

/-- A channel the middleware selects is the first visit; the loop goes on with the others. -/
theorem visit_of_distribute {r₁ : RelayPricing} (hR : st.retryTimes = R) (hgroup : r.tokenGroup = "auto")
    (husing : r.usingGroup = "auto") (hgroups : st.getUserAutoGroup r.userGroup = q.groups) (hcross : r.crossGroupRetry = true)
    (hindex : r.autoGroupIndex = none) {preferred : Option Int} {intn : RandIntn}
    (haffinity : r.affinity st (q.input preferred intn) = none) (h : r.distribute st (q.input preferred intn) = some (r₁, first)) :
    ∃ x rest, q.position first = some x ∧
      visits R 0 0 q.tally = x :: rest ∧
      (0 < R → ∃ s, AtPlace st q.groups (restarted r₁).increaseRetry s 1 ∧
        rest = visits R 1 s (q.tally.drop s)) := by
  rcases distribute_cases h with ⟨hpin, -⟩ | ⟨-, hsome⟩ | ⟨-, -, r₂, hget, hplace, rfl⟩
  · cases hpin
  · rw [haffinity] at hsome
    cases hsome
  · rcases cacheGet_cases hget with ⟨hother, -⟩ | ⟨-, j, k, hfirst, rfl⟩
    · exact absurd husing hother
    -- the middleware's counter is 0, and so is the attempt in the group it finds
    have hk : k = 0 := (firstServed_retry hfirst).trans (ite_self _)
    subst hk
    have hfirst' : firstServed (q.serve intn) q.groups ((0 : Nat) : Int) = some (j, 0, first.channel) := by
      simp only [groupsLeft, hindex, hgroups, Option.getD_none, List.drop_zero] at hfirst
      exact hfirst
    rcases firstServed_visits q intn q.groups (Nat.zero_le R) 0 with
      ⟨hnone, -⟩ | ⟨j', kj, c, hserved, -, hcached, hvisits⟩
    · rw [hnone] at hfirst'
      cases hfirst'
    rw [hserved] at hfirst'
    obtain ⟨rfl, rfl, hchannel⟩ : j' = j ∧ kj = 0 ∧ c.id = first.channel := by simpa using hfirst'
    refine ⟨_, _, ?_, hvisits, ?_⟩
    · unfold Ask.position position
      rw [hplace, place_served rfl, ← hchannel, hcached, hindex, Option.getD_none, Nat.zero_add]
      rfl
    · intro hpos
      rw [if_neg (not_le.2 hpos), Nat.zero_add, Nat.zero_add]
      refine ⟨j', ?_, rfl⟩
      have hstay : ¬ (r.crossGroupRetry = true ∧ st.retryTimes ≤ 0) := by
        rintro ⟨-, hle⟩
        omega
      simp only [served, if_neg hstay]
      rw [increaseRetry_of_count rfl]
      exact ⟨hgroup, hgroups, hcross, by simp [hindex], rfl, rfl⟩

/-- Where the middleware has no channel there is nothing to visit. -/
theorem no_visit_of_distribute (husing : r.usingGroup = "auto") (hgroups : st.getUserAutoGroup r.userGroup = q.groups)
    (hindex : r.autoGroupIndex = none) {preferred : Option Int} {intn : RandIntn} (h : r.distribute st (q.input preferred intn) = none) :
    r.affinity st (q.input preferred intn) = none ∧
      visits R 0 0 q.tally = [] := by
  cases haffinity : r.affinity st (q.input preferred intn) with
  | some found =>
    rw [distribute_of_affinity rfl haffinity] at h
    cases h
  | none =>
    refine ⟨rfl, ?_⟩
    unfold distribute at h
    rw [haffinity] at h
    rcases firstServed_visits (R := R) q intn q.groups (Nat.zero_le R) 0 with ⟨-, hnil⟩ | ⟨j, kj, c, hserved, -⟩
    · exact hnil
    rcases cacheGet_auto
        (r := { r with tokenGroup := r.usingGroup, retry := 0, resetNextTry := false }) husing with
      ⟨j', k', channel, -, hget⟩ | ⟨hnone, -⟩
    · rw [hget] at h
      cases h
    simp only [distributeInput, groupsLeft, hindex, hgroups, Option.getD_none, List.drop_zero] at hnone
    rw [Nat.cast_zero, hnone] at hserved
    cases hserved

/-! ## The whole request -/

/-- The attempts of the loop, from the one on the middleware's channel. -/
theorem loop_visits (policy : RetryPolicy) (context : RetryContext) (hR : st.retryTimes = R) (hpos : 0 < R) (passes : List RelayPass)
    (hfixed : ∀ p ∈ passes, ∃ intn, p.input.satisfied = q.serve intn) (hat : AtPlace st q.groups r.increaseRetry s 1) :
    q.positions (relayPasses policy context st passes (some first) r).1 <+: q.position first ::
        (visits R 1 s (q.tally.drop s)).map some := by
  cases passes with
  | nil => exact List.nil_prefix
  | cons p rest =>
    rcases relayPasses_cases policy context rest (some first) with hend | ⟨r', sel, -, hselect, ⟨e, hlast⟩ | ⟨e, -, -, hagain⟩⟩
    · rw [hend]
      exact List.nil_prefix
    · cases hselect
      rw [hlast]
      exact List.cons_prefix_cons.2 ⟨rfl, List.nil_prefix⟩
    · cases hselect
      rw [hagain]
      have hrest : ∀ p' ∈ rest, ∃ intn, p'.input.satisfied = q.serve intn := by
        intro p' hp'
        exact hfixed p' (List.mem_cons_of_mem p hp')
      exact List.cons_prefix_cons.2 ⟨rfl, run_visits q policy context hR rest hrest hat hpos⟩

/-- One failing pass makes the attempt on the middleware's channel. -/
theorem loop_first (context : RetryContext) (hR : 0 ≤ st.retryTimes) (intn : RandIntn) (e : RelayError)
    (hretry : r.retry = 0) (first : Selected) : q.positions (relayPasses policy context st [q.fail intn e] (some first) r).1 =
      [q.position first] := by
  have htest : ¬ st.retryTimes < r.retry := by omega
  simp only [relayPasses, if_neg htest, RelayPass.select, failWith, Option.isSome_none, Bool.false_eq_true, if_false]
  split <;> rfl

variable (q) in
/-- Enough failing passes make every visit after the attempt on the middleware's channel. -/
theorem loop_all_visits
    (he : shouldRetry policy ⟨false, false⟩ (policy.normalizeViolationFeeError e) 1 = true) (hR : st.retryTimes = R) (hpos : 0 < R)
    (intn : RandIntn) (hretry : r.retry = 0) (hat : AtPlace st q.groups r.increaseRetry s 1) : ∃ n, q.positions
        (relayPasses policy ⟨false, false⟩ st (List.replicate n (q.fail intn e)) (some first) r).1 = q.position first ::
        (visits R 1 s (q.tally.drop s)).map some := by
  refine ⟨(visits R 1 s (q.tally.drop s)).length + 1, ?_⟩
  have hrest := run_all_visits q he hR hpos intn _ hat hpos (le_refl _)
  have htest : ¬ st.retryTimes < r.retry := by omega
  have hagain : shouldRetry policy ⟨false, false⟩ (policy.normalizeViolationFeeError e) (st.retryTimes - r.retry) = true :=
    shouldRetry_of_one he (by omega)
  rw [← hrest, List.replicate_succ]
  simp only [relayPasses, if_neg htest, RelayPass.select]
  simp only [failWith, Option.isSome_none, Bool.false_eq_true, if_false, hagain, if_true, List.map_cons]

/-- A channel leads its group exactly where its attempt is the first in a group that has channels. -/
theorem leads_iff : q.Leads id i ↔
      q.position ⟨id, some i⟩ = some (i, 0) ∧
        ∃ n ∈ q.tally[i]?, n ≠ 0 := by
  unfold Ask.Leads Ask.position Ask.tally Ask.tallyOf Leads position levelCounts
  cases hcached : q.cache.channelsIDM id with
  | none => simp
  | some c =>
    cases hg : q.groups[i]? with
    | none => simp [hg]
    | some g =>
      cases hlevels : q.levels g with
      | nil => simp [hg, hlevels]
      | cons level rest =>
        by_cases heq : level = c.getPriority <;> simp [hg, hlevels, heq]

/-- The attempts of every run of failing passes are the first ones of the longest. -/
theorem loop_prefix_iff (he : shouldRetry policy ⟨false, false⟩ (policy.normalizeViolationFeeError e) 1 = true) (affinitySkipRetry : Bool)
    (hR : st.retryTimes = R) (intn : RandIntn) (first : Selected)
    (hat : 0 < R → AtPlace st q.groups (restarted r).increaseRetry s 1) (order : List (Option (Nat × Nat))) :
    (∀ passes, q.cache.AllFail q.env q.modelName q.path policy passes →
      q.positions (relayPasses policy ⟨affinitySkipRetry, false⟩ st passes (some first) (restarted r)).1 <+: order) ↔
      (if R = 0 ∨ affinitySkipRetry = true then [q.position first] else q.position first ::
          (visits R 1 s (q.tally.drop s)).map some) <+: order := by
  have hfail : ∀ n, q.cache.AllFail q.env q.modelName q.path policy (List.replicate n (q.fail intn e)) := by
    intro n p hp
    rw [List.eq_of_mem_replicate hp]
    exact ⟨⟨intn, rfl⟩, e, rfl, he⟩
  by_cases hsingle : R = 0 ∨ affinitySkipRetry = true
  · rw [if_pos hsingle]
    constructor
    · intro h
      have hone := h _ (hfail 1)
      rw [List.replicate_one, loop_first _ (by omega) intn e rfl] at hone
      exact hone
    · intro h passes _
      have hattempt := RetryPinAux.single_attempt (r := r) policy ⟨affinitySkipRetry, false⟩ first passes
        (hsingle.imp (fun hzero => show st.retryTimes ≤ 0 by omega) .inl)
      rcases hattempt with hnone | ⟨e', hone⟩
      · rw [hnone]
        exact List.nil_prefix
      · rw [hone]
        exact h
  · rw [if_neg hsingle]
    obtain ⟨hne, hskip⟩ := not_or.1 hsingle
    have hpos : 0 < R := Nat.pos_of_ne_zero hne
    rw [Bool.not_eq_true] at hskip
    subst hskip
    constructor
    · intro h
      obtain ⟨n, hall⟩ := loop_all_visits q he hR hpos intn (r := restarted r) rfl (hat hpos)
      rw [← hall]
      exact h _ (hfail n)
    · intro h passes hpasses
      exact (loop_visits policy _ hR hpos passes (fun p hp => (hpasses p hp).1) (hat hpos)).trans h

/-- A preferred channel is the first of the documented order exactly where it leads the first group with channels. -/
theorem leading_iff : (∃ x, q.position ⟨id, some i⟩ = some x ∧ (documentedOrder 0 q.tally).head? = some x) ↔
      q.Leads id i ∧ ∀ n ∈ q.tally.take i, n = 0 := by
  simp only [leads_iff, head_documentedOrder]
  constructor
  · rintro ⟨x, hposition, j, rfl, hne, hzero⟩
    obtain rfl : i = j := by
      obtain ⟨c, -, heq⟩ := Option.map_eq_some_iff.1 hposition
      rw [Nat.zero_add] at heq
      exact (Prod.mk.inj heq).1
    rw [Nat.zero_add] at hposition
    exact ⟨⟨hposition, hne⟩, hzero⟩
  · rintro ⟨⟨hposition, hne⟩, hzero⟩
    exact ⟨_, hposition, i, by rw [Nat.zero_add], hne, hzero⟩

end Serve

/-- A property of the attempts is one of the passes. -/
theorem relayRequest_iff {policy : RetryPolicy} {affinitySkipRetry : Bool} {st : PricingSettings} {d : DistributeInput}
    {r r₁ : RelayPricing} (h : r.distribute st d = some (r₁, first)) (passes : List RelayPass) (P : List Contact → Prop) :
    (∀ contacts ended, relayRequest policy affinitySkipRetry st d passes r = some (contacts, ended) → P contacts) ↔
      P (relayPasses policy ⟨affinitySkipRetry, d.specificChannel.isSome⟩ st passes (some first) (restarted r₁)).1 := by
  unfold relayRequest
  rw [h]
  constructor
  · intro hall
    exact hall _ _ rfl
  · rintro hP contacts ended heq
    rw [Option.map_some, Option.some.injEq] at heq
    simp only at heq
    rw [heq] at hP
    exact hP

theorem prefix_map_some {xs ys : List α} : xs.map some <+: ys.map some ↔ xs <+: ys :=
  List.prefix_map_iff_of_injective (Option.some_injective α)

theorem singleton_prefix_iff {x : Option α} {ys : List α} : [x] <+: ys.map some ↔ ∃ y, x = some y ∧ ys.head? = some y := by
  cases ys with
  | nil => simp
  | cons y ys => simp [List.cons_prefix_cons]

/-- After the first priority of the first group with channels, the visits are those of the selection where that is the first group. -/
theorem visits_of_leading (hpos : 0 < R) (hne : ∃ n ∈ counts[i]?, n ≠ 0) (hzero : ∀ n ∈ counts.take i, n = 0) :
    (i, 0) :: visits R 1 0 counts <+: documentedOrder 0 counts ↔ i = 0 ∧ LevelsFit R counts := by
  cases counts with
  | nil => simp at hne
  | cons count rest =>
    cases i with
    | zero =>
      obtain ⟨n, hn, hcount⟩ := hne
      cases hn
      have hvisits := visits_cons (Nat.zero_le R) 0 hcount rest
      rw [if_neg (not_le.2 hpos), Nat.zero_min, Nat.zero_add] at hvisits
      rw [← hvisits, visits_prefix_iff]
      simp
    | succ i =>
      obtain rfl : count = 0 := hzero count List.mem_cons_self
      have hhead : (documentedOrder 0 (0 :: rest)).head? = some (i + 1, 0) :=
        (head_documentedOrder).2 ⟨i + 1, by rw [Nat.zero_add], hne, hzero⟩
      refine ⟨fun hprefix => ?_, fun h => absurd h.1 (Nat.succ_ne_zero i)⟩
      rw [visits_zero] at hprefix
      have hagain : (visits R 0 (0 + 1) rest).head? = some (i + 1, 0) := (head_visits).trans hhead
      obtain ⟨later, hlater⟩ := List.head?_eq_some_iff.1 hagain
      rw [hlater] at hprefix
      have hnodup := (nodup_documentedOrder 0 (0 :: rest)).sublist hprefix.sublist
      simp at hnodup

/-- The attempts of a request whose first channel is the selection's. -/
theorem selected_prefix_iff {rest later : List (Nat × Nat)} (hvisits : visits R 0 0 counts = x :: rest)
    (affinitySkipRetry : Bool) (hlater : 0 < R → rest = later) :
    (if R = 0 ∨ affinitySkipRetry = true then [some x] else some x :: later.map some) <+: (documentedOrder 0 counts).map some ↔
      R = 0 ∨ affinitySkipRetry = true ∨ LevelsFit R counts := by
  by_cases hsingle : R = 0 ∨ affinitySkipRetry = true
  · rw [if_pos hsingle, singleton_prefix_iff, ← head_visits, hvisits]
    exact ⟨fun _ => or_assoc.1 (.inl hsingle), fun _ => ⟨x, rfl, rfl⟩⟩
  obtain ⟨hne, hskip⟩ := not_or.1 hsingle
  rw [if_neg hsingle, ← hlater (Nat.pos_of_ne_zero hne), ← List.map_cons, ← hvisits, prefix_map_some, visits_prefix_iff]
  exact ⟨fun hfit => .inr (.inr hfit), fun hways => (hways.resolve_left hne).resolve_left hskip⟩

/-- The attempts of a request whose first channel is a preferred one of the group at `i`. -/
theorem preferred_prefix_iff {Config : Type} {q : Ask Config} (affinitySkipRetry : Bool) :
    (if R = 0 ∨ affinitySkipRetry = true then [q.position ⟨id, some i⟩] else q.position ⟨id, some i⟩ :: (visits R 1 0 q.tally).map some) <+:
        (documentedOrder 0 q.tally).map some ↔ (q.Leads id i ∧ ∀ n ∈ q.tally.take i, n = 0) ∧
        (R = 0 ∨ affinitySkipRetry = true ∨ i = 0 ∧ LevelsFit R q.tally) := by
  by_cases hsingle : R = 0 ∨ affinitySkipRetry = true
  · rw [if_pos hsingle, singleton_prefix_iff, leading_iff]
    exact ⟨fun hlead => ⟨hlead, or_assoc.1 (.inl hsingle)⟩, fun h => h.1⟩
  obtain ⟨hne, hskip⟩ := not_or.1 hsingle
  have hpos : 0 < R := Nat.pos_of_ne_zero hne
  rw [if_neg hsingle]
  constructor
  · intro h
    have hlead := leading_iff.1 (singleton_prefix_iff.1 ((List.prefix_append [_] _).trans h))
    obtain ⟨hposition, hchannels⟩ := leads_iff.1 hlead.1
    rw [hposition, ← List.map_cons, prefix_map_some, visits_of_leading hpos hchannels hlead.2] at h
    exact ⟨hlead, .inr (.inr h)⟩
  · rintro ⟨hlead, hways⟩
    obtain ⟨hposition, hchannels⟩ := leads_iff.1 hlead.1
    rw [hposition, ← List.map_cons, prefix_map_some, visits_of_leading hpos hchannels hlead.2]
    exact (hways.resolve_left hne).resolve_left hskip

end RetryOrderAux

open RetryOrderAux

/-- Where every attempt fails and is tried again, the attempts follow the documented order exactly where the groups have the priorities
that are asked for and a preferred channel is one of the highest priority of the first group. A request that makes one attempt only needs
no more than that its preferred channel is one of the highest priority of the first group with channels. -/
theorem retries_in_documented_order_iff {Config : Type} (env : ChannelEnv Config) (cache : ChannelCache Config) (modelName path : String)
    (policy : RetryPolicy) (affinitySkipRetry : Bool) (st : PricingSettings) (preferred : Option Int) (intn : RandIntn) {r : RelayPricing}
    {groups : List String} (hgroup : r.tokenGroup = "auto") (husing : r.usingGroup = "auto") (hcross : r.crossGroupRetry = true)
    (hindex : r.autoGroupIndex = none) (hgroups : st.getUserAutoGroup r.userGroup = groups) {e : RelayError}
    (he : shouldRetry policy ⟨false, false⟩ (policy.normalizeViolationFeeError e) 1 = true) :
    (∀ passes, cache.AllFail env modelName path policy passes → ∀ contacts ended,
        relayRequest policy affinitySkipRetry st (cache.distributeInput env modelName path preferred intn) passes r =
          some (contacts, ended) →
          contacts.map (fun c => cache.position env modelName path groups c.selected) <+:
            (documentedOrder 0 (cache.levelCounts env modelName path groups)).map some) ↔ (st.retryTimes < 0 ∨
        (∀ id i, cache.preferredPlace env modelName groups preferred = some (id, i) →
          cache.Leads env modelName path groups id i ∧ ∀ n ∈ (cache.levelCounts env modelName path groups).take i, n = 0) ∧
        (st.retryTimes = 0 ∨ affinitySkipRetry = true ∨
          (∀ id i, cache.preferredPlace env modelName groups preferred = some (id, i) → i = 0) ∧
            LevelsFit st.retryTimes.toNat (cache.levelCounts env modelName path groups))) := by
  by_cases hneg : st.retryTimes < 0
  · refine ⟨fun _ => .inl hneg, fun _ passes _ => ?_⟩
    cases hdistribute : r.distribute st (cache.distributeInput env modelName path preferred intn) with
    | none => simp [relayRequest, hdistribute]
    | some found =>
      refine (relayRequest_iff hdistribute passes fun contacts => contacts.map _ <+: _).2 ?_
      rw [RetryPinAux.no_attempt_of_used passes (some found.2) hneg]
      exact List.nil_prefix
  obtain ⟨R, hR⟩ := Int.eq_ofNat_of_zero_le (not_lt.1 hneg)
  rw [hR, Int.toNat_natCast]
  simp only [show ¬ ((R : Nat) : Int) < 0 by omega, false_or, Int.natCast_eq_zero]
  let q : Ask Config := ⟨env, cache, modelName, path, groups⟩
  cases hdistribute : r.distribute st (cache.distributeInput env modelName path preferred intn) with
  | none =>
    -- no attempt, and no group with channels
    obtain ⟨haffinity, hnil⟩ := no_visit_of_distribute (R := R) (q := q) husing hgroups hindex hdistribute
    rw [affinity_auto q husing hgroups, Option.map_eq_none_iff] at haffinity
    change cache.preferredPlace env modelName groups preferred = none at haffinity
    have hzero : ∀ n ∈ cache.levelCounts env modelName path groups, n = 0 := by
      by_contra h
      exact visits_ne_nil h 0 hnil
    simp only [relayRequest, hdistribute, haffinity, Option.map_none, reduceCtorEq, false_implies, implies_true, true_and, true_iff]
    exact .inr (.inr (levelsFit_of_zero hzero))
  | some found =>
    obtain ⟨r₁, first⟩ := found
    simp only [relayRequest_iff hdistribute _ fun contacts => contacts.map _ <+: _]
    cases hpreferred : cache.preferredPlace env modelName groups preferred with
    | none =>
      have haffinity := affinity_auto q husing hgroups preferred intn
      rw [hpreferred] at haffinity
      obtain ⟨x, rest, hposition, hvisits, hrest⟩ :=
        visit_of_distribute (q := q) hR hgroup husing hgroups hcross hindex haffinity hdistribute
      obtain ⟨s, hs⟩ : ∃ s, 0 < R → AtPlace st groups (restarted r₁).increaseRetry s 1 ∧
          rest = visits R 1 s ((cache.levelCounts env modelName path groups).drop s) := by
        rcases Nat.eq_zero_or_pos R with hzero | hpos
        · exact ⟨0, fun h => absurd h (by omega)⟩
        · obtain ⟨s, hs⟩ := hrest hpos
          exact ⟨s, fun _ => hs⟩
      refine (loop_prefix_iff (q := q) he affinitySkipRetry hR intn first (fun hpos => (hs hpos).1) _).trans ?_
      rw [hposition, selected_prefix_iff hvisits affinitySkipRetry fun hpos => (hs hpos).2]
      simp only [reduceCtorEq, false_implies, implies_true, true_and]
      exact Iff.rfl
    | some leader =>
      obtain ⟨id, i⟩ := leader
      have haffinity := affinity_auto q husing hgroups preferred intn
      rw [hpreferred, Option.map_some] at haffinity
      rw [distribute_of_affinity rfl haffinity] at hdistribute
      cases hdistribute
      -- a preferred channel leaves the index unset: the retries begin with the second attempt in the first group
      have hplace : AtPlace st q.groups (increaseRetry { r with autoGroup := groups[i]?, retry := 0, resetNextTry := false }) 0 1 := by
        rw [increaseRetry_of_count rfl]
        exact ⟨hgroup, hgroups, hcross, by simp [hindex], rfl, rfl⟩
      refine (loop_prefix_iff (r := { r with autoGroup := groups[i]? }) he affinitySkipRetry hR intn ⟨id, some i⟩
        (fun _ => hplace) _).trans ?_
      rw [List.drop_zero, preferred_prefix_iff]
      have honly : ∀ P : Int → Nat → Prop, (∀ id' i', some (id, i) = some (id', i') → P id' i') ↔ P id i := by
        intro P
        constructor
        · intro h
          exact h id i rfl
        · rintro h _ _ ⟨⟩
          exact h
      simp only [honly]
      exact Iff.rfl

namespace RetryOrderAux

/-- A cache in which the groups `default` and `vip` have these channels for every model, each channel with a priority of its own. -/
def cacheOf (default vip : List Int) : ChannelCache Unit where
  group2model2channels group :=
    if group = "default" then some fun _ => some default else if group = "vip" then some fun _ => some vip else none
  channelsIDM id := some { ChannelCacheAux.defaultChannel "m" with id := id, priority := some (-id) }
  channel2advancedCustomConfig _ := none
  ids := by
    rintro id c ⟨⟩
    rfl

theorem levelCounts_twoPriorities : (cacheOf [1, 2] [3, 4]).levelCounts ChannelCacheAux.plainEnv "m" "" ["default", "vip"] = [2, 2] := by
  have hdefault : ((cacheOf [1, 2] [3, 4]).candidates ChannelCacheAux.plainEnv "default" "m" "").mapM (cacheOf [1, 2] [3, 4]).fetch =
      .ok [{ ChannelCacheAux.defaultChannel "m" with id := 1, priority := some (-1) },
        { ChannelCacheAux.defaultChannel "m" with id := 2, priority := some (-2) }] := rfl
  have hvip : ((cacheOf [1, 2] [3, 4]).candidates ChannelCacheAux.plainEnv "vip" "m" "").mapM (cacheOf [1, 2] [3, 4]).fetch =
      .ok [{ ChannelCacheAux.defaultChannel "m" with id := 3, priority := some (-3) },
        { ChannelCacheAux.defaultChannel "m" with id := 4, priority := some (-4) }] := rfl
  simp only [levelCounts, groupLevels, List.map_cons, List.map_nil, hdefault, hvip, levels, List.length_mergeSort]
  rfl

end RetryOrderAux

/-- Two groups with two priorities each and one retry: every priority is tried once, in order. -/
theorem retries_in_documented_order_two_priorities :
    (cacheOf [1, 2] [3, 4]).levelCounts ChannelCacheAux.plainEnv "m" "" ["default", "vip"] = [2, 2] ∧
    ∀ passes, (cacheOf [1, 2] [3, 4]).AllFail ChannelCacheAux.plainEnv "m" "" retryPolicy passes → ∀ contacts ended,
      relayRequest retryPolicy false GroupPricingAux.twoGroups
          ((cacheOf [1, 2] [3, 4]).distributeInput ChannelCacheAux.plainEnv "m" "" none RandIntn.zero) passes freshRequest =
        some (contacts, ended) →
      contacts.map (fun c => (cacheOf [1, 2] [3, 4]).position ChannelCacheAux.plainEnv "m" "" ["default", "vip"] c.selected) <+:
        (documentedOrder 0 ((cacheOf [1, 2] [3, 4]).levelCounts ChannelCacheAux.plainEnv "m" "" ["default", "vip"])).map some := by
  have hretry : shouldRetry retryPolicy ⟨false, false⟩ (retryPolicy.normalizeViolationFeeError badGateway) 1 = true := by decide
  have hgroups : GroupPricingAux.twoGroups.getUserAutoGroup freshRequest.userGroup = ["default", "vip"] := rfl
  refine ⟨levelCounts_twoPriorities, (retries_in_documented_order_iff ChannelCacheAux.plainEnv (cacheOf [1, 2] [3, 4]) "m" "" retryPolicy
    false GroupPricingAux.twoGroups none RandIntn.zero rfl rfl rfl rfl hgroups hretry).2 (.inr ⟨?_, .inr (.inr ⟨?_, ?_⟩)⟩)⟩
  · rintro id i ⟨⟩
  · rintro id i ⟨⟩
  · rw [levelCounts_twoPriorities]
    refine ⟨.inr ?_, .inr ?_, trivial⟩
    · rfl
    · exact le_refl 2

/-- Two groups with one priority each and one retry: the only priority of a group is tried twice before the next group. -/
theorem single_priority_tried_twice :
    ∃ contacts, (cacheOf [1] [3]).AllFail ChannelCacheAux.plainEnv "m" "" retryPolicy
        (List.replicate 5 (failWith ChannelCacheAux.plainEnv (cacheOf [1] [3]) "m" "" RandIntn.zero badGateway)) ∧
      relayRequest retryPolicy false GroupPricingAux.twoGroups
          ((cacheOf [1] [3]).distributeInput ChannelCacheAux.plainEnv "m" "" none RandIntn.zero)
          (List.replicate 5 (failWith ChannelCacheAux.plainEnv (cacheOf [1] [3]) "m" "" RandIntn.zero badGateway)) freshRequest =
        some (contacts, true) ∧
      contacts.map (fun c => c.selected) = [⟨1, some 0⟩, ⟨1, some 0⟩, ⟨3, some 1⟩, ⟨3, some 1⟩] ∧
      ¬ contacts.map (fun c => (cacheOf [1] [3]).position ChannelCacheAux.plainEnv "m" "" ["default", "vip"] c.selected) <+:
        (documentedOrder 0 ((cacheOf [1] [3]).levelCounts ChannelCacheAux.plainEnv "m" "" ["default", "vip"])).map some := by
  obtain ⟨contacts, hrun, hselected⟩ : ∃ contacts, relayRequest retryPolicy false GroupPricingAux.twoGroups
      ((cacheOf [1] [3]).distributeInput ChannelCacheAux.plainEnv "m" "" none RandIntn.zero)
      (List.replicate 5 (failWith ChannelCacheAux.plainEnv (cacheOf [1] [3]) "m" "" RandIntn.zero badGateway)) freshRequest =
        some (contacts, true) ∧
      contacts.map (fun c => c.selected) = [⟨1, some 0⟩, ⟨1, some 0⟩, ⟨3, some 1⟩, ⟨3, some 1⟩] := ⟨_, rfl, rfl⟩
  refine ⟨contacts, ?_, hrun, hselected, ?_⟩
  · intro p hp
    rw [List.eq_of_mem_replicate hp]
    exact ⟨⟨RandIntn.zero, rfl⟩, badGateway, rfl, by decide⟩
  · -- the order has no place twice
    intro hprefix
    have hnodup := ((nodup_documentedOrder 0 _).map (Option.some_injective _)).sublist hprefix.sublist
    rw [← Function.comp_def, ← List.map_map, hselected] at hnodup
    simp at hnodup

end NewApi
