import NewApi.Lemmas.ChannelCacheAux
import NewApi.Lib.Weighted
import NewApi.Model.ChannelQuery

/-!
# Which channels a selection can return

The cache and the tables both choose among the channels of one priority, each by its own weighting. Whatever the random number, one of
them is returned; and each of them is returned for some number, where the weights are positive.
-/

namespace NewApi

open Tables NestedMaps

namespace ChannelPickAux

variable {channels : List Channel} {α β ε : Type} {f : α → Except ε β} {xs : List α} {retry : Nat} {c : Channel}

/-! ## Priorities -/

/-- The different priorities of the channels, from the highest down. -/
def levels (channels : List Channel) : List Int := ((channels.map Channel.getPriority).dedup).mergeSort (fun a b => decide (b ≤ a))

/-- The levels are the priorities of the channels. -/
theorem mem_levels {p : Int} : p ∈ levels channels ↔ ∃ c ∈ channels, c.getPriority = p := by
  unfold levels
  rw [List.mem_mergeSort, List.mem_dedup, List.mem_map]

theorem nodup_levels (channels : List Channel) : (levels channels).Nodup :=
  (List.mergeSort_perm _ _).nodup_iff.2 (List.nodup_dedup _)

theorem levels_ne_nil (h : channels ≠ []) : levels channels ≠ [] := by
  obtain ⟨c, hc⟩ := List.exists_mem_of_ne_nil channels h
  exact List.ne_nil_of_mem (mem_levels.2 ⟨c, hc, rfl⟩)

/-- The priority of a retry is the one at its place, or the lowest. -/
theorem targetPriority_eq (retry : Nat) (h : channels ≠ []) :
    (levels channels)[min retry ((levels channels).length - 1)]? = some (ChannelCache.targetPriority retry channels) := by
  have hpos : 0 < (levels channels).length := List.length_pos_of_ne_nil (levels_ne_nil h)
  have hindex : (if (levels channels).length ≤ retry then (levels channels).length - 1 else retry) =
      min retry ((levels channels).length - 1) := by
    split <;> omega
  have htarget : ChannelCache.targetPriority retry channels =
      (levels channels).getD (if (levels channels).length ≤ retry then (levels channels).length - 1 else retry) 0 := rfl
  rw [htarget, hindex, List.getD_eq_getElem?_getD]
  have hlt : min retry ((levels channels).length - 1) < (levels channels).length := by omega
  rw [List.getElem?_eq_getElem hlt, Option.getD_some]

/-- The priority of a retry is one that a channel has. -/
theorem exists_targetPriority (retry : Nat) (h : channels ≠ []) :
    ∃ c ∈ channels, c.getPriority = ChannelCache.targetPriority retry channels :=
  mem_levels.1 (List.mem_of_getElem? (targetPriority_eq retry h))

/-! ## Random numbers -/

/-- A random number that is one given ticket. -/
def ticketIntn (ticket total : Nat) (h : ticket < total) : RandIntn :=
  ⟨fun n => if n = total then ticket else 0, by
    intro n hn
    simp only
    split
    · rename_i heq
      rw [heq]
      exact h
    · exact hn⟩

/-- A source of random numbers that draws the ticket. -/
theorem ticketIntn_total {ticket total : Nat} (h : ticket < total) : (ticketIntn ticket total h).1 total = ticket := if_pos rfl

/-! ## The cache's choice -/

open ChannelCache

def share (factor adjustment : Nat) (c : Channel) : Nat := c.getWeight * factor + adjustment

/-- The walk in memory is a weighted pick with bound 0. -/
theorem pickByWeight_eq (factor adjustment : Nat) (ticket : Int) (channels : List Channel) :
    pickByWeight factor adjustment ticket channels =
      (Weighted.pick (share factor adjustment) 0 ticket channels).elim (.error "channel not found") fun c => .ok (some c) := by
  induction channels generalizing ticket with
  | nil => rfl
  | cons c rest ih =>
    by_cases hc : ticket - (share factor adjustment c : Nat) < 0
    · have hpick : Weighted.pick (share factor adjustment) 0 ticket (c :: rest) = some c := by
        rw [Weighted.pick, if_pos (by simpa using hc)]
      rw [hpick]
      exact if_pos hc
    · have hpick : Weighted.pick (share factor adjustment) 0 ticket (c :: rest) =
          Weighted.pick (share factor adjustment) 0 (ticket - share factor adjustment c) rest := by
        rw [Weighted.pick, if_neg (by simpa using hc)]
      rw [hpick, ← ih]
      exact if_neg hc

/-- What the shares of the channels add up to. -/
theorem total_share (factor adjustment : Nat) (channels : List Channel) :
    Weighted.total (share factor adjustment) channels = (channels.map Channel.getWeight).sum * factor + channels.length * adjustment := by
  induction channels with
  | nil => simp [Weighted.total]
  | cons c rest ih =>
    simp only [Weighted.total, List.map_cons, List.sum_cons, List.length_cons, share] at ih ⊢
    rw [ih]
    ring

/-- The channels of the retry's priority. -/
def targets (retry : Nat) (channels : List Channel) : List Channel :=
  channels.filter fun c => c.getPriority = targetPriority retry channels

/-- The targets are the channels of the priority of the retry. -/
theorem mem_targets : c ∈ targets retry channels ↔ c ∈ channels ∧ c.getPriority = targetPriority retry channels := by
  simp [targets]

theorem targets_ne_nil (retry : Nat) (hne : channels ≠ []) : targets retry channels ≠ [] := by
  obtain ⟨c, hc, hpriority⟩ := exists_targetPriority retry hne
  exact List.ne_nil_of_mem (mem_targets.2 ⟨hc, hpriority⟩)

variable (group model : String) {intn : Nat → Nat} {ys : List β}

/-- The smoothing factor and adjustment for the channels of a priority. -/
def smoothing (targets : List Channel) : Nat × Nat :=
  if (targets.map Channel.getWeight).sum = 0 then (1, 100)
  else if (targets.map Channel.getWeight).sum / targets.length < 10 then (100, 0)
  else (1, 0)

/-- The effective weight of a channel beside the others of its priority. -/
def effectiveWeight (targets : List Channel) : Channel → Nat := share (smoothing targets).1 (smoothing targets).2

/-- The random number is drawn below the sum of the effective weights. -/
def drawRange (targets : List Channel) : Nat := Weighted.total (effectiveWeight targets) targets

/-- A draw over some channels has tickets. -/
theorem smoothing_pos {targets : List Channel} (hne : targets ≠ []) : 0 < (smoothing targets).1 ∧ 0 < drawRange targets := by
  have hlength : 0 < targets.length := List.length_pos_of_ne_nil hne
  rw [drawRange, effectiveWeight, total_share]
  unfold smoothing
  split
  · omega
  · split <;> simp only <;> omega

/-- A channel is picked among the targets, by weight. -/
theorem pickChannel_eq (retry : Nat) (hne : channels ≠ []) (intn : Nat → Nat) : pickChannel group model retry intn channels =
    (Weighted.pick (effectiveWeight (targets retry channels)) 0 (intn (drawRange (targets retry channels))) (targets retry channels)).elim
      (.error "channel not found") fun c => .ok (some c) := by
  have htargets := targets_ne_nil retry hne
  rw [drawRange, effectiveWeight, ← pickByWeight_eq, total_share]
  unfold targets at htargets ⊢
  unfold smoothing
  simp only [pickChannel, if_neg htargets]
  split
  · rename_i hzero
    simp [hzero]
  · split <;> simp

/-- Whatever the random number, a channel of the retry's priority is chosen. -/
theorem pickChannel_some (hne : channels ≠ []) (hdraw : intn (drawRange (targets retry channels)) < drawRange (targets retry channels)) :
    ∃ c ∈ targets retry channels, pickChannel group model retry intn channels = .ok (some c) := by
  obtain ⟨c, hc, hchosen⟩ :=
    Weighted.exists_pick (effectiveWeight (targets retry channels)) 0 (targets_ne_nil retry hne) (Int.ofNat_lt.2 hdraw)
  refine ⟨c, hc, ?_⟩
  rw [pickChannel_eq group model retry hne, hchosen]
  rfl

/-- Each channel of the retry's priority is chosen for some random number, where the weights are positive. -/
theorem exists_pickChannel (retry : Nat) (hc : c ∈ targets retry channels)
    (hweight : 0 < c.getWeight) : ∃ intn : RandIntn, pickChannel group model retry intn.1 channels = .ok (some c) := by
  have hne : channels ≠ [] := List.ne_nil_of_mem (mem_targets.1 hc).1
  have hshare : 0 < effectiveWeight (targets retry channels) c :=
    Nat.add_pos_left (Nat.mul_pos hweight (smoothing_pos (List.ne_nil_of_mem hc)).1) _
  obtain ⟨ticket, hlt, hchosen⟩ := Weighted.exists_ticket hc hshare
  refine ⟨ticketIntn ticket _ hlt, ?_⟩
  rw [pickChannel_eq group model retry hne, drawRange, ticketIntn_total, hchosen]
  rfl

/-! ## The channels of the candidates -/

/-- What a fallible map over a list gives, element by element. -/
theorem forall₂_of_mapM (h : xs.mapM f = .ok ys) : List.Forall₂ (fun x y => f x = .ok y) xs ys := by
  induction xs generalizing ys with
  | nil =>
    cases h
    exact .nil
  | cons x xs ih =>
    rw [List.mapM_cons] at h
    cases hx : f x with
    | error e =>
      rw [hx] at h
      cases h
    | ok y =>
      rw [hx] at h
      cases hxs : xs.mapM f with
      | error e =>
        rw [hxs] at h
        cases h
      | ok ys' =>
        rw [hxs] at h
        cases h
        exact .cons hx (ih hxs)

/-- A list is read where each entry is. -/
theorem exists_mapM (h : ∀ x ∈ xs, ∃ y, f x = .ok y) : ∃ ys, xs.mapM f = .ok ys := by
  induction xs with
  | nil => exact ⟨[], rfl⟩
  | cons x xs ih =>
    obtain ⟨y, hy⟩ := h x List.mem_cons_self
    obtain ⟨ys, hys⟩ := ih fun x' hx' => h x' (List.mem_cons_of_mem x hx')
    refine ⟨y :: ys, ?_⟩
    rw [List.mapM_cons, hy, hys]
    rfl

/-- What a list that was read has in it. -/
theorem mem_mapM_iff (h : xs.mapM f = .ok ys) {y : β} : y ∈ ys ↔ ∃ x ∈ xs, f x = .ok y := by
  have hall := forall₂_of_mapM h
  clear h
  induction hall with
  | nil => simp
  | cons hx _ ih => simp [ih, hx, eq_comm]

section Cache

variable {Config : Type} {env : ChannelEnv Config} {cache : ChannelCache Config} {group model path : String}

/-- A channel is fetched exactly where the cache has it. -/
theorem fetch_eq_ok {id : Int} : cache.fetch id = .ok c ↔ cache.channelsIDM id = some c := by
  unfold fetch
  cases cache.channelsIDM id <;> simp

/-- A candidate's channel is the one the cache has under its id. -/
theorem cached_of_mem (hfetch : (cache.candidates env group model path).mapM cache.fetch = .ok channels)
    (hc : c ∈ channels) : cache.channelsIDM c.id = some c := by
  obtain ⟨id, -, hid⟩ := (mem_mapM_iff hfetch).1 hc
  have hcached := fetch_eq_ok.1 hid
  rwa [cache.ids id c hcached]

/-- What is picked is one of the channels. -/
theorem mem_of_pickChannel (h : pickChannel group model retry intn channels = .ok (some c)) : c ∈ channels := by
  by_cases hne : channels = []
  · subst hne
    cases h
  rw [pickChannel_eq group model retry hne] at h
  cases hpick : Weighted.pick (effectiveWeight (targets retry channels)) 0 (intn (drawRange (targets retry channels)))
    (targets retry channels) with
  | none =>
    rw [hpick] at h
    cases h
  | some c' =>
    rw [hpick] at h
    cases h
    exact (mem_targets.1 (Weighted.mem_of_pick hpick)).1

/-- What the cache selects is one of the candidates. -/
theorem candidate_of_getRandom (h : cache.getRandomSatisfiedChannel env group model retry path intn = .ok (some c)) :
    ∃ channels, (cache.candidates env group model path).mapM cache.fetch = .ok channels ∧ c ∈ channels := by
  unfold getRandomSatisfiedChannel at h
  split at h
  · cases h
  · rename_i id hids
    cases hfetch : cache.fetch id with
    | error e =>
      rw [hfetch] at h
      cases h
    | ok c' =>
      rw [hfetch] at h
      cases h
      refine ⟨[c], ?_, List.mem_singleton_self c⟩
      rw [hids, List.mapM_cons, hfetch]
      rfl
  · cases hchannels : (cache.candidates env group model path).mapM cache.fetch with
    | error e =>
      rw [hchannels] at h
      cases h
    | ok channels =>
      rw [hchannels] at h
      exact ⟨channels, rfl, mem_of_pickChannel h⟩

/-- A single candidate is returned as it is, and would be chosen too. -/
theorem getRandom_eq (hfetch : (cache.candidates env group model path).mapM cache.fetch = .ok channels) (hne : channels ≠ [])
    (hdraw : intn (drawRange (targets retry channels)) < drawRange (targets retry channels)) :
    cache.getRandomSatisfiedChannel env group model retry path intn = pickChannel group model retry intn channels := by
  unfold getRandomSatisfiedChannel
  have hall := forall₂_of_mapM hfetch
  generalize cache.candidates env group model path = ids at hfetch hall ⊢
  cases hall with
  | nil => exact absurd rfl hne
  | cons hfirst hrest =>
    cases hrest with
    | nil =>
      obtain ⟨c, hc, hchosen⟩ := pickChannel_some group model hne hdraw
      simp only [hfirst, Except.map, hchosen, List.mem_singleton.1 (mem_targets.1 hc).1]
    | cons hsecond hothers =>
      simp only [hfetch]
      rfl

/-- Whatever the random number, the cache returns a candidate of the retry's priority. -/
theorem getRandom_some (retry : Nat) (intn : RandIntn) (hfetch : (cache.candidates env group model path).mapM cache.fetch = .ok channels)
    (hne : channels ≠ []) :
    ∃ c ∈ targets retry channels, cache.getRandomSatisfiedChannel env group model retry path intn.1 = .ok (some c) := by
  have hdraw := intn.2 _ (smoothing_pos (targets_ne_nil retry hne)).2
  rw [getRandom_eq hfetch hne hdraw]
  exact pickChannel_some group model hne hdraw

/-- The channels the cache can return are the candidates of the retry's priority. -/
theorem getRandom_iff (hfetch : (cache.candidates env group model path).mapM cache.fetch = .ok channels)
    (hweights : ∀ c ∈ channels, 0 < c.getWeight) (c : Channel) :
    (∃ intn : RandIntn, cache.getRandomSatisfiedChannel env group model retry path intn.1 = .ok (some c)) ↔ c ∈ targets retry channels := by
  by_cases hne : channels = []
  · subst hne
    constructor
    · rintro ⟨intn, h⟩
      obtain ⟨channels, hchannels, hc⟩ := candidate_of_getRandom h
      rw [hfetch] at hchannels
      cases hchannels
      cases hc
    · intro h
      exact absurd (mem_targets.1 h).1 List.not_mem_nil
  · constructor
    · rintro ⟨intn, h⟩
      obtain ⟨c', hc', hsome⟩ := getRandom_some retry intn hfetch hne
      rw [hsome] at h
      cases h
      exact hc'
    · intro hc
      obtain ⟨intn, hchosen⟩ := exists_pickChannel group model retry hc (hweights c (mem_targets.1 hc).1)
      exact ⟨intn, (getRandom_eq hfetch hne (intn.2 _ (smoothing_pos (targets_ne_nil retry hne)).2)).trans hchosen⟩

end Cache

/-! ## The tables' choice -/

section Tables

open ChannelDb

def abilityShare (a : Ability) : Nat := a.weight + 10

/-- The walk over the table is a weighted pick with bound 1. -/
theorem pickAbility_eq (ticket : Int) (abilities : List Ability) :
    pickAbility ticket abilities = ((Weighted.pick abilityShare 1 ticket abilities).map Ability.channelId).getD 0 := by
  induction abilities generalizing ticket with
  | nil => rfl
  | cons a rest ih =>
    by_cases ha : ticket - (abilityShare a : Nat) ≤ 0
    · rw [Weighted.pick, if_pos (by push_cast; omega)]
      exact if_pos ha
    · rw [Weighted.pick, if_neg (by push_cast; omega), ← ih]
      exact if_neg ha

variable {Config : Type} {env : ChannelEnv Config} {db : ChannelDb} {order : WeightOrder} {group model path : String}

theorem total_abilityShare (abilities : List Ability) :
    Weighted.total abilityShare abilities = (abilities.map fun a => a.weight + 10).sum := rfl

/-- An ability that brings the random weight down to zero gives its channel. -/
theorem getChannel_of_pick {rows : List Ability} (hquery : db.channelQuery group model retry = .ok rows) {intn : RandIntn} {a : Ability}
    (hpick : Weighted.pick abilityShare 1
        (intn.1 (Weighted.total abilityShare (db.filterAbilitiesByRequestPath env (order.order rows) path true)))
        (db.filterAbilitiesByRequestPath env (order.order rows) path true) = some a) :
    db.getChannel env order group model retry path true intn =
      (db.channels.lookup a.channelId).elim (.error "record not found") fun c => .ok (some c) := by
  have hne : db.filterAbilitiesByRequestPath env (order.order rows) path true ≠ [] := List.ne_nil_of_mem (Weighted.mem_of_pick hpick)
  unfold getChannel
  rw [hquery]
  simp only [if_neg hne]
  rw [← total_abilityShare, pickAbility_eq, hpick]
  simp only [Option.map_some, Option.getD_some]
  cases db.channels.lookup a.channelId <;> rfl

/-- The channels the tables can return are those of the queried abilities that serve the path. -/
theorem getChannel_iff (c : Channel) : (∃ intn : RandIntn, db.getChannel env order group model retry path true intn = .ok (some c)) ↔
      ∃ rows, db.channelQuery group model retry = .ok rows ∧
        ∃ a ∈ db.filterAbilitiesByRequestPath env (order.order rows) path true, db.channels.lookup a.channelId = some c := by
  constructor
  · rintro ⟨intn, h⟩
    cases hquery : db.channelQuery group model retry with
    | error e =>
      rw [getChannel, hquery] at h
      cases h
    | ok rows =>
      refine ⟨rows, rfl, ?_⟩
      by_cases hne : db.filterAbilitiesByRequestPath env (order.order rows) path true = []
      · rw [getChannel, hquery] at h
        simp only [if_pos hne] at h
        cases h
      · have hpos : 0 < Weighted.total abilityShare (db.filterAbilitiesByRequestPath env (order.order rows) path true) := by
          obtain ⟨a, rest, hcons⟩ := List.exists_cons_of_ne_nil hne
          rw [hcons, total_abilityShare, List.map_cons, List.sum_cons]
          omega
        obtain ⟨a, ha, hpick⟩ := Weighted.exists_pick abilityShare 1 hne (Int.ofNat_lt.2 (intn.2 _ hpos))
        rw [getChannel_of_pick hquery hpick] at h
        refine ⟨a, ha, ?_⟩
        cases hlookup : db.channels.lookup a.channelId with
        | none =>
          rw [hlookup] at h
          cases h
        | some c' =>
          rw [hlookup] at h
          cases h
          rfl
  · rintro ⟨rows, hquery, a, ha, hlookup⟩
    have hshare : 1 < abilityShare a := by
      unfold abilityShare
      omega
    obtain ⟨ticket, hlt, hpick⟩ := Weighted.exists_ticket ha hshare
    refine ⟨ticketIntn ticket _ hlt, ?_⟩
    have hticket := ticketIntn_total hlt
    rw [← hticket] at hpick
    rw [getChannel_of_pick hquery hpick, hlookup]
    rfl

end Tables

end ChannelPickAux

end NewApi
