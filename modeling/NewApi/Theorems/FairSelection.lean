import NewApi.Lemmas.ChannelKeysAux

/-!
# How often a channel or a key is selected

The cache returns a channel for as many random values as it weighs, unless the channel is twice among the candidates
(`selection_by_weight_iff`). The tables' walk over the abilities stops where the random weight has come down to 0, so the first ability is
selected for one weight more than its share and the last for one less (`abilityDraws_eq_iff`). The keys of a channel in polling mode are
handed out in turn (`polling_round_robin`).
-/

namespace NewApi

open ChannelPickAux ChannelCache ChannelDb

/-! ## Channels -/

section Cache

variable {Config : Type} (env : ChannelEnv Config) (cache : ChannelCache Config) (group model path : String) (retry : Nat)

/-- The number of values below `range` for which the channel is returned. -/
def ChannelCache.selectingDraws (range : Nat) (id : Int) : Nat :=
  Nat.count (fun draw =>
    (cache.getRandomSatisfiedChannel env group model retry path fun _ => draw).toOption.join.any (·.id = id) = true) range

/-- Every random value gives a channel of the priority, the values range over the sum of the effective weights, and each channel is
returned for as many of them as it weighs. -/
structure ChannelCache.SelectsByWeight (targets : List Channel) : Prop where
  served : ∀ intn : RandIntn, ∃ c ∈ targets, cache.getRandomSatisfiedChannel env group model retry path intn.1 = .ok (some c)
  drawn : ∀ intn : RandIntn, cache.getRandomSatisfiedChannel env group model retry path intn.1 =
    cache.getRandomSatisfiedChannel env group model retry path fun _ => intn.1 (drawRange targets)
  exact : ∀ c ∈ targets, cache.selectingDraws env group model path retry (drawRange targets) c.id = effectiveWeight targets c

variable {env cache group model path retry} {channels : List Channel}
  (hfetch : (cache.candidates env group model path).mapM cache.fetch = .ok channels) (hne : channels ≠ [])

include hfetch

include hne

/-- A channel is returned for as many values as it weighs, each time it is among the candidates. -/
theorem ChannelPickAux.selectingDraws_eq (id : Int) :
    cache.selectingDraws env group model path retry (drawRange (targets retry channels)) id =
      Weighted.total (effectiveWeight (targets retry channels)) ((targets retry channels).filter (·.id = id)) := by
  rw [← Weighted.count_pick, ChannelCache.selectingDraws, Nat.count_eq_card_filter_range, Nat.count_eq_card_filter_range, ← drawRange]
  refine congrArg Finset.card (Finset.filter_congr fun draw hdraw => ?_)
  rw [getRandom_eq hfetch hne (Finset.mem_range.1 hdraw), pickChannel_eq group model retry hne]
  cases Weighted.pick _ 0 (draw : Int) _ <;> rfl

/-- The cache selects by weight exactly where no channel that weighs anything is twice among the channels of the priority. -/
theorem selection_by_weight_iff : cache.SelectsByWeight env group model path retry (targets retry channels) ↔
    ∀ c ∈ targets retry channels, 0 < effectiveWeight (targets retry channels) c → (targets retry channels).countP (·.id = c.id) = 1 := by
  -- the places of a channel among the candidates weigh the same
  have hshare : ∀ c ∈ targets retry channels, cache.selectingDraws env group model path retry (drawRange (targets retry channels)) c.id =
      (targets retry channels).countP (·.id = c.id) * effectiveWeight (targets retry channels) c := by
    intro c hc
    have hsame : ∀ c' ∈ (targets retry channels).filter (·.id = c.id), c' = c := by
      intro c' hc'
      obtain ⟨hmem, hid⟩ := List.mem_filter.1 hc'
      have hcached' := cached_of_mem hfetch (mem_targets.1 hmem).1
      rw [of_decide_eq_true hid, cached_of_mem hfetch (mem_targets.1 hc).1] at hcached'
      exact (Option.some.inj hcached').symm
    rw [selectingDraws_eq hfetch hne, List.eq_replicate_of_mem hsame, List.countP_eq_length_filter]
    simp [Weighted.total]
  constructor
  · intro h c hc hpos
    have hexact := h.exact c hc
    rw [hshare c hc] at hexact
    exact Nat.eq_of_mul_eq_mul_right hpos (hexact.trans (Nat.one_mul _).symm)
  · intro h
    refine ⟨fun intn => getRandom_some retry intn hfetch hne, fun intn => ?_, fun c hc => ?_⟩
    · have hdraw := intn.2 _ (smoothing_pos (targets_ne_nil retry hne)).2
      have hconst : cache.getRandomSatisfiedChannel env group model retry path (fun _ => intn.1 (drawRange (targets retry channels))) =
          pickChannel group model retry (fun _ => intn.1 (drawRange (targets retry channels))) channels := getRandom_eq hfetch hne hdraw
      rw [getRandom_eq hfetch hne hdraw, hconst, pickChannel_eq group model retry hne, pickChannel_eq group model retry hne]
    · rw [hshare c hc]
      rcases Nat.eq_zero_or_pos (effectiveWeight (targets retry channels) c) with hzero | hpos
      · rw [hzero, Nat.mul_zero]
      · rw [h c hc hpos, Nat.one_mul]

end Cache

namespace ChannelPickAux

/-- The cache of a channel with these models beside one that serves `gpt-4`. -/
def pairCache (models : String) : Option (ChannelCache Unit) :=
  initChannelCache ChannelCacheAux.plainEnv
    ⟨[ChannelCacheAux.defaultChannel models, { ChannelCacheAux.defaultChannel "gpt-4" with id := 2 }],
      by simp [ChannelCacheAux.defaultChannel]⟩
    [⟨"default", "gpt-4", 1, true, none, 0, none⟩] ChannelCache.empty

end ChannelPickAux

theorem selection_by_weight_two_channels : ∃ cache, pairCache "gpt-4" = some cache ∧
    ∃ channels, (targets 0 channels).map Channel.id = [1, 2] ∧
      cache.SelectsByWeight ChannelCacheAux.plainEnv "default" "gpt-4" "" 0 (targets 0 channels) := by
  refine ⟨_, rfl, _, ?_, (selection_by_weight_iff rfl (List.cons_ne_nil _ _)).2 ?_⟩
  · decide +kernel
  · decide +kernel

/-- A channel whose models name `gpt-4` twice is twice among the candidates, and returned for twice its weight. -/
theorem repeated_model_drawn_twice : ∃ cache, pairCache "gpt-4,gpt-4" = some cache ∧
    cache.selectingDraws ChannelCacheAux.plainEnv "default" "gpt-4" "" 0 300 1 = 200 ∧
    cache.selectingDraws ChannelCacheAux.plainEnv "default" "gpt-4" "" 0 300 2 = 100 := by
  refine ⟨_, rfl, ?_, ?_⟩
  · decide +kernel
  · decide +kernel

/-! ## Abilities -/

/-- The number of random weights for which `GetChannel` selects the ability. -/
def abilityDraws (abilities : List Ability) (a : Ability) : Nat :=
  Nat.count (fun draw => pickAbility draw abilities = a.channelId) (abilities.map fun a => a.weight + 10).sum

/-- The first ability is selected for the weight 0 as well, so only a single one is selected for as many weights as its own. -/
theorem abilityDraws_eq_iff (abilities : List Ability) :
    (∀ a ∈ abilities, abilityDraws abilities a = a.weight + 10) ↔ abilities.length ≤ 1 := by
  cases abilities with
  | nil => simp
  | cons a rest =>
    have hfirst : ∀ draw ≤ a.weight + 10, pickAbility draw (a :: rest) = a.channelId := by
      intro draw hle
      exact if_pos (by omega)
    cases rest with
    | nil =>
      have hall : abilityDraws [a] a = a.weight + 10 := Nat.count_iff_forall.2 fun draw hlt => hfirst draw (by simpa using hlt.le)
      simp [hall]
    | cons b rest =>
      have hmore : a.weight + 10 < abilityDraws (a :: b :: rest) a := by
        have hbelow : Nat.count (fun draw => pickAbility draw (a :: b :: rest) = a.channelId) (a.weight + 10 + 1) = a.weight + 10 + 1 :=
          Nat.count_iff_forall.2 fun draw hlt => hfirst draw (Nat.le_of_lt_succ hlt)
        refine Nat.lt_of_succ_le (hbelow.ge.trans (Nat.count_monotone _ ?_))
        simp only [List.map_cons, List.sum_cons]
        omega
      constructor
      · intro h
        exact absurd (h a List.mem_cons_self) hmore.ne'
      · intro h
        simp at h

/-- Of two abilities without weight the first is selected for 11 of the 20 random weights. -/
theorem first_ability_drawn_once_more :
    let a : Ability := ⟨"default", "gpt-4", 1, true, some 0, 0, none⟩
    let b : Ability := ⟨"default", "gpt-4", 2, true, some 0, 0, none⟩
    abilityDraws [a, b] a = 11 ∧ abilityDraws [a, b] b = 9 := by
  decide

/-! ## Keys -/

def Channel.inPollingMode (c : Channel) : Channel :=
  { c with channelInfo := { c.channelInfo with isMultiKey := true, polling := true } }

/-- The keys that `n` calls of `GetNextEnabledKey` return, with their places, on the channel that is in the cache. -/
def Channel.polled (intn : RandIntn) : Nat → Channel → Except String (List (String × Nat))
  | 0, _ => .ok []
  | n + 1, c => (c.nextEnabledKey (.ok c.channelInfo) intn).bind fun r => (polled intn n r.2).map (r.1 :: ·)

namespace ChannelKeysAux

variable {c : Channel} {i : Nat} {rest : List Nat}

/-- After a place the others come first, and then the place again. -/
theorem enabledFrom_next {s : Nat} (h : enabledFrom c s = i :: rest) : enabledFrom c ((i + 1) % c.keys.length) = rest ++ [i] := by
  obtain ⟨before, after, hsplit, hbefore, henabled, hafter⟩ := List.filter_eq_cons_iff.1 h
  have hi : i = (s + before.length) % c.keys.length := by
    have hget : ((List.range c.keys.length).rotate s)[before.length]? = some i := by simp [hsplit]
    obtain ⟨hlt, hget⟩ := List.getElem?_eq_some_iff.1 hget
    rw [← hget, List.getElem_rotate]
    simp [Nat.add_comm]
  have hmod : (i + 1) % c.keys.length = (s + (before.length + 1)) % c.keys.length := by rw [hi, Nat.mod_add_mod, Nat.add_assoc]
  have hrotate : (List.range c.keys.length).rotate ((i + 1) % c.keys.length) = after ++ (before ++ [i]) := by
    have hwrap := List.rotate_mod (List.range c.keys.length) (s + (before.length + 1))
    rw [List.length_range] at hwrap
    rw [hmod, hwrap, ← List.rotate_rotate, hsplit, List.append_cons]
    simpa using List.rotate_append_length_eq (before ++ [i]) after
  have hnone : before.filter (fun i => c.channelInfo.keyStatus i = .enabled) = [] := List.filter_eq_nil_iff.2 hbefore
  rw [enabledFrom, hrotate, List.filter_append, List.filter_append, hnone, hafter]
  simp [henabled]

/-- The calls go through the enabled places in a circle. -/
theorem polled_eq (hpolling : c.channelInfo.polling = true) (intn : RandIntn) {n : Nat}
    (hn : n ≤ (enabledFrom c (start c c.channelInfo)).length) :
    c.polled intn n = .ok (((enabledFrom c (start c c.channelInfo)).take n).map fun i => (c.keys.getD i "", i)) := by
  induction n generalizing c with
  | zero => rfl
  | succ n ih =>
    obtain ⟨i, rest, h⟩ := List.exists_cons_of_length_pos (Nat.zero_lt_of_lt hn)
    have hpoll : c.pollFrom (start c c.channelInfo) = some i := by rw [pollFrom_eq, h, List.head?_cons]
    have hlt : (i + 1) % c.keys.length < c.keys.length := Nat.mod_lt _ (Nat.zero_lt_of_lt (mem_enabledIdx.1 (pollFrom_some hpoll)).1)
    have hnext : enabledFrom (movedOn c i) (start (movedOn c i) (movedOn c i).channelInfo) = rest ++ [i] := by
      rw [start_of_lt (c := movedOn c i) hlt rfl]
      exact enabledFrom_next h
    rw [h, List.length_cons, Nat.succ_le_succ_iff] at hn
    have hrun := ih (c := movedOn c i) hpolling (by rw [hnext, List.length_append]; omega)
    rw [hnext, List.take_append_of_le_length hn] at hrun
    rw [Channel.polled, Channel.nextEnabledKey, nextEnabledIdx_polling hpolling hpoll, h]
    simp only [Except.map, Except.bind, hrun, List.take_succ_cons, List.map_cons]
    rfl

end ChannelKeysAux

open ChannelKeysAux in
/-- As many calls as there are enabled keys return each of them once, with its place, wherever the polling index stands. -/
theorem polling_round_robin (intn : RandIntn) (c : Channel) :
    ∃ handed, c.inPollingMode.polled intn c.enabledIdx.length = .ok handed ∧
      (handed.map Prod.snd).Perm c.enabledIdx ∧ ∀ next ∈ handed, c.keys[next.2]? = some next.1 := by
  have hperm : (enabledFrom c.inPollingMode (start c.inPollingMode c.inPollingMode.channelInfo)).Perm c.enabledIdx :=
    enabledFrom_perm c.inPollingMode _
  refine ⟨_, polled_eq rfl intn hperm.length_eq.ge, ?_, ?_⟩
  · rw [List.take_of_length_le hperm.length_eq.le, List.map_map]
    exact (List.map_id _).symm ▸ hperm
  · intro next hnext
    obtain ⟨i, hi, rfl⟩ := List.mem_map.1 hnext
    have hlt := (mem_enabledIdx.1 (hperm.mem_iff.1 (List.mem_of_mem_take hi))).1
    simp [Channel.inPollingMode, hlt]

end NewApi
