import NewApi.Lemmas.ChannelPickAux
import NewApi.Model.ChannelKeys

/-!
# Handing out keys, and changing the status of one
-/

namespace NewApi

/-- `GetNextEnabledKey` selects the key at `i`, for some random number or stored polling index. -/
def Channel.hands (c : Channel) (i : Nat) : Prop := ∃ stored intn c', c.nextEnabledIdx stored intn = .ok (i, c')

namespace ChannelKeysAux

variable {c : Channel} {i : Nat} {info : ChannelInfo} {usingKey : String}

/-- The enabled places are those of keys whose status is enabled. -/
theorem mem_enabledIdx : i ∈ c.enabledIdx ↔ i < c.keys.length ∧ c.channelInfo.keyStatus i = .enabled := by
  simp [Channel.enabledIdx]

/-- The enabled places in a circle from `s` on. -/
def enabledFrom (c : Channel) (s : Nat) : List Nat :=
  ((List.range c.keys.length).rotate s).filter fun i => c.channelInfo.keyStatus i = .enabled

/-- Reading round from any place finds the same places. -/
theorem enabledFrom_perm (c : Channel) (s : Nat) : (enabledFrom c s).Perm c.enabledIdx := (List.rotate_perm _ s).filter _

/-- Polling takes the first enabled place from where it starts. -/
theorem pollFrom_eq (c : Channel) (s : Nat) : c.pollFrom s = (enabledFrom c s).head? := by
  have hcircle : (List.range c.keys.length).map (fun i => (s + i) % c.keys.length) = (List.range c.keys.length).rotate s := by
    refine List.ext_getElem (by simp) fun k hk hk' => ?_
    simp [List.getElem_rotate, Nat.add_comm]
  rw [Channel.pollFrom, hcircle, enabledFrom, List.head?_filter]

/-- What polling takes is enabled. -/
theorem pollFrom_some {s : Nat} (h : c.pollFrom s = some i) : i ∈ c.enabledIdx := by
  rw [pollFrom_eq] at h
  exact (enabledFrom_perm c s).mem_iff.1 (List.mem_of_head? h)

/-- Polling from an enabled place takes it. -/
theorem pollFrom_self (h : i ∈ c.enabledIdx) : c.pollFrom i = some i := by
  obtain ⟨hlt, hstatus⟩ := mem_enabledIdx.1 h
  obtain ⟨n, hn⟩ : ∃ n, c.keys.length = n + 1 := ⟨c.keys.length - 1, by omega⟩
  unfold Channel.pollFrom
  rw [hn, List.range_succ_eq_map, List.map_cons, Nat.add_zero, Nat.mod_eq_of_lt (by omega)]
  exact List.find?_cons_of_pos (by simpa using hstatus)

def start (c : Channel) (info : ChannelInfo) : Nat :=
  if info.multiKeyPollingIndex < 0 ∨ (c.keys.length : Int) ≤ info.multiKeyPollingIndex then 0 else info.multiKeyPollingIndex.toNat

/-- An index in range is where polling starts. -/
theorem start_of_lt (hlt : i < c.keys.length) (hindex : info.multiKeyPollingIndex = i) : start c info = i := by
  unfold start
  rw [hindex, if_neg (by omega), Int.toNat_natCast]

/-- The channel once the key at `i` was handed out in polling mode. -/
def movedOn (c : Channel) (i : Nat) : Channel :=
  { c with channelInfo := { c.channelInfo with multiKeyPollingIndex := ((i + 1) % c.keys.length : Nat) } }

theorem keys_ne_nil (h : i ∈ c.enabledIdx) : c.keys ≠ [] := List.ne_nil_of_length_pos (Nat.zero_lt_of_lt (mem_enabledIdx.1 h).1)

/-- In polling mode the place is taken and the index moved on. -/
theorem nextEnabledIdx_polling (hpolling : c.channelInfo.polling = true)
    (hpoll : c.pollFrom (start c info) = some i) (intn : RandIntn) : c.nextEnabledIdx (.ok info) intn = .ok (i, movedOn c i) := by
  have hi := pollFrom_some hpoll
  obtain ⟨first, rest, hidx⟩ := List.exists_cons_of_ne_nil (List.ne_nil_of_mem hi)
  unfold start at hpoll
  simp only [Channel.nextEnabledIdx, if_neg (keys_ne_nil hi), hidx, hpolling, if_true, hpoll, movedOn]

/-- The key is an enabled one, and the channel has at most another polling index afterwards. -/
theorem nextEnabledIdx_ok {c' : Channel} {stored : Except String ChannelInfo} {intn : RandIntn}
    (h : c.nextEnabledIdx stored intn = .ok (i, c')) :
    i ∈ c.enabledIdx ∧ ∃ index, c' = { c with channelInfo := { c.channelInfo with multiKeyPollingIndex := index } } := by
  unfold Channel.nextEnabledIdx at h
  split at h
  · cases h
  split at h
  · cases h
  rename_i first rest hidx
  rw [hidx]
  split at h
  · split at h
    · cases h
    simp only at h
    split at h
    · rename_i j hpoll
      cases h
      rw [← hidx]
      exact ⟨pollFrom_some hpoll, _, rfl⟩
    · cases h
      exact ⟨List.mem_cons_self, _, rfl⟩
  · cases h
    refine ⟨?_, _, rfl⟩
    rw [List.getD_eq_getElem?_getD]
    cases hget : (first :: rest)[intn.1 (rest.length + 1)]? with
    | none => exact List.mem_cons_self
    | some j => exact List.mem_of_getElem? hget

/-- `GetNextEnabledKey` returns the key that stands at the place. -/
theorem nextEnabledKey_ok {next : String × Nat} {c' : Channel} {stored : Except String ChannelInfo} {intn : RandIntn}
    (h : c.nextEnabledKey stored intn = .ok (next, c')) :
    c.nextEnabledIdx stored intn = .ok (next.2, c') ∧ c.keys[next.2]? = some next.1 := by
  unfold Channel.nextEnabledKey at h
  cases hidx : c.nextEnabledIdx stored intn with
  | error e => simp [hidx, Except.map] at h
  | ok r =>
    rw [hidx] at h
    cases h
    have hlt := (mem_enabledIdx.1 (nextEnabledIdx_ok hidx).1).1
    exact ⟨rfl, by simp [hlt]⟩

/-- A place is handed out exactly where it is enabled. -/
theorem hands_iff : c.hands i ↔ i ∈ c.enabledIdx := by
  constructor
  · rintro ⟨stored, intn, c', h⟩
    exact (nextEnabledIdx_ok h).1
  · intro hi
    by_cases hpolling : c.channelInfo.polling = true
    · have hpoll : c.pollFrom (start c { c.channelInfo with multiKeyPollingIndex := i }) = some i := by
        rw [start_of_lt (mem_enabledIdx.1 hi).1 rfl, pollFrom_self hi]
      exact ⟨_, RandIntn.zero, _, nextEnabledIdx_polling hpolling hpoll _⟩
    · obtain ⟨first, rest, hidx⟩ := List.exists_cons_of_ne_nil (List.ne_nil_of_mem hi)
      have hkeys := keys_ne_nil hi
      rw [hidx] at hi
      obtain ⟨n, hn, hget⟩ := List.getElem_of_mem hi
      have hbound : n < rest.length + 1 := by simpa using hn
      refine ⟨.error "", ChannelPickAux.ticketIntn n _ hbound, c, ?_⟩
      simp only [Channel.nextEnabledIdx, if_neg hkeys, hidx, hpolling, ChannelPickAux.ticketIntn_total]
      rw [List.getD_eq_getElem?_getD, List.getElem?_eq_getElem hn, hget]
      rfl

/-! ## Changing the status of a key -/

/-- `handlerMultiKeyUpdate` for a key of the list changes its status and at most that of the channel. -/
theorem handler_of_mem (status : ChannelStatus) (hi : c.keys.findIdx? (fun key => key = usingKey) = some i) :
    ∃ s, handlerMultiKeyUpdate c usingKey status = { c with
      status := s,
      channelInfo := { c.channelInfo with
        multiKeyStatusList := Function.update c.channelInfo.multiKeyStatusList i (if status = .enabled then none else some status) } } := by
  have hne : c.keys ≠ [] := by
    intro hnil
    rw [hnil] at hi
    cases hi
  unfold handlerMultiKeyUpdate
  rw [if_neg hne]
  simp only [hi]
  generalize Function.update c.channelInfo.multiKeyStatusList i (if status = .enabled then none else some status) = statusList
  split
  · exact ⟨_, rfl⟩
  · split <;> exact ⟨_, rfl⟩

/-- For any other text it changes no key. -/
theorem handler_of_not_mem (status : ChannelStatus) (hnone : c.keys.findIdx? (fun key => key = usingKey) = none) :
    ∃ s, handlerMultiKeyUpdate c usingKey status = { c with status := s } := by
  unfold handlerMultiKeyUpdate
  split
  · exact ⟨_, rfl⟩
  simp only [hnone]
  split
  · exact ⟨c.status, rfl⟩
  · exact ⟨_, rfl⟩

end ChannelKeysAux

end NewApi
