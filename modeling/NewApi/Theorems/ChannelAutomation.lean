import NewApi.Model.ChannelAutomation
import NewApi.Theorems.ChannelDisable

/-!
# What an administrator disabled

A failure never enables a channel, but it overwrites the status an administrator has set, and a test cannot tell the result from
a channel that was disabled automatically in the first place. The same holds of a round of tests that read the channel before the
administrator disabled it. So a channel stays disabled exactly as long as no round that has it as automatically disabled sees it
pass.
-/

namespace NewApi

open Tables Run ChannelSystem ChannelCacheAux ChannelDisableAux

/-- The row of the channel, if there is one, is not enabled. -/
def Automation.StaysDisabled {Config : Type} {τ : Type*} (id : Int) (s : Automation Config τ) : Prop :=
  ∀ row, s.system.db.channels.lookup id = some row → row.status ≠ .enabled

/-- `UpdateChannelStatus` gets to the database: without the memory cache always, and with it where the cached channel has several
keys or another status. -/
def ChannelSystem.Reaches {Config : Type} (options : AutomationOptions) (s : ChannelSystem Config) (id : Int)
    (status : ChannelStatus) : Prop :=
  options.memoryCacheEnabled = true →
    ∃ c, s.cache.channelsIDM id = some c ∧ (c.channelInfo.isMultiKey = true ∨ c.status ≠ status)

/-- The key is one the channel is enabled by: any key for a channel of one key, and otherwise one of its keys or none. -/
def Channel.AnswersTo (c : Channel) (usingKey : String) : Prop :=
  c.channelInfo.isMultiKey = true → c.keys = [] ∨ usingKey = "" ∨ usingKey ∈ c.keys

/-- The test finds nothing wrong, in time, and channels are enabled automatically. -/
structure Channel.Passes (options : AutomationOptions) (c : Channel) (t : ChannelTest) : Prop where
  enables : options.automaticEnableChannelEnabled = true
  localErr : (c.testChannel t).localErr = none
  judged : (c.testChannel t).judged options t.milliseconds = none

/-- A test of the channel passes, in a round that has it as automatically disabled, and its update can be written: the statements
succeed and the row answers to the key. -/
def Automation.Revives {Config : Type} {τ : Type*} (options : AutomationOptions) (id : Int) (s : Automation Config τ) :
    AutomationEvent τ → Prop
  | .tested round index t ok =>
    ∃ c row, (s.rounds round)[index]? = some c ∧ c.id = id ∧ c.status = .autoDisabled ∧ c.Passes options t ∧
      (ok.read = true ∧ ok.save = true ∧ id ≠ 0) ∧
      s.system.db.channels.lookup id = some row ∧ row.AnswersTo (c.testChannel t).usingKey ∧ s.system.Reaches options id .enabled
  | _ => False

namespace ChannelAutomationAux

variable {Config : Type} {options : AutomationOptions} {status : ChannelStatus}

/-! ## What an update makes of a status -/

/-- Enabling a channel of several keys enables it where it answers to the key. -/
theorem status_handler_enabled (c : Channel) (usingKey : String) : (handlerMultiKeyUpdate c usingKey .enabled).status =
      if c.keys = [] ∨ usingKey = "" ∨ usingKey ∈ c.keys then .enabled else c.status := by
  unfold handlerMultiKeyUpdate
  by_cases hnil : c.keys = []
  · simp [hnil]
  rw [if_neg hnil]
  cases hfind : c.keys.findIdx? (fun key => key = usingKey) with
  | none =>
    have hmem : usingKey ∉ c.keys := by
      intro hmem
      have hfree := List.findIdx?_eq_none_iff.1 hfind usingKey hmem
      simp at hfree
    by_cases hkey : usingKey = ""
    · simp [hkey]
    · simp [hnil, hkey, hmem]
  | some i =>
    obtain ⟨hlt, hi, -⟩ := List.findIdx?_eq_some_iff_getElem.1 hfind
    have hmem : usingKey ∈ c.keys := by
      obtain rfl : c.keys[i] = usingKey := by simpa using hi
      exact List.getElem_mem hlt
    have henabled : hasEnabledMultiKey c.keys (Function.update c.channelInfo.multiKeyStatusList i none) = true := by
      exact List.any_eq_true.2 ⟨i, List.mem_range.2 hlt, by simp⟩
    simp [hmem, henabled]

/-- Disabling a channel of several keys leaves its status or disables it. -/
theorem status_handler_autoDisabled (c : Channel) (usingKey : String) : (handlerMultiKeyUpdate c usingKey .autoDisabled).status = c.status ∨
      (handlerMultiKeyUpdate c usingKey .autoDisabled).status = .autoDisabled := by
  unfold handlerMultiKeyUpdate
  split
  · exact .inr rfl
  split
  · split
    · exact .inl rfl
    · exact .inr rfl
  · rename_i i _
    simp only
    generalize Function.update c.channelInfo.multiKeyStatusList i _ = statusList
    split
    · exact .inr rfl
    · exact .inl rfl

/-- A row is enabled exactly where it has the key. -/
theorem status_updatedRow_enabled (row : Channel) (usingKey : String) (h : row.status ≠ .enabled) :
    (updatedRow row usingKey .enabled).1.status = .enabled ↔ row.AnswersTo usingKey := by
  unfold updatedRow Channel.AnswersTo
  split
  · rename_i hmulti
    simp only [status_handler_enabled]
    split
    · rename_i hkey
      exact iff_of_true rfl fun _ => hkey
    · rename_i hkey
      exact iff_of_false h fun hanswers => hkey (hanswers hmulti)
  · rename_i hmulti
    exact iff_of_true rfl fun h => absurd h hmulti

/-- Disabling enables nothing. -/
theorem status_updatedRow_autoDisabled (row : Channel) (usingKey : String) (h : row.status ≠ .enabled) :
    (updatedRow row usingKey .autoDisabled).1.status ≠ .enabled := by
  unfold updatedRow
  split
  · rcases status_handler_autoDisabled row usingKey with hstatus | hstatus
    · exact hstatus ▸ h
    · simp [hstatus]
  · simp

/-! ## What a call makes of the row -/

/-- The cache ends a call where it has no channel that would change. -/
theorem updateCachedStatus_eq_none_iff {cache : ChannelCache Config} {id : Int} {usingKey : String} :
    updateCachedStatus cache id usingKey status = none ↔
      ¬ ∃ c, cache.channelsIDM id = some c ∧ (c.channelInfo.isMultiKey = true ∨ c.status ≠ status) := by
  unfold updateCachedStatus
  cases hc : cache.channelsIDM id with
  | none => simp
  | some c =>
    by_cases hmulti : c.channelInfo.isMultiKey = true
    · simp [hmulti]
    · by_cases hstatus : c.status = status <;> simp [hmulti, hstatus]

/-- A switch changes the rows where it reaches them. -/
theorem lookup_setStatus (options : AutomationOptions) (s : ChannelSystem Config) (id : Int) (usingKey : String)
    (status : ChannelStatus) (ok : StatusStatements) (id' : Int) [Decidable (s.Reaches options id status)] :
    (s.setStatus options id usingKey status ok).db.channels.lookup id' =
      if s.Reaches options id status then (updateStoredStatus s.db id usingKey status ok).2.channels.lookup id'
      else s.db.channels.lookup id' := by
  unfold setStatus
  by_cases hcache : options.memoryCacheEnabled = true
  · rw [if_pos hcache]
    unfold updateChannelStatus
    cases hcached : updateCachedStatus s.cache id usingKey status with
    | none =>
      have hstops : ¬ s.Reaches options id status := fun h => updateCachedStatus_eq_none_iff.1 hcached (h hcache)
      rw [if_neg hstops]
    | some cache =>
      have hreaches : s.Reaches options id status := by
        intro _
        by_contra hnone
        rw [updateCachedStatus_eq_none_iff.2 hnone] at hcached
        cases hcached
      rw [if_pos hreaches]
  · have hreaches : s.Reaches options id status := fun h => absurd h hcache
    rw [if_neg hcache, if_pos hreaches]

variable {τ : Type*} {id : Int} {s : Automation Config τ}

/-- Disabling a channel enables no other. -/
theorem staysDisabled_disableChannel (h : s.StaysDisabled id) (id' : Int) (usingKey : String) (autoBan : Bool) (ok : StatusStatements) :
    ({ s with system := s.system.disableChannel options id' usingKey autoBan ok } : Automation Config τ).StaysDisabled id := by
  classical
  intro row hrow
  cases autoBan with
  | false => exact h row hrow
  | true =>
    change (s.system.setStatus options id' usingKey .autoDisabled ok).db.channels.lookup id = some row at hrow
    rw [lookup_setStatus] at hrow
    split at hrow
    · rcases lookup_updateStoredStatus s.system.db id' usingKey .autoDisabled ok id with hsame | ⟨rfl, old, hold, hnew⟩
      · exact h row (hsame.symm.trans hrow)
      · obtain rfl : (updatedRow old usingKey .autoDisabled).1 = row := by simpa [hnew] using hrow
        exact status_updatedRow_autoDisabled old usingKey (h old hold)
    · exact h row hrow

/-- Enabling a channel enables its row exactly where the update is written and the row answers to the key. -/
theorem staysDisabled_enableChannel (h : s.StaysDisabled id) (id' : Int) (usingKey : String) (ok : StatusStatements) :
    ({ s with system := s.system.enableChannel options id' usingKey ok } : Automation Config τ).StaysDisabled id ↔
      ¬ (id' = id ∧ ∃ row, (ok.read = true ∧ ok.save = true ∧ id ≠ 0) ∧ s.system.db.channels.lookup id = some row ∧
        row.AnswersTo usingKey ∧ s.system.Reaches options id .enabled) := by
  classical
  have hlookup := lookup_setStatus options s.system id' usingKey .enabled ok id
  rw [lookup_updateStoredStatus_eq] at hlookup
  constructor
  · rintro hkept ⟨rfl, row, hok, hrow, hanswers, hreaches⟩
    rw [if_pos hreaches, if_pos ⟨rfl, hok⟩, hrow, Option.map_some, if_neg (h row hrow)] at hlookup
    exact hkept _ hlookup ((status_updatedRow_enabled row usingKey (h row hrow)).2 hanswers)
  · intro hnot row' hrow'
    change (s.system.setStatus options id' usingKey .enabled ok).db.channels.lookup id = some row' at hrow'
    rw [hlookup] at hrow'
    split at hrow'
    · rename_i hreaches
      split at hrow'
      · rename_i hsaved
        obtain ⟨rfl, hok⟩ := hsaved
        obtain ⟨row, hrow, rfl⟩ := Option.map_eq_some_iff.1 hrow'
        rw [if_neg (h row hrow)]
        intro henabled
        have hanswers := (status_updatedRow_enabled row usingKey (h row hrow)).1 henabled
        exact hnot ⟨rfl, row, hok, hrow, hanswers, hreaches⟩
      · exact h row' hrow'
    · exact h row' hrow'

/-- When a channel is to be enabled again. -/
theorem shouldEnableChannel_iff {newAPIError : Option String} :
    shouldEnableChannel options newAPIError status = true ↔
      options.automaticEnableChannelEnabled = true ∧ newAPIError = none ∧ status = .autoDisabled := by
  unfold shouldEnableChannel
  cases options.automaticEnableChannelEnabled <;> cases newAPIError <;> simp

/-- A test enables the channel exactly where the round has it as disabled, it passes and its update is written. -/
theorem staysDisabled_performChannelTest (h : s.StaysDisabled id) (c : Channel) (t : ChannelTest) (ok : StatusStatements) :
    ({ s with system := s.system.performChannelTest options c t ok } : Automation Config τ).StaysDisabled id ↔
      ¬ ∃ row, c.id = id ∧ c.status = .autoDisabled ∧ c.Passes options t ∧ (ok.read = true ∧ ok.save = true ∧ id ≠ 0) ∧
        s.system.db.channels.lookup id = some row ∧ row.AnswersTo (c.testChannel t).usingKey ∧
        s.system.Reaches options id .enabled := by
  by_cases hcalls : c.status = .autoDisabled ∧ c.Passes options t
  · obtain ⟨hstatus, hpasses⟩ := hcalls
    have hcalled : s.system.performChannelTest options c t ok = s.system.enableChannel options c.id (c.testChannel t).usingKey ok := by
      have henable := shouldEnableChannel_iff.2 ⟨hpasses.enables, hpasses.judged, hstatus⟩
      unfold performChannelTest
      rw [if_neg (by simp [hstatus]), if_pos ⟨hpasses.localErr, by simp [hstatus], henable⟩]
    rw [hcalled, staysDisabled_enableChannel h]
    constructor
    · rintro hnot ⟨row, hid, -, -, hwritten⟩
      exact hnot ⟨hid, row, hwritten⟩
    · rintro hnot ⟨hid, row, hwritten⟩
      exact hnot ⟨row, hid, hstatus, hpasses, hwritten⟩
  · have hleft : s.system.performChannelTest options c t ok = s.system := by
      unfold performChannelTest
      split
      · rfl
      rw [if_neg]
      rintro ⟨hlocal, -, henable⟩
      obtain ⟨henables, hjudged, hstatus⟩ := shouldEnableChannel_iff.1 henable
      exact hcalls ⟨hstatus, henables, hlocal, hjudged⟩
    rw [hleft]
    refine iff_of_true h ?_
    rintro ⟨row, -, hstatus, hpasses, -⟩
    exact hcalls ⟨hstatus, hpasses⟩

theorem lookup_disableManually (s : ChannelSystem Config) (id id' : Int) : (s.disableManually id).db.channels.lookup id' =
      if id' = id then (s.db.channels.lookup id).map fun row => { row with status := .manuallyDisabled }
      else s.db.channels.lookup id' := by
  unfold disableManually
  cases hrow : s.db.channels.lookup id with
  | none =>
    by_cases hid : id' = id
    · simp [hid, hrow]
    · simp [hid]
  | some row =>
    change (s.db.channels.save { row with status := .manuallyDisabled }).lookup id' = _
    rw [Table.lookup_save]
    by_cases hid : id' = id
    · simp [hid, hrow, Table.lookup_key hrow]
    · simp [hid, Table.lookup_key hrow]

/-- Whatever its status was, an administrator disables the channel. -/
theorem staysDisabled_disableManually_self : ({ s with system := s.system.disableManually id } : Automation Config τ).StaysDisabled id := by
  intro row hrow
  rw [lookup_disableManually, if_pos rfl] at hrow
  obtain ⟨old, -, rfl⟩ := Option.map_eq_some_iff.1 hrow
  simp

/-- Disabling by hand enables no other. -/
theorem staysDisabled_disableManually (h : s.StaysDisabled id) (id' : Int) :
    ({ s with system := s.system.disableManually id' } : Automation Config τ).StaysDisabled id := by
  by_cases hid : id = id'
  · subst hid
    exact staysDisabled_disableManually_self
  intro row hrow
  rw [lookup_disableManually, if_neg hid] at hrow
  exact h row hrow

/-- One event: only a test can enable the channel. -/
theorem staysDisabled_step [DecidableEq τ] (env : ChannelEnv Config) (h : s.StaysDisabled id) (e : AutomationEvent τ) :
    (s.step env options e).StaysDisabled id ↔ ¬ s.Revives options id e := by
  cases e with
  | disableManually id' => exact iff_of_true (staysDisabled_disableManually h id') not_false
  | failure id' usingKey autoBan ok => exact iff_of_true (staysDisabled_disableChannel h id' usingKey autoBan ok) not_false
  | startTests round passiveRecovery => exact iff_of_true h not_false
  | tested round index t ok =>
    cases hc : (s.rounds round)[index]? with
    | none =>
      have hleft : s.step env options (.tested round index t ok) = s := by simp only [Automation.step, hc]
      rw [hleft]
      refine iff_of_true h ?_
      rintro ⟨c, row, hc', -⟩
      rw [hc] at hc'
      cases hc'
    | some c =>
      have htested : s.step env options (.tested round index t ok) = { s with system := s.system.performChannelTest options c t ok } := by
        simp only [Automation.step, hc]
      rw [htested, staysDisabled_performChannelTest h]
      simp only [Automation.Revives, hc, Option.some.injEq, exists_and_left, exists_eq_left']
  | refresh channels abilities =>
    refine iff_of_true ?_ not_false
    intro row hrow
    change (s.system.call env (.refresh channels abilities)).db.channels.lookup id = some row at hrow
    simp only [ChannelSystem.call] at hrow
    split at hrow <;> exact h row hrow

end ChannelAutomationAux

open ChannelAutomationAux

/-! ## Every run -/

/-- After an administrator has disabled a channel, whatever its status was, whatever the cache holds and whatever rounds of tests
are under way: the channel is enabled in no state of a run exactly if no test of the run revives it. -/
theorem manual_disable_lasts_iff {Config : Type} {τ : Type*} [DecidableEq τ] (env : ChannelEnv Config) (options : AutomationOptions)
    (id : Int) (s : Automation Config τ) (es : List (AutomationEvent τ)) :
    (∀ pre, pre <+: es → (exec (Automation.step env options) (s.step env options (.disableManually id)) pre).StaysDisabled id) ↔
      Along (Automation.step env options) (fun s e => ¬ s.Revives options id e) (s.step env options (.disableManually id)) es := by
  have hstart : (s.step env options (.disableManually id)).StaysDisabled id := staysDisabled_disableManually_self
  have hstep : ∀ (s : Automation Config τ) e, True → s.StaysDisabled id →
      ((s.step env options e).StaysDisabled id ↔ ¬ s.Revives options id e) := by
    intro s e _ h
    exact staysDisabled_step env h e
  exact (along_iff_reached (fun _ _ _ => trivial) hstep trivial hstart es).symm

namespace ChannelAutomationAux

def twoKeyChannel : Channel :=
  { defaultChannel "gpt-4o" with keys := ["sk-1", "sk-2"], channelInfo := ⟨true, fun _ => none, false, 0, false⟩ }

def goodTest : ChannelTest where
  early := none
  key := "sk-1"
  stored := .error ""
  intn := RandIntn.zero
  localErr := none
  newAPIError := none
  milliseconds := 800

/-- The row of the channel and its ability, nothing cached and no tests under way. -/
def oneChannel (c : Channel) : Automation Unit Unit where
  system := ⟨.empty, ⟨⟨[c], by simp⟩, ⟨[⟨"default", "gpt-4o", 1, true, none, 0, none⟩], by simp⟩⟩⟩
  rounds := fun _ => []

/-- Channels are disabled and enabled automatically. -/
def automatic : AutomationOptions where
  memoryCacheEnabled := true
  automaticDisableChannelEnabled := true
  automaticEnableChannelEnabled := true
  disableThreshold := 5000
  shouldDisableChannel := fun _ => true
  timeExceeded := fun _ => ""

end ChannelAutomationAux

/-- An administrator disables a channel while a request is in flight. The request fails, and the next round of tests enables the
channel again: one of a single key, and one of several keys if the failure names none of them. -/
theorem manual_disable_undone :
    let ok : StatusStatements := ⟨true, true, true⟩
    let run := fun (c : Channel) (es : List (AutomationEvent Unit)) =>
      exec (Automation.step plainEnv automatic) ((oneChannel c).step plainEnv automatic (.disableManually 1)) es
    let status := fun s : Automation Unit Unit => (s.system.db.channels.lookup 1).map Channel.status
    let late := fun key => [.refresh true true, .failure 1 key true ok]
    let tests := [.startTests () false, .tested () 0 goodTest ok]
    (status (run (defaultChannel "gpt-4o") []) = some .manuallyDisabled ∧
      status (run (defaultChannel "gpt-4o") (late "sk-1")) = some .autoDisabled ∧
      status (run (defaultChannel "gpt-4o") (late "sk-1" ++ tests)) = some .enabled) ∧
    (status (run twoKeyChannel (late "")) = some .autoDisabled ∧ status (run twoKeyChannel (late "" ++ tests)) = some .enabled) ∧
    ¬ (run (defaultChannel "gpt-4o") (late "sk-1" ++ tests)).StaysDisabled 1 := by
  refine ⟨⟨rfl, rfl, rfl⟩, ⟨rfl, rfl⟩, ?_⟩
  intro h
  exact h _ rfl rfl

end NewApi
