import NewApi.Model.ChannelKeys

/-!
# Disabling and enabling channels automatically

A failed request disables its channel, and a round of channel tests enables the channels that pass. Both change the status through
`UpdateChannelStatus`, with the memory cache on or off; an administrator writes the status itself. A round works on the rows it
has read at its start, and a request may fail long after it was given its channel, so the calls of one meet the status the others
have left.
-/

namespace NewApi

open Tables ChannelSystem

structure AutomationOptions where
  memoryCacheEnabled : Bool
  automaticDisableChannelEnabled : Bool
  automaticEnableChannelEnabled : Bool
  /-- In milliseconds. -/
  disableThreshold : Int
  /-- `ShouldDisableChannel` of an error. -/
  shouldDisableChannel : String → Bool
  /-- The error of a test that took too long. -/
  timeExceeded : Int → String

/-- What a test of a channel depends on, besides the channel. -/
structure ChannelTest where
  /-- What goes wrong before a key is chosen. -/
  early : Option String
  /-- The key text, for a channel of one key. -/
  key : String
  stored : Except String ChannelInfo
  intn : RandIntn
  /-- The errors of the request itself. -/
  localErr : Option String
  newAPIError : Option String
  milliseconds : Int

structure TestResult where
  usingKey : String
  localErr : Option String
  newAPIError : Option String

/-- `testChannel`: a channel without an enabled key cannot be tested. -/
def Channel.testChannel (c : Channel) (t : ChannelTest) : TestResult :=
  match t.early with
  | some e => ⟨"", some e, none⟩
  | none =>
    if ¬ c.channelInfo.isMultiKey then ⟨t.key, t.localErr, t.newAPIError⟩
    else match c.nextEnabledKey t.stored t.intn with
      | .error e => ⟨"", some e, some e⟩
      | .ok ((key, _), _) => ⟨key, t.localErr, t.newAPIError⟩

namespace ChannelSystem

variable {Config : Type} (options : AutomationOptions) (s : ChannelSystem Config)

/-- `UpdateChannelStatus`, with the memory cache as it is configured. -/
def setStatus (id : Int) (usingKey : String) (status : ChannelStatus) (ok : StatusStatements) : ChannelSystem Config :=
  if options.memoryCacheEnabled then (s.updateChannelStatus id usingKey status ok).2
  else { s with db := (updateStoredStatus s.db id usingKey status ok).2 }

def disableChannel (id : Int) (usingKey : String) (autoBan : Bool) (ok : StatusStatements) : ChannelSystem Config :=
  if autoBan then s.setStatus options id usingKey .autoDisabled ok else s

def enableChannel (id : Int) (usingKey : String) (ok : StatusStatements) : ChannelSystem Config :=
  s.setStatus options id usingKey .enabled ok

def disableManually (id : Int) : ChannelSystem Config :=
  match s.db.channels.lookup id with
  | none => s
  | some row =>
    { s with db := { s.db with channels := s.db.channels.save { row with status := .manuallyDisabled } }.updateAbilityStatus id false }

end ChannelSystem

def shouldEnableChannel (options : AutomationOptions) (newAPIError : Option String) (status : ChannelStatus) : Bool :=
  if ¬ options.automaticEnableChannelEnabled then false
  else if newAPIError.isSome then false
  else if status ≠ .autoDisabled then false
  else true

/-- The error a test is judged by: its own, or that of its time where its own does not ban the channel already. -/
def TestResult.judged (options : AutomationOptions) (r : TestResult) (milliseconds : Int) : Option String :=
  let shouldBanChannel := r.newAPIError.any options.shouldDisableChannel
  if options.automaticDisableChannelEnabled ∧ ¬ shouldBanChannel ∧ options.disableThreshold < milliseconds then
    some (options.timeExceeded milliseconds)
  else r.newAPIError

def selectChannelsForAutomaticTest (channels : List Channel) (passiveRecovery : Bool) : List Channel :=
  channels.filter fun c => c.status ≠ .manuallyDisabled && (!passiveRecovery || c.status = .autoDisabled)

/-- What `performChannelTests` does for a channel of its list. A ban is left to a goroutine of its own, which is the
failure of one more request. -/
def ChannelSystem.performChannelTest {Config : Type} (options : AutomationOptions) (s : ChannelSystem Config) (c : Channel)
    (t : ChannelTest) (ok : StatusStatements) : ChannelSystem Config :=
  let r := c.testChannel t
  if c.status = .manuallyDisabled then s
  else if r.localErr = none ∧ c.status ≠ .enabled ∧ shouldEnableChannel options (r.judged options t.milliseconds) c.status then
    s.enableChannel options c.id r.usingKey ok
  else s

/-- What can happen next, for rounds of tests named by `τ`. -/
inductive AutomationEvent (τ : Type*) where
  | disableManually (id : Int)
  | failure (id : Int) (usingKey : String) (autoBan : Bool) (ok : StatusStatements)
  | startTests (round : τ) (passiveRecovery : Bool)
  | tested (round : τ) (index : Nat) (t : ChannelTest) (ok : StatusStatements)
  | refresh (channels abilities : Bool)

/-- The channels, and the rows each round of tests has selected. -/
structure Automation (Config : Type) (τ : Type*) where
  system : ChannelSystem Config
  rounds : τ → List Channel

def Automation.step {Config : Type} {τ : Type*} [DecidableEq τ] (env : ChannelEnv Config) (options : AutomationOptions)
    (s : Automation Config τ) : AutomationEvent τ → Automation Config τ
  | .disableManually id => { s with system := s.system.disableManually id }
  | .failure id usingKey autoBan ok => { s with system := s.system.disableChannel options id usingKey autoBan ok }
  | .startTests round passiveRecovery =>
    { s with rounds := Function.update s.rounds round (selectChannelsForAutomaticTest s.system.db.channels.rows passiveRecovery) }
  | .tested round index t ok =>
    match (s.rounds round)[index]? with
    | some c => { s with system := s.system.performChannelTest options c t ok }
    | none => s
  | .refresh channels abilities => { s with system := s.system.call env (.refresh channels abilities) }

end NewApi
