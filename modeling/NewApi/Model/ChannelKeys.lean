import NewApi.Model.ChannelQuery

/-!
# The keys of a channel

`GetNextEnabledKey` of `model/channel.go`. The status of a key is kept by the place of the key; a key without a status is enabled.
-/

namespace NewApi

def ChannelInfo.keyStatus (info : ChannelInfo) (i : Nat) : ChannelStatus := (info.multiKeyStatusList i).getD .enabled

namespace Channel

def enabledIdx (c : Channel) : List Nat := (List.range c.keys.length).filter fun i => c.channelInfo.keyStatus i = .enabled

/-- The first enabled key from `start` on, in a circle. -/
def pollFrom (c : Channel) (start : Nat) : Option Nat :=
  ((List.range c.keys.length).map fun i => (start + i) % c.keys.length).find? fun i => c.channelInfo.keyStatus i = .enabled

/-- The place that `GetNextEnabledKey` selects on a multi-key channel, and the channel with its polling index moved on. `stored` is what
`CacheGetChannelInfo` answers. A mode that is neither random nor polling takes the first enabled key, as the random number 0 does. -/
def nextEnabledIdx (c : Channel) (stored : Except String ChannelInfo) (intn : RandIntn) : Except String (Nat × Channel) :=
  if c.keys = [] then .error "no keys available"
  else match c.enabledIdx with
    | [] => .error "no enabled keys"
    | first :: rest =>
      if c.channelInfo.polling then
        match stored with
        | .error e => .error e
        | .ok info =>
          let index := info.multiKeyPollingIndex
          let start := if index < 0 ∨ (c.keys.length : Int) ≤ index then 0 else index.toNat
          match c.pollFrom start with
          | some i =>
            .ok (i, { c with channelInfo := { c.channelInfo with multiKeyPollingIndex := ((i + 1) % c.keys.length : Nat) } })
          | none => .ok (first, c)
      else .ok ((first :: rest).getD (intn.1 (rest.length + 1)) first, c)

/-- `GetNextEnabledKey` of a multi-key channel: `keys[idx]` with its place. -/
def nextEnabledKey (c : Channel) (stored : Except String ChannelInfo) (intn : RandIntn) : Except String ((String × Nat) × Channel) :=
  (c.nextEnabledIdx stored intn).map fun (i, c') => ((c.keys.getD i "", i), c')

end Channel

end NewApi
