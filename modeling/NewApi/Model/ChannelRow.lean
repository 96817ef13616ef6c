import NewApi.Lib.Run
import NewApi.Model.ChannelKeys

/-!
# The writers of a channel's row

With the memory cache off three calls write the row of a multi-key channel: `GetNextEnabledKey` in polling mode writes back the whole
`channel_info`, `UpdateChannelStatus` every column but the key, and `updateChannelUsedQuota` adds to one column. Each read and write of
the row is a step, and so are taking and giving back the polling lock.

A history keeps the keys whose last saved status change disabled them, and the sum of the quota added.
-/

namespace NewApi

open Threads

/-- The row of a channel, with the column `used_quota`. -/
structure ChannelRow extends Channel where
  usedQuota : Int

/-- The row, the polling lock of the channel and the history. -/
structure RowStore where
  row : ChannelRow
  locked : Bool
  /-- The last status change saved for the key at a place disabled it. -/
  disabled : Nat → Bool
  /-- The quota added so far. -/
  added : Int

inductive RowWork where
  | idle
  /-- `GetNextEnabledKey`, whose channel is still to be read; the random number is for other modes. -/
  | poll (intn : RandIntn)
  | pollRead (channel : ChannelRow) (intn : RandIntn)
  | polling (channel : ChannelRow) (intn : RandIntn)
  /-- `SaveChannelInfo` is next. -/
  | pollSave (channel : ChannelRow)
  | pollUnlock
  | update (usingKey : String) (status : ChannelStatus)
  | updateRead (channel : ChannelRow) (usingKey : String) (status : ChannelStatus)
  | updating (channel : ChannelRow) (usingKey : String) (status : ChannelStatus)
  /-- `SaveWithoutKey` is next, of the channel as `handlerMultiKeyUpdate` changes it. -/
  | updateSave (channel : ChannelRow) (usingKey : String) (status : ChannelStatus)
  | addQuota (quota : Int)

/-- A call that has not begun. -/
def RowWork.IsCall : RowWork → Prop
  | .idle | .poll _ | .update _ _ | .addQuota _ => True
  | _ => False

namespace RowStore

variable (s : RowStore)

def saveChannelInfo (channel : ChannelRow) : RowStore := { s with row := { s.row with channelInfo := channel.channelInfo } }

/-- `SaveWithoutKey`, of the channel with the status of a key changed. -/
def saveWithoutKey (channel : ChannelRow) (usingKey : String) (status : ChannelStatus) : RowStore :=
  { s with
    row := { channel with toChannel := { handlerMultiKeyUpdate channel.toChannel usingKey status with keys := s.row.keys } }
    disabled := match s.row.keys.findIdx? (fun key => key = usingKey) with
      | some i => Function.update s.disabled i (decide (status ≠ .enabled))
      | none => s.disabled }

def addQuota (quota : Int) : RowStore :=
  { s with row := { s.row with usedQuota := s.row.usedQuota + quota }, added := s.added + quota }

/-- The next statement of a call; `ok` says whether it succeeds. -/
def statement (ok : Bool) : RowWork → RowStore × RowWork
  | .idle => (s, .idle)
  | .poll intn => if ok then (s, .pollRead s.row intn) else (s, .idle)
  | .pollRead channel intn =>
    if s.locked then (s, .pollRead channel intn) else ({ s with locked := true }, .polling channel intn)
  | .polling channel intn =>
    -- `CacheGetChannelInfo` reads the row again, for the polling index
    match channel.nextEnabledKey (if ok then .ok s.row.channelInfo else .error "record not found") intn with
    | .ok (_, next) => (s, if channel.channelInfo.polling then .pollSave { channel with toChannel := next } else .pollUnlock)
    | .error _ => (s, .pollUnlock)
  | .pollSave channel => (if ok then s.saveChannelInfo channel else s, .pollUnlock)
  | .pollUnlock => ({ s with locked := false }, .idle)
  | .update usingKey status =>
    if ok then if s.row.status = status then (s, .idle) else (s, .updateRead s.row usingKey status)
    else (s, .idle)
  | .updateRead channel usingKey status =>
    if s.locked then (s, .updateRead channel usingKey status) else ({ s with locked := true }, .updating channel usingKey status)
  | .updating channel usingKey status => ({ s with locked := false }, .updateSave channel usingKey status)
  | .updateSave channel usingKey status => (if ok then s.saveWithoutKey channel usingKey status else s, .idle)
  | .addQuota quota => (if ok then s.addQuota quota else s, .idle)

end RowStore

abbrev RowConf (ι : Type) := Conf RowStore ι RowWork

namespace RowConf

variable {ι : Type} [DecidableEq ι]

def step (c : RowConf ι) (e : ι × Bool) : RowConf ι := c.act e.1 fun s work => s.statement e.2 work

def start (row : ChannelRow) (calls : ι → RowWork) : RowConf ι := ⟨⟨row, false, fun _ => false, 0⟩, calls⟩

end RowConf

end NewApi
