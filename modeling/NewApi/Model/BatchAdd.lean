import Mathlib.Data.UInt

/-!
# Adding channels by keys

The loop of `AddChannel` (`controller/channel.go`) over the keys of a request. A Go string is a list of bytes; of a channel only the name
and the key differ from the request's.
-/

namespace NewApi

structure AddedChannel where
  name : List UInt8
  key : List UInt8
  deriving DecidableEq

/-- The loop over the keys. The name is a field of the one record all rounds write to. -/
def addEach (setPrefix : Bool) : List UInt8 → List (List UInt8) → List AddedChannel
  | _, [] => []
  | name, key :: keys =>
    if key = [] then addEach setPrefix name keys
    else
      let name := if setPrefix then name ++ 32 :: key.take 8 else name
      ⟨name, key⟩ :: addEach setPrefix name keys

def addChannel (batchAddSetKeyPrefix2Name : Bool) (name : List UInt8) (keys : List (List UInt8)) : List AddedChannel :=
  addEach (batchAddSetKeyPrefix2Name && decide (1 < keys.length)) name keys

end NewApi
