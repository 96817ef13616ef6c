import NewApi.Lib.Run
import NewApi.Model.ChannelKeys

/-!
# Editing the keys of a channel

`UpdateChannel` and `ManageMultiKeys` of `controller/channel.go`, `Channel.Update` and `handlerMultiKeyUpdate` of `model/channel.go`, on
the row of a multi-key channel. The keys are one text, a key a line or a JSON array, and their statuses are kept by place. The times and
the reasons of a disabling go with the statuses and are left out. An edit whose statement fails is no edit.
-/

namespace NewApi

structure KeyEnv where
  /-- A JSON array, its elements as they are written. -/
  unmarshalArray : String → Option (List String)
  /-- `getVertexArrayKeys`. -/
  getVertexArrayKeys : String → Except String (List String)

/-- The text begins as a JSON array does. -/
def bracketed (text : String) : Bool := Text.startsWith (Text.trimSpace text) "["

def lineKeys (text : String) : List String := Text.split (Text.trim text '\n') '\n'

namespace KeyEnv

variable (env : KeyEnv)

def arrayKeys (text : String) : Option (List String) :=
  if bracketed text then env.unmarshalArray (Text.trimSpace text) else none

def getKeys (text : String) : List String :=
  if text = "" then [] else (env.arrayKeys text).getD (lineKeys text)

/-- The keys `Channel.Update` counts: an empty array is read as a line. -/
def countedKeys (text : String) : List String :=
  if text = "" then []
  else
    let keys := (env.arrayKeys text).getD []
    if keys = [] then lineKeys text else keys

end KeyEnv

/-- The row of a multi-key channel; `keys` are those of `GetKeys`. -/
structure MultiKeyRow extends Channel where
  /-- The key text. -/
  key : String
  multiKeySize : Nat

namespace MultiKeyRow

variable (env : KeyEnv) (row : MultiKeyRow)

def statusList : Nat → Option ChannelStatus := row.channelInfo.multiKeyStatusList

def setStatusList (statusList : Nat → Option ChannelStatus) : MultiKeyRow :=
  { row with channelInfo := { row.channelInfo with multiKeyStatusList := statusList } }

/-- `Channel.Update` for the row with this key text and these statuses: an empty text is not written, the keys are counted again, and
statuses from the count on are dropped. -/
def update (key : String) (statusList : Nat → Option ChannelStatus) : MultiKeyRow :=
  let key := if key = "" then row.key else key
  let size := (env.countedKeys key).length
  { row.setStatusList fun i => if i < size then statusList i else none with key := key, keys := env.getKeys key, multiKeySize := size }

/-! ## Changing keys -/

/-- The keys an append brings: the lines of the text without white space, or the keys of a Vertex AI account. -/
def newKeys (vertexJSON : Bool) (text : String) : Except String (List String) :=
  if vertexJSON then
    if bracketed text then env.getVertexArrayKeys text else .ok [text]
  else .ok (((Text.split text '\n').map Text.trimSpace).filter fun key => key ≠ "")

/-- The keys that are not yet among those seen, each once, without white space. -/
def dedupedNewKeys : List String → List String → List String
  | _, [] => []
  | seen, key :: rest =>
    let normalized := Text.trimSpace key
    if normalized = "" ∨ normalized ∈ seen then dedupedNewKeys seen rest
    else normalized :: dedupedNewKeys (normalized :: seen) rest

/-- The keys an append keeps. A text that begins as an array and is none has none. -/
def existingKeys : List String :=
  if bracketed row.key then (env.arrayKeys row.key).getD [] else lineKeys row.key

def appendedKey (newKeys : List String) : String :=
  let existing := row.existingKeys env
  Text.join (existing ++ dedupedNewKeys ((existing.map Text.trimSpace).filter fun key => key ≠ "") newKeys) '\n'

/-- `UpdateChannel` with key mode `append`. -/
def appendKeys (vertexJSON : Bool) (text : String) : MultiKeyRow :=
  if row.key = "" then row.update env text row.statusList
  else match newKeys env vertexJSON text with
    | .error _ => row
    | .ok newKeys => row.update env (row.appendedKey env newKeys) row.statusList

/-- `UpdateChannel` with key mode `replace`, or without one. -/
def replaceKeys (text : String) : MultiKeyRow := row.update env text row.statusList

/-- The keys that are kept, with their statuses; an enabled key has none. -/
def keptKeys (keep : Nat → Bool) : List (String × Option ChannelStatus) :=
  (row.keys.zipIdx.filter fun (_, i) => keep i).map fun (key, i) =>
    (key, if row.channelInfo.keyStatus i = .enabled then none else row.statusList i)

/-- The row with the kept keys, each with its status at its new place. -/
def keepKeys (kept : List (String × Option ChannelStatus)) : MultiKeyRow :=
  row.update env (Text.join (kept.map Prod.fst) '\n') fun i => kept[i]?.bind Prod.snd

/-! ## `ManageMultiKeys` -/

/-- The place of a key, where the index is one. -/
def place (keyIndex : Int) : Option Nat := if keyIndex < 0 ∨ (row.multiKeySize : Int) ≤ keyIndex then none else some keyIndex.toNat

/-- The row with another status for the key at an index, where the index is a place. -/
def setKeyStatus (keyIndex : Int) (status : Option ChannelStatus) : MultiKeyRow :=
  match row.place keyIndex with
  | none => row
  | some i => row.update env row.key (Function.update row.statusList i status)

def disableKey (keyIndex : Int) : MultiKeyRow := row.setKeyStatus env keyIndex (some .manuallyDisabled)

/-- The entry is deleted. -/
def enableKey (keyIndex : Int) : MultiKeyRow := row.setKeyStatus env keyIndex none

def enableAllKeys : MultiKeyRow := row.update env row.key fun _ => none

/-- The enabled keys are disabled; where there is none nothing is written. -/
def disableAllKeys : MultiKeyRow :=
  if (List.range row.multiKeySize).all fun i => row.channelInfo.keyStatus i ≠ .enabled then row
  else row.update env row.key fun i =>
    if i < row.multiKeySize ∧ row.channelInfo.keyStatus i = .enabled then some .manuallyDisabled else row.statusList i

/-- The last key is not deleted. -/
def deleteKey (keyIndex : Int) : MultiKeyRow :=
  match row.place keyIndex with
  | none => row
  | some i =>
    let kept := row.keptKeys fun j => j ≠ i
    if kept = [] then row else row.keepKeys env kept

def deleteDisabledKeys : MultiKeyRow :=
  let kept := row.keptKeys fun i => row.channelInfo.keyStatus i ≠ .autoDisabled
  if kept.length = row.keys.length then row else row.keepKeys env kept

/-- `handlerMultiKeyUpdate` on the row, which is then saved without its key. -/
def updateKeyStatus (usingKey : String) (status : ChannelStatus) : MultiKeyRow :=
  { row with toChannel := handlerMultiKeyUpdate row.toChannel usingKey status }

end MultiKeyRow

inductive KeyEdit where
  | appendKeys (vertexJSON : Bool) (text : String)
  | replaceKeys (text : String)
  | disableKey (keyIndex : Int)
  | enableKey (keyIndex : Int)
  | disableAllKeys
  | enableAllKeys
  | deleteKey (keyIndex : Int)
  | deleteDisabledKeys
  | updateKeyStatus (usingKey : String) (status : ChannelStatus)

def MultiKeyRow.edit (env : KeyEnv) (row : MultiKeyRow) : KeyEdit → MultiKeyRow
  | .appendKeys vertexJSON text => row.appendKeys env vertexJSON text
  | .replaceKeys text => row.replaceKeys env text
  | .disableKey keyIndex => row.disableKey env keyIndex
  | .enableKey keyIndex => row.enableKey env keyIndex
  | .disableAllKeys => row.disableAllKeys env
  | .enableAllKeys => row.enableAllKeys env
  | .deleteKey keyIndex => row.deleteKey env keyIndex
  | .deleteDisabledKeys => row.deleteDisabledKeys env
  | .updateKeyStatus usingKey status => row.updateKeyStatus usingKey status

end NewApi
