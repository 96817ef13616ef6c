import NewApi.Lib.Run
import NewApi.Lib.Tally

/-!
# The batch updater

`model/utils.go`: the changes of quotas and counts are collected in five stores, one per kind and each under a lock of its own, and
`batchUpdate` flushes them. It looks whether any store holds something, swaps the stores for empty ones one by one, and writes what it
swapped out. A lock section and an SQL update are one step each. Records are added and rows deleted at any moment, and Go goes through a
map in no particular order, so the event says which key comes next.
-/

namespace NewApi

open Tables Threads

/-- The kinds of updates, in the order of their constants. -/
inductive BatchUpdateType where
  | userQuota | tokenQuota | usedQuota | channelUsedQuota | requestCount
  deriving DecidableEq, Repr

def BatchUpdateType.index : BatchUpdateType → Nat
  | .userQuota => 0
  | .tokenQuota => 1
  | .usedQuota => 2
  | .channelUsedQuota => 3
  | .requestCount => 4

/-- The kind a loop over the kinds comes to next. -/
def BatchUpdateType.next : BatchUpdateType → Option BatchUpdateType
  | .userQuota => some .tokenQuota
  | .tokenQuota => some .usedQuota
  | .usedQuota => some .channelUsedQuota
  | .channelUsedQuota => some .requestCount
  | .requestCount => none

/-! ## The database -/

/-- The tables the updates address. -/
inductive BatchTable where
  | users | tokens | channels
  deriving DecidableEq, Repr

def BatchUpdateType.table : BatchUpdateType → BatchTable
  | .tokenQuota => .tokens
  | .channelUsedQuota => .channels
  | _ => .users

/-- The columns of a user that are updated in batches. -/
structure BatchUser where
  quota : Int
  usedQuota : Int
  requestCount : Int
  deriving DecidableEq, Repr

structure BatchToken where
  remainQuota : Int
  usedQuota : Int
  deriving DecidableEq, Repr

/-- The rows the updates address, by id, with those that are not deleted; of a channel the used quota. An UPDATE finds only rows that are
not deleted, and one that finds none is no error. -/
structure BatchDb where
  users : Int → BatchUser
  tokens : Int → BatchToken
  channels : Int → Int
  live : BatchTable → Int → Bool

variable (db : BatchDb)

/-- The column a kind of update adds to. -/
def BatchDb.value (id : Int) : BatchUpdateType → Int
  | .userQuota => (db.users id).quota
  | .tokenQuota => (db.tokens id).remainQuota
  | .usedQuota => (db.users id).usedQuota
  | .channelUsedQuota => db.channels id
  | .requestCount => (db.users id).requestCount

/-- `increaseTokenQuota`: what the token has left and what it has used move by opposite amounts. -/
def BatchDb.increaseTokenQuota (id quota : Int) : BatchDb :=
  let token := db.tokens id
  if db.live .tokens id then { db with tokens := Function.update db.tokens id ⟨token.remainQuota + quota, token.usedQuota - quota⟩ } else db

def BatchDb.updateChannelUsedQuota (id quota : Int) : BatchDb :=
  if db.live .channels id then { db with channels := Function.update db.channels id (db.channels id + quota) } else db

/-- `updateUserQuotaUsedQuotaAndRequestCount`: no statement where there is nothing to add. -/
def BatchDb.updateUserQuotaUsedQuotaAndRequestCount (id quota usedQuota requestCount : Int) : BatchDb :=
  if (quota = 0 ∧ usedQuota = 0 ∧ requestCount = 0) ∨ db.live .users id = false then db
  else
    let user := db.users id
    let updated : BatchUser := ⟨user.quota + quota, user.usedQuota + usedQuota, user.requestCount + requestCount⟩
    { db with users := Function.update db.users id updated }

/-- A row is deleted: it is marked so, or gone. -/
def BatchDb.delete (table : BatchTable) (id : Int) : BatchDb :=
  { db with live := fun t k => !decide (t = table ∧ k = id) && db.live t k }

/-! ## The stores and the updater -/

abbrev BatchStores := BatchUpdateType → Tally Int Int

/-- What the goroutines share: the database and `batchUpdateStores`. -/
structure BatchState where
  db : BatchDb
  stores : BatchStores

def BatchState.addNewRecord (s : BatchState) (kind : BatchUpdateType) (id value : Int) : BatchState :=
  { s with stores := Function.update s.stores kind (Tally.add (s.stores kind) id value) }

/-- Where a goroutine that calls `batchUpdate` stands. -/
inductive FlushState where
  | idle
  | check (kind : BatchUpdateType)
  | swap (kind : BatchUpdateType) (taken : BatchStores)
  | write (left : BatchStores)

/-- The look at a store: one that holds something ends the loop, and after the last one the call returns. -/
def BatchState.check (s : BatchState) (kind : BatchUpdateType) : FlushState :=
  if (s.stores kind).rows ≠ [] then .swap .userQuota fun _ => Table.empty
  else match kind.next with
    | some kind => .check kind
    | none => .idle

def BatchStores.removeUser (stores : BatchStores) (id : Int) : BatchStores
  | .userQuota => (stores .userQuota).remove id
  | .usedQuota => (stores .usedQuota).remove id
  | .requestCount => (stores .requestCount).remove id
  | kind => stores kind

/-- The users with an entry of any of their three kinds. -/
def BatchStores.userIDs (stores : BatchStores) : List Int :=
  Tally.keys (stores .userQuota) ++ Tally.keys (stores .usedQuota) ++ Tally.keys (stores .requestCount)

/-- The next write: a token while any is left, then a channel, then a user; the call returns when nothing is left. `key` is the one the
loop comes to, and a key that is not left is not come to. -/
def BatchDb.write (left : BatchStores) (key : Int) : BatchDb × FlushState :=
  if (left .tokenQuota).rows ≠ [] then
    if key ∈ Tally.keys (left .tokenQuota) then
      (db.increaseTokenQuota key (Tally.value (left .tokenQuota) key),
        .write (Function.update left .tokenQuota ((left .tokenQuota).remove key)))
    else (db, .write left)
  else if (left .channelUsedQuota).rows ≠ [] then
    if key ∈ Tally.keys (left .channelUsedQuota) then
      (db.updateChannelUsedQuota key (Tally.value (left .channelUsedQuota) key),
        .write (Function.update left .channelUsedQuota ((left .channelUsedQuota).remove key)))
    else (db, .write left)
  else if left.userIDs ≠ [] then
    if key ∈ left.userIDs then
      (db.updateUserQuotaUsedQuotaAndRequestCount key (Tally.value (left .userQuota) key) (Tally.value (left .usedQuota) key)
        (Tally.value (left .requestCount) key), .write (left.removeUser key))
    else (db, .write left)
  else (db, .idle)

/-- The next step of `batchUpdate`. -/
def BatchState.batchUpdate (key : Int) (s : BatchState) : FlushState → BatchState × FlushState
  | .idle => (s, s.check .userQuota)
  | .check kind => (s, s.check kind)
  | .swap kind taken =>
    let taken := Function.update taken kind (s.stores kind)
    ({ s with stores := Function.update s.stores kind Table.empty },
      match kind.next with
      | some kind => .swap kind taken
      | none => .write taken)
  | .write left => ({ s with db := (s.db.write left key).1 }, (s.db.write left key).2)

/-! ## Runs -/

/-- A record is added, a row deleted, or a goroutine that calls `batchUpdate` takes a step. -/
inductive BatchEvent (ι : Type) where
  | record (kind : BatchUpdateType) (id value : Int)
  | delete (table : BatchTable) (id : Int)
  | turn (i : ι) (key : Int)
  deriving DecidableEq, Repr

variable {ι : Type} [DecidableEq ι]

def batchStep (c : Conf BatchState ι FlushState) : BatchEvent ι → Conf BatchState ι FlushState
  | .record kind id value => { c with shared := c.shared.addNewRecord kind id value }
  | .delete table id => { c with shared := { c.shared with db := c.shared.db.delete table id } }
  | .turn i key => c.act i (BatchState.batchUpdate key)

def batchStart (db : BatchDb) : Conf BatchState ι FlushState := ⟨⟨db, fun _ => Table.empty⟩, fun _ => .idle⟩

/-- What a goroutine has swapped out and not written yet. The swaps go through the kinds in order, so before its swap of `kind` it has
those of the kinds before. -/
def FlushState.held (kind : BatchUpdateType) (id : Int) : FlushState → Int
  | .idle | .check _ => 0
  | .swap next taken => if kind.index < next.index then Tally.value (taken kind) id else 0
  | .write left => Tally.value (left kind) id

omit [DecidableEq ι] in
/-- No record is added. -/
def BatchEvent.AddsNothing : BatchEvent ι → Prop
  | .record _ _ _ => False
  | .delete _ _ | .turn _ _ => True

instance : DecidablePred (BatchEvent.AddsNothing (ι := ι))
  | .record _ _ _ => inferInstanceAs (Decidable False)
  | .delete _ _ | .turn _ _ => inferInstanceAs (Decidable True)

omit [DecidableEq ι] in
/-- What an event records at an id. -/
def BatchEvent.delta (kind : BatchUpdateType) (id : Int) : BatchEvent ι → Int
  | .record kind' id' value => if kind' = kind ∧ id' = id then value else 0
  | .delete _ _ | .turn _ _ => 0

omit [DecidableEq ι] in
def recordedSum (kind : BatchUpdateType) (id : Int) (es : List (BatchEvent ι)) : Int := (es.map (BatchEvent.delta kind id)).sum

end NewApi
