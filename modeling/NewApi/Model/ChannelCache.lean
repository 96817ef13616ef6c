import NewApi.Lib.NestedMap
import NewApi.Lib.Table
import NewApi.Lib.Text

/-!
# The cache of channels

The channels and their abilities as the database keeps them, and the cache the relay selects from: an index of the enabled
channels by group and model, and the channels by id. `InitChannelCache` builds both from what it has read; `UpdateChannelStatus`
changes the cache in place and then the row.
-/

namespace NewApi

open Tables NestedMaps

inductive ChannelStatus where
  | unknown
  | enabled
  | manuallyDisabled
  | autoDisabled
  deriving DecidableEq, Repr

/-- What a channel knows of its keys. A key without a status is enabled. -/
structure ChannelInfo where
  isMultiKey : Bool
  multiKeyStatusList : Nat → Option ChannelStatus
  /-- The mode is polling. -/
  polling : Bool
  multiKeyPollingIndex : Int
  /-- For a channel of one key: something else is set, such as its mode or the map of the statuses. -/
  others : Bool

/-- The zero value, which `Updates` does not write. -/
def ChannelInfo.isZero (info : ChannelInfo) : Bool :=
  !info.isMultiKey && !info.polling && info.multiKeyPollingIndex = 0 && !info.others

/-- A channel, with its key text as the keys it stands for. -/
structure Channel where
  id : Int
  type : Int
  keys : List String
  status : ChannelStatus
  weight : Option Nat
  models : String
  group : String
  priority : Option Int
  tag : Option String
  channelInfo : ChannelInfo
  otherSettings : String

namespace Channel

def getPriority (c : Channel) : Int := c.priority.getD 0

def getWeight (c : Channel) : Nat := c.weight.getD 0

/-- The comma-separated groups, as they are written. -/
def groups (c : Channel) : List String := Text.split c.group ','

/-- The comma-separated models, as they are written. -/
def modelNames (c : Channel) : List String := Text.split c.models ','

end Channel

/-- An ability: a channel serves a model for a group. -/
structure Ability where
  group : String
  model : String
  channelId : Int
  enabled : Bool
  priority : Option Int
  weight : Nat
  tag : Option String

def Ability.key (a : Ability) : String × String × Int := (a.group, a.model, a.channelId)

structure ChannelDb where
  channels : Table Channel.id
  abilities : Table Ability.key

/-- What the cache needs from elsewhere: the order `sort.Slice` brings ids of one list into, the routes of an Advanced Custom
channel and the normalised name of a model. -/
structure ChannelEnv (Config : Type) where
  /-- The ids sorted by falling priority; the order of equal priorities is left open. -/
  sort : (Int → Int) → List Int → List Int
  sort_perm : ∀ priority ids, (sort priority ids).Perm ids
  advancedCustom : String → Option Config
  supportsPath : Config → String → Bool
  formatMatchingModelName : String → String

/-- The cache. Before the first refresh both maps are empty. -/
structure ChannelCache (Config : Type) where
  group2model2channels : Nested String String Int
  channelsIDM : Int → Option Channel
  channel2advancedCustomConfig : Int → Option Config
  /-- A channel is kept under its id. -/
  ids : ∀ id c, channelsIDM id = some c → c.id = id

def channelTypeAdvancedCustom : Int := 58

namespace ChannelCache

variable {Config : Type} (env : ChannelEnv Config)

def empty : ChannelCache Config := ⟨fun _ => none, fun _ => none, fun _ => none, by simp⟩

/-! ## Refreshing -/

/-- The places of the index a channel is appended to, in the order of the loops: each group and, under it, each model. -/
def indexEntries (channels : List Channel) : List (String × String × Int) :=
  (channels.filter fun c => c.status = .enabled).flatMap fun c =>
    c.groups.flatMap fun group => c.modelNames.map fun model => (group, model, c.id)

/-- A channel of the new cache: a polling channel keeps the index the old cache had for it. -/
def keepPollingIndex (old : Option Channel) (c : Channel) : Channel :=
  match old with
  | some o =>
    if c.channelInfo.isMultiKey && c.channelInfo.polling && o.channelInfo.isMultiKey && o.channelInfo.polling then
      { c with channelInfo := { c.channelInfo with multiKeyPollingIndex := o.channelInfo.multiKeyPollingIndex } }
    else c
  | none => c

theorem keepPollingIndex_id (old : Option Channel) (c : Channel) : (keepPollingIndex old c).id = c.id := by
  unfold keepPollingIndex
  split
  · split <;> rfl
  · rfl

/-- The inner maps that are made: those of the groups of the abilities. -/
def madeGroups (abilities : List Ability) : Nested String String Int :=
  fun group => if group ∈ abilities.map Ability.group then some fun _ => none else none

/-- `InitChannelCache` after its two queries. `none` is the panic of an assignment into a map that was not made. -/
def initChannelCache (channels : Table Channel.id) (abilities : List Ability) (old : ChannelCache Config) : Option (ChannelCache Config) :=
  let priority := fun id => ((channels.lookup id).map Channel.getPriority).getD 0
  ((madeGroups abilities).pushAll (indexEntries channels.rows)).map fun index =>
    { group2model2channels := index.mapLists (env.sort priority)
      channelsIDM := fun id => (channels.lookup id).map (keepPollingIndex (old.channelsIDM id))
      channel2advancedCustomConfig := fun id => (channels.lookup id).bind fun c =>
        if c.type = channelTypeAdvancedCustom then env.advancedCustom c.otherSettings else none
      ids := by
        intro id c h
        obtain ⟨c', hc', rfl⟩ := Option.map_eq_some_iff.1 h
        rw [keepPollingIndex_id]
        exact Table.lookup_key hc' }

/-! ## Selecting -/

variable (cache : ChannelCache Config)

/-- The candidates that serve the path: an Advanced Custom channel needs a route for it. -/
def filterChannelsByRequestPath (ids : List Int) (path : String) : List Int :=
  if path = "" ∨ ids = [] then ids
  else ids.filter fun id =>
    match cache.channelsIDM id with
    | none => true
    | some c =>
      c.type ≠ channelTypeAdvancedCustom ||
        match cache.channel2advancedCustomConfig id with
        | some config => env.supportsPath config path
        | none => false

/-- The error for an id the cache has no channel for. -/
def inconsistent (id : Int) : String := s!"数据库一致性错误，渠道# {id} 不存在，请联系管理员修复"

def fetch (id : Int) : Except String Channel :=
  match cache.channelsIDM id with
  | some c => .ok c
  | none => .error (inconsistent id)

/-- Subtract each channel's share until the random weight falls below zero. -/
def pickByWeight (factor adjustment : Nat) : Int → List Channel → Except String (Option Channel)
  | _, [] => .error "channel not found"
  | randomWeight, c :: cs =>
    let left := randomWeight - (c.getWeight * factor + adjustment : Nat)
    if left < 0 then .ok (some c) else pickByWeight factor adjustment left cs

/-- The priority a retry is served from: the different priorities from the highest down, and the lowest for every further retry. -/
def targetPriority (retry : Nat) (channels : List Channel) : Int :=
  let priorities := ((channels.map Channel.getPriority).dedup).mergeSort (fun a b => decide (b ≤ a))
  priorities.getD (if priorities.length ≤ retry then priorities.length - 1 else retry) 0

/-- Choose among the channels of the retry's priority, by weight. `intn` is `rand.Intn`. -/
def pickChannel (group model : String) (retry : Nat) (intn : Nat → Nat) (channels : List Channel) : Except String (Option Channel) :=
  let target := targetPriority retry channels
  let targets := channels.filter fun c => c.getPriority = target
  let sumWeight := (targets.map Channel.getWeight).sum
  if targets = [] then .error s!"no channel found, group: {group}, model: {model}, priority: {target}"
  else if sumWeight = 0 then pickByWeight 1 100 (intn (targets.length * 100)) targets
  else if sumWeight / targets.length < 10 then pickByWeight 100 0 (intn (sumWeight * 100)) targets
  else pickByWeight 1 0 (intn sumWeight) targets

/-- The candidates: those under the model's name, and where there is none those under its normalised name. -/
def candidates (group model path : String) : List Int :=
  let exact := cache.filterChannelsByRequestPath env (cache.group2model2channels.get group model) path
  if exact = [] then
    cache.filterChannelsByRequestPath env (cache.group2model2channels.get group (env.formatMatchingModelName model)) path
  else exact

/-- `GetRandomSatisfiedChannel` with the memory cache on. -/
def getRandomSatisfiedChannel (group model : String) (retry : Nat) (path : String) (intn : Nat → Nat) : Except String (Option Channel) :=
  match cache.candidates env group model path with
  | [] => .ok none
  | [id] => (cache.fetch id).map some
  | ids => (ids.mapM cache.fetch).bind (pickChannel group model retry intn)

/-- `IsChannelEnabledForGroupModel` with the memory cache on. -/
def isChannelEnabledForGroupModel (group modelName : String) (channelID : Int) : Bool :=
  if group = "" ∨ modelName = "" ∨ channelID ≤ 0 then false
  else if channelID ∈ cache.group2model2channels.get group modelName then true
  else
    let normalized := env.formatMatchingModelName modelName
    if normalized ≠ "" ∧ normalized ≠ modelName then decide (channelID ∈ cache.group2model2channels.get group normalized)
    else false

/-! ## Changing a status -/

/-- Put another channel in the place of the one with its id. -/
def setChannel (c : Channel) : ChannelCache Config :=
  { cache with
    channelsIDM := Function.update cache.channelsIDM c.id (some c)
    ids := by
      intro id c' h
      by_cases hid : id = c.id
      · subst hid
        rw [Function.update_self] at h
        exact congrArg Channel.id (Option.some.inj h).symm
      · rw [Function.update_of_ne hid] at h
        exact cache.ids id c' h }

def setCachedStatus (id : Int) (status : ChannelStatus) : ChannelCache Config :=
  match cache.channelsIDM id with
  | some c => cache.setChannel { c with status := status }
  | none => cache

/-- `CacheUpdateChannelStatus`: set the status, and take the first occurrence of the id out of each list of the index unless the
channel is enabled. -/
def cacheUpdateChannelStatus (id : Int) (status : ChannelStatus) : ChannelCache Config :=
  let set := cache.setCachedStatus id status
  if status ≠ .enabled then { set with group2model2channels := set.group2model2channels.mapLists fun ids => ids.erase id } else set

end ChannelCache

/-- Some key has no status or is enabled. -/
def hasEnabledMultiKey (keys : List String) (statusList : Nat → Option ChannelStatus) : Bool :=
  (List.range keys.length).any fun i => (statusList i).getD .enabled = .enabled

/-- `handlerMultiKeyUpdate`: change the status of one key, and the channel's with it when no key is left or one is enabled. -/
def handlerMultiKeyUpdate (c : Channel) (usingKey : String) (status : ChannelStatus) : Channel :=
  if c.keys = [] then { c with status := status }
  else
    match c.keys.findIdx? (fun key => key = usingKey) with
    | none => if usingKey ≠ "" then c else { c with status := status }
    | some i =>
      let statusList := Function.update c.channelInfo.multiKeyStatusList i (if status = .enabled then none else some status)
      let c := { c with channelInfo := { c.channelInfo with multiKeyStatusList := statusList } }
      if ¬ hasEnabledMultiKey c.keys statusList then { c with status := .autoDisabled }
      else if status = .enabled then { c with status := .enabled }
      else c

structure ChannelSystem (Config : Type) where
  cache : ChannelCache Config
  db : ChannelDb

/-- Which of the statements of `UpdateChannelStatus` succeed. -/
structure StatusStatements where
  read : Bool
  save : Bool
  abilities : Bool

def ChannelDb.updateAbilityStatus (db : ChannelDb) (id : Int) (enabled : Bool) : ChannelDb :=
  let setEnabled := fun a : Ability => if a.channelId = id then { a with enabled := enabled } else a
  { db with abilities := db.abilities.modify setEnabled (by intro a; simp only [setEnabled]; split <;> rfl) }

namespace ChannelSystem

variable {Config : Type}

/-- The cache's part of `UpdateChannelStatus`: `none` where the call returns before it reaches the database. -/
def updateCachedStatus (cache : ChannelCache Config) (id : Int) (usingKey : String) (status : ChannelStatus) :
    Option (ChannelCache Config) :=
  match cache.channelsIDM id with
  | none => none
  | some c =>
    if c.channelInfo.isMultiKey then
      let c' := handlerMultiKeyUpdate c usingKey status
      let cache := cache.setChannel c'
      some (if c.status ≠ c'.status then cache.cacheUpdateChannelStatus id c'.status else cache)
    else if c.status = status then none
    else some (cache.cacheUpdateChannelStatus id status)

/-- The row after the update, and whether the abilities are updated as well. -/
def updatedRow (row : Channel) (usingKey : String) (status : ChannelStatus) : Channel × Bool :=
  if row.channelInfo.isMultiKey then
    let row' := handlerMultiKeyUpdate row usingKey status
    (row', decide (row.status ≠ row'.status))
  else ({ row with status := status }, true)

/-- The database's part of `UpdateChannelStatus`. The abilities are updated by a deferred function, after a failed save too. -/
def updateStoredStatus (db : ChannelDb) (id : Int) (usingKey : String) (status : ChannelStatus) (ok : StatusStatements) :
    Bool × ChannelDb :=
  match (if ok.read then db.channels.lookup id else none) with
  | none => (false, db)
  | some row =>
    if row.status = status then (false, db)
    else
      let (row', updateAbilities) := updatedRow row usingKey status
      let saved := ok.save && decide (row'.id ≠ 0)
      let db := if saved then { db with channels := db.channels.save row' } else db
      (saved, if updateAbilities && ok.abilities then db.updateAbilityStatus id (status = .enabled) else db)

/-- `UpdateChannelStatus` with the memory cache on. -/
def updateChannelStatus (s : ChannelSystem Config) (id : Int) (usingKey : String) (status : ChannelStatus) (ok : StatusStatements) :
    Bool × ChannelSystem Config :=
  match updateCachedStatus s.cache id usingKey status with
  | none => (false, s)
  | some cache =>
    let (changed, db) := updateStoredStatus s.db id usingKey status ok
    (changed, ⟨cache, db⟩)

end ChannelSystem

/-- A call, with which of its statements succeed: a query that fails leaves nothing read. -/
inductive ChannelCall where
  | refresh (channels abilities : Bool)
  | updateStatus (id : Int) (usingKey : String) (status : ChannelStatus) (ok : StatusStatements)

namespace ChannelSystem

variable {Config : Type}

/-- One call after the other. A refresh that panics leaves the cache as it was. -/
def call (env : ChannelEnv Config) (s : ChannelSystem Config) : ChannelCall → ChannelSystem Config
  | .refresh channels abilities =>
    let channelsRead := if channels then s.db.channels else Table.empty
    let abilitiesRead := if abilities then s.db.abilities.rows else []
    match ChannelCache.initChannelCache env channelsRead abilitiesRead s.cache with
    | some cache => { s with cache := cache }
    | none => s
  | .updateStatus id usingKey status ok => (s.updateChannelStatus id usingKey status ok).2

end ChannelSystem

end NewApi
