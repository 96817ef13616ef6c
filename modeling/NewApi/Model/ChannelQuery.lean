import NewApi.Model.ChannelCache

/-!
# Selecting a channel from the tables

`GetChannel` of `model/ability.go`, which `GetRandomSatisfiedChannel` calls when there is no memory cache: the abilities of the group and
the model at the priority of the retry, then those whose channel serves the path, then one of them by weight.
-/

namespace NewApi

open Tables

abbrev RandIntn := { intn : Nat → Nat // ∀ n, 0 < n → intn n < n }

def RandIntn.zero : RandIntn := ⟨fun _ => 0, fun _ h => h⟩

/-- `ORDER BY weight DESC`; the order of equal weights is left open, and nothing depends on the other. -/
structure WeightOrder where
  order : List Ability → List Ability
  perm : ∀ abilities, (order abilities).Perm abilities

namespace ChannelDb

variable {Config : Type} (env : ChannelEnv Config) (db : ChannelDb)

/-- The enabled abilities of a group for a model. -/
def enabledAbilities (group model : String) : List Ability :=
  db.abilities.rows.filter fun a => a.group = group && a.model = model && a.enabled

/-- `getPriority`: the distinct priorities from the highest down. A priority that is NULL cannot be scanned into an int. -/
def getPriority (group model : String) (retry : Nat) : Except String Int :=
  let column := (db.enabledAbilities group model).map Ability.priority
  if none ∈ column then .error "sql: Scan error on column index 0, name \"priority\": converting NULL to int is unsupported"
  else
    let priorities := ((column.filterMap id).dedup).mergeSort (fun a b => decide (b ≤ a))
    if priorities = [] then .error "数据库一致性被破坏"
    else .ok (priorities.getD (if priorities.length ≤ retry then priorities.length - 1 else retry) 0)

/-- The priority `getChannelQuery` asks for: `MAX(priority)` for the first attempt. No row has a priority equal to NULL. -/
def queryPriority (group model : String) (retry : Nat) : Except String (Option Int) :=
  if retry = 0 then .ok ((db.enabledAbilities group model).filterMap Ability.priority).max?
  else (db.getPriority group model retry).map some

def channelQuery (group model : String) (retry : Nat) : Except String (List Ability) :=
  (db.queryPriority group model retry).map fun priority =>
    (db.enabledAbilities group model).filter fun a => priority.isSome && a.priority = priority

/-- The channel serves the path: an Advanced Custom channel needs a route for it. -/
def servesPath (path : String) (c : Channel) : Bool :=
  c.type ≠ channelTypeAdvancedCustom ||
    match env.advancedCustom c.otherSettings with
    | some config => env.supportsPath config path
    | none => false

/-- `filterAbilitiesByRequestPath`; `queried` tells whether its query succeeds. -/
def filterAbilitiesByRequestPath (abilities : List Ability) (path : String) (queried : Bool) : List Ability :=
  if path = "" ∨ abilities = [] ∨ queried = false then abilities
  else abilities.filter fun a =>
    match db.channels.lookup a.channelId with
    | some c => servesPath env path c
    | none => true

/-- Subtract each ability's share until the random weight is not above zero. -/
def pickAbility : Int → List Ability → Int
  | _, [] => 0
  | weight, a :: rest =>
    let left := weight - (a.weight + 10 : Nat)
    if left ≤ 0 then a.channelId else pickAbility left rest

def getChannel (order : WeightOrder) (group model : String) (retry : Nat) (path : String) (queried : Bool) (intn : RandIntn) :
    Except String (Option Channel) :=
  match db.channelQuery group model retry with
  | .error e => .error e
  | .ok rows =>
    let abilities := db.filterAbilitiesByRequestPath env (order.order rows) path queried
    if abilities = [] then .ok none
    else
      match db.channels.lookup (pickAbility (intn.1 ((abilities.map fun a => a.weight + 10).sum)) abilities) with
      | some c => .ok (some c)
      | none => .error "record not found"

/-- The abilities `AddAbilities` gives a channel. -/
def mirrors (c : Channel) (a : Ability) : Prop :=
  a.group ∈ c.groups ∧ a.model ∈ c.modelNames ∧ a.channelId = c.id ∧ a.enabled = decide (c.status = .enabled) ∧
    a.priority = c.priority ∧ a.weight = c.getWeight ∧ a.tag = c.tag

end ChannelDb

/-- The abilities are those of the channels. -/
structure ChannelDb.Consistent (db : ChannelDb) : Prop where
  mirrored : ∀ a ∈ db.abilities.rows, ∃ c ∈ db.channels.rows, mirrors c a
  complete : ∀ c ∈ db.channels.rows, ∀ group ∈ c.groups, ∀ model ∈ c.modelNames,
    ∃ a ∈ db.abilities.rows, a.group = group ∧ a.model = model ∧ a.channelId = c.id

end NewApi
