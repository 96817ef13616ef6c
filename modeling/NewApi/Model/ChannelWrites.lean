import NewApi.Lib.Run
import NewApi.Model.ChannelCache

/-!
# The writers of channels and abilities

`Channel.Insert`, `Channel.Update`, `EditChannelByTag` and `FixAbility` write the table of channels and the table of abilities in
separate statements, and `InitChannelCache` reads the two in separate queries. Each call is what it has still to do; one step is one
statement or one committed transaction, which may fail. `fixLock`, which lets one `FixAbility` run at a time, is left out: what is
said here holds without it.
-/

namespace NewApi

open Tables Threads

/-! ## The abilities of a channel -/

/-- The pairs whose key, group and model joined by a bar, was not seen before. -/
def unseenPairs : List String → List (String × String) → List (String × String)
  | _, [] => []
  | seen, (group, model) :: pairs =>
    let key := group ++ "|" ++ model
    if key ∈ seen then unseenPairs seen pairs else (group, model) :: unseenPairs (key :: seen) pairs

/-- The abilities `AddAbilities` and `UpdateAbilities` make for a channel. -/
def Channel.abilities (c : Channel) : List Ability :=
  (unseenPairs [] (c.modelNames.flatMap fun model => c.groups.map fun group => (group, model))).map fun (group, model) =>
    { group := group, model := model, channelId := c.id, enabled := c.status = .enabled, priority := c.priority
      weight := c.getWeight, tag := c.tag }

def chunk50 {α : Type} : List α → List (List α)
  | [] => []
  | x :: l => (x :: l.take 49) :: chunk50 (l.drop 49)
termination_by l => l.length
decreasing_by
  rw [List.length_drop, List.length_cons]
  omega

/-! ## The statements -/

namespace ChannelDb

variable (db : ChannelDb)

/-- The row `DB.Create` writes: zero values with a default take it, in memory as well. -/
def withDefaults (c : Channel) : Channel :=
  { c with
    group := if c.group = "" then "default" else c.group
    status := if c.status = .unknown then .enabled else c.status
    weight := some c.getWeight
    priority := some c.getPriority }

/-- `Updates` with a struct: the fields of the row that are not zero in the update are set. -/
def applyUpdates (update row : Channel) : Channel :=
  { row with
    type := if update.type = 0 then row.type else update.type
    keys := if update.keys = [] then row.keys else update.keys
    status := if update.status = .unknown then row.status else update.status
    weight := update.weight.or row.weight
    models := if update.models = "" then row.models else update.models
    group := if update.group = "" then row.group else update.group
    priority := update.priority.or row.priority
    tag := update.tag.or row.tag
    channelInfo := if update.channelInfo.isZero then row.channelInfo else update.channelInfo
    otherSettings := if update.otherSettings = "" then row.otherSettings else update.otherSettings }

def updateWhere (p : Channel → Bool) (update : Channel) : ChannelDb :=
  let f := fun row => if p row then applyUpdates update row else row
  { db with channels := db.channels.modify f (by intro row; simp only [f]; split <;> rfl) }

/-- One `Create` of abilities, which leaves out those whose key is taken. -/
def createAbilities (abilities : List Ability) : ChannelDb := { db with abilities := db.abilities.insertNew abilities }

/-- Delete the abilities of the channels with these ids. -/
def deleteAbilities (ids : List Int) : ChannelDb :=
  { db with abilities := db.abilities.keep fun a => decide (a.channelId ∉ ids) }

def updateAbilities (c : Channel) : ChannelDb :=
  (chunk50 c.abilities).foldl createAbilities (db.deleteAbilities [c.id])

end ChannelDb

/-- What `EditChannelByTag` is asked to change, of what the tables here hold. -/
structure TagEdit where
  tag : String
  newTag : Option String
  models : Option String
  group : Option String
  priority : Option Int
  weight : Option Nat

namespace TagEdit

variable (edit : TagEdit)

def updateData : Channel where
  id := 0
  type := 0
  keys := []
  status := .unknown
  weight := edit.weight
  models := edit.models.getD ""
  group := edit.group.getD ""
  priority := edit.priority
  tag := if edit.newTag = some edit.tag then none else edit.newTag
  channelInfo := ⟨false, fun _ => none, false, 0, false⟩
  otherSettings := ""

def shouldReCreateAbilities : Bool := edit.models.getD "" ≠ "" || edit.group.getD "" ≠ ""

def updatedTag : String := edit.newTag.getD edit.tag

end TagEdit

def ChannelDb.updateAbilityByTag (db : ChannelDb) (edit : TagEdit) : ChannelDb :=
  let f := fun a : Ability => if a.tag = some edit.tag then
      { a with
        tag := edit.newTag.or a.tag
        priority := edit.priority.or a.priority
        weight := if edit.weight.getD 0 = 0 then a.weight else edit.weight.getD 0 }
    else a
  { db with abilities := db.abilities.modify f (by intro a; simp only [f]; split <;> rfl) }

/-! ## The calls -/

inductive ChannelWork where
  /-- `Channel.Insert`; the channel has the id the database gives it. -/
  | insert (c : Channel)
  /-- The statements of `AddAbilities` that are left. -/
  | addAbilities (statements : List (List Ability))
  /-- `Channel.Update`, with its keys counted. -/
  | update (c : Channel)
  /-- Read the row back into the channel. -/
  | readBack (c : Channel)
  /-- The transactions of `UpdateAbilities` that are left. -/
  | updateAbilities (channels : List Channel)
  /-- `EditChannelByTag`. -/
  | editByTag (edit : TagEdit)
  | readByTag (tag : String)
  | updateAbilityByTag (edit : TagEdit)
  /-- `FixAbility`. -/
  | fixAbility
  | fixRead
  /-- Delete the abilities of the first chunk. -/
  | fixDelete (chunks : List (List Channel))
  /-- Add the abilities of a channel: the statements left, the channels left of the chunk, and the chunks left. -/
  | fixAdd (statements : List (List Ability)) (channels : List Channel) (chunks : List (List Channel))
  /-- `InitChannelCache`. -/
  | refresh
  | refreshAbilities (channels : Table Channel.id)
  | refreshBuild (channels : Table Channel.id) (abilities : List Ability)
  /-- The call has ended. -/
  | done
  /-- The call has ended in a panic. -/
  | panicked

/-- What a query has read: nothing where it fails. -/
def rowsRead {α κ : Type} {key : α → κ} (ok : Bool) (t : Table key) : Table key := if ok then t else Table.empty

namespace ChannelWork

/-- `FixAbility` once a chunk's channel is done: the next one of the chunk, the next chunk, and at last a refresh. -/
def fixNext (channels : List Channel) (chunks : List (List Channel)) : ChannelWork :=
  match channels, chunks with
  | c :: channels, chunks => .fixAdd (chunk50 c.abilities) channels chunks
  | [], [] => .refresh
  | [], chunks => .fixDelete chunks

variable {Config : Type} (env : ChannelEnv Config)

/-- The next statement of a call, and whether it succeeds. -/
def statement (ok : Bool) (s : ChannelSystem Config) : ChannelWork → ChannelSystem Config × ChannelWork
  | .insert c =>
    match (if ok then s.db.channels.insert (ChannelDb.withDefaults c) else none) with
    | some channels => ({ s with db := { s.db with channels := channels } },
        .addAbilities (chunk50 (ChannelDb.withDefaults c).abilities))
    | none => (s, .done)
  | .addAbilities (abilities :: rest) => if ok then ({ s with db := s.db.createAbilities abilities }, .addAbilities rest) else (s, .done)
  | .addAbilities [] => (s, .done)
  | .update c => if ok then ({ s with db := s.db.updateWhere (fun row => decide (row.id = c.id)) c }, .readBack c) else (s, .done)
  -- an error here is not looked at: the channel stays as the caller gave it
  | .readBack c => (s, .updateAbilities [if ok then (s.db.channels.lookup c.id).getD c else c])
  | .updateAbilities (c :: rest) => (if ok then { s with db := s.db.updateAbilities c } else s, .updateAbilities rest)
  | .updateAbilities [] => (s, .done)
  | .editByTag edit =>
    if ok then
      ({ s with db := s.db.updateWhere (fun row => decide (row.tag = some edit.tag)) edit.updateData },
        if edit.shouldReCreateAbilities then .readByTag edit.updatedTag else .updateAbilityByTag edit)
    else (s, .done)
  | .readByTag tag => (s, if ok then .updateAbilities (s.db.channels.rows.filter fun row => row.tag = some tag) else .done)
  | .updateAbilityByTag edit => (if ok then { s with db := s.db.updateAbilityByTag edit } else s, .done)
  | .fixAbility => if ok then ({ s with db := { s.db with abilities := Table.empty } }, .fixRead) else (s, .done)
  | .fixRead => (s, if ok then (if s.db.channels.rows = [] then .done else .fixDelete (chunk50 s.db.channels.rows)) else .done)
  | .fixDelete [] => (s, .refresh)
  | .fixDelete (cs :: chunks) =>
    if ok then ({ s with db := s.db.deleteAbilities (cs.map Channel.id) }, fixNext cs chunks) else (s, fixNext [] chunks)
  | .fixAdd [] cs chunks => (s, fixNext cs chunks)
  | .fixAdd (abilities :: rest) cs chunks =>
    if ok then ({ s with db := s.db.createAbilities abilities }, .fixAdd rest cs chunks) else (s, fixNext cs chunks)
  | .refresh => (s, .refreshAbilities (rowsRead ok s.db.channels))
  | .refreshAbilities channels => (s, .refreshBuild channels (rowsRead ok s.db.abilities).rows)
  -- no statement: the cache is built from what was read, and put in place under its lock
  | .refreshBuild channels abilities =>
    match ChannelCache.initChannelCache env channels abilities s.cache with
    | some cache => ({ s with cache := cache }, .done)
    | none => (s, .panicked)
  | .done => (s, .done)
  | .panicked => (s, .panicked)

variable {ι : Type} [DecidableEq ι]

def step (c : Conf (ChannelSystem Config) ι ChannelWork) (e : ι × Bool) : Conf (ChannelSystem Config) ι ChannelWork :=
  c.act e.1 (statement env e.2)

end ChannelWork

end NewApi
