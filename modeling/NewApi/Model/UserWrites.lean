import Mathlib
import NewApi.Accounts.User

/-!
# Writes of a user's row

`model/user.go`, one statement at a time: the calls that move a user's quota by a relative update (`IncreaseUserQuota`,
`DecreaseUserQuota`) beside those that read the row, change their copy and write columns of it back (`inviteUser`,
`TransferAffQuotaToQuota`, and `Update`). A transaction locks the row from its first write to its commit; a read takes no lock. Columns
that no modelled call touches by name are left out, the account's apart. Every statement asks for a row that is not deleted, and no call
deletes one.
-/

namespace NewApi

open Run Threads

/-- `User`: an account that is not deleted, and the columns its quota is moved by. -/
structure User extends Account where
  quota : Int
  usedQuota : Int
  requestCount : Int
  affCount : Int
  affQuota : Int
  affHistoryQuota : Int
  live : deleted = false
  deriving DecidableEq, Repr

/-- A text column after the update by a struct: an empty field is not written. -/
def writeText (new old : String) : String := if new = "" then old else new

/-- An integer column after the update by a struct: a zero field is not written. -/
def writeInt (new old : Int) : Int := if new = 0 then old else new

/-- `Updates` with a struct: every field of the copy that is not the zero value of its type is written. The status of an account
is 1 or 2 and always written; the id is the key of the statement. -/
def User.updates (row new : User) : User where
  id := row.id
  username := writeText new.username row.username
  affCode := writeText new.affCode row.affCode
  email := writeText new.email row.email
  phone := if new.phone = none ∨ new.phone = some "" then row.phone else new.phone
  phoneVerified := new.phoneVerified || row.phoneVerified
  enabled := new.enabled
  deleted := new.deleted || row.deleted
  githubId := writeText new.githubId row.githubId
  discordId := writeText new.discordId row.discordId
  oidcId := writeText new.oidcId row.oidcId
  linuxDOId := writeText new.linuxDOId row.linuxDOId
  quota := writeInt new.quota row.quota
  usedQuota := writeInt new.usedQuota row.usedQuota
  requestCount := writeInt new.requestCount row.requestCount
  affCount := writeInt new.affCount row.affCount
  affQuota := writeInt new.affQuota row.affQuota
  affHistoryQuota := writeInt new.affHistoryQuota row.affHistoryQuota
  live := by rw [new.live, row.live]; rfl

structure AffSetting where
  quotaForInviter : Int
  quotaPerUnit : ℚ

/-- What `inviteUser` changes in its copy. -/
def User.invited (set : AffSetting) (u : User) : User :=
  { u with
    affCount := u.affCount + 1
    affQuota := u.affQuota + set.quotaForInviter
    affHistoryQuota := u.affHistoryQuota + set.quotaForInviter }

/-- What `TransferAffQuotaToQuota` changes in its copy. -/
def User.transferred (quota : Int) (u : User) : User := { u with affQuota := u.affQuota - quota, quota := u.quota + quota }

/-- What the caller of `Update` changes in its copy: the binding of an account, for one. -/
def User.edited (edit : Account → Account) (keeps : ∀ a, (edit a).deleted = a.deleted) (u : User) : User :=
  { u with toAccount := edit u.toAccount, live := (keeps _).trans u.live }

/-! ## Calls -/

inductive UserCall where
  | inviteUser
  | transferAffQuotaToQuota (quota : Int)
  | update (edit : Account → Account) (keeps : ∀ a, (edit a).deleted = a.deleted)
  | increaseUserQuota (quota : Int)
  | decreaseUserQuota (quota : Int)

/-- Where a call stands between its statements, with the copy it holds. -/
inductive UserCallState where
  | ready
  | inviting (copy : User)
  | transferring (copy : User)
  | committing (copy : User)
  | editing (copy : User)
  | updating (copy : User)
  | done (ok : Bool)
  deriving DecidableEq, Repr

/-- The row, and the transaction that has written it and has yet to commit. -/
structure UserDb (ι : Type) where
  row : User
  lock : Option ι

/-- A turn of a call, and whether the database refuses its statement. -/
structure UserEvent (ι : Type) where
  caller : ι
  fault : Bool

variable {ι : Type} [DecidableEq ι]

/-- The row is locked by a transaction of another call. -/
def UserDb.heldFrom (db : UserDb ι) (i : ι) : Bool := decide (db.lock ≠ none ∧ db.lock ≠ some i)

/-- A write of the row: it waits for the lock of another transaction, fails, or goes through. -/
def writeRow (e : UserEvent ι) (db : UserDb ι) (waiting : UserCallState) (row : User) : UserDb ι × UserCallState :=
  if db.heldFrom e.caller then (db, waiting)
  else if e.fault then (db, .done false)
  else ({ db with row := row }, .done true)

/-- A relative update of the quota; a negative amount is refused before any statement. -/
def moveUserQuota (e : UserEvent ι) (db : UserDb ι) (quota delta : Int) : UserDb ι × UserCallState :=
  if quota < 0 then (db, .done false)
  else writeRow e db .ready { db.row with quota := db.row.quota + delta }

def readRow (e : UserEvent ι) (db : UserDb ι) (next : User → UserCallState) : UserDb ι × UserCallState :=
  if e.fault then (db, .done false) else (db, next db.row)

def userStatement (set : AffSetting) (call : UserCall) (e : UserEvent ι) (db : UserDb ι) : UserCallState → UserDb ι × UserCallState
  | .ready =>
    match call with
    | .inviteUser => readRow e db fun row => .inviting (row.invited set)
    | .transferAffQuotaToQuota quota =>
      if (quota : ℚ) < set.quotaPerUnit then (db, .done false) else readRow e db .transferring
    | .update edit keeps => readRow e db fun row => .editing (row.edited edit keeps)
    | .increaseUserQuota quota => moveUserQuota e db quota quota
    | .decreaseUserQuota quota => moveUserQuota e db quota (-quota)
  | .inviting copy => writeRow e db (.inviting copy) copy
  | .transferring copy =>
    match call with
    | .transferAffQuotaToQuota quota =>
      if copy.affQuota < quota then (db, .done false)
      else if db.heldFrom e.caller then (db, .transferring copy)
      else if e.fault then (db, .done false)
      else ({ db with lock := some e.caller }, .committing (copy.transferred quota))
    | _ => (db, .done false)
  | .committing copy =>
    -- a commit that fails rolls the transaction back
    if e.fault then ({ db with lock := none }, .done false) else (⟨copy, none⟩, .done true)
  -- `Update` reads the row again for the cache; the error of that read is dropped
  | .editing copy => (db, .updating copy)
  | .updating copy => writeRow e db (.updating copy) (db.row.updates copy)
  | .done ok => (db, .done ok)

def userStep (set : AffSetting) (calls : ι → UserCall) (c : Conf (UserDb ι) ι UserCallState) (e : UserEvent ι) :
    Conf (UserDb ι) ι UserCallState :=
  c.act e.caller (userStatement set (calls e.caller) e)

/-- No call has begun, and no transaction is open. -/
def userStart (row : User) : Conf (UserDb ι) ι UserCallState := ⟨⟨row, none⟩, fun _ => .ready⟩

/-! ## What the calls are to move, and when a copy is current -/

/-- What a call's next statement is to add to the quota: an update that goes through moves it by its amount, and a transfer by its
own when it commits. -/
def quotaMoved (call : UserCall) (e : UserEvent ι) (db : UserDb ι) : UserCallState → List Int
  | .ready =>
    match call with
    | .increaseUserQuota quota => if quota < 0 ∨ db.heldFrom e.caller ∨ e.fault then [] else [quota]
    | .decreaseUserQuota quota => if quota < 0 ∨ db.heldFrom e.caller ∨ e.fault then [] else [-quota]
    | _ => []
  | .committing _ =>
    match call with
    | .transferAffQuotaToQuota quota => if e.fault then [] else [quota]
    | _ => []
  | _ => []

def quotaMoves (calls : ι → UserCall) (c : Conf (UserDb ι) ι UserCallState) (e : UserEvent ι) : List Int :=
  quotaMoved (calls e.caller) e c.shared (c.threads e.caller)

/-- The copy that a call's next statement writes back still has the quota of the row: nothing has moved it since the call read it.
A copy with a zero quota does not write the column in an `Update`. -/
def CopyCurrent (call : UserCall) (e : UserEvent ι) (db : UserDb ι) : UserCallState → Prop
  | .inviting copy => db.heldFrom e.caller = true ∨ e.fault = true ∨ copy.quota = db.row.quota
  | .committing copy =>
    match call with
    | .transferAffQuotaToQuota quota => e.fault = true ∨ copy.quota - quota = db.row.quota
    | _ => e.fault = true ∨ copy.quota = db.row.quota
  | .updating copy => db.heldFrom e.caller = true ∨ e.fault = true ∨ copy.quota = 0 ∨ copy.quota = db.row.quota
  | _ => True

def CopyCurrentStep (calls : ι → UserCall) (c : Conf (UserDb ι) ι UserCallState) (e : UserEvent ι) : Prop :=
  CopyCurrent (calls e.caller) e c.shared (c.threads e.caller)

end NewApi
