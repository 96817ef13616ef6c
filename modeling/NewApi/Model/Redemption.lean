import NewApi.Lib.Run
import NewApi.Lib.Tx
import Mathlib.Algebra.BigOperators.Group.Finset.Basic

/-!
# Redeeming a code

`model/redemption.go`. `Redeem` opens a transaction, reads the row of a code by its key, checks that it is enabled and not expired, adds
the quota to the user's balance, saves the whole row as used, and commits. The ORM ignores the `FOR UPDATE` of the read, so it takes no
lock.

Any number of calls with one key run at once, one statement at a time. Transactions are read-committed: a row that was written is locked
until the commit, and another transaction's write of it waits.
-/

namespace NewApi

open Threads

inductive RedemptionCodeStatus where
  | enabled | disabled | used
  deriving DecidableEq, Repr

/-- `Redemption`, as far as `Redeem` reads and writes it. -/
structure Redemption where
  id : Int
  status : RedemptionCodeStatus
  quota : Int
  redeemedTime : Int
  usedUserId : Int
  expiredTime : Int
  deriving DecidableEq, Repr

/-- The database as the transactions of one key see it. -/
structure RedeemDb (ι : Type) where
  code : Option Redemption
  balance : Int → Option Int
  codeLock : Option ι
  userLock : Int → Option ι

/-- Where a call of `Redeem` stands, with the row its read returned. -/
inductive RedeemState where
  | ready
  | selected (r : Redemption)
  | credited (r : Redemption)
  | saved (r : Redemption)
  | done (result : Except String Int)
  deriving DecidableEq

/-- What a call gets back when its transaction fails (`ErrRedeemFailed`). -/
def redeemFailed : RedeemState := .done (.error "redeem.failed")

/-- One statement's turn: the call, the time, and whether the database refuses the statement. -/
structure RedeemEvent (ι : Type) where
  caller : ι
  now : Int
  refused : Bool := false

namespace RedeemDb

variable {ι : Type} [DecidableEq ι]

def release (db : RedeemDb ι) (i : ι) : RedeemDb ι :=
  { db with codeLock := Tx.unlock db.codeLock i, userLock := fun u => Tx.unlock (db.userLock u) i }

/-- The balances with a quota added to a user's, where there is such a user. -/
def credit (balance : Int → Option Int) (userId quota : Int) : Int → Option Int :=
  Function.update balance userId ((balance userId).map (· + quota))

/-- A commit: the saved row and the new balance take effect, and the locks are given back. -/
def commit (db : RedeemDb ι) (i : ι) (userId : Int) (r : Redemption) : RedeemDb ι :=
  { db.release i with code := some r, balance := credit db.balance userId r.quota }

/-- The lock of a user's row, for an update of it; an update of no row takes none. -/
def lockUser (db : RedeemDb ι) (i : ι) (userId : Int) : RedeemDb ι :=
  match db.balance userId with
  | none => db
  | some _ => { db with userLock := Function.update db.userLock userId (some i) }

end RedeemDb

variable {ι : Type} [DecidableEq ι]

open RedeemDb Tx

/-- The next statement of `Redeem(key, userId)` in transaction `i`. -/
def redeemStatement (key : String) (userId : Int) (e : RedeemEvent ι) (db : RedeemDb ι) : RedeemState → RedeemDb ι × RedeemState
  | .ready =>
    if key = "" then (db, .done (.error "未提供兑换码"))
    else if userId = 0 then (db, .done (.error "无效的 user id"))
    else match (if e.refused then none else db.code) with
      | none => (db, redeemFailed)
      | some r =>
        if r.status ≠ .enabled then (db, redeemFailed)
        else if r.expiredTime ≠ 0 ∧ r.expiredTime < e.now then (db, redeemFailed)
        else (db, .selected r)
  | .selected r =>
    if e.refused then (db.release e.caller, redeemFailed)
    else if free (db.userLock userId) e.caller then (db.lockUser e.caller userId, .credited r)
    else (db, .selected r)
  | .credited r =>
    if e.refused then (db.release e.caller, redeemFailed)
    else if free db.codeLock e.caller then
      ({ db with codeLock := some e.caller }, .saved { r with redeemedTime := e.now, status := .used, usedUserId := userId })
    else (db, .credited r)
  | .saved r =>
    if e.refused then (db.release e.caller, redeemFailed)
    else (db.commit e.caller userId r, .done (.ok r.quota))
  | .done result => (db, .done result)

/-- One statement of one of the calls, for one key and the user of each call. -/
def redeemStep (key : String) (user : ι → Int) (c : Conf (RedeemDb ι) ι RedeemState) (e : RedeemEvent ι) :
    Conf (RedeemDb ι) ι RedeemState :=
  c.act e.caller (redeemStatement key (user e.caller) e)

def redeemStart (db : RedeemDb ι) : Conf (RedeemDb ι) ι RedeemState := ⟨db, fun _ => .ready⟩

/-- The code has paid at most once: what all balances together gained since `db` is at most its quota (a negative quota pays
nothing at best), and at most one call returned success. -/
structure PaysOnce (db : RedeemDb ι) (c : Conf (RedeemDb ι) ι RedeemState) : Prop where
  total : ∀ users : Finset Int,
    ∑ u ∈ users, ((c.shared.balance u).getD 0 - (db.balance u).getD 0) ≤ max 0 ((db.code.map Redemption.quota).getD 0)
  success : ∀ i j q q', c.threads i = .done (.ok q) → c.threads j = .done (.ok q') → i = j

def RedeemState.saves : RedeemState → Bool
  | .credited _ => true
  | _ => false

/-- The save of a row goes out while the committed row is still enabled, as the call's own read found it. -/
def SaveFresh (c : Conf (RedeemDb ι) ι RedeemState) (e : RedeemEvent ι) : Prop :=
  (c.threads e.caller).saves = true → e.refused = false → free c.shared.codeLock e.caller →
    c.shared.code.map Redemption.status = some .enabled

instance (c : Conf (RedeemDb ι) ι RedeemState) (e : RedeemEvent ι) : Decidable (SaveFresh c e) :=
  inferInstanceAs (Decidable (_ → _ → _ → _))

end NewApi
