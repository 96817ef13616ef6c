import Mathlib
import NewApi.Lib.Run

/-!
# The second factor of a login

`model/twofa.go`, `common/totp.go` and `Verify2FALogin` of `controller/twofa.go`. A user has one row with the number of failed attempts
and the time until which the account is locked, and a few backup codes. An attempt reads the row, compares its code with the one-time
password or with the unused backup codes, changes its copy of the row and saves the whole copy; a backup code that was found is saved as
used.

Any number of attempts of one user run at once, one statement at a time. The clock never runs backwards.
-/

namespace NewApi

open Threads

/-! ## The tables -/

def maxFailAttempts : Int := 5

/-- `common.LockoutDuration`, in seconds. -/
def lockoutDuration : Int := 300

/-- `TwoFA`: the row of one user. -/
structure TwoFA where
  secret : String
  isEnabled : Bool
  failedAttempts : Int
  lockedUntil : Option Int
  lastUsedAt : Option Int
  deriving DecidableEq, Repr

/-- `TwoFABackupCode`: a backup code of the user. -/
structure TwoFABackupCode where
  id : Int
  codeHash : String
  isUsed : Bool
  usedAt : Option Int
  deriving DecidableEq, Repr

/-- The clock, and the user's row and backup codes. -/
structure TwoFADb where
  now : Int
  twoFA : Option TwoFA
  codes : List TwoFABackupCode
  deriving DecidableEq, Repr

/-- What is not in the module: `totp.Validate` at a time, the comparison with a hash, the letters' upper case, and how a time is
written. -/
structure TwoFAEnv where
  totpValidate : (now : Int) → (passcode secret : String) → Bool
  validatePasswordAndHash : (password hash : String) → Bool
  toUpper : Char → Char
  formatTime : Int → String

namespace TwoFA

def isLocked (t : TwoFA) (now : Int) : Bool :=
  match t.lockedUntil with
  | none => false
  | some lockedUntil => decide (now < lockedUntil)

/-- `IncrementFailedAttempts`, up to the save. -/
def incrementFailedAttempts (t : TwoFA) (now : Int) : TwoFA :=
  let t := { t with failedAttempts := t.failedAttempts + 1 }
  if maxFailAttempts ≤ t.failedAttempts then { t with lockedUntil := some (now + lockoutDuration) } else t

/-- What a code that was found right makes of the copy. -/
def updateUsage (t : TwoFA) (now : Int) : TwoFA := { t with failedAttempts := 0, lockedUntil := none, lastUsedAt := some now }

end TwoFA

namespace TwoFADb

/-- `Update`: the whole row is saved. -/
def save (db : TwoFADb) (t : TwoFA) : TwoFADb := { db with twoFA := some t }

def unused (db : TwoFADb) : List TwoFABackupCode := db.codes.filter fun code => !code.isUsed

/-- `DB.Save(&bc)`: the row of the backup code is replaced. -/
def saveCode (db : TwoFADb) (bc : TwoFABackupCode) : TwoFADb :=
  { db with codes := db.codes.map fun code => if code.id = bc.id then bc else code }

end TwoFADb

/-! ## The codes -/

/-- `strconv.Atoi` reads the string: digits, with a sign or not. -/
def isAtoi (s : String) : Bool :=
  let digits := match s.toList with
    | '+' :: rest | '-' :: rest => rest
    | chars => chars
  !digits.isEmpty && digits.all Char.isDigit

def validateNumericCode (code : String) : Option String :=
  let code := String.ofList (code.toList.filter (· ≠ ' '))
  if code.utf8ByteSize ≠ 6 then none
  else if isAtoi code then some code
  else none

variable (env : TwoFAEnv)

/-- A backup code without its separators, in upper case. -/
def cleanBackupCode (code : String) : String :=
  String.ofList ((code.toList.filter (· ≠ '-')).map env.toUpper)

/-- `common.ValidateBackupCode`: the form of a backup code. -/
def validateBackupCode (code : String) : Bool :=
  let code := cleanBackupCode env code
  decide (code.utf8ByteSize = 8) && code.toList.all fun c => ('A' ≤ c && c ≤ 'Z') || ('0' ≤ c && c ≤ '9')

def normalizeBackupCode (code : String) : String :=
  let clean := cleanBackupCode env code
  if clean.utf8ByteSize = 8 then String.ofList (clean.toList.take 4 ++ '-' :: clean.toList.drop 4) else code

def validateTOTPCode (now : Int) (secret code : String) : Bool :=
  let clean := String.ofList (code.toList.filter (· ≠ ' '))
  decide (clean.utf8ByteSize = 6) && env.totpValidate now clean secret

/-- The backup code that matches, among those that were read. -/
def findBackupCode (code : String) (codes : List TwoFABackupCode) : Option TwoFABackupCode :=
  codes.find? fun bc => env.validatePasswordAndHash (normalizeBackupCode env code) bc.codeHash

/-! ## An attempt -/

/-- Where an attempt stands, with its copy of the row. -/
inductive TwoFAAttempt where
  | ready
  /-- The row is read. -/
  | selected (t : TwoFA)
  /-- The one-time password was wrong; the changed copy is not saved yet. -/
  | totpFailed (t : TwoFA)
  /-- The one-time password was right; the changed copy is not saved yet. -/
  | totpPassed (t : TwoFA)
  /-- At the backup codes. -/
  | backup (t : TwoFA)
  /-- The unused backup codes are read. -/
  | listed (t : TwoFA) (codes : List TwoFABackupCode)
  /-- No backup code matched; the changed copy is not saved yet. -/
  | backupFailed (t : TwoFA)
  /-- A backup code matched; it is not saved as used yet. -/
  | redeeming (t : TwoFA) (bc : TwoFABackupCode)
  /-- A backup code is used up; the changed copy is not saved yet. -/
  | backupPassed (t : TwoFA)
  | done (result : Except String Unit)

/-- The attempt has compared a code and has not saved all that came of it. -/
def TwoFAAttempt.unsaved : TwoFAAttempt → Prop
  | .totpFailed _ | .totpPassed _ | .backupFailed _ | .redeeming _ _ | .backupPassed _ => True
  | .ready | .selected _ | .backup _ | .listed _ _ | .done _ => False

def lockedMessage (t : TwoFA) : String :=
  "账户已被锁定，请在" ++ env.formatTime (t.lockedUntil.getD 0) ++ "后重试"

/-- The next step of `Verify2FALogin` with a code. `refused` is the database's error, where it refuses the statement. -/
def twoFAStatement (code : String) (refused : Option String) (db : TwoFADb) : TwoFAAttempt → TwoFADb × TwoFAAttempt
  -- GetTwoFAByUserId
  | .ready =>
    match refused, db.twoFA with
    | some err, _ => (db, .done (.error err))
    | none, none => (db, .done (.error "用户未启用2FA"))
    | none, some t => if t.isEnabled then (db, .selected t) else (db, .done (.error "用户未启用2FA"))
  -- ValidateTOTPAndUpdateUsage
  | .selected t =>
    match validateNumericCode code with
    | none => (db, .backup t)
    | some cleanCode =>
      if t.isLocked db.now then (db, .backup t)
      else if validateTOTPCode env db.now t.secret cleanCode then (db, .totpPassed (t.updateUsage db.now))
      else (db, .totpFailed (t.incrementFailedAttempts db.now))
  | .totpFailed t => (if refused.isSome then db else db.save t, .backup t)
  | .totpPassed t => (if refused.isSome then db else db.save t, .done (.ok ()))
  -- ValidateBackupCodeAndUpdateUsage
  | .backup t =>
    if t.isLocked db.now then (db, .done (.error (lockedMessage env t)))
    else if !validateBackupCode env code then (db, .done (.error "验证码或备用码不正确"))
    else match refused with
      | some err => (db, .done (.error err))
      | none => (db, .listed t db.unused)
  | .listed t codes =>
    match findBackupCode env code codes with
    | none => (db, .backupFailed (t.incrementFailedAttempts db.now))
    | some bc => (db, .redeeming t { bc with isUsed := true, usedAt := some db.now })
  | .backupFailed t => (if refused.isSome then db else db.save t, .done (.error "验证码或备用码错误，请重试"))
  | .redeeming t bc =>
    match refused with
    | some err => (db, .done (.error err))
    | none => (db.saveCode bc, .backupPassed (t.updateUsage db.now))
  | .backupPassed t => (if refused.isSome then db else db.save t, .done (.ok ()))
  | .done result => (db, .done result)

/-- The next step of an attempt, some time later. -/
structure TwoFAEvent (ι : Type) where
  attempt : ι
  elapsed : Nat := 0
  refused : Option String := none

section Runs

variable {ι : Type} [DecidableEq ι] (env : TwoFAEnv) (code : ι → String)

omit [DecidableEq ι] in
def TwoFADb.at (db : TwoFADb) (e : TwoFAEvent ι) : TwoFADb := { db with now := db.now + e.elapsed }

variable (c : Conf TwoFADb ι TwoFAAttempt)

/-- One step of one of the attempts, with the code of each. -/
def twoFAStep (e : TwoFAEvent ι) : Conf TwoFADb ι TwoFAAttempt :=
  Conf.act { c with shared := c.shared.at e } e.attempt (twoFAStatement env (code e.attempt) e.refused)

/-! ## What the limits are about -/

/-- What an attempt is seen to do: it finds its code wrong or right, or uses a backup code up. -/
inductive TwoFAAct (ι : Type) where
  | wrong
  | right (attempt : ι)
  | used (id : Int)
  deriving DecidableEq

omit [DecidableEq ι] in
def attemptActs (i : ι) (code : String) (refused : Option String) (db : TwoFADb) : TwoFAAttempt → List (TwoFAAct ι)
  | .selected t =>
    match validateNumericCode code with
    | none => []
    | some cleanCode =>
      if t.isLocked db.now then []
      else if validateTOTPCode env db.now t.secret cleanCode then [.right i] else [.wrong]
  | .listed _ codes => if (findBackupCode env code codes).isSome then [.right i] else [.wrong]
  | .redeeming _ bc => if refused.isSome then [] else [.used bc.id]
  | .ready | .totpFailed _ | .totpPassed _ | .backup _ | .backupFailed _ | .backupPassed _ | .done _ => []

def twoFAActs (e : TwoFAEvent ι) : List (TwoFAAct ι) :=
  attemptActs env e.attempt (code e.attempt) e.refused (c.shared.at e) (c.threads e.attempt)

/-- The time until which the account is locked, as the table has it. -/
def TwoFADb.lockedUntil (db : TwoFADb) : Option Int := db.twoFA.bind TwoFA.lockedUntil

def BackupCodesOnce (es : List (TwoFAEvent ι)) : Prop :=
  ∀ id, (Run.trace (twoFAStep env code) (twoFAActs env code) c es).count (.used id) ≤ 1

/-- From a state without failed attempts and without a lock on, as long as no code is found right and the account is not locked, at most
`MaxFailAttempts` wrong codes are compared. -/
def WrongCodesBounded (es : List (TwoFAEvent ι)) : Prop :=
  ∀ pre post, es = pre ++ post →
    let start := Run.exec (twoFAStep env code) c pre
    let acts := Run.trace (twoFAStep env code) (twoFAActs env code) start post
    (∃ row, start.shared.twoFA = some row ∧ row.failedAttempts = 0 ∧ row.lockedUntil = none) →
    (∀ mid, mid <+: post → (Run.exec (twoFAStep env code) start mid).shared.lockedUntil = none) →
    (∀ i, .right i ∉ acts) → acts.count .wrong ≤ maxFailAttempts

/-- A lock in the table stays there, or gives way to a later one, until its time has passed or an attempt begun after it finds its code
right. -/
def LockStays (es : List (TwoFAEvent ι)) : Prop :=
  ∀ pre post u, es = pre ++ post →
    let start := Run.exec (twoFAStep env code) c pre
    let finish := Run.exec (twoFAStep env code) start post
    start.shared.lockedUntil = some u →
    u ≤ finish.shared.now ∨ (∃ u', finish.shared.lockedUntil = some u' ∧ u ≤ u') ∨
      ∃ i, start.threads i = .ready ∧ .right i ∈ Run.trace (twoFAStep env code) (twoFAActs env code) start post

/-! ## Comparing with what the tables hold -/

/-- No other attempt has an outcome to save. -/
def OthersSaved (i : ι) : Prop := ∀ j, j ≠ i → ¬ (c.threads j).unsaved

/-- What is asked of a step from a place: a comparison is with a copy that is what the tables hold, while no other attempt has an outcome
to save, and no save of an outcome is refused. -/
def FreshAt (e : TwoFAEvent ι) : TwoFAAttempt → Prop
  | .selected t =>
    (validateNumericCode (code e.attempt)).isSome → t.isLocked (c.shared.at e).now = false →
      c.shared.twoFA = some t ∧ OthersSaved c e.attempt
  | .listed t codes => c.shared.twoFA = some t ∧ codes = c.shared.unused ∧ OthersSaved c e.attempt
  | .totpFailed _ | .totpPassed _ | .backupFailed _ | .redeeming _ _ | .backupPassed _ => e.refused = none
  | .ready | .backup _ | .done _ => True

/-- The step of the acting attempt meets what is asked of it. -/
def ComparesFresh (e : TwoFAEvent ι) : Prop := FreshAt code c e (c.threads e.attempt)

end Runs

section Decidable

variable {ι : Type} [DecidableEq ι] [Fintype ι] (code : ι → String)

instance (s : TwoFAAttempt) : Decidable s.unsaved :=
  match s with
  | .totpFailed _ | .totpPassed _ | .backupFailed _ | .redeeming _ _ | .backupPassed _ => isTrue trivial
  | .ready | .selected _ | .backup _ | .listed _ _ | .done _ => isFalse id

instance (c : Conf TwoFADb ι TwoFAAttempt) (i : ι) : Decidable (OthersSaved c i) :=
  inferInstanceAs (Decidable (∀ j, j ≠ i → ¬ (c.threads j).unsaved))

instance decidableFreshAt (c : Conf TwoFADb ι TwoFAAttempt) (e : TwoFAEvent ι) : ∀ s, Decidable (FreshAt code c e s)
  | .selected t => inferInstanceAs (Decidable ((validateNumericCode (code e.attempt)).isSome →
      t.isLocked (c.shared.at e).now = false → c.shared.twoFA = some t ∧ OthersSaved c e.attempt))
  | .listed t codes => inferInstanceAs (Decidable (c.shared.twoFA = some t ∧ codes = c.shared.unused ∧ OthersSaved c e.attempt))
  | .totpFailed _ | .totpPassed _ | .backupFailed _ | .redeeming _ _ | .backupPassed _ =>
    inferInstanceAs (Decidable (e.refused = none))
  | .ready | .backup _ | .done _ => isTrue trivial

instance (c : Conf TwoFADb ι TwoFAAttempt) (e : TwoFAEvent ι) : Decidable (ComparesFresh code c e) :=
  decidableFreshAt code c e _

end Decidable

end NewApi
