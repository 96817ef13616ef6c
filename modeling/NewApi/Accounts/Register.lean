import NewApi.Accounts.User

/-!
# Registration with a password

`Register` of `controller/user.go` and the account `ProvisionUser` makes of it. One code field of the request serves two checks: where
email verification is on and the request has an email, the code must be the one sent to that email; where the request has a phone, the
code must pass the SMS gateway for that phone.

The code store, the SMS gateway and the answers of the database are inputs. An error is the key of the message sent back.
-/

namespace NewApi

structure RegisterConfig where
  registerEnabled : Bool
  passwordRegisterEnabled : Bool
  emailVerificationEnabled : Bool
  deriving DecidableEq, Repr

/-- The fields of the request body that `Register` reads or validates; a missing field is empty. -/
structure RegisterBody where
  username : String := ""
  password : String := ""
  displayName : String := ""
  email : String := ""
  phone : String := ""
  phoneVerified : Bool := false
  verificationCode : String := ""
  affCode : String := ""
  remark : String := ""
  deriving DecidableEq, Repr

/-- What verifies a code: the store of codes sent to emails (`VerifyCodeWithKey`), and the SMS gateway
(`VerifySMSCodeWithContext`). -/
structure CodeVerifier where
  emailCode : (email code : String) → Bool
  smsCode : (phone code : String) → Except String Bool

/-- `Validate.Struct`, as the tags of `User` have it: lengths in characters. -/
def RegisterBody.validates (b : RegisterBody) : Bool :=
  b.username.toList.length ≤ 20 && 8 ≤ b.password.toList.length && b.password.toList.length ≤ 20 &&
    b.displayName.toList.length ≤ 20 && b.email.toList.length ≤ 50 && b.remark.toList.length ≤ 255

variable (cfg : RegisterConfig)

def verifyEmail (v : CodeVerifier) (b : RegisterBody) : Except String Unit :=
  if cfg.emailVerificationEnabled ∧ b.email ≠ "" then
    if b.verificationCode = "" then .error "user.email_verification_required"
    else if v.emailCode b.email b.verificationCode then .ok ()
    else .error "user.verification_code_error"
  else .ok ()

def verifyPhone (v : CodeVerifier) (b : RegisterBody) : Except String Unit :=
  if b.phone ≠ "" then
    if ¬ isValidMainlandChinaPhone b.phone = true then .error "common.invalid_params"
    else if b.verificationCode = "" then .error "common.invalid_params"
    else match v.smsCode b.phone b.verificationCode with
      | .error e => .error e
      | .ok false => .error "common.invalid_params"
      | .ok true => .ok ()
  else .ok ()

/-- What `Register` checks before it asks the database: nothing of the request has been stored yet. `body` is what decoding the
request gave. -/
def registerChecks (v : CodeVerifier) (body : Option RegisterBody) : Except String RegisterBody :=
  if ¬ cfg.registerEnabled = true then .error "user.register_disabled"
  else if ¬ cfg.passwordRegisterEnabled = true then .error "user.password_register_disabled"
  else match body with
    | none => .error "common.invalid_params"
    | some b =>
      if ¬ b.validates = true then .error "user.input_invalid"
      else match verifyEmail cfg v b with
        | .error e => .error e
        | .ok () =>
          match verifyPhone v b with
          | .error e => .error e
          | .ok () => .ok b

/-- The account `ProvisionUser` inserts for a registration; an empty username is replaced by a generated one. -/
def registeredAccount (b : RegisterBody) (generated affCode : String) : Account where
  username := if b.username = "" then generated else b.username
  affCode := affCode
  email := if cfg.emailVerificationEnabled then b.email else ""
  phone := some b.phone
  phoneVerified := b.phoneVerified || b.phone ≠ ""

/-- The answers of the database to one registration, and the values drawn at random. `provision` is the refusal of the transaction. -/
structure RegisterAnswers where
  phoneTaken : Bool
  userExists : Except String Bool
  provision : Option String
  generated : String
  affCode : String

/-- `Register`: the account that is created, or the error. -/
def register (v : CodeVerifier) (db : RegisterAnswers) (body : Option RegisterBody) : Except String Account :=
  match registerChecks cfg v body with
  | .error e => .error e
  | .ok b =>
    if b.phone ≠ "" ∧ db.phoneTaken = true then .error "user.exists"
    else match db.userExists with
      | .error _ => .error "common.database_error"
      | .ok true => .error "user.exists"
      | .ok false =>
        match db.provision with
        | some e => .error e
        | none => .ok (registeredAccount cfg b db.generated db.affCode)

/-- The account's contacts are proven by the request: there is an email or a phone, and each that is stored is one the code of
the request was verified for. -/
structure ProvenContact (v : CodeVerifier) (b : RegisterBody) (a : Account) : Prop where
  contact : a.email ≠ "" ∨ ∃ p, a.phone = some p ∧ p ≠ ""
  email : a.email ≠ "" → b.verificationCode ≠ "" ∧ v.emailCode a.email b.verificationCode = true
  phone : ∀ p, a.phone = some p → p ≠ "" → b.verificationCode ≠ "" ∧ v.smsCode p b.verificationCode = .ok true

end NewApi
