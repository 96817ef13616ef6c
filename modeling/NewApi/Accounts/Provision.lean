import NewApi.Accounts.Register

/-!
# Creating accounts

`Register` and `PhoneAuthService.Authenticate` go through `ProvisionUser`, which inserts an account in a transaction; `User.Insert`
inserts it by a statement of its own; the OAuth callbacks insert it by `InsertWithTx` in theirs. Only the first two may give a phone.
`Authenticate` looks the number up before and, where the creation failed, once more after.

Any number of creations run at once, one statement at a time. What else a creation's transaction writes counts as one with its commit.
-/

namespace NewApi

open Threads Tx

/-- What creations read and do not change. -/
structure ProvisionEnv where
  registration : RegisterConfig
  verifier : CodeVerifier
  smsLoginEnabled : Bool
  smsAutoRegisterEnabled : Bool

inductive CreationCall where
  | register (body : Option RegisterBody)
  | authenticate (phone verificationCode : String)
  | insert (username : String)
  | oauth (username : String)
  deriving DecidableEq, Repr

/-- Why a creation failed: a refusal with its message, or an index that already has the key. -/
inductive CreationError where
  | message (text : String)
  | duplicate (column : UserColumn)
  deriving DecidableEq, Repr

/-- Where a creation stands. A success says whether the account was created by this call. -/
inductive CreationState where
  | ready
  | checking (body : RegisterBody)
  | provisioning (account : Account)
  | inserted (account : Account)
  | recovering (phone : String) (failure : CreationError)
  | done (result : Except CreationError (Account × Bool))
  deriving DecidableEq

/-- One statement's turn: the creation, what the database refuses the statement with, and the values drawn at random. -/
structure CreationEvent (ι : Type) where
  caller : ι
  fault : Option String := none
  generated : String := ""
  affCode : String := ""

def creationFails (text : String) : CreationState := .done (.error (.message text))

variable {ι : Type} [DecidableEq ι]

/-- A failed `ProvisionUser`: `Authenticate` looks the number up again, the others report. -/
def provisionFails (call : CreationCall) (a : Account) (failure : CreationError) : CreationState :=
  match call with
  | .authenticate _ _ => .recovering (a.phone.getD "") failure
  | _ => .done (.error failure)

variable (env : ProvisionEnv)

/-- The beginning of `Register`. The count behind `IsPhoneAlreadyTaken` reads as zero where its query fails. -/
def registerBegins (body : Option RegisterBody) (e : CreationEvent ι) (t : UserTable ι) : CreationState :=
  match registerChecks env.registration env.verifier body with
  | .error text => creationFails text
  | .ok b => if e.fault = none ∧ t.isPhoneAlreadyTaken b.phone = true then creationFails "user.exists" else .checking b

/-- An account found by its number, as `Authenticate` takes it. -/
def phoneAccount (a : Account) (failure : CreationError) : CreationState :=
  if a.deleted = true ∨ ¬ a.enabled = true then .done (.error failure) else .done (.ok (a, false))

/-- The beginning of `Authenticate`: the code is verified for the normalised number, which is then looked up. -/
def authenticateBegins (phone code : String) (e : CreationEvent ι) (t : UserTable ι) : CreationState :=
  if ¬ env.smsLoginEnabled = true then creationFails "SMS login is disabled"
  else match normalizeMainlandChinaPhone phone with
    | .error _ => creationFails "SMS verification failed"
    | .ok number =>
      if code = "" then creationFails "SMS verification failed"
      else match env.verifier.smsCode number code with
        | .error text => creationFails ("SMS service is unavailable: " ++ text)
        | .ok false => creationFails "SMS verification failed"
        | .ok true =>
          match e.fault with
          | some text => creationFails text
          | none =>
            match t.getUserByPhoneUnscoped number with
            | some a => phoneAccount a (.message "phone account is unavailable")
            | none =>
              if env.registration.registerEnabled ∧ env.smsAutoRegisterEnabled then
                .provisioning { username := e.generated, affCode := "", phone := some number, phoneVerified := true }
              else creationFails "SMS registration is disabled"

/-- The insert of an account, with an affiliate code of its own. -/
def provisionInsert (call : CreationCall) (e : CreationEvent ι) (t : UserTable ι) (a : Account) : UserTable ι × CreationState :=
  match t.insert e.caller { a with affCode := e.affCode } with
  | .waits => (t, .provisioning a)
  | .duplicate col => (t, provisionFails call a (.duplicate col))
  | .inserted t' a' => (t', .inserted a')

/-- `User.Insert`: the statement is a transaction of its own. -/
def userInsert (username : String) (e : CreationEvent ι) (t : UserTable ι) : UserTable ι × CreationState :=
  match t.insert e.caller { username := username, affCode := e.affCode } with
  | .waits => (t, .ready)
  | .duplicate col => (t, .done (.error (.duplicate col)))
  | .inserted t' a' => (t'.commit e.caller, .done (.ok (a', true)))

def creationStatement (call : CreationCall) (e : CreationEvent ι) (t : UserTable ι) (s : CreationState) : UserTable ι × CreationState :=
  match s with
  | .done result => (t, .done result)
  | .ready =>
    match call with
    | .register body => (t, registerBegins env body e t)
    | .authenticate phone code => (t, authenticateBegins env phone code e t)
    | .insert username =>
      match e.fault with
      | some text => (t, creationFails text)
      | none => userInsert username e t
    | .oauth username => (t, .provisioning { username := username, affCode := "" })
  | .checking b =>
    match e.fault with
    | some _ => (t, creationFails "common.database_error")
    | none =>
      if t.checkUserExistOrDeleted b.username b.email then (t, creationFails "user.exists")
      else (t, .provisioning (registeredAccount env.registration b e.generated ""))
  | .provisioning a =>
    match e.fault with
    | some text => (t, provisionFails call a (.message text))
    | none => provisionInsert call e t a
  | .inserted a =>
    match e.fault with
    | some text => (t.rollback e.caller, provisionFails call a (.message text))
    | none => (t.commit e.caller, .done (.ok (a, true)))
  | .recovering phone failure =>
    match e.fault, t.getUserByPhoneUnscoped phone with
    | none, some a => (t, phoneAccount a failure)
    | _, _ => (t, .done (.error failure))

def creationStep (calls : ι → CreationCall) (c : Conf (UserTable ι) ι CreationState)
    (e : CreationEvent ι) : Conf (UserTable ι) ι CreationState :=
  c.act e.caller (creationStatement env (calls e.caller) e)

/-- All creations before their first statement, on a table without open transactions. -/
def creationStart (rows : List Account) : Conf (UserTable ι) ι CreationState :=
  ⟨⟨Rows.ofList rows, (rows.map Account.id).foldl max 0⟩, fun _ => .ready⟩

/-! ## One account per phone -/

def CreationCall.phoneless : CreationCall → Bool
  | .register (some b) => b.phone = ""
  | .register none => true
  | .authenticate _ _ => false
  | .insert _ => true
  | .oauth _ => true

def CreationCall.number : CreationCall → Option String
  | .authenticate phone _ => (normalizeMainlandChinaPhone phone).toOption
  | _ => none

/-- One account per phone, any number without: no creation without a phone has failed on the phone's index; no number belongs to
two accounts, deleted ones included; and the successful `Authenticate` calls for one number returned one account, which at most one
of them created. -/
structure OneAccountPerPhone (calls : ι → CreationCall) (c : Conf (UserTable ι) ι CreationState) : Prop where
  phoneless : ∀ i, (calls i).phoneless = true → c.threads i ≠ .done (.error (.duplicate .phone))
  unique : (c.shared.unscoped.filterMap Account.phoneNumber).Nodup
  same : ∀ i j number a b m n, (calls i).number = some number → (calls j).number = some number →
    c.threads i = .done (.ok (a, m)) → c.threads j = .done (.ok (b, n)) → a = b
  once : ∀ i j number a b, (calls i).number = some number → (calls j).number = some number →
    c.threads i = .done (.ok (a, true)) → c.threads j = .done (.ok (b, true)) → i = j

def CreationState.insertsPhone (call : CreationCall) : CreationState → Option String
  | .provisioning a => a.phone
  | .ready => if call matches .insert _ then some "" else none
  | _ => none

/-- An account without a phone is inserted only while no account, committed or not, has an empty phone. -/
def PhonelessAlone (calls : ι → CreationCall) (c : Conf (UserTable ι) ι CreationState) (e : CreationEvent ι) : Prop :=
  (c.threads e.caller).insertsPhone (calls e.caller) = some "" → e.fault = none → "" ∉ c.shared.rows.keys UserColumn.phone.key

instance (calls : ι → CreationCall) (c : Conf (UserTable ι) ι CreationState) (e : CreationEvent ι) : Decidable (PhonelessAlone calls c e) :=
  inferInstanceAs (Decidable (_ → _ → _))

/-- The phone a registration gives is written as the number itself, without blanks around it. -/
def CreationCall.Unpadded : CreationCall → Prop
  | .register (some b) => Text.trimSpace b.phone = b.phone
  | _ => True

/-- The phone of an account is written as its number. -/
def Account.Unpadded (a : Account) : Prop := ∀ number, a.phoneNumber = some number → a.phone = some number

end NewApi
