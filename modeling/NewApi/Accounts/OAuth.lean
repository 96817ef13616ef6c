import NewApi.Accounts.User
import Mathlib.Data.Fintype.Basic

/-!
# Logging in with an identity of another site

`findOrCreateOAuthUser` of `controller/oauth.go`, over the lookups of `oauth/` and `model/`: a callback looks the identity up; a GitHub
identity that nobody has is looked up by its legacy id (the login name), and the account found is migrated; otherwise an account is
created. A built-in provider keeps its id in a column of `users` without a unique index, a custom one in `user_oauth_bindings`, which has
two.

Any number of callbacks for one identity run at once, one statement at a time. What follows a creation (logs, rewards) changes no
identity.
-/

namespace NewApi

open Threads Tx

/-- A provider: built-in, or a `GenericOAuthProvider` with its id and slug. -/
inductive OAuthProvider where
  | builtin (p : BuiltinProvider)
  | custom (id : Nat) (slug : String)
  deriving DecidableEq, Repr

/-- `GetProviderPrefix`. -/
def OAuthProvider.usernamePre : OAuthProvider → String
  | .builtin .github => "github_"
  | .builtin .discord => "discord_"
  | .builtin .oidc => "oidc_"
  | .builtin .linuxDO => "linuxdo_"
  | .custom _ slug => slug ++ "_"

/-- An identity as `GetUserInfo` reports it: no provider reports an empty id, and only GitHub a legacy one. -/
structure OAuthIdentity where
  provider : OAuthProvider
  providerUserId : String
  legacyId : String := ""
  providerUserId_ne : providerUserId ≠ ""
  legacy_github : legacyId ≠ "" → provider = .builtin .github

/-- The rest of `OAuthUser` that a new account takes over. -/
structure OAuthUser where
  username : String := ""
  email : String := ""
  deriving DecidableEq, Repr

/-- `UserOAuthBinding`. -/
structure OAuthBinding where
  userId : Nat
  providerId : Nat
  providerUserId : String
  deriving DecidableEq, Repr

/-- The index `ux_provider_userid`. -/
def OAuthBinding.identityKey (b : OAuthBinding) : Option (Nat × String) := some (b.providerId, b.providerUserId)

/-- The index `ux_user_provider`. -/
def OAuthBinding.userKey (b : OAuthBinding) : Option (Nat × Nat) := some (b.userId, b.providerId)

structure OAuthDb (ι : Type) where
  users : UserTable ι
  bindings : Rows ι OAuthBinding

inductive OAuthError where
  | userDeleted
  | registrationDisabled
  | message (text : String)
  | duplicateUser (column : UserColumn)
  | duplicateBinding
  deriving DecidableEq, Repr

/-- Where a callback stands, named by the statement that comes next. A success says whether this callback created the account. -/
inductive OAuthState where
  | ready
  | filling
  | fillingBound (userId : Nat)
  | legacy
  | fillingLegacy
  | migrating (account : Account)
  | naming (draft : Account)
  | checkingName (draft : Account)
  | inserting (draft : Account)
  | inserted (account : Account)
  | counted (account : Account)
  | bound (account : Account)
  | done (result : Except OAuthError (Account × Bool))
  deriving DecidableEq

/-- One statement's turn: the callback, what the database refuses the statement with, and the code drawn at random. -/
structure OAuthEvent (ι : Type) where
  caller : ι
  fault : Option String := none
  affCode : String := ""

/-! ## Lookups -/

namespace OAuthDb

variable {ι : Type} (db : OAuthDb ι)

/-- The rows among which a built-in provider counts an id: deleted accounts too, but for OIDC. -/
def considered : BuiltinProvider → List Account
  | .oidc => db.users.live
  | _ => db.users.unscoped

/-- How many of them have the id. -/
def holders (p : BuiltinProvider) (id : String) : Nat :=
  (db.considered p).countP fun a => decide (a.providerId p = id)

/-- `First` in `user_oauth_bindings` by an identity. -/
def findBinding (provider : Nat) (id : String) : Option OAuthBinding :=
  db.bindings.committed.find? fun b => decide (b.providerId = provider ∧ b.providerUserId = id)

/-- `First` in `users` by the primary key. -/
def findUser (id : Nat) : Option Account := db.users.live.find? fun a => decide (a.id = id)

/-- `First` in `users` by the column of a built-in provider. -/
def findHolder (p : BuiltinProvider) (id : String) : Option Account :=
  db.users.live.find? fun a => decide (a.providerId p = id)

/-- `IsUserIDTaken`: whether any row has the id (`Find` into a struct affects one row however many there are). A refused query reads as no
row; only LinuxDO takes every error but a missing row for a row. -/
def isUserIDTaken (provider : OAuthProvider) (id : String) (fault : Option String) : Bool :=
  match provider with
  | .builtin .linuxDO => fault.isSome || decide (db.holders .linuxDO id ≠ 0)
  | .builtin p => fault.isNone && decide (db.holders p id ≠ 0)
  | .custom provider _ => fault.isNone && (db.findBinding provider id).isSome

variable [DecidableEq ι]

def commit (db : OAuthDb ι) (i : ι) : OAuthDb ι := ⟨db.users.commit i, db.bindings.commit i⟩

def rollback (db : OAuthDb ι) (i : ι) : OAuthDb ι := ⟨db.users.rollback i, db.bindings.rollback i⟩

omit [DecidableEq ι] in
def updateGitHubId (db : OAuthDb ι) (a : Account) (id : String) : OAuthDb ι :=
  { db with users := { db.users with
      rows := db.users.rows.modifyCommitted fun r => if r.id = a.id ∧ r.deleted = false then r.setProviderId .github id else r } }

end OAuthDb

/-! ## The callback -/

def oauthFails (text : String) : OAuthState := .done (.error (.message text))

/-- The user record before any lookup filled it. -/
def blankUser : Account := { username := "", affCode := "" }

/-- On to the creation, if registration is open. -/
def oauthRegisters (registerEnabled : Bool) (draft : Account) : OAuthState :=
  if registerEnabled then .naming draft else .done (.error .registrationDisabled)

variable {ι : Type} [DecidableEq ι]

variable (identity : OAuthIdentity)

/-- `FillUserByProviderID` after the id was found taken: the built-in providers but LinuxDO do not look at the error. -/
def oauthFills (e : OAuthEvent ι) (db : OAuthDb ι) : OAuthState :=
  match identity.provider with
  | .custom provider _ =>
    match e.fault with
    | some text => oauthFails text
    | none =>
      match db.findBinding provider identity.providerUserId with
      | none => oauthFails "record not found"
      | some b => .fillingBound b.userId
  | .builtin .linuxDO =>
    match e.fault with
    | some text => oauthFails text
    | none =>
      match db.findHolder .linuxDO identity.providerUserId with
      | none => oauthFails "record not found"
      | some a => .done (.ok (a, false))
  | .builtin p =>
    match e.fault, db.findHolder p identity.providerUserId with
    | none, some a => .done (.ok (a, false))
    | _, _ => .done (.error .userDeleted)

/-- `FillUserByProviderID` by the legacy id. Where no account is found, the id stays on the record the creation goes on with. -/
def oauthFillsLegacy (registerEnabled : Bool) (identity : OAuthIdentity) (e : OAuthEvent ι) (db : OAuthDb ι) : OAuthState :=
  match e.fault, db.findHolder .github identity.legacyId with
  | none, some a => .migrating a
  | _, _ => oauthRegisters registerEnabled { blankUser with githubId := identity.legacyId }

/-- `InsertWithTx`. -/
def oauthInserts (e : OAuthEvent ι) (db : OAuthDb ι) (draft : Account) : OAuthDb ι × OAuthState :=
  match db.users.insert e.caller { draft with affCode := e.affCode } with
  | .waits => (db, .inserting draft)
  | .duplicate col => (db.rollback e.caller, .done (.error (.duplicateUser col)))
  | .inserted users a => ({ db with users := users }, .inserted a)

/-- The statement after the insert: a built-in provider's id is written to the new row; for a custom provider the bindings of the
identity are counted, and a refused count reads as zero. -/
def oauthBinds (e : OAuthEvent ι) (db : OAuthDb ι) (a : Account) : OAuthDb ι × OAuthState :=
  match identity.provider with
  | .builtin p =>
    match e.fault with
    | some text => (db.rollback e.caller, oauthFails text)
    | none =>
      ({ db with users := { db.users with
          rows := db.users.rows.modifyPending e.caller fun r => r.setProviderId p identity.providerUserId } },
        .bound (a.setProviderId p identity.providerUserId))
  | .custom provider _ =>
    if a.id = 0 then (db.rollback e.caller, oauthFails "user ID is required")
    else if provider = 0 then (db.rollback e.caller, oauthFails "provider ID is required")
    else if e.fault = none ∧ (db.bindings.visible e.caller).any
        (fun b => decide (b.providerId = provider ∧ b.providerUserId = identity.providerUserId)) = true then
      (db.rollback e.caller, oauthFails "this OAuth account is already bound to another user")
    else (db, .counted a)

def oauthInsertsBinding (e : OAuthEvent ι) (db : OAuthDb ι) (a : Account) : OAuthDb ι × OAuthState :=
  match identity.provider with
  | .builtin _ => (db, .counted a)
  | .custom provider _ =>
    let b : OAuthBinding := ⟨a.id, provider, identity.providerUserId⟩
    match e.fault with
    | some text => (db.rollback e.caller, oauthFails text)
    | none =>
      match db.bindings.check OAuthBinding.identityKey e.caller b.identityKey,
        db.bindings.check OAuthBinding.userKey e.caller b.userKey with
      | .free, .free => ({ db with bindings := db.bindings.insert e.caller b }, .bound a)
      | .taken, _ => (db.rollback e.caller, .done (.error .duplicateBinding))
      | _, .taken => (db.rollback e.caller, .done (.error .duplicateBinding))
      | _, _ => (db, .counted a)

def oauthStatement (registerEnabled : Bool) (identity : OAuthIdentity) (user : OAuthUser) (e : OAuthEvent ι) (db : OAuthDb ι)
    (s : OAuthState) : OAuthDb ι × OAuthState :=
  match s with
  | .done result => (db, .done result)
  | .ready =>
    if db.isUserIDTaken identity.provider identity.providerUserId e.fault then (db, .filling)
    else if identity.legacyId ≠ "" then (db, .legacy)
    else (db, oauthRegisters registerEnabled blankUser)
  | .filling => (db, oauthFills identity e db)
  | .fillingBound id =>
    match e.fault with
    | some text => (db, oauthFails text)
    | none =>
      match db.findUser id with
      | none => (db, oauthFails "record not found")
      | some a => (db, .done (.ok (a, false)))
  | .legacy =>
    if db.isUserIDTaken identity.provider identity.legacyId e.fault then (db, .fillingLegacy)
    else (db, oauthRegisters registerEnabled blankUser)
  | .fillingLegacy => (db, oauthFillsLegacy registerEnabled identity e db)
  | .migrating a =>
    -- a refused migration is logged, and the account returned all the same
    match e.fault with
    | some _ => (db, .done (.ok (a, false)))
    | none => (db.updateGitHubId a identity.providerUserId,
        .done (.ok (a.setProviderId .github identity.providerUserId, false)))
  | .naming draft =>
    let last := if e.fault = none then db.users.getMaxUserId else 0
    let draft := { draft with username := identity.provider.usernamePre ++ toString (last + 1), email := user.email }
    if user.username ≠ "" then (db, .checkingName draft) else (db, .inserting draft)
  | .checkingName draft =>
    if e.fault = none ∧ db.users.checkUserExistOrDeleted user.username "" = false ∧
        user.username.utf8ByteSize ≤ userNameMaxLength then
      (db, .inserting { draft with username := user.username })
    else (db, .inserting draft)
  | .inserting draft =>
    match e.fault with
    | some text => (db.rollback e.caller, oauthFails text)
    | none => oauthInserts e db draft
  | .inserted a => oauthBinds identity e db a
  | .counted a => oauthInsertsBinding identity e db a
  | .bound a =>
    match e.fault with
    | some text => (db.rollback e.caller, oauthFails text)
    | none => (db.commit e.caller, .done (.ok (a, true)))

def oauthStep (registerEnabled : Bool) (identity : OAuthIdentity) (users : ι → OAuthUser) (c : Conf (OAuthDb ι) ι OAuthState)
    (e : OAuthEvent ι) : Conf (OAuthDb ι) ι OAuthState :=
  c.act e.caller (oauthStatement registerEnabled identity (users e.caller) e)

/-- All callbacks before their first statement, on tables without open transactions. -/
def oauthStart (accounts : List Account) (bindings : List OAuthBinding) : Conf (OAuthDb ι) ι OAuthState :=
  ⟨⟨⟨Rows.ofList accounts, (accounts.map Account.id).foldl max 0⟩, Rows.ofList bindings⟩, fun _ => .ready⟩

/-! ## One account per identity -/

omit [DecidableEq ι] in
/-- One account for the identity: the callbacks that returned an account returned the same one, and at most one callback created
one, and so granted its rewards. -/
structure OneAccountPerIdentity (c : Conf (OAuthDb ι) ι OAuthState) : Prop where
  same : ∀ i j a b m n, c.threads i = .done (.ok (a, m)) → c.threads j = .done (.ok (b, n)) → a.id = b.id
  once : ∀ i j a b, c.threads i = .done (.ok (a, true)) → c.threads j = .done (.ok (b, true)) → i = j

/-- The callback has not found the identity and has not ended: it is on its way to the legacy id, or to a new account. -/
def OAuthState.searching : OAuthState → Bool
  | .legacy | .fillingLegacy | .naming _ | .checkingName _ | .inserting _ | .inserted _ | .counted _ | .bound _ => true
  | _ => false

/-- The next statement decides whether an account has the identity, or its legacy id. -/
def OAuthState.looksUp : OAuthState → Bool
  | .ready | .legacy | .fillingLegacy => true
  | _ => false

/-- The next statement moves an account from its legacy id. -/
def OAuthState.migrates : OAuthState → Bool
  | .migrating _ => true
  | _ => false

/-- A built-in provider's lookup is answered, and an account is migrated only while no other callback is searching. -/
def SearchesAlone (c : Conf (OAuthDb ι) ι OAuthState) (e : OAuthEvent ι) : Prop :=
  (identity.provider matches .builtin _ → (c.threads e.caller).looksUp = true → e.fault = none) ∧
    ((c.threads e.caller).migrates = true → e.fault = none → ∀ j, j ≠ e.caller → (c.threads j).searching = false)

instance [Fintype ι] (identity : OAuthIdentity) (c : Conf (OAuthDb ι) ι OAuthState) (e : OAuthEvent ι) :
    Decidable (SearchesAlone identity c e) :=
  inferInstanceAs (Decidable (_ ∧ _))

end NewApi
