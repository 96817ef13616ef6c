import NewApi.Lib.Run
import NewApi.Lib.Text
import NewApi.Lib.Tx

/-!
# The table of users

`model/user.go` and `common/phone.go`: the columns of `users` that accounts are found and created by, with the unique indexes
the model declares on the username, the affiliate code and the phone. The ORM writes an empty string where a field of an account
is not set; only rows older than the column have no phone at all. A soft-deleted row stays in the table and in its indexes.
-/

namespace NewApi

open Tx

/-- The built-in providers of `oauth/`. -/
inductive BuiltinProvider where
  | github | discord | oidc | linuxDO
  deriving DecidableEq, Repr

/-- `User`, as far as accounts are found and created. -/
structure Account where
  id : Nat := 0
  username : String
  affCode : String
  email : String := ""
  phone : Option String := some ""
  phoneVerified : Bool := false
  enabled : Bool := true
  deleted : Bool := false
  githubId : String := ""
  discordId : String := ""
  oidcId : String := ""
  linuxDOId : String := ""
  deriving DecidableEq, Repr

/-- The column of a built-in provider. -/
def Account.providerId (a : Account) : BuiltinProvider → String
  | .github => a.githubId
  | .discord => a.discordId
  | .oidc => a.oidcId
  | .linuxDO => a.linuxDOId

/-- `SetProviderUserID`. -/
def Account.setProviderId (a : Account) (p : BuiltinProvider) (id : String) : Account :=
  match p with
  | .github => { a with githubId := id }
  | .discord => { a with discordId := id }
  | .oidc => { a with oidcId := id }
  | .linuxDO => { a with linuxDOId := id }

def userNameMaxLength : Nat := 20

/-! ## Phone numbers -/

/-- The pattern of a mobile number of mainland China: a 1, a digit from 3 on, and nine digits. -/
def isMainlandChinaPhone (cs : List Char) : Bool :=
  match cs with
  | '1' :: c :: rest => '3' ≤ c && c ≤ '9' && rest.length == 9 && rest.all (fun d => '0' ≤ d && d ≤ '9')
  | _ => false

def normalizeMainlandChinaPhone (phone : String) : Except String String :=
  if isMainlandChinaPhone (Text.trimSpace phone).toList then .ok (Text.trimSpace phone)
  else .error "invalid mainland China phone number"

def isValidMainlandChinaPhone (phone : String) : Bool := isMainlandChinaPhone (Text.trimSpace phone).toList

/-- The phone number of an account, normalised; an account whose phone is missing, empty or no number has none. -/
def Account.phoneNumber (a : Account) : Option String := a.phone.bind fun p => (normalizeMainlandChinaPhone p).toOption

/-! ## Unique columns -/

/-- The columns with a unique index. -/
inductive UserColumn where
  | username | affCode | phone
  deriving DecidableEq, Repr

def userColumns : List UserColumn := [.username, .affCode, .phone]

/-- What an index compares. -/
def UserColumn.key : UserColumn → Account → Option String
  | .username, a => some a.username
  | .affCode, a => some a.affCode
  | .phone, a => a.phone

/-- The table, and the last id the database gave. -/
structure UserTable (ι : Type) where
  rows : Rows ι Account
  lastId : Nat

/-- What becomes of an insert: it waits for another transaction, an index refuses it, or the row is in. -/
inductive Insertion (ι : Type) where
  | waits
  | duplicate (column : UserColumn)
  | inserted (table : UserTable ι) (account : Account)

namespace UserTable

variable {ι : Type}

variable (t : UserTable ι)

/-- The rows, deleted or not, that a reader outside transactions sees (`Unscoped`). -/
def unscoped : List Account := t.rows.committed

/-- The rows such a reader sees that are not soft-deleted. -/
def live : List Account := t.rows.committed.filter (fun a => !a.deleted)

def getUserByPhoneUnscoped (phone : String) : Option Account :=
  if phone = "" then none else t.unscoped.find? (fun a => decide (a.phone = some phone))

def isPhoneAlreadyTaken (phone : String) : Bool :=
  if phone = "" then false else t.unscoped.any (fun a => decide (a.phone = some phone))

def checkUserExistOrDeleted (username email : String) : Bool :=
  t.unscoped.any fun a => decide (a.username = username) || (decide (email ≠ "") && decide (a.email = email))

/-- `GetMaxUserId`: the last row by its id, deleted or not. -/
def getMaxUserId : Nat := (t.unscoped.map Account.id).foldl max 0

variable [DecidableEq ι] {i : ι}

def insert (i : ι) (a : Account) : Insertion ι :=
  let verdict (col : UserColumn) : Verdict := t.rows.check col.key i (col.key a)
  match userColumns.find? (fun col => verdict col = .taken) with
  | some col => .duplicate col
  | none =>
    if userColumns.any (fun col => verdict col = .waits) then .waits
    else
      let a := { a with id := t.lastId + 1 }
      .inserted ⟨t.rows.insert i a, t.lastId + 1⟩ a

def commit (i : ι) : UserTable ι := { t with rows := t.rows.commit i }

def rollback (i : ι) : UserTable ι := { t with rows := t.rows.rollback i }

/-- A row that an insert let in has a key no other row has, in every indexed column. -/
theorem insert_inserted {t t' : UserTable ι} {a a' : Account} (h : t.insert i a = .inserted t' a') :
    a' = { a with id := t.lastId + 1 } ∧ t' = ⟨t.rows.insert i a', t.lastId + 1⟩ ∧
      ∀ col : UserColumn, ∀ k, col.key a' = some k → k ∉ t.rows.keys col.key := by
  unfold insert at h
  simp only at h
  split at h
  · cases h
  rename_i hnone
  split at h
  · cases h
  rename_i hwaits
  simp only [Insertion.inserted.injEq] at h
  obtain ⟨rfl, rfl⟩ := h
  refine ⟨rfl, rfl, fun col k hk => ?_⟩
  have hkey : col.key a = some k := by
    cases col <;> exact hk
  have hmem : col ∈ userColumns := by cases col <;> decide
  have hfree : t.rows.check col.key i (some k) = .free := by
    have htaken : ¬ t.rows.check col.key i (col.key a) = .taken := by
      simpa using List.find?_eq_none.1 hnone col hmem
    have hwait : ¬ t.rows.check col.key i (col.key a) = .waits := by
      intro hw
      exact hwaits (List.any_eq_true.2 ⟨col, hmem, by simpa using hw⟩)
    rw [hkey] at htaken hwait
    cases hc : t.rows.check col.key i (some k) with
    | free => rfl
    | taken => exact absurd hc htaken
    | waits => exact absurd hc hwait
  exact Rows.not_mem_keys_of_free hfree

theorem insert_duplicate {t : UserTable ι} {a : Account} {col : UserColumn} (h : t.insert i a = .duplicate col) :
    col.key a ∈ (t.rows.visible i).map col.key := by
  unfold insert at h
  simp only at h
  split at h
  · rename_i col' hfind
    cases h
    have htaken : t.rows.check col.key i (col.key a) = .taken := by
      simpa using List.find?_some hfind
    unfold Rows.check at htaken
    split at htaken
    · cases htaken
    rename_i k hk
    split at htaken
    · rename_i hmem
      rw [hk]
      exact hmem
    · split at htaken <;> cases htaken
  · split at h <;> cases h

end UserTable

end NewApi
