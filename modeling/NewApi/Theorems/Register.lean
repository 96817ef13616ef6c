import NewApi.Accounts.Register

/-!
# Registration needs a contact, where the request names one

With email verification on, every contact `Register` stores is one the code of the request was verified for: what is verified and what is
stored are the same string. Nothing asks that there be a contact at all, so a request with neither an email nor a phone creates an account
without one (`register_without_contact`). There is no other way (`register_proven_iff`).
-/

namespace NewApi

namespace RegisterAux

variable {cfg : RegisterConfig} {v : CodeVerifier} {body : Option RegisterBody} {b : RegisterBody}

/-- An e-mail that passes was proven. -/
theorem verifyEmail_ok (h : verifyEmail cfg v b = .ok ()) (hcfg : cfg.emailVerificationEnabled = true) (he : b.email ≠ "") :
    b.verificationCode ≠ "" ∧ v.emailCode b.email b.verificationCode = true := by
  unfold verifyEmail at h
  rw [if_pos ⟨hcfg, he⟩] at h
  split at h
  · cases h
  rename_i hcode
  split at h
  · rename_i hvalid
    exact ⟨hcode, hvalid⟩
  · cases h

/-- So was a phone. -/
theorem verifyPhone_ok (h : verifyPhone v b = .ok ()) (hp : b.phone ≠ "") :
    b.verificationCode ≠ "" ∧ v.smsCode b.phone b.verificationCode = .ok true := by
  unfold verifyPhone at h
  rw [if_pos hp] at h
  split at h
  · cases h
  split at h
  · cases h
  rename_i hcode
  split at h
  · cases h
  · cases h
  · rename_i hvalid
    exact ⟨hcode, hvalid⟩

/-- A request that passes found registration open, was well formed, and passed the checks of its contacts. -/
theorem registerChecks_ok (h : registerChecks cfg v body = .ok b) :
    cfg.registerEnabled = true ∧ cfg.passwordRegisterEnabled = true ∧ body = some b ∧ b.validates = true ∧
      verifyEmail cfg v b = .ok () ∧ verifyPhone v b = .ok () := by
  unfold registerChecks at h
  split at h
  · cases h
  rename_i hopen
  split at h
  · cases h
  rename_i hpassword
  split at h
  · cases h
  split at h
  · cases h
  rename_i hvalid
  split at h
  · cases h
  rename_i hemail
  split at h
  · cases h
  rename_i hphone
  cases h
  exact ⟨not_not.1 hopen, not_not.1 hpassword, rfl, not_not.1 hvalid, hemail, hphone⟩

/-- An account that is created is the one of a request that passed the checks. -/
theorem register_ok {db : RegisterAnswers} {a : Account} (h : register cfg v db body = .ok a) :
    ∃ b, registerChecks cfg v body = .ok b ∧ a = registeredAccount cfg b db.generated db.affCode := by
  unfold register at h
  split at h
  · cases h
  rename_i b hchecks
  split at h
  · cases h
  split at h
  · cases h
  · cases h
  · split at h
    · cases h
    · cases h
      exact ⟨b, hchecks, rfl⟩

/-- A request with a contact that passes the checks has a proven contact. -/
theorem proven_of_checks (hcfg : cfg.emailVerificationEnabled = true) (h : registerChecks cfg v body = .ok b)
    (hcontact : b.email ≠ "" ∨ b.phone ≠ "") (generated affCode : String) :
    ProvenContact v b (registeredAccount cfg b generated affCode) := by
  obtain ⟨-, -, -, -, hemail, hphone⟩ := registerChecks_ok h
  have hstored : (registeredAccount cfg b generated affCode).email = b.email := by
    simp only [registeredAccount, hcfg, if_true]
  refine ⟨?_, ?_, ?_⟩
  · rw [hstored]
    exact hcontact.imp id fun hp => ⟨b.phone, rfl, hp⟩
  · rw [hstored]
    exact verifyEmail_ok hemail hcfg
  · intro p hp hne
    cases hp
    exact verifyPhone_ok hphone hne

end RegisterAux

open RegisterAux

/-- The request names a contact, or cannot register at all: registration is closed, or the body is not a valid one. -/
def NamesContact (cfg : RegisterConfig) (body : Option RegisterBody) : Prop :=
  cfg.registerEnabled = true → cfg.passwordRegisterEnabled = true → ∀ b, body = some b → b.validates = true →
    b.email ≠ "" ∨ b.phone ≠ ""

/-- With email verification on, a request has a proven contact whenever it creates an account, whatever the codes in use and the
state of the database, exactly when it names a contact or cannot register at all. -/
theorem register_proven_iff (cfg : RegisterConfig) (hcfg : cfg.emailVerificationEnabled = true) (body : Option RegisterBody) :
    (∀ (v : CodeVerifier) (db : RegisterAnswers) (a : Account), register cfg v db body = .ok a →
      ∃ b, body = some b ∧ ProvenContact v b a) ↔ NamesContact cfg body := by
  constructor
  · intro hproven hopen hpassword b hbody hvalid
    by_contra hnone
    rw [not_or, not_not, not_not] at hnone
    obtain ⟨hemail, hphone⟩ := hnone
    -- no check is due on a body without contacts, so it registers, and what is stored has no contact
    let v : CodeVerifier := ⟨fun _ _ => false, fun _ _ => .ok false⟩
    have hchecks : registerChecks cfg v body = .ok b := by
      simp [registerChecks, verifyEmail, verifyPhone, hopen, hpassword, hbody, hvalid, hemail, hphone]
    have hregistered : register cfg v ⟨false, .ok false, none, "", ""⟩ body = .ok (registeredAccount cfg b "" "") := by
      simp [register, hchecks]
    obtain ⟨b', hb', hcontact⟩ := hproven v _ _ hregistered
    rcases hcontact.contact with hc | ⟨p, hp, hne⟩
    · simp [registeredAccount, hemail] at hc
    · simp only [registeredAccount, hphone, Option.some.injEq] at hp
      exact hne hp.symm
  · intro hnames v db a hreg
    obtain ⟨b, hchecks, rfl⟩ := register_ok hreg
    obtain ⟨hopen, hpassword, hbody, hvalid, -, -⟩ := registerChecks_ok hchecks
    exact ⟨b, hbody, proven_of_checks hcfg hchecks (hnames hopen hpassword b hbody hvalid) _ _⟩

/-! ## A request without a contact -/

/-- Registration open, with email verification on. -/
def openRegistration : RegisterConfig := ⟨true, true, true⟩

def bareRequest : RegisterBody := { username := "alice", password := "password1" }

/-- No code is valid, and the account is created all the same, without any contact. -/
theorem register_without_contact :
    ∃ a, register openRegistration ⟨fun _ _ => false, fun _ _ => .ok false⟩ ⟨false, .ok false, none, "", "aff1"⟩ (some bareRequest) =
      .ok a ∧ a.email = "" ∧ a.phone = some "" :=
  ⟨registeredAccount openRegistration bareRequest "" "aff1", by decide, by decide, by decide⟩

/-- The same request with an email and the code that was sent to it. -/
def emailRequest : RegisterBody := { bareRequest with email := "a@example.com", verificationCode := "1234" }

/-- Only the code 1234 is valid, and only for that email. -/
def emailVerifier : CodeVerifier := ⟨fun email code => email = "a@example.com" && code = "1234", fun _ _ => .ok false⟩

theorem register_proven_iff_sample :
    register openRegistration emailVerifier ⟨false, .ok false, none, "", "aff1"⟩ (some emailRequest) =
        .ok (registeredAccount openRegistration emailRequest "" "aff1") ∧
      ProvenContact emailVerifier emailRequest (registeredAccount openRegistration emailRequest "" "aff1") := by
  have hcreated : register openRegistration emailVerifier ⟨false, .ok false, none, "", "aff1"⟩ (some emailRequest) =
      .ok (registeredAccount openRegistration emailRequest "" "aff1") := by
    decide
  have hnames : NamesContact openRegistration (some emailRequest) := by
    intro _ _ b hb _
    cases hb
    exact .inl (by decide)
  obtain ⟨b, hb, hproven⟩ := (register_proven_iff openRegistration rfl (some emailRequest)).2 hnames _ _ _ hcreated
  cases hb
  exact ⟨hcreated, hproven⟩

end NewApi
