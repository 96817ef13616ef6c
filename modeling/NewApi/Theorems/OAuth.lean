import Mathlib
import NewApi.Accounts.OAuth

/-!
# One account per identity

No index keeps two accounts from having one id of a built-in provider. Two overlapping callbacks do not create one each because of the
unique index on the phone, which is empty for both. It does not help where an account is migrated from its legacy id: a callback that
looked for the new id before the migration and for the legacy id after it creates a second account (`migration_splits_identity`). This, and
a refused query, are the only exceptions (`one_account_per_identity`).
-/

namespace NewApi

open Threads Run Tx UserTable

namespace OAuthAux

variable {ι : Type} {identity : OAuthIdentity} {db db' : OAuthDb ι} {a : Account} {p : BuiltinProvider} {id : String} {s' : OAuthState}
  {provider : Nat}

/-! ## Lists -/

/-- Of what is counted once there is one. -/
theorem eq_of_countP_le_one {α : Type} {p : α → Bool} {l : List α} (h : l.countP p ≤ 1) {x y : α} (hx : x ∈ l) (hy : y ∈ l)
    (hpx : p x = true) (hpy : p y = true) : x = y := by
  rw [List.countP_eq_length_filter] at h
  have hx' : x ∈ l.filter p := List.mem_filter.2 ⟨hx, hpx⟩
  have hy' : y ∈ l.filter p := List.mem_filter.2 ⟨hy, hpy⟩
  obtain ⟨z, hz⟩ := List.length_eq_one_iff.1 (h.antisymm (List.length_pos_of_mem hx'))
  rw [hz, List.mem_singleton] at hx' hy'
  exact hx'.trans hy'.symm

theorem exists_find {α : Type} {p : α → Bool} {l : List α} {x : α} (hx : x ∈ l) (hp : p x = true) :
    ∃ y, l.find? p = some y ∧ y ∈ l ∧ p y = true := by
  cases hf : l.find? p with
  | none => exact absurd hp (by simpa using List.find?_eq_none.1 hf x hx)
  | some y => exact ⟨y, rfl, List.mem_of_find?_eq_some hf, List.find?_some hf⟩

/-! ## Who has the identity -/

@[simp] theorem providerId_setProviderId : (a.setProviderId p id).providerId p = id := by
  cases p <;> rfl

/-- An identity changes neither id nor phone nor deletion. -/
theorem setProviderId_keeps (a : Account) (p : BuiltinProvider) (id : String) :
    (a.setProviderId p id).id = a.id ∧ (a.setProviderId p id).phone = a.phone ∧ (a.setProviderId p id).deleted = a.deleted := by
  cases p <;> exact ⟨rfl, rfl, rfl⟩

theorem mem_live {t : UserTable ι} : a ∈ t.live ↔ a ∈ t.rows.committed ∧ a.deleted = false := by
  simp [live]

theorem live_considered (h : a ∈ db.users.live) : a ∈ db.considered p := by
  have hc : a ∈ db.users.unscoped := (mem_live.1 h).1
  cases p <;> first | exact hc | exact h

theorem findHolder_some (h : db.findHolder p id = some a) : a ∈ db.users.live ∧ a.providerId p = id :=
  ⟨List.mem_of_find?_eq_some h, by simpa using List.find?_some h⟩

/-- Nobody is found exactly where nobody has the id. -/
theorem findHolder_none : db.findHolder p id = none ↔ ∀ a ∈ db.users.live, a.providerId p ≠ id := by
  simp [OAuthDb.findHolder, List.find?_eq_none]

/-- Nobody is counted exactly where nobody considered has the id. -/
theorem holders_zero : db.holders p id = 0 ↔ ∀ a ∈ db.considered p, a.providerId p ≠ id := by
  simp [OAuthDb.holders, List.countP_eq_zero]

theorem findHolder_of_holders (h : db.holders p id = 0) : db.findHolder p id = none :=
  findHolder_none.2 fun a ha => holders_zero.1 h a (live_considered ha)

theorem eq_github (hp : identity.provider = .builtin p) (hl : identity.legacyId ≠ "") : p = .github :=
  OAuthProvider.builtin.inj (hp.symm.trans (identity.legacy_github hl))

theorem custom_ne_builtin {slug : String} (hp : identity.provider = .custom provider slug) : identity.provider ≠ .builtin p := by
  rw [hp]
  nofun

/-- The account that stands for the identity: the one that has it or, where none has, the one found by the legacy id. -/
def claimant (identity : OAuthIdentity) (db : OAuthDb ι) : Option Nat :=
  match identity.provider with
  | .custom provider _ => (db.findBinding provider identity.providerUserId).bind fun b => (db.findUser b.userId).map Account.id
  | .builtin p =>
    match db.findHolder p identity.providerUserId with
    | some a => some a.id
    | none =>
      if identity.legacyId ≠ "" ∧ db.isUserIDTaken identity.provider identity.legacyId none = true then
        (db.findHolder p identity.legacyId).map Account.id
      else none

/-- No account is found by the legacy id. -/
def LegacyNone (identity : OAuthIdentity) (db : OAuthDb ι) : Prop :=
  db.isUserIDTaken identity.provider identity.legacyId none = true → db.findHolder .github identity.legacyId = none

section

variable (hp : identity.provider = .builtin p)

include hp

/-- Who has the id stands for the identity. -/
theorem claimant_holder (h : db.findHolder p identity.providerUserId = some a) : claimant identity db = some a.id := by
  simp only [claimant, hp, h]

/-- Else who has the legacy id. -/
theorem claimant_legacy (hnone : db.findHolder p identity.providerUserId = none)
    (hl : identity.legacyId ≠ "") (htaken : db.isUserIDTaken identity.provider identity.legacyId none = true) :
    claimant identity db = (db.findHolder p identity.legacyId).map Account.id := by
  rw [hp] at htaken
  simp only [claimant, hp, hnone, hl, htaken, ne_eq, not_false_eq_true, and_self, if_true]

/-- Nobody stands for an identity that nobody is counted for and that is not found by its legacy id. -/
theorem claimant_none (h : db.holders p identity.providerUserId = 0)
    (hl : identity.legacyId ≠ "" → LegacyNone identity db) : claimant identity db = none := by
  have hnone := findHolder_of_holders h
  by_cases hlegacy : identity.legacyId ≠ "" ∧ db.isUserIDTaken identity.provider identity.legacyId none = true
  · obtain ⟨hne, htaken⟩ := hlegacy
    obtain rfl := eq_github hp hne
    rw [claimant_legacy hp hnone hne htaken, hl hne htaken]
    rfl
  · rw [hp] at hlegacy
    simp only [claimant, hp, hnone, if_neg hlegacy]

/-- Where nobody stands for the identity, nobody has it and nobody is found by the legacy id. -/
theorem claimant_eq_none (h : claimant identity db = none) :
    db.findHolder p identity.providerUserId = none ∧ (identity.legacyId ≠ "" → LegacyNone identity db) := by
  have hnone : db.findHolder p identity.providerUserId = none := by
    cases hf : db.findHolder p identity.providerUserId with
    | none => rfl
    | some a =>
      rw [claimant_holder hp hf] at h
      cases h
  refine ⟨hnone, fun hl htaken => ?_⟩
  obtain rfl := eq_github hp hl
  rw [claimant_legacy hp hnone hl htaken] at h
  exact Option.map_eq_none_iff.1 h

end

/-! ## What a callback knows where it stands -/

/-- A committed account has an empty phone, so that the index lets no other in. -/
def Blocked (db : OAuthDb ι) : Prop := ∃ r ∈ db.users.rows.committed, r.phone = some ""

/-- The record of a new account. -/
def Drafted (a : Account) : Prop := a.deleted = false ∧ a.phone = some ""

/-- An id of a built-in provider is nobody's, unless the index stands in the way of a new account. -/
def Unclaimed (identity : OAuthIdentity) (db : OAuthDb ι) : Prop :=
  ∀ p, identity.provider = .builtin p →
    Blocked db ∨ (db.holders p identity.providerUserId = 0 ∧ claimant identity db = none)

/-- The first lookup found nobody; if another callback has created an account since, the legacy id leads to none. -/
def Missing (identity : OAuthIdentity) (db : OAuthDb ι) : Prop :=
  db.holders .github identity.providerUserId = 0 ∨
    (Blocked db ∧ (identity.legacyId ≠ identity.providerUserId → LegacyNone identity db))

/-- What holds of a callback where it stands. -/
def Knows (identity : OAuthIdentity) (db : OAuthDb ι) : OAuthState → Prop
  | .ready | .filling => True
  | .fillingBound id => ∃ provider slug b, identity.provider = .custom provider slug ∧
      db.findBinding provider identity.providerUserId = some b ∧ b.userId = id
  | .legacy => identity.legacyId ≠ "" ∧ Missing identity db
  | .fillingLegacy => identity.legacyId ≠ "" ∧ Missing identity db ∧
      db.isUserIDTaken identity.provider identity.legacyId none = true
  | .migrating a => identity.provider = .builtin .github ∧ claimant identity db = some a.id ∧
      (db.holders .github identity.providerUserId = 0 ∨
        ∃ r ∈ db.users.live, r.id = a.id ∧ r.githubId = identity.providerUserId)
  | .naming a | .checkingName a | .inserting a | .inserted a => Drafted a ∧ Unclaimed identity db
  | .counted a => Drafted a ∧ ∃ provider slug, identity.provider = .custom provider slug
  | .bound a => Drafted a ∧ Unclaimed identity db ∧
      ∀ p, identity.provider = .builtin p → a.providerId p = identity.providerUserId
  | .done (.ok (a, _)) => claimant identity db = some a.id
  | .done (.error _) => True

/-- The account a callback has inserted and not committed. -/
def ownRows : OAuthState → List Account
  | .inserted a | .counted a | .bound a => [a]
  | _ => []

def created : OAuthState → Bool
  | .done (.ok (_, m)) => m
  | _ => false

/-- The binding a callback has inserted and not committed. -/
def ownBindings (identity : OAuthIdentity) : OAuthState → List OAuthBinding
  | .bound a =>
    match identity.provider with
    | .custom provider _ => [⟨a.id, provider, identity.providerUserId⟩]
    | .builtin _ => []
  | _ => []

theorem holders_congr (h : db'.users.rows.committed = db.users.rows.committed) : db'.holders = db.holders := by
  funext p id
  cases p <;> simp only [OAuthDb.holders, OAuthDb.considered, unscoped, live, h]

/-- The lookups see the committed rows only, and so does what a callback knows. -/
theorem Knows.congr {s : OAuthState} (h : Knows identity db s)
    (husers : db'.users.rows.committed = db.users.rows.committed) (hbindings : db'.bindings.committed = db.bindings.committed) :
    Knows identity db' s := by
  have hlive : db'.users.live = db.users.live := by simp only [live, husers]
  have hholders : db'.holders = db.holders := holders_congr husers
  have hholder : db'.findHolder = db.findHolder := by
    funext p id
    simp only [OAuthDb.findHolder, hlive]
  have huser : db'.findUser = db.findUser := by
    funext id
    simp only [OAuthDb.findUser, hlive]
  have hbinding : db'.findBinding = db.findBinding := by
    funext provider id
    simp only [OAuthDb.findBinding, hbindings]
  have htaken : db'.isUserIDTaken = db.isUserIDTaken := by
    funext provider id fault
    simp only [OAuthDb.isUserIDTaken, hholders, hbinding]
  have hclaimant : claimant identity db' = claimant identity db := by
    simp only [claimant, hholder, huser, hbinding, htaken]
  have hblocked : Blocked db' = Blocked db := by simp only [Blocked, husers]
  have hunclaimed : Unclaimed identity db' = Unclaimed identity db := by
    simp only [Unclaimed, hblocked, hholders, hclaimant]
  have hmissing : Missing identity db' = Missing identity db := by
    simp only [Missing, LegacyNone, hblocked, hholders, hholder, htaken]
  cases s with
  | ready | filling => trivial
  | done result =>
    rcases result with failure | ⟨a, m⟩
    · trivial
    · exact hclaimant.trans h
  | _ => simpa only [Knows, hlive, hholders, hbinding, htaken, hclaimant, hunclaimed, hmissing] using h

/-! ## A creation is committed -/

section Commit

variable [DecidableEq ι] {i : ι}

/-- The accounts after a commit. -/
theorem mem_live_commit (hrows : db.users.rows.pending i = [a]) {r : Account} :
    r ∈ (db.commit i).users.live ↔ r ∈ db.users.live ∨ (r = a ∧ a.deleted = false) := by
  have hc : r ∈ (db.commit i).users.rows.committed ↔ r ∈ db.users.rows.committed ∨ r = a := by
    refine Rows.mem_committed_commit.trans ?_
    rw [hrows, List.mem_singleton]
  rw [mem_live, mem_live, hc, or_and_right]
  exact or_congr_right (and_congr_right fun hr => by rw [hr])

/-- The new account is counted for the ids it has, and for no other. -/
theorem holders_commit (hrows : db.users.rows.pending i = [a]) (hd : a.deleted = false) :
    (db.commit i).holders p id = db.holders p id + if a.providerId p = id then 1 else 0 := by
  have hcount (q : Account → Bool) : (db.commit i).users.rows.committed.countP q = db.users.rows.committed.countP q + [a].countP q := by
    rw [← hrows]
    exact Rows.countP_committed_commit db.users.rows q i
  cases p <;>
    simp [OAuthDb.holders, OAuthDb.considered, unscoped, live, List.countP_filter, hcount, List.countP_cons, hd]

/-- The account that is committed stands for the identity. -/
theorem claimant_commit_builtin (hp : identity.provider = .builtin p)
    (hrows : db.users.rows.pending i = [a]) (hd : a.deleted = false) (ha : a.providerId p = identity.providerUserId)
    (hnone : db.findHolder p identity.providerUserId = none) : claimant identity (db.commit i) = some a.id := by
  have hlive : a ∈ (db.commit i).users.live := (mem_live_commit hrows).2 (.inr ⟨rfl, hd⟩)
  obtain ⟨r, hfind, hr, hrid⟩ := exists_find (p := fun r => decide (r.providerId p = identity.providerUserId)) hlive (by simpa using ha)
  rw [claimant_holder hp hfind]
  rcases (mem_live_commit hrows).1 hr with hr | ⟨rfl, -⟩
  · exact absurd (by simpa using hrid) (findHolder_none.1 hnone r hr)
  · rfl

/-- While a callback has an uncommitted binding of the identity, no committed one is found. -/
theorem findBinding_none (hindex : (db.bindings.keys OAuthBinding.identityKey).Nodup) {userId : Nat}
    (hbound : db.bindings.pending i = [⟨userId, provider, id⟩]) : db.findBinding provider id = none := by
  refine List.find?_eq_none.2 fun b hb => ?_
  intro hkey
  obtain ⟨hprovider, hid⟩ : b.providerId = provider ∧ b.providerUserId = id := by simpa using hkey
  have hbkey : b.identityKey = some (provider, id) := by rw [OAuthBinding.identityKey, hprovider, hid]
  have hmem : (⟨userId, provider, id⟩ : OAuthBinding) ∈ db.bindings.pending i := by rw [hbound]; exact List.mem_singleton_self _
  exact Rows.key_ne_of_pending hindex hb hmem hbkey rfl

/-- So does one that is committed with its binding. -/
theorem claimant_commit_custom {slug : String} (hp : identity.provider = .custom provider slug)
    (hindex : (db.bindings.keys OAuthBinding.identityKey).Nodup) (hrows : db.users.rows.pending i = [a]) (hd : a.deleted = false)
    (hbound : db.bindings.pending i = [⟨a.id, provider, identity.providerUserId⟩]) : claimant identity (db.commit i) = some a.id := by
  have hmem : ∀ b, b ∈ (db.commit i).bindings.committed ↔
      b ∈ db.bindings.committed ∨ b = ⟨a.id, provider, identity.providerUserId⟩ := by
    intro b
    refine Rows.mem_committed_commit.trans ?_
    rw [hbound, List.mem_singleton]
  obtain ⟨b, hfind, hb, hkey⟩ := exists_find
    (p := fun b : OAuthBinding => decide (b.providerId = provider ∧ b.providerUserId = identity.providerUserId))
    ((hmem _).2 (.inr rfl)) (by simp)
  -- the binding found is the new one: no committed binding had the key before
  have hbid : b.userId = a.id := by
    rcases (hmem b).1 hb with hold | rfl
    · exact absurd hkey (List.find?_eq_none.1 (findBinding_none hindex hbound) b hold)
    · rfl
  have hlive : a ∈ (db.commit i).users.live := (mem_live_commit hrows).2 (.inr ⟨rfl, hd⟩)
  obtain ⟨r, huser, -, hrid⟩ := exists_find (p := fun r => decide (r.id = a.id)) hlive (by simp)
  have hfind' : (db.commit i).findBinding provider identity.providerUserId = some b := hfind
  have huser' : (db.commit i).findUser a.id = some r := huser
  simp only [claimant, hp, hfind', Option.bind_some, hbid, huser', Option.map_some, of_decide_eq_true hrid]

/-- An account of another id changes nothing about the legacy id. -/
theorem legacyNone_commit (hl : identity.legacyId ≠ "") (hrows : db.users.rows.pending i = [a]) (hd : a.deleted = false)
    (ha : a.githubId ≠ identity.legacyId) (h : LegacyNone identity db) : LegacyNone identity (db.commit i) := by
  have hgithub := identity.legacy_github hl
  have hcount : (db.commit i).holders .github identity.legacyId = db.holders .github identity.legacyId := by
    rw [holders_commit hrows hd]
    exact if_neg ha ▸ rfl
  intro htaken
  have hbefore : db.isUserIDTaken identity.provider identity.legacyId none = true := by
    rw [hgithub] at htaken ⊢
    simpa only [OAuthDb.isUserIDTaken, hcount] using htaken
  refine findHolder_none.2 fun r hr => ?_
  rcases (mem_live_commit hrows).1 hr with hr | ⟨rfl, -⟩
  · exact findHolder_none.1 (h hbefore) r hr
  · exact ha

/-- A creation that may be committed: nobody stands for the identity, and the new account has it. -/
structure Commits (identity : OAuthIdentity) (db : OAuthDb ι) (i : ι) (a : Account) : Prop where
  rows : db.users.rows.pending i = [a]
  drafted : Drafted a
  builtin : ∀ p, identity.provider = .builtin p → db.holders p identity.providerUserId = 0 ∧ claimant identity db = none ∧
    a.providerId p = identity.providerUserId
  custom : ∀ provider slug, identity.provider = .custom provider slug → db.findBinding provider identity.providerUserId = none

variable (h : Commits identity db i a)

include h

/-- Before such a commit nobody stands for it. -/
theorem Commits.claimant_none : claimant identity db = none := by
  cases hp : identity.provider with
  | builtin p => exact (h.builtin p hp).2.1
  | custom provider slug => simp only [claimant, hp, h.custom provider slug hp, Option.bind_none]

theorem Commits.blocked : Blocked (db.commit i) := by
  refine ⟨a, Rows.mem_committed_commit.2 (.inr ?_), h.drafted.2⟩
  rw [h.rows]
  exact List.mem_singleton_self a

/-- After a creation the legacy id, where it is another, leads to nobody. -/
theorem Commits.missing (hl : identity.legacyId ≠ "") : Missing identity (db.commit i) := by
  have hgithub := identity.legacy_github hl
  obtain ⟨-, hclaimant, ha⟩ := h.builtin .github hgithub
  refine .inr ⟨h.blocked, fun hne => ?_⟩
  have ha' : a.githubId ≠ identity.legacyId := fun heq => hne (heq.symm.trans ha)
  exact legacyNone_commit hl h.rows h.drafted.1 ha' ((claimant_eq_none hgithub hclaimant).2 hl)

/-- What the other callbacks know survives a creation. -/
theorem Commits.knows {s : OAuthState} (hs : Knows identity db s) : Knows identity (db.commit i) s := by
  have hunclaimed : Unclaimed identity (db.commit i) := fun p _ => .inl h.blocked
  cases s with
  | ready | filling => trivial
  | fillingBound id =>
    obtain ⟨provider, slug, b, hp, hfind, -⟩ := hs
    rw [h.custom provider slug hp] at hfind
    cases hfind
  | legacy => exact ⟨hs.1, h.missing hs.1⟩
  | fillingLegacy =>
    obtain ⟨hl, -, htaken⟩ := hs
    refine ⟨hl, h.missing hl, ?_⟩
    have hgithub := identity.legacy_github hl
    obtain ⟨hzero, -, ha⟩ := h.builtin .github hgithub
    rw [hgithub] at htaken ⊢
    have hheld : db.holders .github identity.legacyId ≠ 0 := by simpa [OAuthDb.isUserIDTaken] using htaken
    -- an account has the legacy id, so it is not the id that nobody has
    have hne : ¬ a.providerId .github = identity.legacyId := by
      intro heq
      rw [← heq, ha, hzero] at hheld
      exact hheld rfl
    simp only [OAuthDb.isUserIDTaken, holders_commit h.rows h.drafted.1, if_neg hne, Nat.add_zero, ne_eq, hheld, not_false_eq_true,
      decide_true, Option.isNone_none, Bool.and_self]
  | migrating r =>
    have hclaimant := hs.2.1
    rw [h.claimant_none] at hclaimant
    cases hclaimant
  | naming r | checkingName r | inserting r | inserted r => exact ⟨hs.1, hunclaimed⟩
  | counted r => exact hs
  | bound r => exact ⟨hs.1, hunclaimed, hs.2.2⟩
  | done result =>
    rcases result with failure | ⟨r, m⟩
    · trivial
    have hclaimant : claimant identity db = some r.id := hs
    rw [h.claimant_none] at hclaimant
    cases hclaimant

end Commit

/-! ## An account is migrated -/

def migrated (a : Account) (id : String) (r : Account) : Account :=
  if r.id = a.id ∧ r.deleted = false then r.setProviderId .github id else r

/-- A migration changes neither id nor phone nor deletion. -/
theorem migrated_keeps (r : Account) :
    (migrated a id r).id = r.id ∧ (migrated a id r).phone = r.phone ∧ (migrated a id r).deleted = r.deleted := by
  unfold migrated
  split
  · exact setProviderId_keeps r .github id
  · exact ⟨rfl, rfl, rfl⟩

theorem committed_updateGitHubId : (db.updateGitHubId a id).users.rows.committed = db.users.rows.committed.map (migrated a id) :=
  Rows.committed_modifyCommitted _ _

/-- The accounts after a migration. -/
theorem mem_live_updateGitHubId {x : Account} : x ∈ (db.updateGitHubId a id).users.live ↔ ∃ r ∈ db.users.live, migrated a id r = x := by
  simp only [mem_live, committed_updateGitHubId, List.mem_map]
  constructor
  · rintro ⟨⟨r, hr, rfl⟩, hd⟩
    exact ⟨r, ⟨hr, (migrated_keeps r).2.2 ▸ hd⟩, rfl⟩
  · rintro ⟨r, ⟨hr, hd⟩, rfl⟩
    exact ⟨⟨r, hr, rfl⟩, (migrated_keeps r).2.2.trans hd⟩

theorem claimant_live (hp : identity.provider = .builtin p) {id : Nat}
    (h : claimant identity db = some id) : ∃ r ∈ db.users.live, r.id = id := by
  simp only [claimant, hp] at h
  split at h
  · rename_i r hr
    exact ⟨r, (findHolder_some hr).1, Option.some.inj h⟩
  split at h
  · obtain ⟨r, hr, rfl⟩ := Option.map_eq_some_iff.1 h
    exact ⟨r, (findHolder_some hr).1, rfl⟩
  · cases h

section

variable (hm : Knows identity db (.migrating a)) (hle : db.holders .github identity.providerUserId ≤ 1)

include hm hle

/-- A row that has the id after the migration is the migrated one. -/
theorem migrated_holder {r : Account} (hr : r ∈ db.users.rows.committed)
    (hid : (migrated a identity.providerUserId r).githubId = identity.providerUserId) : r.id = a.id := by
  obtain ⟨-, -, hknown⟩ := hm
  by_cases hra : r.id = a.id
  · exact hra
  have hgithub : r.githubId = identity.providerUserId := by
    have heq : migrated a identity.providerUserId r = r := if_neg fun hc => hra hc.1
    rwa [heq] at hid
  rcases hknown with hzero | ⟨x, hx, hxid, hxgithub⟩
  · exact absurd hgithub (holders_zero.1 hzero r hr)
  · have hxr : r = x := eq_of_countP_le_one hle hr (mem_live.1 hx).1 (decide_eq_true hgithub) (decide_eq_true hxgithub)
    exact hxr ▸ hxid

/-- After a migration at most one account is counted. -/
theorem holders_updateGitHubId (hids : (db.users.rows.committed.map Account.id).Nodup) :
    (db.updateGitHubId a identity.providerUserId).holders .github identity.providerUserId ≤ 1 := by
  have hcount : (db.updateGitHubId a identity.providerUserId).holders .github identity.providerUserId = db.users.rows.committed.countP
        fun r => decide ((migrated a identity.providerUserId r).githubId = identity.providerUserId) := by
    show List.countP _ (db.updateGitHubId a identity.providerUserId).users.rows.committed = _
    rw [committed_updateGitHubId, List.countP_map]
    rfl
  have hmono : db.users.rows.committed.countP
      (fun r => decide ((migrated a identity.providerUserId r).githubId = identity.providerUserId)) ≤
      db.users.rows.committed.countP (fun r => r.id == a.id) := by
    refine List.countP_mono_left fun r hr hid => ?_
    exact beq_iff_eq.2 (migrated_holder hm hle hr (of_decide_eq_true hid))
  have hone : db.users.rows.committed.countP (fun r => r.id == a.id) ≤ 1 := by
    have h := List.nodup_iff_count_le_one.1 hids a.id
    rwa [List.count, List.countP_map] at h
  exact hcount.trans_le (hmono.trans hone)

/-- After the migration the account has the id itself. -/
theorem claimant_updateGitHubId :
    (∃ r ∈ (db.updateGitHubId a identity.providerUserId).users.live, r.id = a.id ∧ r.githubId = identity.providerUserId) ∧
      claimant identity (db.updateGitHubId a identity.providerUserId) = some a.id := by
  obtain ⟨r, hr, hrid⟩ := claimant_live hm.1 hm.2.1
  have hr' : migrated a identity.providerUserId r ∈ (db.updateGitHubId a identity.providerUserId).users.live :=
    mem_live_updateGitHubId.2 ⟨r, hr, rfl⟩
  have hgithub : (migrated a identity.providerUserId r).githubId = identity.providerUserId := by
    rw [migrated, if_pos ⟨hrid, (mem_live.1 hr).2⟩]
    rfl
  refine ⟨⟨_, hr', (migrated_keeps r).1.trans hrid, hgithub⟩, ?_⟩
  obtain ⟨x, hfind, hx, hxid⟩ := exists_find
    (p := fun r => decide (r.providerId .github = identity.providerUserId)) hr' (decide_eq_true hgithub)
  rw [claimant_holder hm.1 hfind]
  obtain ⟨y, hy, rfl⟩ := mem_live_updateGitHubId.1 hx
  rw [(migrated_keeps y).1, migrated_holder hm hle (mem_live.1 hy).1 (of_decide_eq_true hxid)]

/-- What the callbacks that are not searching know survives a migration. -/
theorem knows_updateGitHubId {s : OAuthState} (hsearching : s.searching = false) (hs : Knows identity db s) :
    Knows identity (db.updateGitHubId a identity.providerUserId) s := by
  obtain ⟨hholder, hclaimant⟩ := claimant_updateGitHubId hm hle
  cases s with
  | ready | filling => trivial
  | fillingBound id =>
    obtain ⟨provider, slug, b, hp, -⟩ := hs
    exact absurd hm.1 (custom_ne_builtin hp)
  | migrating r =>
    have hra : a.id = r.id := Option.some.inj (hm.2.1.symm.trans hs.2.1)
    exact ⟨hm.1, hra ▸ hclaimant, .inr (hra ▸ hholder)⟩
  | done result =>
    rcases result with failure | ⟨r, m⟩
    · trivial
    · have hra : a.id = r.id := Option.some.inj (hm.2.1.symm.trans hs)
      exact hclaimant.trans (congrArg some hra)
  | _ => cases hsearching

end

/-! ## What two lookups say -/

/-- Two lookups without an account: the identity is nobody's. -/
theorem Missing.unclaimed (h : Missing identity db) (hl : identity.legacyId ≠ "") (hnone : LegacyNone identity db) :
    Unclaimed identity db := by
  intro p hp
  obtain rfl := eq_github hp hl
  rcases h with hzero | ⟨hblocked, -⟩
  · exact .inr ⟨hzero, claimant_none hp hzero fun _ => hnone⟩
  · exact .inl hblocked

/-- The account found by the legacy id stands for the identity. -/
theorem Missing.migrating (h : Missing identity db) (hl : identity.legacyId ≠ "")
    (htaken : db.isUserIDTaken identity.provider identity.legacyId none = true)
    (ha : db.findHolder .github identity.legacyId = some a) : Knows identity db (.migrating a) := by
  have hgithub := identity.legacy_github hl
  rcases h with hzero | ⟨-, hlegacy⟩
  · refine ⟨hgithub, ?_, .inl hzero⟩
    rw [claimant_legacy hgithub (findHolder_of_holders hzero) hl htaken, ha]
    rfl
  · by_cases heq : identity.legacyId = identity.providerUserId
    · rw [heq] at ha
      obtain ⟨hlive, hid⟩ := findHolder_some ha
      exact ⟨hgithub, claimant_holder hgithub ha, .inr ⟨a, hlive, rfl, hid⟩⟩
    · rw [hlegacy heq htaken] at ha
      cases ha

/-! ## How a statement can go -/

variable [DecidableEq ι]

/-- The ways a statement can go, with what it makes of the tables. -/
inductive Goes (identity : OAuthIdentity) (e : OAuthEvent ι) (db : OAuthDb ι) : OAuthState → OAuthDb ι → OAuthState → Prop
  | turns (s s' : OAuthState) (hknows : Knows identity db s') (hrows : ownRows s' = ownRows s)
      (hbindings : ownBindings identity s' = ownBindings identity s) (hold : created s' = true → s = s') :
      Goes identity e db s db s'
  | inserts (draft a a' : Account) (users : UserTable ι) (hins : db.users.insert e.caller a = .inserted users a')
      (hdrafted : Drafted a) : Goes identity e db (.inserting draft) { db with users := users } (.inserted a')
  | sets (p : BuiltinProvider) (a : Account) (hp : identity.provider = .builtin p) :
      Goes identity e db (.inserted a)
        { db with users := { db.users with
            rows := db.users.rows.modifyPending e.caller fun r => r.setProviderId p identity.providerUserId } }
        (.bound (a.setProviderId p identity.providerUserId))
  | binds (provider : Nat) (slug : String) (a : Account) (hp : identity.provider = .custom provider slug)
      (hfree : db.bindings.check OAuthBinding.identityKey e.caller (some (provider, identity.providerUserId)) = .free) :
      Goes identity e db (.counted a)
        { db with bindings := db.bindings.insert e.caller ⟨a.id, provider, identity.providerUserId⟩ } (.bound a)
  | commits (a : Account) : Goes identity e db (.bound a) (db.commit e.caller) (.done (.ok (a, true)))
  | rollsBack (s : OAuthState) (failure : OAuthError) : Goes identity e db s (db.rollback e.caller) (.done (.error failure))
  | migrates (a : Account) (hfault : e.fault = none) : Goes identity e db (.migrating a) (db.updateGitHubId a identity.providerUserId)
      (.done (.ok (a.setProviderId .github identity.providerUserId, false)))

variable {e : OAuthEvent ι} {s : OAuthState} {registerEnabled : Bool}

/-- A callback stays where it is. -/
theorem goes_stays (h : Knows identity db s) : Goes identity e db s db s :=
  .turns s s h rfl rfl fun _ => rfl

/-- A statement that changes nothing and turns the callback to a state in which it has created no account. -/
theorem goes_turns (hknows : Knows identity db s') (hrows : ownRows s' = ownRows s := by rfl)
    (hbindings : ownBindings identity s' = ownBindings identity s := by rfl) (hnew : created s' = false := by rfl) :
    Goes identity e db s db s' := by
  refine .turns s s' hknows hrows hbindings fun hcreated => ?_
  rw [hnew] at hcreated
  cases hcreated

/-- A callback fails. -/
theorem goes_fails {failure : OAuthError} (hrows : ownRows s = [] := by rfl)
    (hbindings : ownBindings identity s = [] := by rfl) : Goes identity e db s db (.done (.error failure)) :=
  goes_turns trivial hrows.symm hbindings.symm rfl

/-- A callback returns who stands for the identity. -/
theorem goes_finds (h : claimant identity db = some a.id) (hrows : ownRows s = [] := by rfl)
    (hbindings : ownBindings identity s = [] := by rfl) : Goes identity e db s db (.done (.ok (a, false))) :=
  goes_turns h hrows.symm hbindings.symm rfl

/-- A callback goes on to create an account. -/
theorem goes_registers {draft : Account} (hdrafted : Drafted draft)
    (hunclaimed : Unclaimed identity db) (hrows : ownRows s = [] := by rfl) (hbindings : ownBindings identity s = [] := by rfl) :
    Goes identity e db s db (oauthRegisters registerEnabled draft) := by
  unfold oauthRegisters
  split
  · exact goes_turns ⟨hdrafted, hunclaimed⟩ hrows.symm hbindings.symm rfl
  · exact goes_fails hrows hbindings

/-- The first lookup: where it finds nobody, no account of a builtin provider has the id. -/
theorem ready_goes {user : OAuthUser}
    (hanswered : ∀ p, identity.provider = .builtin p → e.fault = none) :
    Goes identity e db .ready (oauthStatement registerEnabled identity user e db .ready).1
      (oauthStatement registerEnabled identity user e db .ready).2 := by
  simp only [oauthStatement]
  split
  · exact goes_turns trivial
  rename_i hfree
  have hzero : ∀ p, identity.provider = .builtin p → db.holders p identity.providerUserId = 0 := by
    intro p hp
    rw [hp, hanswered p hp] at hfree
    cases p <;> simpa [OAuthDb.isUserIDTaken] using hfree
  split
  · rename_i hl
    exact goes_turns ⟨hl, .inl (hzero .github (identity.legacy_github hl))⟩
  rename_i hl
  refine goes_registers ⟨rfl, rfl⟩ ?_
  intro p hp
  exact .inr ⟨hzero p hp, claimant_none hp (hzero p hp) fun hne => absurd hne hl⟩

/-- The fill by the id. -/
theorem filling_goes : Goes identity e db .filling db (oauthFills identity e db) := by
  unfold oauthFills
  split
  · rename_i provider slug hp
    split
    · exact goes_fails
    split
    · exact goes_fails
    · rename_i b hb
      exact goes_turns ⟨provider, slug, b, hp, hb, rfl⟩
  · rename_i hp
    split
    · exact goes_fails
    split
    · exact goes_fails
    · rename_i a ha
      exact goes_finds (claimant_holder hp ha)
  · rename_i p _ hp
    split
    · rename_i a _ ha
      exact goes_finds (claimant_holder hp ha)
    · exact goes_fails

/-- The fill by the legacy id. -/
theorem fillingLegacy_goes (hknows : Knows identity db .fillingLegacy) (hanswered : e.fault = none) :
    Goes identity e db .fillingLegacy db (oauthFillsLegacy registerEnabled identity e db) := by
  obtain ⟨hl, hmissing, htaken⟩ := hknows
  unfold oauthFillsLegacy
  rw [hanswered]
  cases ha : db.findHolder .github identity.legacyId with
  | some a => exact goes_turns (hmissing.migrating hl htaken ha)
  | none => exact goes_registers ⟨rfl, rfl⟩ (hmissing.unclaimed hl fun _ => ha)

/-- The insert. -/
theorem inserting_goes {draft : Account} (hknows : Knows identity db (.inserting draft)) :
    Goes identity e db (.inserting draft) (oauthInserts e db draft).1 (oauthInserts e db draft).2 := by
  unfold oauthInserts
  split
  · exact goes_stays hknows
  · exact .rollsBack _ _
  · rename_i users a hins
    exact .inserts draft _ a users hins hknows.1

/-- The identity of a new account. -/
theorem inserted_goes (hknows : Knows identity db (.inserted a)) :
    Goes identity e db (.inserted a) (oauthBinds identity e db a).1 (oauthBinds identity e db a).2 := by
  unfold oauthBinds
  split
  · rename_i p hp
    split
    · exact .rollsBack _ _
    · exact .sets p a hp
  · rename_i provider slug hp
    split
    · exact .rollsBack _ _
    split
    · exact .rollsBack _ _
    split
    · exact .rollsBack _ _
    · exact goes_turns ⟨hknows.1, provider, slug, hp⟩

/-- Its binding. -/
theorem counted_goes (hknows : Knows identity db (.counted a)) :
    Goes identity e db (.counted a) (oauthInsertsBinding identity e db a).1 (oauthInsertsBinding identity e db a).2 := by
  unfold oauthInsertsBinding
  split
  · exact goes_stays hknows
  rename_i provider slug hp
  simp only
  split
  · exact .rollsBack _ _
  split
  · rename_i hfree _
    exact .binds provider slug a hp hfree
  · exact .rollsBack _ _
  · exact .rollsBack _ _
  · exact goes_stays hknows

/-- Every statement of a callback does one of the steps `Goes` lists. -/
theorem oauthStatement_goes {user : OAuthUser} (hknows : Knows identity db s)
    (hanswered : ∀ p, identity.provider = .builtin p → s.looksUp = true → e.fault = none) :
    Goes identity e db s (oauthStatement registerEnabled identity user e db s).1
      (oauthStatement registerEnabled identity user e db s).2 := by
  cases s with
  | done result => exact goes_stays hknows
  | ready => exact ready_goes fun p hp => hanswered p hp rfl
  | filling => exact filling_goes
  | fillingBound id =>
    obtain ⟨provider, slug, b, hp, hb, rfl⟩ := hknows
    simp only [oauthStatement]
    split
    · exact goes_fails
    split
    · exact goes_fails
    rename_i a ha
    refine goes_finds ?_
    simp only [claimant, hp, hb, Option.bind_some, ha, Option.map_some]
  | legacy =>
    obtain ⟨hl, hmissing⟩ := hknows
    have hfault := hanswered .github (identity.legacy_github hl) rfl
    simp only [oauthStatement, hfault]
    split
    · rename_i htaken
      exact goes_turns ⟨hl, hmissing, htaken⟩
    · rename_i hfree
      exact goes_registers ⟨rfl, rfl⟩ (hmissing.unclaimed hl fun htaken => absurd htaken hfree)
  | fillingLegacy => exact fillingLegacy_goes hknows (hanswered .github (identity.legacy_github hknows.1) rfl)
  | migrating a =>
    simp only [oauthStatement]
    split
    · exact goes_finds hknows.2.1
    · rename_i hfault
      exact .migrates a hfault
  | naming _ | checkingName _ =>
    simp only [oauthStatement]
    split <;> exact goes_turns hknows
  | inserting draft =>
    simp only [oauthStatement]
    split
    · exact .rollsBack _ _
    · exact inserting_goes hknows
  | inserted a => exact inserted_goes hknows
  | counted a => exact counted_goes hknows
  | bound a =>
    simp only [oauthStatement]
    split
    · exact .rollsBack _ _
    · exact .commits a

/-! ## The invariant -/

def idKey (a : Account) : Option Nat := some a.id

theorem idKey_eq {b : Account} (h : a.id = b.id) : idKey a = idKey b := congrArg some h

omit [DecidableEq ι] in
/-- The keys of the tables: each is one row's, and every id was given by the database. -/
structure TablesOk (db : OAuthDb ι) : Prop where
  phones : (db.users.rows.keys UserColumn.phone.key).Nodup
  ids : (db.users.rows.keys idKey).Nodup
  given : ∀ id ∈ db.users.rows.keys idKey, id ≤ db.users.lastId
  bindings : (db.bindings.keys OAuthBinding.identityKey).Nodup

/-- The invariant of a run: the tables are in order, at most one account is counted for the identity, every callback has written
what it must where it stands and knows what it must, and at most one has created an account. -/
structure OAuthInv (identity : OAuthIdentity) (c : Conf (OAuthDb ι) ι OAuthState) : Prop where
  tables : TablesOk c.shared
  single : ∀ p, identity.provider = .builtin p → c.shared.holders p identity.providerUserId ≤ 1
  rows : ∀ i, c.shared.users.rows.pending i = ownRows (c.threads i)
  bound : ∀ i, c.shared.bindings.pending i = ownBindings identity (c.threads i)
  knows : ∀ i, Knows identity c.shared (c.threads i)
  once : ∀ i j a b, c.threads i = .done (.ok (a, true)) → c.threads j = .done (.ok (b, true)) → i = j

variable {c : Conf (OAuthDb ι) ι OAuthState} {i : ι}

/-- A callback has written what it must where it stands, and knows what it must. -/
structure Stands (identity : OAuthIdentity) (db : OAuthDb ι) (i : ι) (s : OAuthState) : Prop where
  rows : db.users.rows.pending i = ownRows s
  bound : db.bindings.pending i = ownBindings identity s
  knows : Knows identity db s

theorem OAuthInv.stands (h : OAuthInv identity c) (hs : c.threads i = s) : Stands identity c.shared i s :=
  hs ▸ ⟨h.rows i, h.bound i, h.knows i⟩

/-- The invariant, from where each callback stands. -/
theorem OAuthInv.of_stands (htables : TablesOk db')
    (hsingle : ∀ p, identity.provider = .builtin p → db'.holders p identity.providerUserId ≤ 1)
    (hi : Stands identity db' i s') (hothers : ∀ j, j ≠ i → Stands identity db' j (c.threads j))
    (honce : ∀ j k a b, Function.update c.threads i s' j = .done (.ok (a, true)) →
      Function.update c.threads i s' k = .done (.ok (b, true)) → j = k) : OAuthInv identity ⟨db', Function.update c.threads i s'⟩ := by
  have hstands := (Function.forall_update_iff c.threads (p := Stands identity db')).2 ⟨hi, hothers⟩
  exact ⟨htables, hsingle, fun j => (hstands j).rows, fun j => (hstands j).bound, fun j => (hstands j).knows, honce⟩

/-- A callback that has not just created an account adds no creator. -/
theorem once_update (h : OAuthInv identity c) (hold : created s' = true → c.threads i = s') :
    ∀ j k a b, Function.update c.threads i s' j = .done (.ok (a, true)) →
      Function.update c.threads i s' k = .done (.ok (b, true)) → j = k := by
  have hbefore : ∀ j a, Function.update c.threads i s' j = .done (.ok (a, true)) → c.threads j = .done (.ok (a, true)) := by
    intro j a hj
    by_cases hji : j = i
    · subst hji
      rw [Function.update_self] at hj
      exact (hold (by rw [hj]; rfl)).trans hj
    · rwa [Function.update_of_ne hji] at hj
  intro j k a b hj hk
  exact h.once j k a b (hbefore j a hj) (hbefore k b hk)

/-- A statement that changes no committed row keeps the invariant if it keeps the tables in order. -/
theorem OAuthInv.quiet (h : OAuthInv identity c) (htables : TablesOk db')
    (husers : db'.users.rows.committed = c.shared.users.rows.committed) (hbindings : db'.bindings.committed = c.shared.bindings.committed)
    (hrows : ∀ j, j ≠ i → db'.users.rows.pending j = c.shared.users.rows.pending j)
    (hbound : ∀ j, j ≠ i → db'.bindings.pending j = c.shared.bindings.pending j)
    (hrow : db'.users.rows.pending i = ownRows s') (hbind : db'.bindings.pending i = ownBindings identity s')
    (hknows : Knows identity c.shared s') (hold : created s' = true → c.threads i = s') :
    OAuthInv identity ⟨db', Function.update c.threads i s'⟩ := by
  refine .of_stands htables ?_ ⟨hrow, hbind, hknows.congr husers hbindings⟩ ?_ (once_update h hold)
  · intro p hp
    rw [holders_congr husers]
    exact h.single p hp
  · intro j hj
    exact ⟨(hrows j hj).trans (h.rows j), (hbound j hj).trans (h.bound j), (h.knows j).congr husers hbindings⟩

section

variable (h : TablesOk db)

include h

omit [DecidableEq ι] in
theorem TablesOk.ids_committed : (db.users.rows.committed.map Account.id).Nodup := by
  have hkeys : db.users.rows.keys idKey = db.users.rows.all.map Account.id :=
    congrFun List.filterMap_eq_map db.users.rows.all
  have hall := h.ids
  rw [hkeys] at hall
  exact hall.sublist ((Rows.committed_sublist_all _).map _)

/-- An insert keeps the tables in order. -/
theorem TablesOk.insert {i : ι} {a' : Account} {users : UserTable ι}
    (hins : db.users.insert i a = .inserted users a') : TablesOk { db with users := users } := by
  obtain ⟨rfl, rfl, hnew⟩ := insert_inserted hins
  have hfresh : db.users.lastId + 1 ∉ db.users.rows.keys idKey := fun hmem => absurd (h.given _ hmem) (by omega)
  refine ⟨Rows.keys_insert_nodup i h.phones (hnew .phone), Rows.keys_insert_nodup i h.ids ?_, ?_, h.bindings⟩
  · intro k hk
    cases hk
    exact hfresh
  · intro k hk
    simp only [Rows.keys, Rows.all_insert, List.filterMap_append, List.mem_append] at hk
    rcases hk with hk | hk
    · exact (h.given k hk).trans (Nat.le_succ _)
    · have hk' : k = db.users.lastId + 1 := by simpa [idKey, eq_comm] using hk
      exact hk'.le

theorem TablesOk.rollback (i : ι) : TablesOk (db.rollback i) := by
  refine ⟨Rows.keys_rollback_nodup i h.phones, Rows.keys_rollback_nodup i h.ids, ?_, Rows.keys_rollback_nodup i h.bindings⟩
  intro k hk
  exact h.given k (((Rows.all_rollback_sublist _ i).filterMap idKey).mem hk)

theorem TablesOk.commit (i : ι) : TablesOk (db.commit i) := by
  refine ⟨?_, ?_, ?_, ?_⟩
  · exact (Rows.keys_commit _ db.users.rows i).symm ▸ h.phones
  · exact (Rows.keys_commit _ db.users.rows i).symm ▸ h.ids
  · intro k hk
    exact h.given k ((Rows.keys_commit _ db.users.rows i) ▸ hk)
  · exact (Rows.keys_commit _ db.bindings i).symm ▸ h.bindings

omit [DecidableEq ι] in
/-- So does a change that keeps the keys. -/
theorem TablesOk.of_keys {rows : Rows ι Account} (hphones : rows.keys UserColumn.phone.key = db.users.rows.keys UserColumn.phone.key)
    (hids : rows.keys idKey = db.users.rows.keys idKey) : TablesOk { db with users := { db.users with rows := rows } } :=
  ⟨hphones.symm ▸ h.phones, hids.symm ▸ h.ids, fun k hk => h.given k (hids ▸ hk), h.bindings⟩

omit [DecidableEq ι] in
theorem TablesOk.updateGitHubId (a : Account) (id : String) : TablesOk (db.updateGitHubId a id) := by
  refine h.of_keys (Rows.keys_modifyCommitted (fun r => ?_) _) (Rows.keys_modifyCommitted (fun r => ?_) _)
  · exact (migrated_keeps r).2.1
  · exact idKey_eq (migrated_keeps r).1

theorem TablesOk.setProviderId (i : ι) (p : BuiltinProvider) (id : String) :
    TablesOk { db with users := { db.users with rows := db.users.rows.modifyPending i fun r => r.setProviderId p id } } := by
  refine h.of_keys (Rows.keys_modifyPending (fun r => ?_) _ i) (Rows.keys_modifyPending (fun r => ?_) _ i)
  · exact (setProviderId_keeps r p id).2.1
  · exact idKey_eq (setProviderId_keeps r p id).1

end

section

variable (h : OAuthInv identity c)

include h

/-- A callback at its commit may commit: the indexes have kept every other new account and binding out. -/
theorem OAuthInv.commits (hs : c.threads i = .bound a) : Commits identity c.shared i a := by
  obtain ⟨hrows, hbound, hdrafted, hunclaimed, hid⟩ := h.stands hs
  refine ⟨hrows, hdrafted, ?_, ?_⟩
  · intro p hp
    rcases hunclaimed p hp with ⟨r, hr, hphone⟩ | ⟨hzero, hclaimant⟩
    · have hmem : a ∈ c.shared.users.rows.pending i := by
        rw [hrows]
        exact List.mem_singleton_self a
      exact absurd hdrafted.2 (Rows.key_ne_of_pending h.tables.phones hr hmem hphone)
    · exact ⟨hzero, hclaimant, hid p hp⟩
  · intro provider slug hp
    simp only [ownBindings, hp] at hbound
    exact findBinding_none h.tables.bindings hbound

/-- A commit keeps the invariant. -/
theorem OAuthInv.commit (hs : c.threads i = .bound a) :
    OAuthInv identity ⟨c.shared.commit i, Function.update c.threads i (.done (.ok (a, true)))⟩ := by
  have hc := h.commits hs
  -- whoever has returned an account contradicts that nobody stands for the identity
  have hfirst : ∀ j b m, c.threads j ≠ .done (.ok (b, m)) := by
    intro j b m hj
    have hclaimant : claimant identity c.shared = some b.id := (h.stands hj).knows
    exact Option.some_ne_none _ (hclaimant.symm.trans hc.claimant_none)
  refine .of_stands (h.tables.commit i) ?_ ⟨Rows.pending_commit_self _ i, Rows.pending_commit_self _ i, ?_⟩ ?_ ?_
  · intro p hp
    obtain ⟨hzero, -, ha⟩ := hc.builtin p hp
    rw [holders_commit hc.rows hc.drafted.1, hzero, if_pos ha]
  · cases hp : identity.provider with
    | builtin p =>
      obtain ⟨hzero, -, ha⟩ := hc.builtin p hp
      exact claimant_commit_builtin hp hc.rows hc.drafted.1 ha (findHolder_of_holders hzero)
    | custom provider slug =>
      have hbound := (h.stands hs).bound
      simp only [ownBindings, hp] at hbound
      exact claimant_commit_custom hp h.tables.bindings hc.rows hc.drafted.1 hbound
  · intro j hj
    exact ⟨(Rows.pending_commit_ne _ hj).trans (h.rows j), (Rows.pending_commit_ne _ hj).trans (h.bound j), hc.knows (h.knows j)⟩
  · have honly : ∀ j b, Function.update c.threads i (.done (.ok (a, true))) j = .done (.ok (b, true)) → j = i := by
      intro j b hj
      by_contra hji
      rw [Function.update_of_ne hji] at hj
      exact hfirst j b true hj
    intro j k b b' hj hk
    exact (honly j b hj).trans (honly k b' hk).symm

/-- A migration keeps the invariant while no other callback is searching. -/
theorem OAuthInv.migrate (hs : c.threads i = .migrating a) (halone : ∀ j, j ≠ i → (c.threads j).searching = false) :
    OAuthInv identity ⟨c.shared.updateGitHubId a identity.providerUserId,
      Function.update c.threads i (.done (.ok (a.setProviderId .github identity.providerUserId, false)))⟩ := by
  obtain ⟨hrows, hbound, hm⟩ := h.stands hs
  have hle := h.single .github hm.1
  refine .of_stands (h.tables.updateGitHubId a identity.providerUserId) ?_
    ⟨(Rows.pending_modifyCommitted _ _ i).trans hrows, hbound, (claimant_updateGitHubId hm hle).2⟩ ?_ (once_update h nofun)
  · intro p hp
    rw [hm.1] at hp
    cases hp
    exact holders_updateGitHubId hm hle h.tables.ids_committed
  · intro j hj
    exact ⟨(Rows.pending_modifyCommitted _ _ j).trans (h.rows j), h.bound j, knows_updateGitHubId hm hle (halone j hj) (h.knows j)⟩

/-- The insert of a drafted account keeps the invariant. -/
theorem OAuthInv.inserted {draft a' : Account} {users : UserTable ι}
    (hs : c.threads i = .inserting draft) (hins : c.shared.users.insert i a = .inserted users a') (hdrafted : Drafted a) :
    OAuthInv identity ⟨{ c.shared with users := users }, Function.update c.threads i (.inserted a')⟩ := by
  obtain ⟨hrows, hbound, hknows⟩ := h.stands hs
  obtain ⟨ha', husers, -⟩ := insert_inserted hins
  refine h.quiet (h.tables.insert hins) ?_ rfl ?_ (fun _ _ => rfl) ?_ hbound ?_ nofun
  · rw [husers]
    exact Rows.committed_insert _ _ _
  · intro j hj
    rw [husers]
    exact Rows.pending_insert_ne _ _ hj
  · rw [husers]
    refine (Rows.pending_insert_self _ _ _).trans ?_
    rw [hrows]
    rfl
  · rw [ha']
    exact ⟨hdrafted, hknows.2⟩

/-- Writing the id of a built-in provider into the inserted account keeps it. -/
theorem OAuthInv.providerSet (hs : c.threads i = .inserted a) (hp : identity.provider = .builtin p) :
    OAuthInv identity ⟨{ c.shared with users := { c.shared.users with
        rows := c.shared.users.rows.modifyPending i fun r => r.setProviderId p identity.providerUserId } },
      Function.update c.threads i (.bound (a.setProviderId p identity.providerUserId))⟩ := by
  obtain ⟨hrows, hbound, hknows⟩ := h.stands hs
  have hkeeps := fun r : Account => setProviderId_keeps r p identity.providerUserId
  refine h.quiet (h.tables.setProviderId i p identity.providerUserId) (Rows.committed_modifyPending _ _ _) rfl
    (fun j hj => Rows.pending_modifyPending_ne _ _ hj) (fun _ _ => rfl) ?_ ?_ ?_ nofun
  · refine (Rows.pending_modifyPending_self _ _ _).trans ?_
    rw [hrows]
    rfl
  · rw [hbound]
    simp only [ownBindings, hp]
  · refine ⟨⟨(hkeeps a).2.2.trans hknows.1.1, (hkeeps a).2.1.trans hknows.1.2⟩, hknows.2, ?_⟩
    intro p' hp'
    rw [hp] at hp'
    cases hp'
    exact providerId_setProviderId

/-- Binding a custom provider's id that nobody else is bound to keeps it. -/
theorem OAuthInv.bindingMade {slug : String} (hs : c.threads i = .counted a) (hp : identity.provider = .custom provider slug)
    (hfree : c.shared.bindings.check OAuthBinding.identityKey i (some (provider, identity.providerUserId)) = .free) :
    OAuthInv identity ⟨{ c.shared with bindings := c.shared.bindings.insert i ⟨a.id, provider, identity.providerUserId⟩ },
      Function.update c.threads i (.bound a)⟩ := by
  obtain ⟨hrows, hbound, hknows⟩ := h.stands hs
  refine h.quiet ⟨h.tables.phones, h.tables.ids, h.tables.given, ?_⟩ rfl (Rows.committed_insert _ _ _) (fun _ _ => rfl)
    (fun j hj => Rows.pending_insert_ne _ _ hj) hrows ?_ ?_ nofun
  · refine Rows.keys_insert_nodup i h.tables.bindings ?_
    intro k hk
    cases hk
    exact Rows.not_mem_keys_of_free hfree
  · refine (Rows.pending_insert_self _ _ _).trans ?_
    rw [hbound]
    simp only [ownBindings, hp, List.nil_append]
  · have hcustom : ∀ p, identity.provider ≠ .builtin p := fun _ => custom_ne_builtin hp
    exact ⟨hknows.1, fun p hp' => absurd hp' (hcustom p), fun p hp' => absurd hp' (hcustom p)⟩

/-- Every step that meets the condition keeps it. -/
theorem oauthInv_step {registerEnabled : Bool} {users : ι → OAuthUser} {e : OAuthEvent ι}
    (hok : SearchesAlone identity c e) : OAuthInv identity (oauthStep registerEnabled identity users c e) := by
  have hgoes : Goes identity e c.shared (c.threads e.caller)
      (oauthStatement registerEnabled identity (users e.caller) e c.shared (c.threads e.caller)).1
      (oauthStatement registerEnabled identity (users e.caller) e c.shared (c.threads e.caller)).2 := by
    refine oauthStatement_goes (h.knows e.caller) ?_
    intro p hp hlooks
    exact hok.1 (by rw [hp]) hlooks
  refine Conf.act_of_ways hgoes ?_
  intro s db' s' hs hgoes
  obtain ⟨hrows, hbound, -⟩ := h.stands hs
  cases hgoes with
  | turns s s' hknows' hrows' hbindings' hold =>
    exact h.quiet h.tables rfl rfl (fun _ _ => rfl) (fun _ _ => rfl) (hrows.trans hrows'.symm)
      (hbound.trans hbindings'.symm) hknows' fun hc => hs.trans (hold hc)
  | inserts draft a a' users hins hdrafted => exact h.inserted hs hins hdrafted
  | sets p a hp => exact h.providerSet hs hp
  | binds provider slug a hp hfree => exact h.bindingMade hs hp hfree
  | commits a => exact h.commit hs
  | rollsBack s failure =>
    exact h.quiet (h.tables.rollback e.caller) (Rows.committed_rollback _ _) (Rows.committed_rollback _ _)
      (fun j hj => Rows.pending_rollback_ne _ hj) (fun j hj => Rows.pending_rollback_ne _ hj)
      (Rows.pending_rollback_self _ _) (Rows.pending_rollback_self _ _) trivial nofun
  | migrates a hfault =>
    have hmigrates : (c.threads e.caller).migrates = true := by rw [hs]; rfl
    exact h.migrate hs (hok.2 hmigrates hfault)

/-- Two callbacks that returned an account returned the one that stands for the identity. -/
theorem OAuthInv.oneAccountPerIdentity : OneAccountPerIdentity c := by
  refine ⟨?_, h.once⟩
  intro i j a b m n hi hj
  have hknowsi : claimant identity c.shared = some a.id := (h.stands hi).knows
  exact Option.some.inj (hknowsi.symm.trans (h.stands hj).knows)

end

end OAuthAux

open OAuthAux

/-- From tables whose ids, phones and bindings are distinct and in which at most one account is counted for the identity, in every
run of callbacks for it in which the lookups of a built-in provider are answered and no account is migrated while another callback
is searching, every state on the way has one account for the identity. -/
theorem one_account_per_identity {ι : Type} [DecidableEq ι] (registerEnabled : Bool) (identity : OAuthIdentity)
    (users : ι → OAuthUser) (accounts : List Account) (bindings : List OAuthBinding) (hids : (accounts.map Account.id).Nodup)
    (hphones : (accounts.filterMap Account.phone).Nodup) (hbindings : (bindings.map fun b => (b.providerId, b.providerUserId)).Nodup)
    (hsingle : ∀ p, identity.provider = .builtin p →
      (oauthStart accounts bindings : Conf (OAuthDb ι) ι OAuthState).shared.holders p identity.providerUserId ≤ 1)
    (es : List (OAuthEvent ι))
    (halone : Along (oauthStep registerEnabled identity users) (SearchesAlone identity) (oauthStart accounts bindings) es) :
    ∀ pre, pre <+: es → OneAccountPerIdentity (exec (oauthStep registerEnabled identity users) (oauthStart accounts bindings) pre) := by
  intro pre hpre
  have htables : TablesOk (oauthStart accounts bindings : Conf (OAuthDb ι) ι OAuthState).shared := by
    have hkeys : (oauthStart accounts bindings : Conf (OAuthDb ι) ι OAuthState).shared.users.rows.keys idKey = accounts.map Account.id := by
      show List.filterMap idKey (Rows.ofList accounts : Rows ι Account).all = _
      rw [Rows.all_ofList]
      exact congrFun List.filterMap_eq_map accounts
    refine ⟨?_, ?_, ?_, ?_⟩
    · show (List.filterMap UserColumn.phone.key (Rows.ofList accounts : Rows ι Account).all).Nodup
      rw [Rows.all_ofList]
      exact hphones
    · rw [hkeys]
      exact hids
    · intro id hid
      rw [hkeys] at hid
      exact (List.le_max_of_le' 0 hid le_rfl).trans_eq List.foldl_eq_foldr.symm
    · show (List.filterMap OAuthBinding.identityKey (Rows.ofList bindings : Rows ι OAuthBinding).all).Nodup
      have hpairs : bindings.filterMap OAuthBinding.identityKey = bindings.map fun b => (b.providerId, b.providerUserId) :=
        congrFun List.filterMap_eq_map bindings
      rw [Rows.all_ofList, hpairs]
      exact hbindings
  have h0 : OAuthInv identity (oauthStart accounts bindings : Conf (OAuthDb ι) ι OAuthState) := by
    refine ⟨htables, hsingle, Rows.pending_ofList accounts, Rows.pending_ofList bindings, fun _ => trivial, ?_⟩
    intro i j a b hi
    cases hi
  exact (halone.invariant_reached (fun _ _ hok h => oauthInv_step h hok) h0 pre hpre).oneAccountPerIdentity

/-! ## A migration between two lookups -/

namespace OAuthAux

/-- A GitHub identity with the login name that older accounts carry. -/
def octocat : OAuthIdentity where
  provider := .builtin .github
  providerUserId := "583231"
  legacyId := "octocat"
  providerUserId_ne := by decide
  legacy_github := fun _ => rfl

/-- The administrator, and an account that still has the login name. -/
def olderAccounts : List Account :=
  [{ id := 1, username := "root", affCode := "aff1", phone := some "13800138000" },
   { id := 2, username := "octocat", affCode := "aff2", phone := some "13800138001", githubId := "octocat" }]

/-- What GitHub says of the user, to both callbacks. -/
def octocatUser (_ : Fin 2) : OAuthUser := { username := "octocat" }

def callbackTurns (i : Fin 2) (n : Nat) : List (OAuthEvent (Fin 2)) := List.replicate n ⟨i, none, "aff3"⟩

def twoCallbacks (es : List (OAuthEvent (Fin 2))) : Conf (OAuthDb (Fin 2)) (Fin 2) OAuthState :=
  exec (oauthStep true octocat octocatUser) (oauthStart olderAccounts []) es

/-- The id of the account a callback returned, and whether it created it. -/
def returned : OAuthState → Option (Nat × Bool)
  | .done (.ok (a, m)) => some (a.id, m)
  | _ => none

end OAuthAux

/-- The second callback looks for the id before the first migrates the account, and for the login name after: the first returns
the account, the second creates another, and both accounts have the id. -/
theorem migration_splits_identity :
    let run := twoCallbacks (callbackTurns 1 1 ++ callbackTurns 0 4 ++ callbackTurns 1 6)
    returned (run.threads 0) = some (2, false) ∧ returned (run.threads 1) = some (3, true) ∧
      run.shared.users.unscoped.map Account.githubId = ["", "583231", "583231"] := by
  decide

theorem one_account_per_identity_sample :
    let run := twoCallbacks (callbackTurns 0 4 ++ callbackTurns 1 2)
    returned (run.threads 0) = some (2, false) ∧ returned (run.threads 1) = some (2, false) ∧ OneAccountPerIdentity run := by
  refine ⟨by decide, by decide, ?_⟩
  have hsingle : ∀ p, octocat.provider = .builtin p →
      (oauthStart olderAccounts [] : Conf (OAuthDb (Fin 2)) (Fin 2) OAuthState).shared.holders p octocat.providerUserId ≤ 1 := by
    intro p hp
    cases hp
    decide
  have halone : Along (oauthStep true octocat octocatUser) (SearchesAlone octocat) (oauthStart olderAccounts [])
      (callbackTurns 0 4 ++ callbackTurns 1 2) := by
    decide
  exact one_account_per_identity true octocat octocatUser olderAccounts [] (by decide) (by decide) List.nodup_nil hsingle
    (callbackTurns 0 4 ++ callbackTurns 1 2) halone (callbackTurns 0 4 ++ callbackTurns 1 2) List.prefix_rfl

end NewApi
