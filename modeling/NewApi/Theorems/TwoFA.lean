import NewApi.Accounts.TwoFA

/-!
# The limits of the second factor, where every code is compared with what the tables hold

A login attempt decides on a copy of the row and of the unused backup codes, and saves the whole copy. Attempts that overlap use one backup
code twice, compare more wrong codes than are allowed, and take away a lock written after they read the row (`twoFA_limits_fail`). There is
no other way (`twoFA_limits_hold`).
-/

namespace NewApi

open Threads Run

namespace TwoFAAux

variable {t : TwoFA} {db db' : TwoFADb} {s s' : TwoFAAttempt} {now : Int}

/-! ## The row -/

/-- The account is not locked any more. -/
def LockPassed (t : TwoFA) (now : Int) : Prop := ∀ u, t.lockedUntil = some u → u ≤ now

theorem isLocked_eq_false_iff : t.isLocked now = false ↔ LockPassed t now := by
  unfold TwoFA.isLocked LockPassed
  cases t.lockedUntil with
  | none | some _ => simp

theorem LockPassed.mono {now now' : Int} (h : LockPassed t now) (hnow : now ≤ now') : LockPassed t now' :=
  fun u hu => (h u hu).trans hnow

theorem failedAttempts_increment (now : Int) : (t.incrementFailedAttempts now).failedAttempts = t.failedAttempts + 1 := by
  unfold TwoFA.incrementFailedAttempts
  simp only
  split <;> rfl

/-! ## What one step does -/

variable {ι : Type} {c : Conf TwoFADb ι TwoFAAttempt} {i : ι}

/-- The copy with a failed attempt that is to be saved. -/
def failedCopy : TwoFAAttempt → Option TwoFA
  | .totpFailed t | .backupFailed t => some t
  | .ready | .selected _ | .totpPassed _ | .backup _ | .listed _ _ | .redeeming _ _ | .backupPassed _ | .done _ => none

/-- The copy of a successful attempt that is to be saved. -/
def passedCopy : TwoFAAttempt → Option TwoFA
  | .totpPassed t | .backupPassed t => some t
  | .ready | .selected _ | .totpFailed _ | .backup _ | .listed _ _ | .backupFailed _ | .redeeming _ _ | .done _ => none

/-- The ways a step can go that meets its condition; `row` is the copy it goes by. -/
inductive Goes (db : TwoFADb) (i : ι) (alone : Prop) : TwoFAAttempt → TwoFADb → TwoFAAttempt → List (TwoFAAct ι) → Prop where
  | moves {s s' : TwoFAAttempt} (hs : ¬ s.unsaved) (hs' : ¬ s'.unsaved)
      (hlisted : ∀ t codes, s' = .listed t codes → LockPassed t db.now) : Goes db i alone s db s' []
  | fails {s s' : TwoFAAttempt} {row : TwoFA} (hs : ¬ s.unsaved) (hs' : failedCopy s' = some (row.incrementFailedAttempts db.now))
      (hrow : db.twoFA = some row) (hlock : LockPassed row db.now) (halone : alone) : Goes db i alone s db s' [.wrong]
  | passes {s s' : TwoFAAttempt} {row : TwoFA} (hs : ¬ s.unsaved) (hs' : passedCopy s' = some (row.updateUsage db.now))
      (hrow : db.twoFA = some row) (hlock : LockPassed row db.now) (halone : alone) : Goes db i alone s db s' [.right i]
  | finds {s : TwoFAAttempt} {row : TwoFA} {bc : TwoFABackupCode} (hs : ¬ s.unsaved) (hrow : db.twoFA = some row)
      (hlock : LockPassed row db.now) (hbc : bc ∈ db.unused) (halone : alone) :
      Goes db i alone s db (.redeeming row { bc with isUsed := true, usedAt := some db.now }) [.right i]
  | uses (t : TwoFA) (bc : TwoFABackupCode) :
      Goes db i alone (.redeeming t bc) (db.saveCode bc) (.backupPassed (t.updateUsage db.now)) [.used bc.id]
  | savesFailed {s s' : TwoFAAttempt} {t : TwoFA} (hs : failedCopy s = some t) (hs' : ¬ s'.unsaved)
      (hlisted : ∀ t codes, s' ≠ .listed t codes) : Goes db i alone s (db.save t) s' []
  | savesPassed {s s' : TwoFAAttempt} {t : TwoFA} (hs : passedCopy s = some t) (hs' : ¬ s'.unsaved)
      (hlisted : ∀ t codes, s' ≠ .listed t codes) : Goes db i alone s (db.save t) s' []

/-- What is to be true of an attempt: at the codes, and with an outcome to save, the account was not locked, and the copy to be saved
follows on the row in the table. -/
def AttemptOk (db : TwoFADb) : TwoFAAttempt → Prop
  | .listed t _ => LockPassed t db.now
  | .totpFailed t | .backupFailed t => ∃ row, db.twoFA = some row ∧ LockPassed row db.now ∧
      t.failedAttempts = row.failedAttempts + 1 ∧ (maxFailAttempts ≤ t.failedAttempts → t.lockedUntil.isSome)
  | .totpPassed t | .backupPassed t => ∃ row, db.twoFA = some row ∧ LockPassed row db.now ∧
      t.failedAttempts = 0 ∧ t.lockedUntil = none
  | .redeeming _ bc => (∃ row, db.twoFA = some row ∧ LockPassed row db.now) ∧ bc.isUsed = true
  | .ready | .selected _ | .backup _ | .done _ => True

variable {env : TwoFAEnv} {code : ι → String} {e : TwoFAEvent ι}

/-- Every step of an attempt that is in order and meets its condition goes one of these ways. -/
theorem twoFAStatement_goes (hfresh : ComparesFresh code c e) (hok : AttemptOk (c.shared.at e) (c.threads e.attempt)) :
    Goes (c.shared.at e) e.attempt (OthersSaved c e.attempt) (c.threads e.attempt)
      (twoFAStatement env (code e.attempt) e.refused (c.shared.at e) (c.threads e.attempt)).1
      (twoFAStatement env (code e.attempt) e.refused (c.shared.at e) (c.threads e.attempt)).2 (twoFAActs env code c e) := by
  unfold ComparesFresh FreshAt at hfresh
  unfold twoFAActs
  have hsame : (c.shared.at e).twoFA = c.shared.twoFA := rfl
  have hunused : (c.shared.at e).unused = c.shared.unused := rfl
  generalize c.shared.at e = db at *
  cases hs : c.threads e.attempt with
  | ready =>
    simp only [twoFAStatement]
    split
    · exact .moves not_false not_false (by simp)
    · exact .moves not_false not_false (by simp)
    · split <;> exact .moves not_false not_false (by simp)
  | selected t =>
    simp only [hs] at hfresh
    simp only [twoFAStatement, attemptActs]
    cases hnumeric : validateNumericCode (code e.attempt) with
    | none => exact .moves not_false not_false (by simp)
    | some clean =>
      cases hlocked : t.isLocked db.now with
      | true =>
        exact .moves not_false not_false (by simp)
      | false =>
        obtain ⟨hrow, halone⟩ := hfresh (by rw [hnumeric]; rfl) hlocked
        have hlock := isLocked_eq_false_iff.1 hlocked
        simp only [Bool.false_eq_true, if_false]
        split
        · exact .passes not_false rfl (hsame.trans hrow) hlock halone
        · exact .fails not_false rfl (hsame.trans hrow) hlock halone
  | totpFailed _ | backupFailed _ =>
    simp only [hs] at hfresh
    simp only [twoFAStatement, attemptActs, hfresh]
    exact .savesFailed rfl not_false (by simp)
  | totpPassed _ | backupPassed _ =>
    simp only [hs] at hfresh
    simp only [twoFAStatement, attemptActs, hfresh]
    exact .savesPassed rfl not_false (by simp)
  | backup t =>
    simp only [twoFAStatement, attemptActs]
    split
    · exact .moves not_false not_false (by simp)
    rename_i hopen
    have hlock : LockPassed t db.now := isLocked_eq_false_iff.1 (Bool.eq_false_iff.2 hopen)
    split
    · exact .moves not_false not_false (by simp)
    split
    · exact .moves not_false not_false (by simp)
    refine .moves not_false not_false ?_
    rintro t' codes ⟨⟩
    exact hlock
  | listed t codes =>
    simp only [hs] at hfresh
    obtain ⟨hrow, hcodes, halone⟩ := hfresh
    rw [hs] at hok
    simp only [twoFAStatement, attemptActs]
    cases hfind : findBackupCode env (code e.attempt) codes with
    | none => exact .fails not_false rfl (hsame.trans hrow) hok halone
    | some bc =>
      have hbc : bc ∈ codes := List.mem_of_find?_eq_some hfind
      rw [hcodes, ← hunused] at hbc
      exact .finds not_false (hsame.trans hrow) hok hbc halone
  | redeeming t bc =>
    simp only [hs] at hfresh
    simp only [twoFAStatement, attemptActs, hfresh]
    exact .uses t bc
  | done result => exact .moves not_false not_false (by simp [twoFAStatement])

/-! ## The invariant -/

/-- The invariant of a run: every attempt is in order, and at most one has an outcome to save. -/
structure TwoFAInv (c : Conf TwoFADb ι TwoFAAttempt) : Prop where
  attempts : ∀ i, AttemptOk c.shared (c.threads i)
  one : ∀ i j, (c.threads i).unsaved → (c.threads j).unsaved → i = j

/-- An attempt without an outcome to save depends on the clock alone. -/
theorem AttemptOk.of_saved (h : AttemptOk db s) (hs : ¬ s.unsaved) (hnow : db.now ≤ db'.now) : AttemptOk db' s := by
  cases s with
  | listed t codes => exact LockPassed.mono h hnow
  | totpFailed _ | totpPassed _ | backupFailed _ | redeeming _ _ | backupPassed _ => exact absurd trivial hs
  | ready | selected _ | backup _ | done _ => trivial

theorem AttemptOk.later (h : AttemptOk db s) (hrow : db'.twoFA = db.twoFA) (hnow : db.now ≤ db'.now) : AttemptOk db' s := by
  have hpassed : ∀ {P : TwoFA → Prop}, (∃ row, db.twoFA = some row ∧ LockPassed row db.now ∧ P row) →
      ∃ row, db'.twoFA = some row ∧ LockPassed row db'.now ∧ P row := by
    rintro P ⟨row, hdb, hlock, hP⟩
    exact ⟨row, hrow.trans hdb, hlock.mono hnow, hP⟩
  cases s with
  | totpFailed _ | totpPassed _ | backupFailed _ | backupPassed _ => exact hpassed h
  | redeeming t bc =>
    obtain ⟨⟨row, hdb, hlock⟩, hused⟩ := h
    exact ⟨⟨row, hrow.trans hdb, hlock.mono hnow⟩, hused⟩
  | listed t codes => exact h.of_saved not_false hnow
  | ready | selected _ | backup _ | done _ => trivial

theorem unsaved_of_failedCopy (h : failedCopy s = some t) : s.unsaved := by
  cases s <;> cases h <;> trivial

theorem unsaved_of_passedCopy (h : passedCopy s = some t) : s.unsaved := by
  cases s <;> cases h <;> trivial

/-- What a failed copy knows. -/
theorem attemptOk_of_failedCopy (h : failedCopy s = some t) : AttemptOk db s ↔ ∃ row, db.twoFA = some row ∧ LockPassed row db.now ∧
      t.failedAttempts = row.failedAttempts + 1 ∧ (maxFailAttempts ≤ t.failedAttempts → t.lockedUntil.isSome) := by
  cases s <;> cases h <;> rfl

/-- What a passed copy knows. -/
theorem attemptOk_of_passedCopy (h : passedCopy s = some t) :
    AttemptOk db s ↔ ∃ row, db.twoFA = some row ∧ LockPassed row db.now ∧ t.failedAttempts = 0 ∧ t.lockedUntil = none := by
  cases s <;> cases h <;> rfl

theorem TwoFAInv.at (h : TwoFAInv c) (e : TwoFAEvent ι) : TwoFAInv { c with shared := c.shared.at e } :=
  ⟨fun i => (h.attempts i).later rfl (by simp [TwoFADb.at]), h.one⟩

variable [DecidableEq ι] {acts : List (TwoFAAct ι)} {row : TwoFA}

/-- The invariant, when an attempt that was in order goes on. -/
theorem TwoFAInv.update (h : TwoFAInv c) (hself : AttemptOk db' s') (hothers : ∀ j, j ≠ i → AttemptOk db' (c.threads j))
    (halone : s'.unsaved → OthersSaved c i) : TwoFAInv ⟨db', Function.update c.threads i s'⟩ := by
  refine ⟨(Function.forall_update_iff c.threads (p := fun _ s => AttemptOk db' s)).2 ⟨hself, hothers⟩, fun j k hj hk => ?_⟩
  by_cases hji : j = i <;> by_cases hki : k = i
  · rw [hji, hki]
  · subst hji
    simp only [Function.update_self] at hj
    simp only [Function.update_of_ne hki] at hk
    exact absurd hk (halone hj k hki)
  · subst hki
    simp only [Function.update_self] at hk
    simp only [Function.update_of_ne hji] at hj
    exact absurd hj (halone hk j hji)
  · simp only [Function.update_of_ne hji] at hj
    simp only [Function.update_of_ne hki] at hk
    exact h.one j k hj hk

/-- Every turn keeps the invariant. -/
theorem TwoFAInv.goes (h : TwoFAInv c) (hgoes : Goes c.shared i (OthersSaved c i) (c.threads i) db' s' acts) :
    TwoFAInv ⟨db', Function.update c.threads i s'⟩ := by
  have hothers : OthersSaved c i → c.shared.now ≤ db'.now → ∀ j, j ≠ i → AttemptOk db' (c.threads j) :=
    fun halone hnow j hj => (h.attempts j).of_saved (halone j hj) hnow
  have halone : (c.threads i).unsaved → OthersSaved c i := fun hi j hj hj' => hj (h.one j i hj' hi)
  generalize hs : c.threads i = s at hgoes halone
  cases hgoes with
  | moves _ hs' hlisted =>
    refine h.update ?_ (fun j _ => h.attempts j) fun hun => absurd hun hs'
    cases s' with
    | listed t codes => exact hlisted t codes rfl
    | totpFailed _ | totpPassed _ | backupFailed _ | redeeming _ _ | backupPassed _ => exact absurd trivial hs'
    | ready | selected _ | backup _ | done _ => trivial
  | fails _ hs' hrow hlock hothersSaved =>
    refine h.update ?_ (fun j _ => h.attempts j) fun _ => hothersSaved
    refine (attemptOk_of_failedCopy hs').2 ⟨_, hrow, hlock, failedAttempts_increment _, fun hmax => ?_⟩
    rw [failedAttempts_increment] at hmax
    simp [TwoFA.incrementFailedAttempts, hmax]
  | passes _ hs' hrow hlock hothersSaved =>
    refine h.update ?_ (fun j _ => h.attempts j) fun _ => hothersSaved
    exact (attemptOk_of_passedCopy hs').2 ⟨_, hrow, hlock, rfl, rfl⟩
  | finds _ hrow hlock hbc hothersSaved =>
    exact h.update ⟨⟨_, hrow, hlock⟩, rfl⟩ (fun j _ => h.attempts j) fun _ => hothersSaved
  | uses t bc =>
    have hself := h.attempts i
    rw [hs] at hself
    obtain ⟨⟨row, hrow, hlock⟩, -⟩ := hself
    exact h.update ⟨row, hrow, hlock, rfl, rfl⟩ (hothers (halone trivial) le_rfl) fun _ => halone trivial
  | savesFailed hcopy hs' hlisted =>
    refine h.update ?_ (hothers (halone (unsaved_of_failedCopy hcopy)) le_rfl) fun hun => absurd hun hs'
    cases s' <;> first | trivial | exact absurd trivial hs' | exact absurd rfl (hlisted _ _)
  | savesPassed hcopy hs' hlisted =>
    refine h.update ?_ (hothers (halone (unsaved_of_passedCopy hcopy)) le_rfl) fun hun => absurd hun hs'
    cases s' <;> first | trivial | exact absurd trivial hs' | exact absurd rfl (hlisted _ _)

/-- The rule for a step: what follows of every way it can go is true of it. -/
theorem twoFAStep_goes {P : Conf TwoFADb ι TwoFAAttempt → List (TwoFAAct ι) → Prop} (hinv : TwoFAInv c) (hfresh : ComparesFresh code c e)
    (h : ∀ db' s' acts, Goes (c.shared.at e) e.attempt (OthersSaved c e.attempt) (c.threads e.attempt) db' s' acts →
      P ⟨db', Function.update c.threads e.attempt s'⟩ acts) : P (twoFAStep env code c e) (twoFAActs env code c e) := by
  have hok : AttemptOk (c.shared.at e) (c.threads e.attempt) := (hinv.attempts e.attempt).later rfl (by simp [TwoFADb.at])
  exact h _ _ _ (twoFAStatement_goes hfresh hok)

/-! ## A backup code is used once -/

/-- What was used up is used in the table, no backup code was used up twice, and none that is about to be was used up before. -/
structure UsedOnce (c : Conf TwoFADb ι TwoFAAttempt) (acts : List (TwoFAAct ι)) : Prop where
  once : ∀ id, acts.count (.used id) ≤ 1
  table : ∀ id, .used id ∈ acts → ∀ bc ∈ c.shared.codes, bc.id = id → bc.isUsed = true
  next : ∀ i t bc, c.threads i = .redeeming t bc → .used bc.id ∉ acts

/-- A step that uses no backup code up and leaves the table alone. -/
theorem UsedOnce.keep {acts more : List (TwoFAAct ι)} (h : UsedOnce c acts)
    (hmore : ∀ id, .used id ∉ more) (hcodes : db'.codes = c.shared.codes)
    (hs' : ∀ t bc, s' = .redeeming t bc → .used bc.id ∉ acts) : UsedOnce ⟨db', Function.update c.threads i s'⟩ (acts ++ more) := by
  have hmem : ∀ id, .used id ∈ acts ++ more → .used id ∈ acts := by
    intro id hid
    rcases List.mem_append.1 hid with hid | hid
    · exact hid
    · exact absurd hid (hmore id)
  refine ⟨fun id => ?_, fun id hid => ?_,
    (Function.forall_update_iff c.threads (p := fun _ s => ∀ t bc, s = .redeeming t bc → .used bc.id ∉ acts ++ more)).2
      ⟨fun t bc heq hid => hs' t bc heq (hmem bc.id hid), fun j _ t bc hj hid => h.next j t bc hj (hmem bc.id hid)⟩⟩
  · rw [List.count_append, List.count_eq_zero_of_not_mem (hmore id)]
    exact h.once id
  · simp only [hcodes]
    exact h.table id (hmem id hid)

/-- A backup code that was not used up before is, while no other attempt is about to use one up. -/
theorem UsedOnce.use (h : UsedOnce c acts) {bc : TwoFABackupCode} (hnew : .used bc.id ∉ acts) (hused : bc.isUsed = true)
    (hcodes : db'.codes = c.shared.codes.map fun row => if row.id = bc.id then bc else row)
    (hs' : ∀ t bc', s' ≠ .redeeming t bc') (hothers : ∀ j, j ≠ i → ∀ t bc', c.threads j ≠ .redeeming t bc') :
    UsedOnce ⟨db', Function.update c.threads i s'⟩ (acts ++ [.used bc.id]) := by
  refine ⟨fun id => ?_, fun id hid row hrow hrowid => ?_, ?_⟩
  · by_cases hid : id = bc.id
    · subst hid
      simp [List.count_append, List.count_eq_zero_of_not_mem hnew]
    · have hother : (TwoFAAct.used bc.id : TwoFAAct ι) ≠ .used id := fun heq => hid (TwoFAAct.used.inj heq).symm
      simpa [List.count_append, List.count_singleton, hother] using h.once id
  · rw [hcodes] at hrow
    obtain ⟨old, hold, rfl⟩ := List.mem_map.1 hrow
    by_cases holdid : old.id = bc.id
    · simpa [holdid] using hused
    simp only [holdid, if_false] at hrowid ⊢
    rcases List.mem_append.1 hid with hid | hid
    · exact h.table id hid old hold hrowid
    · simp only [List.mem_singleton, TwoFAAct.used.injEq] at hid
      exact absurd (hrowid.trans hid) holdid
  · refine (Function.forall_update_iff c.threads
      (p := fun _ s => ∀ t' bc', s = .redeeming t' bc' → .used bc'.id ∉ acts ++ [.used bc.id])).2 ⟨?_, ?_⟩
    · intro t' bc' heq
      exact absurd heq (hs' t' bc')
    · intro j hj t' bc' heq
      exact absurd heq (hothers j hj t' bc')

/-- A step that meets its condition uses no backup code up a second time. -/
theorem usedOnce_step (e : TwoFAEvent ι)
    (acts : List (TwoFAAct ι)) (hfresh : ComparesFresh code c e) (hinv : TwoFAInv c) (h : UsedOnce c acts) :
    UsedOnce (twoFAStep env code c e) (acts ++ twoFAActs env code c e) := by
  refine twoFAStep_goes (P := fun c' more => UsedOnce c' (acts ++ more)) hinv hfresh fun db' s' more hgoes => ?_
  have hsame : (c.shared.at e).codes = c.shared.codes := rfl
  generalize hs : c.threads e.attempt = s at hgoes
  cases hgoes with
  | moves _ hs' _ =>
    refine h.keep (by simp) hsame ?_
    rintro t bc rfl
    exact absurd trivial hs'
  | fails _ hs' _ _ _ | passes _ hs' _ _ _ =>
    refine h.keep (by simp) hsame ?_
    rintro t bc rfl
    cases hs'
  | finds _ _ _ hbc _ =>
    refine h.keep (by simp) hsame ?_
    rintro t bc ⟨⟩ hid
    -- the code was found among the unused ones, so it has not been used up
    obtain ⟨hmem, hunused⟩ := List.mem_filter.1 hbc
    simp [h.table _ hid _ hmem rfl] at hunused
  | savesFailed _ hs' _ | savesPassed _ hs' _ =>
    refine h.keep (by simp) (by rfl) ?_
    rintro t bc rfl
    exact absurd trivial hs'
  | uses t bc =>
    have hnew := h.next e.attempt t bc hs
    have hused : bc.isUsed = true := by
      have hok := hinv.attempts e.attempt
      rw [hs] at hok
      exact hok.2
    refine h.use hnew hused (by rfl) (by simp) fun j hj t' bc' heq => hj (hinv.one j e.attempt ?_ ?_)
    · rw [heq]
      trivial
    · rw [hs]
      trivial

/-! ## Wrong codes are counted -/

/-- The attempt has found its code right and has not saved all that came of it. -/
def FoundRight : TwoFAAttempt → Prop
  | .totpPassed _ | .redeeming _ _ | .backupPassed _ => True
  | .ready | .selected _ | .totpFailed _ | .backup _ | .listed _ _ | .backupFailed _ | .done _ => False

/-- The wrong codes since a state with no failed attempt are counted in the row, but for one that is about to be; as long as nobody
enters a right code, an attempt that was right before has none after it. -/
structure Counted (c : Conf TwoFADb ι TwoFAAttempt) (wrong : Int) (row : TwoFA) : Prop where
  table : c.shared.twoFA = some row
  unlocked : row.lockedUntil = none → row.failedAttempts < maxFailAttempts
  counted : (∀ i, failedCopy (c.threads i) = none) → wrong ≤ row.failedAttempts
  next : wrong ≤ row.failedAttempts + 1
  right : ∀ i, FoundRight (c.threads i) → wrong = 0

theorem failedCopy_of_saved (h : ¬ s.unsaved) : failedCopy s = none := by
  cases s <;> first | rfl | exact absurd trivial h

theorem unsaved_of_foundRight (h : FoundRight s) : s.unsaved := by
  cases s <;> trivial

theorem foundRight_of_passedCopy (h : passedCopy s = some t) : FoundRight s := by
  cases s <;> cases h <;> trivial

theorem not_foundRight_of_failedCopy (h : failedCopy s = some t) : ¬ FoundRight s := by
  cases s <;> cases h <;> exact id

/-- With the others' outcomes saved, only the attempt itself can have found its code right. -/
theorem right_of_othersSaved {n : Int} (hothers : OthersSaved c i)
    (hs' : FoundRight s' → n = 0) : ∀ j, FoundRight (Function.update c.threads i s' j) → n = 0 :=
  (Function.forall_update_iff c.threads (p := fun _ s => FoundRight s → n = 0)).2
    ⟨hs', fun j hj hright => absurd (unsaved_of_foundRight hright) (hothers j hj)⟩

/-- A step to a place without a failed attempt to save, in a table with the same row. -/
theorem Counted.keep {wrong : Int} (h : Counted c wrong row)
    (hrow : db'.twoFA = c.shared.twoFA) (hfailed : failedCopy (c.threads i) = none)
    (hright : FoundRight s' → wrong = 0) : Counted ⟨db', Function.update c.threads i s'⟩ wrong row where
  table := hrow.trans h.table
  unlocked := h.unlocked
  counted hnone := by
    refine h.counted fun j => ?_
    by_cases hji : j = i
    · rw [hji]
      exact hfailed
    · simpa [hji] using hnone j
  next := h.next
  right := (Function.forall_update_iff c.threads (p := fun _ s => FoundRight s → wrong = 0)).2 ⟨hright, fun j _ => h.right j⟩

/-- A step that meets its condition and does not find its code right keeps the count. -/
theorem counted_step (e : TwoFAEvent ι) (wrong : Nat)
    (hfresh : ComparesFresh code c e) (hnone : ∀ i, .right i ∉ twoFAActs env code c e) (hinv : TwoFAInv c)
    (h : ∃ row, Counted c wrong row) :
    ∃ row, Counted (twoFAStep env code c e) (wrong + (twoFAActs env code c e).count .wrong : Nat) row := by
  obtain ⟨row, h⟩ := h
  have hall := (hinv.at e).attempts e.attempt
  have halone : (c.threads e.attempt).unsaved → OthersSaved c e.attempt := fun hi j hj hj' => hj (hinv.one j e.attempt hj' hi)
  revert hnone
  refine twoFAStep_goes
    (P := fun c' acts => (∀ i, .right i ∉ acts) → ∃ row, Counted c' (wrong + acts.count .wrong : Nat) row) hinv hfresh
    fun db' s' acts hgoes hnone => ?_
  have hrow : (c.shared.at e).twoFA = some row := h.table
  generalize hs : c.threads e.attempt = s at hgoes
  rw [hs] at hall halone
  cases hgoes with
  | moves hsaved hs' _ =>
    refine ⟨row, h.keep rfl ?_ fun hright => absurd (unsaved_of_foundRight hright) hs'⟩
    rw [hs]
    exact failedCopy_of_saved hsaved
  | fails hsaved hs' hrow' _ hothers =>
    -- nobody else has an outcome to save, so the row counts every wrong code before this one
    have hcounted : (wrong : Int) ≤ row.failedAttempts := by
      refine h.counted fun j => failedCopy_of_saved ?_
      by_cases hj : j = e.attempt
      · rw [hj, hs]
        exact hsaved
      · exact hothers j hj
    refine ⟨row, h.table, h.unlocked, fun hnone => ?_, by simpa using hcounted,
      right_of_othersSaved hothers fun hright => absurd hright (not_foundRight_of_failedCopy hs')⟩
    have hself := hnone e.attempt
    simp [hs'] at hself
  | passes _ _ _ _ _ | finds _ _ _ _ _ => exact absurd (by simp) (hnone e.attempt)
  | uses t bc =>
    refine ⟨row, h.keep rfl (by rw [hs]; rfl) fun _ => ?_⟩
    exact h.right e.attempt (by rw [hs]; trivial)
  | savesFailed hcopy hs' _ =>
    obtain ⟨row', hrow', _, hcount, hlock⟩ := (attemptOk_of_failedCopy hcopy).1 hall
    obtain rfl : row' = row := Option.some.inj (hrow'.symm.trans hrow)
    have hnext := h.next
    refine ⟨_, rfl, fun hunlocked => ?_, fun _ => ?_, ?_, right_of_othersSaved (halone (unsaved_of_failedCopy hcopy))
      fun hright => absurd (unsaved_of_foundRight hright) hs'⟩
    · by_contra hmax
      simpa [hunlocked] using hlock (not_lt.1 hmax)
    · simp only [List.count_nil, add_zero]
      omega
    · simp only [List.count_nil, add_zero]
      omega
  | savesPassed hcopy hs' _ =>
    obtain ⟨_, _, _, hcount, hlock⟩ := (attemptOk_of_passedCopy hcopy).1 hall
    have hzero : (wrong : Int) = 0 := h.right e.attempt (by rw [hs]; exact foundRight_of_passedCopy hcopy)
    refine ⟨_, rfl, fun _ => ?_, fun _ => ?_, ?_, right_of_othersSaved (halone (unsaved_of_passedCopy hcopy))
      fun hright => absurd (unsaved_of_foundRight hright) hs'⟩
    · rw [hcount]
      decide
    · simp [hzero, hcount]
    · simp [hzero, hcount]

/-! ## A lock stays -/

/-- A step that meets its condition keeps a lock, or its time has passed. -/
theorem lock_step (e : TwoFAEvent ι) (u : Int)
    (hfresh : ComparesFresh code c e) (hinv : TwoFAInv c) (h : u ≤ c.shared.now ∨ c.shared.lockedUntil = some u) :
    u ≤ (twoFAStep env code c e).shared.now ∨ (twoFAStep env code c e).shared.lockedUntil = some u := by
  refine twoFAStep_goes (P := fun c' _ => u ≤ c'.shared.now ∨ c'.shared.lockedUntil = some u) hinv hfresh fun db' s' acts hgoes => ?_
  have hlater : u ≤ (c.shared.at e).now ∨ (c.shared.at e).lockedUntil = some u := by
    refine h.imp_left fun hu => hu.trans ?_
    simp [TwoFADb.at]
  have hall := (hinv.at e).attempts e.attempt
  generalize hs : c.threads e.attempt = s at hgoes
  rw [hs] at hall
  -- the row of an outcome that is saved was not locked any more
  have hpassed : ∀ row, (c.shared.at e).twoFA = some row → LockPassed row (c.shared.at e).now → u ≤ (c.shared.at e).now := by
    intro row hrow hlock
    rcases hlater with hu | hu
    · exact hu
    · rw [TwoFADb.lockedUntil, hrow] at hu
      exact hlock u hu
  cases hgoes with
  | moves _ _ _ | fails _ _ _ _ _ | passes _ _ _ _ _ | finds _ _ _ _ _ | uses _ _ => exact hlater
  | savesFailed hcopy _ _ =>
    obtain ⟨row, hrow, hlock, _⟩ := (attemptOk_of_failedCopy hcopy).1 hall
    exact .inl (hpassed row hrow hlock)
  | savesPassed hcopy _ _ =>
    obtain ⟨row, hrow, hlock, _⟩ := (attemptOk_of_passedCopy hcopy).1 hall
    exact .inl (hpassed row hrow hlock)

/-! ## The runs -/

variable {es : List (TwoFAEvent ι)}

theorem backupCodesOnce_of_fresh (hstart : ∀ i t bc, c.threads i ≠ .redeeming t bc)
    (h : Along (twoFAStep env code) (fun c e => ComparesFresh code c e ∧ TwoFAInv c) c es) : BackupCodesOnce env code c es := by
  have hempty : UsedOnce c [] := ⟨by simp, by simp, fun i t bc hi => absurd hi (hstart i t bc)⟩
  exact (h.invariant_traced (fun c e acts hok hused => usedOnce_step e acts hok.1 hok.2 hused) hempty).once

theorem wrong_le_of_fresh (hrow : c.shared.twoFA = some row) (hzero : row.failedAttempts = 0)
    (h : Along (twoFAStep env code) (fun c e => ComparesFresh code c e ∧ TwoFAInv c) c es)
    (hright : ∀ i, .right i ∉ trace (twoFAStep env code) (twoFAActs env code) c es)
    (hunlocked : (exec (twoFAStep env code) c es).shared.lockedUntil = none) :
    (trace (twoFAStep env code) (twoFAActs env code) c es).count .wrong ≤ maxFailAttempts := by
  have hnone : Along (twoFAStep env code) (fun c e => ∀ act ∈ twoFAActs env code c e, ∀ i, act ≠ .right i) c es :=
    along_of_trace fun act hact i heq => hright i (heq ▸ hact)
  have hempty : Counted c (([] : List (TwoFAAct ι)).count .wrong : Nat) row :=
    ⟨hrow, fun _ => by rw [hzero]; decide, fun _ => by simp [hzero], by simp [hzero], by simp⟩
  obtain ⟨last, hlast⟩ := (along_and.2 ⟨h, hnone⟩).invariant_traced
    (P := fun c (acts : List (TwoFAAct ι)) => ∃ row, Counted c (acts.count .wrong : Nat) row) (fun c e acts hok hcounted => by
      rw [List.count_append]
      exact counted_step e (acts.count .wrong) hok.1.1 (fun i hi => hok.2 _ hi i rfl) hok.1.2 hcounted) ⟨row, hempty⟩
  have hlt : last.failedAttempts < maxFailAttempts := by
    refine hlast.unlocked ?_
    rw [TwoFADb.lockedUntil, hlast.table] at hunlocked
    exact hunlocked
  have hnext := hlast.next
  rw [List.nil_append] at hnext
  omega

theorem lock_of_fresh {u : Int} (hlock : c.shared.lockedUntil = some u)
    (h : Along (twoFAStep env code) (fun c e => ComparesFresh code c e ∧ TwoFAInv c) c es) :
    u ≤ (exec (twoFAStep env code) c es).shared.now ∨ (exec (twoFAStep env code) c es).shared.lockedUntil = some u :=
  h.invariant (P := fun c => u ≤ c.shared.now ∨ c.shared.lockedUntil = some u)
    (fun _ e hok hlater => lock_step e u hok.1 hok.2 hlater) (.inr hlock)

end TwoFAAux

open TwoFAAux

/-- In every run of any number of attempts, whatever their codes, in which each code is compared with what the tables hold while no other
attempt has an outcome to save: each backup code is used up at most once, at most `MaxFailAttempts` wrong codes are compared before a
right one or a lock, and a lock stays. -/
theorem twoFA_limits_hold {ι : Type} [DecidableEq ι] (env : TwoFAEnv) (code : ι → String) (db : TwoFADb) (es : List (TwoFAEvent ι))
    (h : Along (twoFAStep env code) (ComparesFresh code) ⟨db, fun _ => .ready⟩ es) :
    BackupCodesOnce env code ⟨db, fun _ => .ready⟩ es ∧ WrongCodesBounded env code ⟨db, fun _ => .ready⟩ es ∧
      LockStays env code ⟨db, fun _ => .ready⟩ es := by
  have hfresh := h.and_kept (P := TwoFAInv)
    (fun c e hfresh hc => twoFAStep_goes (P := fun c' _ => TwoFAInv c') hc hfresh fun _ _ _ hgoes => (hc.at e).goes hgoes)
    ⟨fun _ => trivial, fun _ _ hi => absurd hi not_false⟩
  refine ⟨backupCodesOnce_of_fresh (by simp) hfresh, ?_, ?_⟩
  · rintro pre post rfl start acts ⟨row, hrow, hzero, -⟩ hunlocked hright
    have hpost := ((along_append _ _ _ _).1 hfresh).2
    exact wrong_le_of_fresh hrow hzero hpost hright (hunlocked post (List.prefix_refl _))
  · rintro pre post u rfl start finish hlock
    rcases lock_of_fresh hlock ((along_append _ _ _ _).1 hfresh).2 with hpassed | hstays
    · exact .inl hpassed
    · exact .inr (.inl ⟨u, hstays, le_rfl⟩)

/-! ## Attempts one after the other, and attempts that overlap -/

namespace TwoFAAux

/-- A comparison of codes with secrets and hashes that are the codes themselves. -/
def plainEnv : TwoFAEnv where
  totpValidate _ passcode secret := passcode == secret
  validatePasswordAndHash password hash := password == hash
  toUpper := Char.toUpper
  formatTime := toString

/-- A user with failed attempts and a backup code. -/
def plainDb (failedAttempts : Int) : TwoFADb where
  now := 1000
  twoFA := some { secret := "123456", isEnabled := true, failedAttempts := failedAttempts, lockedUntil := none, lastUsedAt := none }
  codes := [{ id := 1, codeHash := "AAAA-1111", isUsed := false, usedAt := none }]

/-- Attempts take turns, at one time. -/
def turns (attempts : List Nat) : List (TwoFAEvent Nat) := attempts.map fun i => { attempt := i }

end TwoFAAux

/-- A wrong one-time password and then a backup code. -/
theorem twoFA_limits_hold_in_turn :
    let code : Bool → String := fun i => if i then "aaaa1111" else "000000"
    let es : List (TwoFAEvent Bool) :=
      [{ attempt := false }, { attempt := false }, { attempt := false }, { attempt := false }, { attempt := true, elapsed := 60 },
        { attempt := true }, { attempt := true }, { attempt := true }, { attempt := true }, { attempt := true }]
    BackupCodesOnce plainEnv code ⟨plainDb 0, fun _ => .ready⟩ es ∧ WrongCodesBounded plainEnv code ⟨plainDb 0, fun _ => .ready⟩ es ∧
      LockStays plainEnv code ⟨plainDb 0, fun _ => .ready⟩ es :=
  twoFA_limits_hold plainEnv _ (plainDb 0) _ (by decide +kernel)

/-- Two attempts read the backup code before either of them uses it up, and both use it; six attempts read the row before any of them
saves it, and six wrong codes are compared; and an attempt that read the row before two others failed saves its copy over their lock. -/
theorem twoFA_limits_fail :
    ¬ BackupCodesOnce plainEnv (fun _ => "aaaa1111") ⟨plainDb 0, fun _ => .ready⟩ (turns [0, 0, 0, 1, 1, 1, 0, 0, 1, 1]) ∧
    ¬ WrongCodesBounded plainEnv (fun _ => "000000") ⟨plainDb 0, fun _ => .ready⟩ (turns [0, 1, 2, 3, 4, 5, 0, 1, 2, 3, 4, 5]) ∧
    ¬ LockStays plainEnv (fun _ => "000000") ⟨plainDb 3, fun _ => .ready⟩ (turns [1, 0, 0, 0, 2, 2, 2, 1, 1]) := by
  refine ⟨fun h => ?_, fun h => ?_, fun h => ?_⟩
  · exact absurd (h 1) (by decide +kernel)
  · have hacts : trace (twoFAStep plainEnv fun _ => "000000") (twoFAActs plainEnv fun _ => "000000") ⟨plainDb 0, fun _ => .ready⟩
        (turns [0, 1, 2, 3, 4, 5, 0, 1, 2, 3, 4, 5]) = List.replicate 6 .wrong := by decide +kernel
    have hopen : ∀ mid ∈ (turns [0, 1, 2, 3, 4, 5, 0, 1, 2, 3, 4, 5]).inits,
        (exec (twoFAStep plainEnv fun _ => "000000") ⟨plainDb 0, fun _ => .ready⟩ mid).shared.lockedUntil = none := by
      decide +kernel
    have hbound := h [] (turns [0, 1, 2, 3, 4, 5, 0, 1, 2, 3, 4, 5]) rfl ⟨_, rfl, rfl, rfl⟩
      fun mid hmid => hopen mid ((List.mem_inits _ _).2 hmid)
    rw [exec_nil, hacts] at hbound
    exact absurd (hbound (by simp)) (by decide)
  · have hacts : trace (twoFAStep plainEnv fun _ => "000000") (twoFAActs plainEnv fun _ => "000000")
        (exec (twoFAStep plainEnv fun _ => "000000") ⟨plainDb 3, fun _ => .ready⟩ (turns [1, 0, 0, 0, 2, 2, 2]))
        (turns [1, 1]) = [.wrong] := by decide +kernel
    rcases h (turns [1, 0, 0, 0, 2, 2, 2]) (turns [1, 1]) 1300 rfl (by decide +kernel) with hpassed | ⟨u, hu, -⟩ | ⟨i, -, hright⟩
    · exact absurd hpassed (by decide +kernel)
    · cases hu
    · rw [hacts] at hright
      simp at hright

end NewApi
