import Mathlib
import NewApi.Accounts.Provision
import NewApi.Theorems.Register

/-!
# One account per phone, where at most one account is without

The unique index on the phone compares the raw column, which is an empty string where no phone is given: it lets one account without a
phone in, and refuses the second (`second_phoneless_refused`). A phone padded with blanks is validated trimmed but looked up, verified and
stored as it came, and gives a second account to a number that has one. These are the only exceptions (`one_account_per_phone`).
-/

namespace NewApi

open Threads Run Tx UserTable RegisterAux

namespace PhoneAux

/-! ## Numbers -/

/-- A valid number is the text without the blanks around it. -/
theorem normalize_ok {phone number : String} (h : normalizeMainlandChinaPhone phone = .ok number) : number = Text.trimSpace phone := by
  unfold normalizeMainlandChinaPhone at h
  split at h
  · cases h
    rfl
  · cases h

theorem phoneNumber_eq_some {a : Account} {number : String} (h : a.phoneNumber = some number) :
    ∃ p, a.phone = some p ∧ number = Text.trimSpace p := by
  obtain ⟨p, hp, hnum⟩ := Option.bind_eq_some_iff.1 h
  refine ⟨p, hp, normalize_ok ?_⟩
  cases hn : normalizeMainlandChinaPhone p with
  | error e => rw [hn] at hnum; cases hnum
  | ok n => rw [hn] at hnum; cases hnum; rfl

theorem unpadded_of_trim {a : Account} {p : String} (hp : a.phone = some p) (h : Text.trimSpace p = p) : a.Unpadded := by
  intro number hnum
  obtain ⟨p', hp', rfl⟩ := phoneNumber_eq_some hnum
  rw [hp] at hp'
  cases hp'
  rw [h, hp]

theorem trim_number {call : CreationCall} {number : String} (h : call.number = some number) : Text.trimSpace number = number := by
  unfold CreationCall.number at h
  split at h
  · rename_i phone code
    cases hn : normalizeMainlandChinaPhone phone with
    | error e => rw [hn] at h; cases h
    | ok n =>
      rw [hn] at h
      cases h
      rw [normalize_ok hn, Text.trimSpace_idem]
  · cases h

/-! ## What a creation knows where it stands -/

/-- An account as the creation may write it: the phone unpadded, the number of an `Authenticate` call, and empty for a creation
without a phone. -/
structure Writes (call : CreationCall) (a : Account) : Prop where
  unpadded : a.Unpadded
  number : ∀ number, call.number = some number → a.phone = some number
  phoneless : call.phoneless = true → a.phone = some ""

variable {ι : Type} [DecidableEq ι] {call : CreationCall} {a : Account} {env : ProvisionEnv} {t : UserTable ι} {i : ι}
  {s s' : CreationState}

/-- What holds of a creation where it stands. -/
def CallOk (call : CreationCall) (t : UserTable ι) (i : ι) : CreationState → Prop
  | .ready => True
  | .checking b => call = .register (some b)
  | .provisioning a => Writes call a
  | .inserted a => Writes call a ∧ a ∈ t.rows.pending i ∧ a.id ≤ t.lastId
  | .recovering p _ => call.phoneless = false ∧ ∀ number, call.number = some number → p = number
  | .done (.ok (a, m)) =>
    (∀ number, call.number = some number → a.phone = some number ∧ a ∈ t.rows.committed) ∧ (m = true → a.id ≤ t.lastId)
  | .done (.error failure) => call.phoneless = true → failure ≠ .duplicate .phone

def made : CreationState → Option Account
  | .inserted a => some a
  | .done (.ok (a, true)) => some a
  | _ => none

/-- What holds of a creation survives the others' statements: rows stay, and ids only grow. -/
theorem CallOk.mono {t t' : UserTable ι} (h : CallOk call t i s)
    (hpending : t'.rows.pending i = t.rows.pending i) (hcommitted : ∀ a ∈ t.rows.committed, a ∈ t'.rows.committed)
    (hid : t.lastId ≤ t'.lastId) : CallOk call t' i s := by
  cases s with
  | ready => trivial
  | checking _ | provisioning _ | recovering _ _ => exact h
  | inserted a => exact ⟨h.1, hpending ▸ h.2.1, h.2.2.trans hid⟩
  | done result =>
    cases result with
    | error failure => exact h
    | ok out =>
      obtain ⟨a, m⟩ := out
      refine ⟨fun number hn => ?_, fun hm => (h.2 hm).trans hid⟩
      obtain ⟨hp, hc⟩ := h.1 number hn
      exact ⟨hp, hcommitted a hc⟩

/-- A failed `ProvisionUser` leaves a creation in order, unless a phoneless one failed on the phone's index. -/
theorem callOk_provisionFails {failure : CreationError} (t : UserTable ι) (i : ι)
    (hw : Writes call a) (hf : call.phoneless = true → failure ≠ .duplicate .phone) :
    CallOk call t i (provisionFails call a failure) ∧ made (provisionFails call a failure) = none := by
  unfold provisionFails
  split
  · refine ⟨⟨rfl, fun number hn => ?_⟩, rfl⟩
    rw [hw.number number hn]
    rfl
  · exact ⟨hf, rfl⟩

theorem callOk_refused (t : UserTable ι) (i : ι) (hw : Writes call a) (text : String) :
    CallOk call t i (provisionFails call a (.message text)) ∧ made (provisionFails call a (.message text)) = none :=
  callOk_provisionFails t i hw fun _ => nofun

/-- An account found by a call's number leaves the call in order. -/
theorem callOk_phoneAccount {p : String} {failure : CreationError}
    (hfound : t.getUserByPhoneUnscoped p = some a) (hcall : call.phoneless = false)
    (hp : ∀ number, call.number = some number → p = number) :
    CallOk call t i (phoneAccount a failure) ∧ made (phoneAccount a failure) = none := by
  have hrow : a ∈ t.rows.committed ∧ a.phone = some p := by
    unfold getUserByPhoneUnscoped at hfound
    split at hfound
    · cases hfound
    · exact ⟨List.mem_of_find?_eq_some hfound, by simpa using List.find?_some hfound⟩
  unfold phoneAccount
  split
  · refine ⟨fun hn => ?_, rfl⟩
    rw [hcall] at hn
    cases hn
  · refine ⟨⟨fun number hn => ⟨?_, hrow.1⟩, fun hm => by cases hm⟩, rfl⟩
    rw [hrow.2, hp number hn]

/-! ## What one statement does -/

inductive Goes (call : CreationCall) (e : CreationEvent ι) (t : UserTable ι) :
    CreationState → UserTable ι → CreationState → Prop where
  | stays (s : CreationState) : Goes call e t s t s
  | turns (s s' : CreationState) (hs' : CallOk call t e.caller s') (hmade : made s' = none) : Goes call e t s t s'
  | inserts (s : CreationState) (a a' : Account) (t' : UserTable ι) (hins : t.insert e.caller a = .inserted t' a')
      (hw : Writes call a) : Goes call e t s t' (.inserted a')
  | commits (a : Account) : Goes call e t (.inserted a) (t.commit e.caller) (.done (.ok (a, true)))
  | rollsBack (a : Account) (s' : CreationState) (hs' : ∀ t' : UserTable ι, CallOk call t' e.caller s') (hmade : made s' = none) :
      Goes call e t (.inserted a) (t.rollback e.caller) s'
  | insertsAlone (s : CreationState) (a a' : Account) (t' : UserTable ι) (hins : t.insert e.caller a = .inserted t' a')
      (hw : Writes call a) : Goes call e t s (t'.commit e.caller) (.done (.ok (a', true)))

theorem goes_fails (call : CreationCall) (e : CreationEvent ι) (t : UserTable ι) (s : CreationState) (text : String) :
    Goes call e t s t (creationFails text) :=
  .turns _ _ (fun _ => nofun) rfl

/-- A write that gives no phone is a write of any creation without one. -/
theorem writes_phoneless (hp : a.phone = some "") (hn : call.number = none) : Writes call a :=
  ⟨unpadded_of_trim hp (by decide), fun number h => (by rw [hn] at h; cases h), fun _ => hp⟩

/-- The index of the phone refuses no creation without one while no account has an empty phone. -/
theorem duplicate_ne_phone {col : UserColumn} (h : t.insert i a = .duplicate col)
    (hp : a.phone = some "") (hfree : "" ∉ t.rows.keys UserColumn.phone.key) : col ≠ .phone := by
  rintro rfl
  obtain ⟨r, hr, hkey⟩ := List.mem_map.1 (insert_duplicate h)
  refine hfree (List.mem_filterMap.2 ⟨r, (Rows.visible_sublist_all t.rows i).mem hr, ?_⟩)
  rw [hkey]
  exact hp

/-- The checks of a registration. -/
theorem registerBegins_goes {body : Option RegisterBody} (e : CreationEvent ι) :
    Goes (.register body) e t .ready t (registerBegins env body e t) := by
  unfold registerBegins
  split
  · exact goes_fails _ e t _ _
  rename_i b hchecks
  split
  · exact goes_fails _ e t _ _
  · obtain ⟨-, -, hbody, -, -, -⟩ := registerChecks_ok hchecks
    exact .turns _ _ (congrArg CreationCall.register hbody) rfl

/-- The lookup of a login by phone. -/
theorem authenticateBegins_goes {phone code : String} (e : CreationEvent ι) :
    Goes (.authenticate phone code) e t .ready t (authenticateBegins env phone code e t) := by
  unfold authenticateBegins
  split
  · exact goes_fails _ e t _ _
  split
  · exact goes_fails _ e t _ _
  rename_i number hnumber
  have hcall : (CreationCall.authenticate phone code).number = some number := by
    simp only [CreationCall.number, hnumber]
    rfl
  have honly : ∀ n, (CreationCall.authenticate phone code).number = some n → number = n := by
    intro n hn
    exact Option.some.inj (hcall.symm.trans hn)
  split
  · exact goes_fails _ e t _ _
  split
  · exact goes_fails _ e t _ _
  · exact goes_fails _ e t _ _
  · split
    · exact goes_fails _ e t _ _
    split
    · rename_i a hfound
      obtain ⟨hok, hmade⟩ := callOk_phoneAccount hfound rfl honly
      exact .turns _ _ hok hmade
    · split
      · refine .turns _ _ ⟨unpadded_of_trim rfl (trim_number hcall), ?_, fun h => by cases h⟩ rfl
        intro n hn
        exact congrArg some (honly n hn)
      · exact goes_fails _ e t _ _

/-- The insert of an account without a phone. -/
theorem userInsert_goes {username : String} (e : CreationEvent ι) (hfree : "" ∉ t.rows.keys UserColumn.phone.key) :
    Goes (.insert username) e t .ready (userInsert username e t).1 (userInsert username e t).2 := by
  unfold userInsert
  split
  · exact .stays _
  · rename_i col hdup
    have hcol := duplicate_ne_phone hdup rfl hfree
    exact .turns _ _ (fun _ h => hcol (CreationError.duplicate.inj h)) rfl
  · rename_i t' a' hins
    exact .insertsAlone _ _ a' t' hins (writes_phoneless rfl rfl)

/-- The insert of a provisioned account. -/
theorem provisionInsert_goes (e : CreationEvent ι) (hw : Writes call a)
    (hfree : a.phone = some "" → "" ∉ t.rows.keys UserColumn.phone.key) :
    Goes call e t (.provisioning a) (provisionInsert call e t a).1 (provisionInsert call e t a).2 := by
  unfold provisionInsert
  split
  · exact .stays _
  · rename_i col hdup
    have hcol : call.phoneless = true → CreationError.duplicate col ≠ .duplicate .phone := by
      intro hcall h
      have hp := hw.phoneless hcall
      exact duplicate_ne_phone hdup hp (hfree hp) (CreationError.duplicate.inj h)
    obtain ⟨hok, hmade⟩ := callOk_provisionFails t e.caller hw hcol
    exact .turns _ _ hok hmade
  · rename_i t' a' hins
    exact .inserts _ _ a' t' hins ⟨hw.unpadded, hw.number, hw.phoneless⟩

/-- The check of the name. -/
theorem checking_goes {b : RegisterBody} (e : CreationEvent ι) (hb : call = .register (some b)) (hpad : call.Unpadded) :
    Goes call e t (.checking b) t (.provisioning (registeredAccount env.registration b e.generated "")) := by
  subst hb
  refine .turns _ _ ⟨unpadded_of_trim rfl hpad, nofun, fun h => ?_⟩ rfl
  exact congrArg some (by simpa [CreationCall.phoneless] using h)

/-- Every statement of a creation in order that pads no phone goes one of these ways. -/
theorem creationStatement_goes {e : CreationEvent ι} (hcall : CallOk call t e.caller s) (hpad : call.Unpadded)
    (hfree : s.insertsPhone call = some "" → e.fault = none → "" ∉ t.rows.keys UserColumn.phone.key) :
    Goes call e t s (creationStatement env call e t s).1 (creationStatement env call e t s).2 := by
  cases s with
  | done result => exact .stays _
  | ready =>
    cases call with
    | register body => exact registerBegins_goes e
    | authenticate phone code =>
      simp only [creationStatement]
      exact authenticateBegins_goes e
    | insert username =>
      simp only [creationStatement]
      split
      · exact goes_fails _ e t _ _
      · rename_i hfault
        exact userInsert_goes e (hfree rfl hfault)
    | oauth username => exact .turns _ _ (writes_phoneless rfl rfl) rfl
  | checking b =>
    simp only [creationStatement]
    split
    · exact goes_fails _ e t _ _
    split
    · exact goes_fails _ e t _ _
    · exact checking_goes e hcall hpad
  | provisioning a =>
    simp only [creationStatement]
    split
    · rename_i text _
      obtain ⟨hok, hmade⟩ := callOk_refused t e.caller hcall text
      exact .turns _ _ hok hmade
    · rename_i hfault
      exact provisionInsert_goes e hcall fun hp => hfree hp hfault
  | inserted a =>
    simp only [creationStatement]
    split
    · rename_i text _
      exact .rollsBack a _ (fun t' => (callOk_refused t' e.caller hcall.1 text).1) (callOk_refused t e.caller hcall.1 text).2
    · exact .commits a
  | recovering p failure =>
    simp only [creationStatement]
    split
    · rename_i a _ hfound
      obtain ⟨hok, hmade⟩ := callOk_phoneAccount hfound hcall.1 hcall.2
      exact .turns _ _ hok hmade
    · refine .turns _ _ (fun hn => ?_) rfl
      rw [hcall.1] at hn
      cases hn

/-! ## The invariant -/

/-- The invariant of a run: the index holds, every phone is written as its number, every creation is in order, and no two
creations made one account. -/
structure PhoneInv (calls : ι → CreationCall) (c : Conf (UserTable ι) ι CreationState) : Prop where
  index : (c.shared.rows.keys UserColumn.phone.key).Nodup
  unpadded : ∀ a ∈ c.shared.rows.all, a.Unpadded
  calls : ∀ i, CallOk (calls i) c.shared i (c.threads i)
  makers : ∀ i j a b, made (c.threads i) = some a → made (c.threads j) = some b → a.id = b.id → i = j

theorem CallOk.made_le (h : CallOk call t i s) (hm : made s = some a) : a.id ≤ t.lastId := by
  unfold made at hm
  split at hm
  · cases hm
    exact h.2.2
  · cases hm
    exact h.2 rfl
  · cases hm

variable {calls : ι → CreationCall} {c : Conf (UserTable ι) ι CreationState}

/-- The creations after a statement of one: its own is in order, the others' are untouched. -/
theorem calls_update {t' : UserTable ι} (h : PhoneInv calls c) (hself : CallOk (calls i) t' i s')
    (hpending : ∀ j, j ≠ i → t'.rows.pending j = c.shared.rows.pending j)
    (hcommitted : ∀ a ∈ c.shared.rows.committed, a ∈ t'.rows.committed) (hid : c.shared.lastId ≤ t'.lastId) :
    ∀ j, CallOk (calls j) t' j (Function.update c.threads i s' j) := by
  refine (Function.forall_update_iff c.threads (p := fun j s => CallOk (calls j) t' j s)).2 ⟨hself, ?_⟩
  intro j hj
  exact (h.calls j).mono (hpending j hj) hcommitted hid

/-- A step that makes no account adds no maker. -/
theorem makers_update (h : PhoneInv calls c) (hmade : ∀ a, made s' = some a → made (c.threads i) = some a) :
    ∀ j k a b, made (Function.update c.threads i s' j) = some a → made (Function.update c.threads i s' k) = some b →
      a.id = b.id → j = k := by
  have hold : ∀ j a, made (Function.update c.threads i s' j) = some a → made (c.threads j) = some a := by
    intro j a hj
    by_cases hji : j = i
    · subst hji
      rw [Function.update_self] at hj
      exact hmade a hj
    · rwa [Function.update_of_ne hji] at hj
  intro j k a b hj hk hab
  exact h.makers j k a b (hold j a hj) (hold k b hk) hab

/-- The makers after a creation made an account of a new id. -/
theorem makers_new {a' : Account} (h : PhoneInv calls c) (hmade : made s' = some a') (hid : c.shared.lastId < a'.id) :
    ∀ j k a b, made (Function.update c.threads i s' j) = some a → made (Function.update c.threads i s' k) = some b →
      a.id = b.id → j = k := by
  have hless : ∀ j a, j ≠ i → made (Function.update c.threads i s' j) = some a → a.id < a'.id := by
    intro j a hj hm
    rw [Function.update_of_ne hj] at hm
    exact ((h.calls j).made_le hm).trans_lt hid
  have hself : ∀ a, made (Function.update c.threads i s' i) = some a → a = a' := by
    intro a hm
    rw [Function.update_self, hmade] at hm
    exact (Option.some.inj hm).symm
  intro j k a b hj hk hab
  by_cases hji : j = i
  · subst hji
    by_cases hki : k = j
    · exact hki.symm
    have hlt := hless k b hki hk
    rw [← hab, hself a hj] at hlt
    exact absurd hlt (lt_irrefl _)
  · by_cases hki : k = i
    · subst hki
      have hlt := hless j a hji hj
      rw [hab, hself b hk] at hlt
      exact absurd hlt (lt_irrefl _)
    · rw [Function.update_of_ne hji] at hj
      rw [Function.update_of_ne hki] at hk
      exact h.makers j k a b hj hk hab

/-- What an insert does: the index and the form of the phones are kept, the new row has a new id and is the inserter's own, and the rows
of the others and those that are committed stay. -/
structure InsertedRow (call : CreationCall) (i : ι) (t t' : UserTable ι) (a' : Account) : Prop where
  index : (t'.rows.keys UserColumn.phone.key).Nodup
  unpadded : ∀ a ∈ t'.rows.all, a.Unpadded
  writes : Writes call a'
  pending : a' ∈ t'.rows.pending i
  others : ∀ j, j ≠ i → t'.rows.pending j = t.rows.pending j
  committed : ∀ a ∈ t.rows.committed, a ∈ t'.rows.committed
  new : t.lastId < a'.id
  given : a'.id ≤ t'.lastId
  grows : t.lastId ≤ t'.lastId

/-- What an insert adds. -/
theorem rows_insert {t t' : UserTable ι} {a a' : Account} (hindex : (t.rows.keys UserColumn.phone.key).Nodup)
    (hunpadded : ∀ a ∈ t.rows.all, a.Unpadded) (hins : t.insert i a = .inserted t' a') (hw : Writes call a) :
    InsertedRow call i t t' a' := by
  obtain ⟨rfl, rfl, hnew⟩ := insert_inserted hins
  refine ⟨Rows.keys_insert_nodup i hindex (hnew .phone), ?_, ⟨hw.unpadded, hw.number, hw.phoneless⟩, ?_, ?_, ?_, ?_, ?_, ?_⟩
  · intro r hr
    rw [Rows.all_insert, List.mem_append, List.mem_singleton] at hr
    rcases hr with hr | rfl
    · exact hunpadded r hr
    · exact hw.unpadded
  · rw [Rows.pending_insert_self]
    exact List.mem_append_right _ List.mem_cons_self
  · intro j hj
    exact Rows.pending_insert_ne _ _ hj
  · intro r hr
    rw [Rows.committed_insert]
    exact hr
  · exact Nat.lt_succ_self _
  · exact le_refl _
  · exact Nat.le_succ _

/-- An insert keeps the invariant. -/
theorem PhoneInv.inserted {a a' : Account} {t' : UserTable ι} (h : PhoneInv calls c)
    (hins : c.shared.insert i a = .inserted t' a') (hw : Writes (calls i) a) :
    PhoneInv calls ⟨t', Function.update c.threads i (.inserted a')⟩ := by
  have hrow := rows_insert h.index h.unpadded hins hw
  exact ⟨hrow.index, hrow.unpadded,
    calls_update h ⟨hrow.writes, hrow.pending, hrow.given⟩ hrow.others hrow.committed hrow.grows, makers_new h rfl hrow.new⟩

/-- So does a commit. -/
theorem PhoneInv.committed (h : PhoneInv calls c) (hs : c.threads i = .inserted a) :
    PhoneInv calls ⟨c.shared.commit i, Function.update c.threads i (.done (.ok (a, true)))⟩ := by
  have hcall := h.calls i
  rw [hs] at hcall
  obtain ⟨hw, hpending, hid⟩ := hcall
  refine ⟨?_, ?_, calls_update h ⟨?_, fun _ => hid⟩ ?_ ?_ (le_refl _), makers_update h ?_⟩
  · simpa only [commit, Rows.keys_commit] using h.index
  · simpa only [commit, Rows.all_commit] using h.unpadded
  · intro number hn
    exact ⟨hw.number number hn, Rows.mem_committed_commit.2 (.inr hpending)⟩
  · intro j hj
    exact Rows.pending_commit_ne _ hj
  · intro r hr
    exact Rows.mem_committed_commit.2 (.inl hr)
  · intro r hr
    cases hr
    rw [hs]
    rfl

/-- So does every step that meets the condition. -/
theorem phoneInv_step {e : CreationEvent ι} (hpad : ∀ i, (calls i).Unpadded)
    (hok : PhonelessAlone calls c e) (h : PhoneInv calls c) : PhoneInv calls (creationStep env calls c e) := by
  have hcall := h.calls e.caller
  have hgoes : Goes (calls e.caller) e c.shared (c.threads e.caller)
      (creationStatement env (calls e.caller) e c.shared (c.threads e.caller)).1
      (creationStatement env (calls e.caller) e c.shared (c.threads e.caller)).2 :=
    creationStatement_goes hcall (hpad e.caller) hok
  refine Conf.act_of_ways hgoes ?_
  intro s t' s' hs hgoes
  cases hgoes with
  | stays s =>
    subst hs
    rw [Function.update_eq_self]
    exact h
  | turns s s' hs' hmade =>
    refine ⟨h.index, h.unpadded, calls_update h hs' (fun _ _ => rfl) (fun _ ha => ha) (le_refl _), makers_update h ?_⟩
    intro a ha
    rw [hmade] at ha
    cases ha
  | inserts s a a' t' hins hw => exact h.inserted hins hw
  | commits a => exact h.committed hs
  | rollsBack a s' hs' hmade =>
    refine ⟨Rows.keys_rollback_nodup e.caller h.index, ?_, calls_update h (hs' _) ?_ ?_ (le_refl _), makers_update h ?_⟩
    · intro r hr
      exact h.unpadded r ((Rows.all_rollback_sublist _ _).mem hr)
    · intro j hj
      exact Rows.pending_rollback_ne _ hj
    · intro r hr
      exact (Rows.committed_rollback c.shared.rows e.caller).symm ▸ hr
    · intro r hr
      rw [hmade] at hr
      cases hr
  | insertsAlone s a a' t' hins hw =>
    -- an insert outside a transaction is an insert with its commit
    have hdone := (h.inserted hins hw).committed (Function.update_self _ _ _)
    rwa [Function.update_idem] at hdone

/-! ## What the invariant says about numbers -/

/-- Where no phone is padded, the numbers are from the column. -/
theorem phoneNumbers_sublist {rows : List Account} (h : ∀ a ∈ rows, a.Unpadded) :
    List.Sublist (rows.filterMap Account.phoneNumber) (rows.filterMap UserColumn.phone.key) := by
  induction rows with
  | nil => exact List.Sublist.slnil
  | cons a rows ih =>
    have ih := ih fun b hb => h b (List.mem_cons_of_mem a hb)
    cases hn : a.phoneNumber with
    | none =>
      rw [List.filterMap_cons_none hn]
      exact ih.trans ((List.sublist_cons_self a rows).filterMap _)
    | some number =>
      have hp : UserColumn.phone.key a = some number := h a List.mem_cons_self number hn
      rw [List.filterMap_cons_some hn, List.filterMap_cons_some hp]
      exact ih.cons_cons number

theorem PhoneInv.oneAccountPerPhone (h : PhoneInv calls c) : OneAccountPerPhone calls c := by
  have hsame : ∀ i j number a b m n, (calls i).number = some number → (calls j).number = some number →
      c.threads i = .done (.ok (a, m)) → c.threads j = .done (.ok (b, n)) → a = b := by
    intro i j number a b m n hi hj hti htj
    have hcalli := h.calls i
    have hcallj := h.calls j
    rw [hti] at hcalli
    rw [htj] at hcallj
    obtain ⟨hpa, ha⟩ := hcalli.1 number hi
    obtain ⟨hpb, hb⟩ := hcallj.1 number hj
    have hsub := Rows.committed_sublist_all c.shared.rows
    exact Rows.eq_of_key_eq h.index (hsub.mem ha) (hsub.mem hb) hpa hpb
  refine ⟨?_, ?_, hsame, ?_⟩
  · intro i hphoneless hti
    have hcall := h.calls i
    rw [hti] at hcall
    exact hcall hphoneless rfl
  · have hrows : ∀ a ∈ c.shared.unscoped, a.Unpadded := fun a ha =>
      h.unpadded a ((Rows.committed_sublist_all c.shared.rows).mem ha)
    exact ((phoneNumbers_sublist hrows).trans ((Rows.committed_sublist_all _).filterMap _)).nodup h.index
  · intro i j number a b hi hj hti htj
    have hab := hsame i j number a b true true hi hj hti htj
    refine h.makers i j a b ?_ ?_ (by rw [hab])
    · rw [hti]
      rfl
    · rw [htj]
      rfl

end PhoneAux

open PhoneAux

/-- From a table whose phones are distinct and written as their numbers, in every run of registrations, phone logins, inserts and
OAuth creations in which no registration pads its phone and no account without a phone is inserted while there is one, every
state on the way has one account per phone. -/
theorem one_account_per_phone {ι : Type} [DecidableEq ι] (env : ProvisionEnv) (calls : ι → CreationCall) (rows : List Account)
    (hindex : (rows.filterMap UserColumn.phone.key).Nodup) (hrows : ∀ a ∈ rows, a.Unpadded)
    (hpad : ∀ i, (calls i).Unpadded) (es : List (CreationEvent ι))
    (halone : Along (creationStep env calls) (PhonelessAlone calls) (creationStart rows) es) :
    ∀ pre, pre <+: es → OneAccountPerPhone calls (exec (creationStep env calls) (creationStart rows) pre) := by
  intro pre hpre
  have h0 : PhoneInv calls (creationStart rows : Conf (UserTable ι) ι CreationState) := by
    refine ⟨?_, ?_, fun i => trivial, fun i j a b hi => by cases hi⟩
    · simpa [creationStart, Rows.keys] using hindex
    · simpa [creationStart] using hrows
  exact (halone.invariant_reached (fun _ _ hok h => phoneInv_step hpad hok h) h0 pre hpre).oneAccountPerPhone

/-! ## A second account without a phone, and a padded phone -/

namespace PhoneAux

/-- Registration is open, no code need be sent by email, and the SMS gateway takes the code 1234 for any phone. -/
def sampleProvision : ProvisionEnv :=
  ⟨⟨true, true, false⟩, ⟨fun _ _ => false, fun _ code => .ok (decide (code = "1234"))⟩, true, true⟩

def sampleRegistration (username phone : String) : CreationCall :=
  .register (some { username := username, password := "password1", phone := phone, verificationCode := "1234" })

/-- The statements of a registration: the checks, the look for the username, the insert and the commit. -/
def registrationTurns (i : Fin 2) (affCode : String) : List (CreationEvent (Fin 2)) :=
  List.replicate 4 ⟨i, none, "", affCode⟩

def twoRegistrations (phone phone' : String) : Conf (UserTable (Fin 2)) (Fin 2) CreationState :=
  exec (creationStep sampleProvision fun i => if i.val = 0 then sampleRegistration "alice" phone else sampleRegistration "bob" phone')
    (creationStart []) (registrationTurns ⟨0, Nat.zero_lt_two⟩ "aff0" ++ registrationTurns ⟨1, Nat.one_lt_two⟩ "aff1")

end PhoneAux

/-- Of two registrations without a phone the second is refused by the phone's index; and a registration with a blank before the
number of an account gives the number a second account. -/
theorem second_phoneless_refused :
    (twoRegistrations "" "").threads 1 = .done (.error (.duplicate .phone)) ∧
      (twoRegistrations "13800138000" " 13800138000").shared.unscoped.filterMap Account.phoneNumber = ["13800138000", "13800138000"] := by
  decide

theorem one_account_per_phone_sample :
    let calls : Fin 2 → CreationCall := fun i =>
      if i = 0 then sampleRegistration "alice" "" else .authenticate " 13800138000" "1234"
    let run := exec (creationStep sampleProvision calls) (creationStart [])
      (registrationTurns 0 "aff0" ++ List.replicate 3 ⟨1, none, "u_1", "aff1"⟩)
    (run.shared.unscoped.map Account.phone = [some "", some "13800138000"]) ∧ OneAccountPerPhone calls run := by
  refine ⟨by decide, ?_⟩
  refine one_account_per_phone sampleProvision _ [] List.nodup_nil (by simp) ?_ _ (by decide) _ List.prefix_rfl
  intro i
  by_cases hi : i = 0
  · subst hi
    show Text.trimSpace "" = ""
    decide
  · simp only [hi, if_false]
    trivial

end NewApi
