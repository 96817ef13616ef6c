import NewApi.Lib.Table

/-!
# Locks, and rows of a table under read-committed transactions

A lock is held by at most one transaction, and another that asks for it waits. A row is tagged with the transaction that inserted it until
that transaction commits. A transaction sees the committed rows and its own; a commit takes the tag off, a rollback takes the rows out.
Under a unique index a key of a row in sight is taken, and one of a row another transaction has not committed makes the insert wait. A
missing key clashes with nothing.
-/

namespace Tx

section Locks

variable {ι : Type*} [DecidableEq ι]

/-- A lock may be taken by `i`: nobody has it, or `i` has it. -/
def free (lock : Option ι) (i : ι) : Prop := lock = none ∨ lock = some i

instance (lock : Option ι) (i : ι) : Decidable (free lock i) := inferInstanceAs (Decidable (_ ∨ _))

/-- The lock once `i` is over. -/
def unlock (lock : Option ι) (i : ι) : Option ι := if lock = some i then none else lock

/-- A transaction that ends takes no other's lock away. -/
theorem unlock_eq_some {lock : Option ι} {i j : ι} (hj : j ≠ i) (h : lock = some j) : unlock lock i = some j := by
  have hne : ¬ lock = some i := by
    rw [h]
    intro heq
    exact hj (Option.some.inj heq)
  unfold unlock
  rw [if_neg hne, h]

end Locks

/-! ## Rows -/

/-- The rows of a table, each with the transaction that has not committed it yet. -/
@[ext] structure Rows (ι ρ : Type*) where
  entries : List (Option ι × ρ)

/-- What a unique index says to an insert. -/
inductive Verdict where
  | free | taken | waits
  deriving DecidableEq, Repr

namespace Rows

variable {ι ρ κ : Type*} {key : ρ → Option κ} {t : Rows ι ρ}

/-- A table of committed rows. -/
def ofList (rs : List ρ) : Rows ι ρ := ⟨rs.map (Prod.mk none)⟩

/-- All rows, committed or not. -/
def all (t : Rows ι ρ) : List ρ := t.entries.map Prod.snd

def committed (t : Rows ι ρ) : List ρ := (t.entries.filter (fun e => e.1.isNone)).map Prod.snd

/-- A row inserted by `i`. -/
def insert (t : Rows ι ρ) (i : ι) (r : ρ) : Rows ι ρ := ⟨t.entries ++ [(some i, r)]⟩

/-- Every committed row changed by `f`. -/
def modifyCommitted (t : Rows ι ρ) (f : ρ → ρ) : Rows ι ρ :=
  ⟨t.entries.map fun | (none, r) => (none, f r) | (some i, r) => (some i, r)⟩

variable [DecidableEq ι]

def visible (t : Rows ι ρ) (i : ι) : List ρ :=
  (t.entries.filter (fun e => e.1.isNone || decide (e.1 = some i))).map Prod.snd

/-- The rows `i` has inserted and not committed. -/
def pending (t : Rows ι ρ) (i : ι) : List ρ := (t.entries.filter (fun e => decide (e.1 = some i))).map Prod.snd

/-- Every row `i` has inserted and not committed, changed by `f`. -/
def modifyPending (t : Rows ι ρ) (i : ι) (f : ρ → ρ) : Rows ι ρ :=
  ⟨t.entries.map (fun e => if e.1 = some i then (e.1, f e.2) else e)⟩

def commit (t : Rows ι ρ) (i : ι) : Rows ι ρ := ⟨t.entries.map (fun e => if e.1 = some i then (none, e.2) else e)⟩

def rollback (t : Rows ι ρ) (i : ι) : Rows ι ρ := ⟨t.entries.filter (fun e => decide (e.1 ≠ some i))⟩

/-- What the unique index on `key` says to an insert of key `k` by `i`. -/
def check [DecidableEq κ] (key : ρ → Option κ) (t : Rows ι ρ) (i : ι) (k : Option κ) : Verdict :=
  match k with
  | none => .free
  | some k =>
    if some k ∈ (t.visible i).map key then .taken
    else if some k ∈ t.all.map key then .waits
    else .free

def keys (key : ρ → Option κ) (t : Rows ι ρ) : List κ := t.all.filterMap key

/-! ## What the operations do to the rows -/

omit [DecidableEq ι] in
@[simp] theorem all_ofList (rs : List ρ) : (ofList rs : Rows ι ρ).all = rs := by
  simp [ofList, all, Function.comp_def]

@[simp] theorem pending_ofList (rs : List ρ) (i : ι) : (ofList rs : Rows ι ρ).pending i = [] := by
  simp [ofList, pending]

section

variable (t) (i : ι)

omit [DecidableEq ι] in
@[simp] theorem all_insert (r : ρ) : (t.insert i r).all = t.all ++ [r] := by
  simp [insert, all]

omit [DecidableEq ι] in
@[simp] theorem committed_insert (r : ρ) : (t.insert i r).committed = t.committed := by
  simp [insert, committed]

@[simp] theorem all_commit : (t.commit i).all = t.all := by
  simp only [commit, all, List.map_map]
  refine List.map_congr_left fun e _ => ?_
  simp only [Function.comp_apply]
  split <;> rfl

/-- A rollback only removes rows. -/
theorem all_rollback_sublist : List.Sublist (t.rollback i).all t.all :=
  List.filter_sublist.map _

@[simp] theorem committed_rollback : (t.rollback i).committed = t.committed := by
  simp only [rollback, committed, List.filter_filter]
  congr 1
  refine List.filter_congr fun e _ => ?_
  cases e.1 <;> simp

theorem pending_insert_self (r : ρ) : (t.insert i r).pending i = t.pending i ++ [r] := by
  simp [insert, pending]

/-- An insert is pending for its own transaction only. -/
theorem pending_insert_ne {i j : ι} (r : ρ) (h : j ≠ i) : (t.insert i r).pending j = t.pending j := by
  simp [insert, pending, h.symm]

theorem pending_commit_self : (t.commit i).pending i = [] := by
  simp only [commit, pending, List.map_eq_nil_iff, List.filter_eq_nil_iff, List.mem_map, decide_eq_true_eq]
  rintro _ ⟨e, -, rfl⟩ h
  split at h
  · cases h
  · contradiction

/-- A commit leaves the rows of other transactions pending. -/
theorem pending_commit_ne {i j : ι} (h : j ≠ i) : (t.commit i).pending j = t.pending j := by
  simp only [commit, pending, List.filter_map, List.map_map]
  have hfilter : t.entries.filter ((fun e => decide (e.1 = some j)) ∘ fun e => if e.1 = some i then (none, e.2) else e) =
      t.entries.filter (fun e => decide (e.1 = some j)) := by
    refine List.filter_congr fun e _ => ?_
    simp only [Function.comp_apply]
    split
    · rename_i he
      simp [he, h.symm]
    · rfl
  rw [hfilter]
  refine List.map_congr_left fun e _ => ?_
  simp only [Function.comp_apply]
  split <;> rfl

theorem pending_rollback_self : (t.rollback i).pending i = [] := by
  simp [rollback, pending, List.filter_filter]

/-- A rollback leaves the rows of other transactions. -/
theorem pending_rollback_ne {i j : ι} (h : j ≠ i) : (t.rollback i).pending j = t.pending j := by
  simp only [rollback, pending, List.filter_filter]
  congr 1
  refine List.filter_congr fun e _ => ?_
  by_cases he : e.1 = some j
  · simp [he, h]
  · simp [he]

variable (f : ρ → ρ)

omit [DecidableEq ι] in
/-- What an update of the committed rows leaves committed. -/
theorem committed_modifyCommitted : (t.modifyCommitted f).committed = t.committed.map f := by
  obtain ⟨entries⟩ := t
  simp only [modifyCommitted, committed]
  induction entries with
  | nil => rfl
  | cons e es ih =>
    obtain ⟨tag, r⟩ := e
    cases tag with
    | none | some _ => simpa using ih

@[simp] theorem pending_modifyCommitted (i : ι) : (t.modifyCommitted f).pending i = t.pending i := by
  obtain ⟨entries⟩ := t
  simp only [modifyCommitted, pending]
  induction entries with
  | nil => rfl
  | cons e es ih =>
    obtain ⟨tag, r⟩ := e
    cases tag with
    | none => simpa using ih
    | some j => by_cases hj : j = i <;> simp [hj, ih]

@[simp] theorem committed_modifyPending : (t.modifyPending i f).committed = t.committed := by
  obtain ⟨entries⟩ := t
  simp only [modifyPending, committed]
  induction entries with
  | nil => rfl
  | cons e es ih =>
    obtain ⟨tag, r⟩ := e
    cases tag with
    | none => simp [ih]
    | some j => by_cases hj : j = i <;> simp [hj, ih]

theorem pending_modifyPending_self : (t.modifyPending i f).pending i = (t.pending i).map f := by
  obtain ⟨entries⟩ := t
  simp only [modifyPending, pending]
  induction entries with
  | nil => rfl
  | cons e es ih =>
    obtain ⟨tag, r⟩ := e
    by_cases hi : tag = some i <;> simp [hi, ih]

/-- A transaction changes its own pending rows only. -/
theorem pending_modifyPending_ne {i j : ι} (f : ρ → ρ) (h : j ≠ i) : (t.modifyPending i f).pending j = t.pending j := by
  obtain ⟨entries⟩ := t
  simp only [modifyPending, pending]
  induction entries with
  | nil => rfl
  | cons e es ih =>
    obtain ⟨tag, r⟩ := e
    by_cases hi : tag = some i
    · simp [hi, h.symm, ih]
    · by_cases hj : tag = some j <;> simp [hi, hj, h, ih]

/-- A commit adds the pending rows to the committed ones. -/
theorem countP_committed_commit (p : ρ → Bool) (i : ι) :
    (t.commit i).committed.countP p = t.committed.countP p + (t.pending i).countP p := by
  obtain ⟨entries⟩ := t
  simp only [commit, committed, pending]
  induction entries with
  | nil => rfl
  | cons e es ih =>
    obtain ⟨tag, r⟩ := e
    cases tag with
    | none => simp [List.countP_cons, ih]; omega
    | some j =>
      by_cases hj : j = i
      · simp [hj, List.countP_cons, ih]; omega
      · simp [hj, ih]

omit [DecidableEq ι] in
theorem committed_sublist_all : List.Sublist t.committed t.all :=
  List.filter_sublist.map _

/-- A transaction sees rows of the table only. -/
theorem visible_sublist_all : List.Sublist (t.visible i) t.all :=
  List.filter_sublist.map _

end

/-- What is committed stays committed, and a commit adds what was pending. -/
theorem mem_committed_commit {i : ι} {r : ρ} : r ∈ (t.commit i).committed ↔ r ∈ t.committed ∨ r ∈ t.pending i := by
  obtain ⟨entries⟩ := t
  simp only [commit, committed, pending]
  induction entries with
  | nil => simp
  | cons e es ih =>
    obtain ⟨tag, r'⟩ := e
    cases tag with
    | none =>
      simp only [List.map_cons, reduceCtorEq, if_false, List.filter_cons, Option.isNone_none, if_true, List.mem_cons, ih,
        decide_false, Bool.false_eq_true]
      tauto
    | some j =>
      by_cases hj : j = i
      · simp only [hj, List.map_cons, if_true, List.filter_cons, Option.isNone_none, List.mem_cons, ih, Option.isNone_some,
          Bool.false_eq_true, if_false, decide_true]
        tauto
      · simp only [List.map_cons, Option.some.injEq, hj, if_false, List.filter_cons, Option.isNone_some, Bool.false_eq_true,
          decide_false, ih]

/-! ## The unique index -/

/-- A key that is free is no row's. -/
theorem not_mem_keys_of_free [DecidableEq κ] {i : ι} {k : κ} (h : t.check key i (some k) = .free) : k ∉ t.keys key := by
  intro hk
  obtain ⟨r, hr, hkey⟩ := List.mem_filterMap.1 hk
  have hall : some k ∈ t.all.map key := List.mem_map.2 ⟨r, hr, hkey⟩
  unfold check at h
  simp only [hall, if_true] at h
  split at h <;> cases h

omit [DecidableEq ι] in
/-- Distinct keys stay distinct when a row of a new key, or of no key, is inserted. -/
theorem keys_insert_nodup {r : ρ} (i : ι) (h : (t.keys key).Nodup)
    (hnew : ∀ k, key r = some k → k ∉ t.keys key) : ((t.insert i r).keys key).Nodup := by
  unfold keys at *
  rw [all_insert, List.filterMap_append]
  cases hk : key r with
  | none => simpa [hk] using h
  | some k =>
    have hk' := hnew k hk
    simp only [List.filterMap_cons, hk, List.filterMap_nil]
    exact h.append (List.nodup_singleton k) (by simpa using hk')

@[simp] theorem keys_commit (key : ρ → Option κ) (t : Rows ι ρ) (i : ι) : (t.commit i).keys key = t.keys key := by
  simp [keys]

/-- A rollback keeps the keys apart. -/
theorem keys_rollback_nodup (i : ι) (h : (t.keys key).Nodup) : ((t.rollback i).keys key).Nodup :=
  ((all_rollback_sublist t i).filterMap key).nodup h

omit [DecidableEq ι] in
/-- A change of the committed rows that leaves their keys alone leaves the keys of the table alone. -/
theorem keys_modifyCommitted {f : ρ → ρ} (hf : ∀ r, key (f r) = key r) (t : Rows ι ρ) : (t.modifyCommitted f).keys key = t.keys key := by
  simp only [keys, all, modifyCommitted, List.filterMap_map]
  refine List.filterMap_congr fun e _ => ?_
  obtain ⟨tag, r⟩ := e
  cases tag with
  | none => exact hf r
  | some j => rfl

/-- A change that keeps the key of a row keeps the keys. -/
theorem keys_modifyPending {f : ρ → ρ} (hf : ∀ r, key (f r) = key r) (t : Rows ι ρ) (i : ι) :
    (t.modifyPending i f).keys key = t.keys key := by
  simp only [keys, all, modifyPending, List.filterMap_map]
  refine List.filterMap_congr fun e _ => ?_
  simp only [Function.comp_apply]
  split
  · exact hf e.2
  · rfl

/-- A row not yet committed shares its key with no committed row. -/
theorem key_ne_of_pending (h : (t.keys key).Nodup) {i : ι} {r s : ρ}
    (hr : r ∈ t.committed) (hs : s ∈ t.pending i) {k : κ} (hrk : key r = some k) : key s ≠ some k := by
  intro hsk
  obtain ⟨e, he, rfl⟩ := List.mem_map.1 hr
  obtain ⟨e', he', rfl⟩ := List.mem_map.1 hs
  rw [List.mem_filter] at he he'
  rw [keys, all, List.filterMap_map] at h
  -- the two are different entries, since only one of them is tagged
  obtain rfl := Tables.Table.eq_of_column_eq h he.1 he'.1 hrk hsk
  simp [of_decide_eq_true he'.2] at he

omit [DecidableEq ι] in
/-- Two rows of one key are one. -/
theorem eq_of_key_eq (h : (t.keys key).Nodup) {r s : ρ} (hr : r ∈ t.all) (hs : s ∈ t.all)
    {k : κ} (hrk : key r = some k) (hsk : key s = some k) : r = s :=
  Tables.Table.eq_of_column_eq h hr hs hrk hsk

end Rows

end Tx
