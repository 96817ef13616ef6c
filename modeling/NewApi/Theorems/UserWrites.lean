import NewApi.Model.UserWrites

/-!
# Quota updates and the calls that write a whole row back

A relative update moves the quota wherever it falls; a call that writes its copy back puts the quota of the copy in the row. So a run
keeps every update exactly when each copy is still current at the statement that writes it.
-/

namespace NewApi

open Run Threads

namespace UserWritesAux

variable {ι : Type} [DecidableEq ι] {set : AffSetting} {call : UserCall} {e : UserEvent ι} {db : UserDb ι}

/-- The quota after a save of the row. -/
theorem quota_writeRow (waiting : UserCallState) (row : User) : (writeRow e db waiting row).1.row.quota =
      if db.heldFrom e.caller = true ∨ e.fault = true then db.row.quota else row.quota := by
  unfold writeRow
  by_cases hheld : db.heldFrom e.caller = true
  · simp [hheld]
  · by_cases hfault : e.fault = true <;> simp [hheld, hfault]

theorem quota_moveUserQuota (quota delta : Int) : (moveUserQuota e db quota delta).1.row.quota =
      db.row.quota + (if quota < 0 ∨ db.heldFrom e.caller = true ∨ e.fault = true then [] else [delta]).sum := by
  unfold moveUserQuota
  by_cases hneg : quota < 0
  · simp [hneg]
  · rw [if_neg hneg, quota_writeRow]
    by_cases hstays : db.heldFrom e.caller = true ∨ e.fault = true <;> simp [hneg, hstays]

omit [DecidableEq ι] in
theorem row_readRow (next : User → UserCallState) : (readRow e db next).1.row = db.row := by
  unfold readRow
  split <;> rfl

/-- A write of a copy adds nothing exactly when the copy has the row's quota, or is not written. -/
theorem writeRow_adds_nothing (waiting : UserCallState) (row : User) :
    (writeRow e db waiting row).1.row.quota = db.row.quota ↔
      db.heldFrom e.caller = true ∨ e.fault = true ∨ row.quota = db.row.quota := by
  rw [quota_writeRow]
  split
  · tauto
  · tauto

/-- A statement moves the quota by what it is to add exactly when the copy it writes back is current. -/
theorem userStatement_adds (s : UserCallState) :
    (userStatement set call e db s).1.row.quota = db.row.quota + (quotaMoved call e db s).sum ↔ CopyCurrent call e db s := by
  cases s with
  | ready =>
    cases call with
    | inviteUser | update _ _ => simp [userStatement, row_readRow, quotaMoved, CopyCurrent]
    | transferAffQuotaToQuota quota =>
      simp only [userStatement, quotaMoved, CopyCurrent, iff_true, List.sum_nil, add_zero]
      split
      · rfl
      · rw [row_readRow]
    | increaseUserQuota quota =>
      simp only [userStatement, quotaMoved, CopyCurrent, iff_true]
      exact quota_moveUserQuota quota quota
    | decreaseUserQuota quota =>
      simp only [userStatement, quotaMoved, CopyCurrent, iff_true]
      exact quota_moveUserQuota quota (-quota)
  | inviting copy =>
    simp only [userStatement, quotaMoved, CopyCurrent, List.sum_nil, add_zero]
    exact writeRow_adds_nothing _ copy
  | transferring copy =>
    have hrow : (userStatement set call e db (.transferring copy)).1.row = db.row := by
      simp only [userStatement]
      split
      · split
        · rfl
        split
        · rfl
        · split <;> rfl
      · rfl
    simp [hrow, quotaMoved, CopyCurrent]
  | committing copy =>
    by_cases hfault : e.fault = true
    · cases call <;> simp [userStatement, quotaMoved, CopyCurrent, hfault]
    cases call with
    | transferAffQuotaToQuota quota =>
      simp only [userStatement, quotaMoved, CopyCurrent, hfault, Bool.false_eq_true, if_false, List.sum_singleton, false_or]
      omega
    | inviteUser | update _ _ | increaseUserQuota _ | decreaseUserQuota _ =>
      simp [userStatement, quotaMoved, CopyCurrent, hfault]
  | editing _ | done _ => simp [userStatement, quotaMoved, CopyCurrent]
  | updating copy =>
    simp only [userStatement, quotaMoved, CopyCurrent, List.sum_nil, add_zero]
    have hquota : (db.row.updates copy).quota = db.row.quota ↔ copy.quota = 0 ∨ copy.quota = db.row.quota := by
      simp only [User.updates, writeInt]
      split <;> tauto
    rw [writeRow_adds_nothing, hquota]

end UserWritesAux

open UserWritesAux

/-- For any number of calls of `inviteUser`, `TransferAffQuotaToQuota`, `Update` on a copy read earlier, `IncreaseUserQuota` and
`DecreaseUserQuota` on one user, in any interleaving of their statements, any of them refused: the quota is in every state reached the
one before, plus the increases and transfers, minus the decreases, exactly when every copy that is written back still has the quota of
the row. -/
theorem quota_updates_kept_iff {ι : Type} [DecidableEq ι] (set : AffSetting) (calls : ι → UserCall) (row : User) (es : List (UserEvent ι)) :
    (∀ pre, pre <+: es → (exec (userStep set calls) (userStart row) pre).shared.row.quota =
        row.quota + (trace (userStep set calls) (quotaMoves calls) (userStart row) pre).sum) ↔
      Along (userStep set calls) (CopyCurrentStep calls) (userStart row) es := by
  have h0 : (userStart row : Conf (UserDb ι) ι UserCallState).shared.row.quota = row.quota + ([] : List Int).sum := by
    simp [userStart]
  refine (along_iff_traced (quotaMoves calls) (I := fun _ => True) (P := fun c moved => c.shared.row.quota = row.quota + moved.sum)
    (fun _ _ _ => trivial) (fun c e moved _ h => ?_) [] trivial h0 es).symm
  rw [CopyCurrentStep, ← userStatement_adds, List.sum_append, ← add_assoc, ← h]
  rfl

namespace UserWritesAux

/-- A user with a quota of 1000 and 600 from invitations. -/
def ann : User :=
  { id := 1, username := "ann", affCode := "a1b2", quota := 1000, usedQuota := 0, requestCount := 0, affCount := 3, affQuota := 600,
    affHistoryQuota := 900, live := rfl }

/-- What an invitation is worth, and a unit of the currency. -/
def affSetting : AffSetting := ⟨300, 500⟩

def besideIncrease (call : UserCall) : Fin 2 → UserCall
  | 0 => call
  | 1 => .increaseUserQuota 100

/-- The quota after turns of the given calls, none refused, and the one the calls should have led to. -/
def quotaAfter (call : UserCall) (turns : List (Fin 2)) : Int × Int :=
  let es : List (UserEvent (Fin 2)) := turns.map fun i => ⟨i, false⟩
  ((exec (userStep affSetting (besideIncrease call)) (userStart ann) es).shared.row.quota,
    ann.quota + (trace (userStep affSetting (besideIncrease call)) (quotaMoves (besideIncrease call)) (userStart ann) es).sum)

end UserWritesAux

/-- An increase of 100 falls between the read and the write of an invitation, of a transfer of 500 and of an account's binding: each
time it is lost. -/
theorem increase_lost :
    quotaAfter .inviteUser [0, 1, 0] = (1000, 1100) ∧
      quotaAfter (.transferAffQuotaToQuota 500) [0, 1, 0, 0] = (1500, 1600) ∧
      quotaAfter (.update (fun a => a.setProviderId .github "gh-7") fun _ => rfl) [0, 1, 0, 0] = (1000, 1100) := by
  refine ⟨?_, ?_, ?_⟩ <;> decide +kernel

end NewApi
