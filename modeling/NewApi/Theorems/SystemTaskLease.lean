import NewApi.Theorems.SystemTaskFence

/-!
# System tasks and the leases they run under

A claim takes the lock, marks its task running and reads it back in three statements, and the second asks for a pending task only. A claim
that was paused after the first marks a task running whose lock an expiry pass has deleted, or another claim has taken over, and nobody
can expire it. While the claims are prompt, the lock of a running task is there until the task has ended.
-/

namespace NewApi

open Tables Threads Run

/-- Every running task has a lock of its own, so that a pass after the end of the lease marks it failed and frees the type. -/
def SystemTaskDb.NoneStranded (db : SystemTaskDb) : Prop :=
  ∀ t ∈ db.tasks.rows, t.status = .running → ∃ l ∈ db.locks.rows, l.taskId = t.taskId ∧
    ∀ now, l.lockedUntil < now → ∃ t' ∈ (db.expireStaleSystemTaskLocks now).tasks.rows,
      t'.id = t.id ∧ t'.status = .failed ∧ t'.activeKey = none

/-- What a call stands for: a claim of a runner, a renewal of a task's lease to a time, the release after the end of a task, or a pass
at a time, with the lock it deletes next. -/
inductive SystemTaskRole where
  | none
  | claiming (runnerId : String) (claim : Option SystemTaskClaim)
  | renewing (taskId : String) (lockUntil : Int)
  | finishing (taskId : String)
  | passing (now : Int) (deleting : Option SystemTaskLock)

def SystemTaskCall.role : SystemTaskCall → SystemTaskRole
  | .claim _ _ runnerId _ | .claimFind _ _ runnerId _ _ => .claiming runnerId .none
  | .acquireCreate c | .acquireFind c | .acquireTake c _ | .claimExpire c _ | .claimRun c | .claimRelease c => .claiming c.runnerId (some c)
  | .renew taskId _ lockUntil | .renewAt taskId _ lockUntil _ => .renewing taskId lockUntil
  | .finishRelease taskId _ => .finishing taskId
  | .expireFind now | .expireMark _ now => .passing now .none
  | .expireDelete lock _ now => .passing now (some lock)
  | _ => .none

section Conditions

variable {ι : Type}

/-- What the runners promise: the claims under one runner id are made one after the other, and a lease is renewed by the runner that
has claimed the task. -/
def SystemTaskConf.Promised (c : SystemTaskConf ι) : SystemTaskEvent ι → Prop
  | .start i (.claim _ _ runnerId) => ∀ j, j ≠ i → ∀ claim, (c.threads j).role ≠ .claiming runnerId claim
  | .start _ (.renew taskId lockedBy) =>
    ∃ t ∈ c.shared.db.tasks.rows, t.taskId = taskId ∧ t.lockedBy = lockedBy ∧ t.status ≠ .pending
  | _ => True

/-- A statement of a claim comes in time: a lock is taken over while the claim's task is still pending, and a task is marked running
while the lock of its type is held for it by the claim's runner and the lease has not ended. -/
def SystemTaskCall.InTime (w : SystemTaskWorld) : SystemTaskCall → Prop
  | .acquireTake c _ => ∃ t ∈ w.db.tasks.rows, t.id = c.task.id ∧ t.status = .pending
  | .claimRun c => (∃ t ∈ w.db.tasks.rows, t.id = c.task.id ∧ t.status = .pending) →
      ∃ l ∈ w.db.locks.rows, l.type = c.task.type ∧ l.taskId = c.task.taskId ∧ l.lockedBy = c.runnerId ∧ w.clock ≤ l.lockedUntil
  | _ => True

/-- No claim is paused for too long between its statements. -/
def SystemTaskConf.Prompt (c : SystemTaskConf ι) : SystemTaskEvent ι → Prop
  | .statement i _ => (c.threads i).InTime c.shared
  | _ => True

end Conditions

namespace SystemTaskLeaseAux

open SystemTaskDb SystemTaskCall

variable {db db' : SystemTaskDb} {t task : SystemTask} {taskId : String} {now : Int} {l : SystemTaskLock}

/-! ## The lock of a running task -/

/-- A task has one lock. -/
theorem lock_unique (h : db.Ok) {l l' : SystemTaskLock} (hl : l ∈ db.locks.rows) (hl' : l' ∈ db.locks.rows)
    (htask : l.taskId = l'.taskId) : l = l' := by
  obtain ⟨t, ht, htask₁, htype⟩ := h.lockTask l hl
  obtain ⟨t', ht', htask₂, htype'⟩ := h.lockTask l' hl'
  obtain rfl := eq_of_taskId_eq ht ht' (htask₁.trans (htask.trans htask₂.symm))
  exact Table.eq_of_key_eq hl hl' (htype.symm.trans htype')

theorem lock_type (h : db.Ok) (hl : l ∈ db.locks.rows) (ht : t ∈ db.tasks.rows) (htask : l.taskId = t.taskId) : l.type = t.type := by
  obtain ⟨t', ht', htask', htype⟩ := h.lockTask l hl
  obtain rfl := eq_of_taskId_eq ht' ht (htask'.trans htask)
  exact htype.symm

theorem row_of_claim (h : db.Knows task) (ht : t ∈ db.tasks.rows) (hid : t.id = task.id) : t.taskId = task.taskId ∧ t.type = task.type := by
  obtain ⟨t', ht', hid', htask, htype⟩ := h
  obtain rfl := Table.eq_of_key_eq ht ht' (hid.trans hid'.symm)
  exact ⟨htask, htype⟩

theorem id_of_claim (h : db.Knows task) (ht : t ∈ db.tasks.rows) (htask : t.taskId = task.taskId) : t.id = task.id := by
  obtain ⟨t', ht', hid, htask', -⟩ := h
  obtain rfl := eq_of_taskId_eq ht ht' (htask.trans htask'.symm)
  exact hid

/-- Every running task has a lock held for it by the runner it names. -/
def Held (db : SystemTaskDb) : Prop :=
  ∀ t ∈ db.tasks.rows, t.status = .running → ∃ l ∈ db.locks.rows, l.taskId = t.taskId ∧ l.lockedBy = t.lockedBy

/-- The tasks that run have run before. -/
def RunBefore (db db' : SystemTaskDb) : Prop :=
  ∀ t' ∈ db'.tasks.rows, t'.status = .running →
    ∃ t ∈ db.tasks.rows, t.id = t'.id ∧ t.taskId = t'.taskId ∧ t.lockedBy = t'.lockedBy ∧ t.status = .running

/-- The locks of the running tasks are as they were. -/
def SameLocks (db db' : SystemTaskDb) : Prop :=
  ∀ t ∈ db.tasks.rows, t.status = .running → ∀ l : SystemTaskLock, l.taskId = t.taskId → (l ∈ db'.locks.rows ↔ l ∈ db.locks.rows)

theorem RunBefore.of_tasks (h : db'.tasks = db.tasks) : RunBefore db db' := by
  intro t' ht' hrun
  rw [h] at ht'
  exact ⟨t', ht', rfl, rfl, rfl, hrun⟩

theorem SameLocks.of_locks (h : db'.locks = db.locks) : SameLocks db db' := by
  intro t _ _ l _
  rw [h]

theorem RunBefore.insertTask (hins : db.insertTask t = some db') (hnew : t.status ≠ .running) : RunBefore db db' := by
  intro t' ht' hrun
  rcases (mem_insertTask hins).1 ht' with hold | rfl
  · exact ⟨t', hold, rfl, rfl, rfl, hrun⟩
  · exact absurd hrun hnew

/-- An update after which a task runs only if it ran before, for the same runner. -/
theorem RunBefore.updateTasks {p : SystemTask → Bool} {change : TaskChange}
    (h : ∀ t, (change.apply t).status = .running → t.status = .running ∧ t.lockedBy = (change.apply t).lockedBy) :
    RunBefore db (db.updateTasks p change) := by
  intro t' ht' hrun
  obtain ⟨t, ht, rfl⟩ := mem_updateTasks.1 ht'
  split at hrun
  · rename_i hp
    rw [if_pos hp]
    exact ⟨t, ht, (change.id t).symm, (change.taskId t).symm, (h t hrun).2, (h t hrun).1⟩
  · rename_i hp
    rw [if_neg hp]
    exact ⟨t, ht, rfl, rfl, rfl, hrun⟩

/-- A deletion that spares the locks of the running tasks. -/
theorem SameLocks.deleteLocks {p : SystemTaskLock → Bool}
    (h : ∀ t ∈ db.tasks.rows, t.status = .running → ∀ l ∈ db.locks.rows, l.taskId = t.taskId → p l = false) :
    SameLocks db (db.deleteLocks p) := by
  intro t ht hrun l htask
  rw [mem_deleteLocks]
  exact ⟨fun hl => hl.1, fun hl => ⟨hl, h t ht hrun l hl htask⟩⟩

/-- Running tasks stay held. -/
theorem Held.keep (h : Held db) (hrun : RunBefore db db') (hlocks : SameLocks db db') : Held db' := by
  intro t' ht' hrunning
  obtain ⟨t, ht, -, htask, hby, hbefore⟩ := hrun t' ht' hrunning
  obtain ⟨l, hl, hltask, hlby⟩ := h t ht hbefore
  exact ⟨l, (hlocks t ht hbefore l hltask).2 hl, hltask.trans htask, hlby.trans hby⟩

/-! ## What each call may rely on -/

/-- A claim's task is not running for the claim's runner; a task whose lease is renewed is not pending; a task whose lock is released
after its end has ended; a pass is at a time that has come, and the lock it deletes is not that of a running task. -/
def RoleOk (w : SystemTaskWorld) : SystemTaskRole → Prop
  | .none => True
  | .claiming _ .none => True
  | .claiming runnerId (some c) =>
    ∀ t ∈ w.db.tasks.rows, t.id = c.task.id → t.status = .running → t.lockedBy ≠ runnerId
  | .renewing taskId _ => ∃ t ∈ w.db.tasks.rows, t.taskId = taskId ∧ t.status ≠ .pending
  | .finishing taskId => ∃ t ∈ w.db.tasks.rows, t.taskId = taskId ∧ t.active = false
  | .passing now .none => now ≤ w.clock
  | .passing now (some lock) => now ≤ w.clock ∧ ∀ t ∈ w.db.tasks.rows, t.taskId = lock.taskId → t.status = .running →
      ∀ l ∈ w.db.locks.rows, l.taskId = t.taskId → now ≤ l.lockedUntil

variable {w w' : SystemTaskWorld} {role : SystemTaskRole}

/-- A role that says nothing of a running task is kept with the tasks. -/
theorem RoleOk.keep_of (h : RoleOk w role) (hclock : w.clock ≤ w'.clock) (hkeeps : KeepsTasks w.db w'.db)
    (hclaiming : ∀ runnerId c, role = .claiming runnerId (some c) → RoleOk w (.claiming runnerId (some c)) →
      RoleOk w' (.claiming runnerId (some c)))
    (hpassing : ∀ now lock, role = .passing now (some lock) → RoleOk w (.passing now (some lock)) → RoleOk w' (.passing now (some lock))) :
    RoleOk w' role := by
  cases role with
  | none => trivial
  | claiming runnerId claim =>
    cases claim with
    | none => trivial
    | some c => exact hclaiming runnerId c rfl h
  | renewing taskId lockUntil =>
    obtain ⟨t, ht, htask, hnot⟩ := h
    obtain ⟨t', ht', hbecomes⟩ := hkeeps t ht
    exact ⟨t', ht', hbecomes.taskId.trans htask, hbecomes.notPending hnot⟩
  | finishing taskId =>
    obtain ⟨t, ht, htask, hend⟩ := h
    obtain ⟨t', ht', hbecomes⟩ := hkeeps t ht
    obtain rfl := hbecomes.ended hend
    exact ⟨t', ht', htask, hend⟩
  | passing now deleting =>
    cases deleting with
    | none => exact le_trans h hclock
    | some lock => exact hpassing now lock rfl h

theorem RoleOk.keep (h : RoleOk w role) (hclock : w.clock ≤ w'.clock)
    (hkeeps : KeepsTasks w.db w'.db) (hrun : RunBefore w.db w'.db) (hlocks : SameLocks w.db w'.db) : RoleOk w' role := by
  refine h.keep_of hclock hkeeps ?_ ?_
  · intro runnerId c _ h t' ht' hid hrunning
    obtain ⟨t, ht, hid', -, hby, hbefore⟩ := hrun t' ht' hrunning
    rw [← hby]
    exact h t ht (hid'.trans hid) hbefore
  · intro now lock _ h
    refine ⟨le_trans h.1 hclock, fun t' ht' htask hrunning l hl hltask => ?_⟩
    obtain ⟨t, ht, -, htask', -, hbefore⟩ := hrun t' ht' hrunning
    have hold : l ∈ w.db.locks.rows := (hlocks t ht hbefore l (hltask.trans htask'.symm)).1 hl
    exact h.2 t ht (htask'.trans htask) hbefore l hold (hltask.trans htask'.symm)

/-! ## The steps of a call -/

/-- A step that runs no task, leaves the locks of the running tasks and begins neither a claim nor a renewal. -/
structure QuietStep (w : SystemTaskWorld) (call : SystemTaskCall) (w' : SystemTaskWorld) (next : SystemTaskCall) : Prop where
  run : RunBefore w.db w'.db
  locks : SameLocks w.db w'.db
  role : RoleOk w' next.role
  claiming : ∀ runnerId claim, next.role = .claiming runnerId claim → ∃ claim', call.role = .claiming runnerId claim'
  renewing : ∀ taskId lockUntil, next.role = .renewing taskId lockUntil → call.role = .renewing taskId lockUntil
  deleting : ∀ now lock, next.role = .passing now (some lock) → ∀ t ∈ w'.db.tasks.rows, t.taskId = lock.taskId → t.status ≠ .running

inductive LeaseStep (w : SystemTaskWorld) : SystemTaskCall → SystemTaskWorld → SystemTaskCall → Prop
  | quiet {call : SystemTaskCall} {w' : SystemTaskWorld} {next : SystemTaskCall} (h : QuietStep w call w' next) : LeaseStep w call w' next
  /-- A claim marks its task running. -/
  | runs (c : SystemTaskClaim) : LeaseStep w (.claimRun c)
      { w with db := w.db.markRunning c.task.id c.task.type c.runnerId c.now } (.claimReload c)
  /-- A lease is renewed. -/
  | renews (taskId lockedBy : String) (lockUntil now : Int) (lost : Bool) : LeaseStep w (.renewAt taskId lockedBy lockUntil now)
      { w with db := w.db.renewSystemTaskLock taskId lockedBy lockUntil now } (.done lost)

variable {call next : SystemTaskCall} {lockedBy : String} {t' : SystemTask}

theorem QuietStep.rest (hrun : RunBefore w.db db) (hlocks : SameLocks w.db db) (hnext : next.role = .none) :
    QuietStep w call { w with db := db } next where
  run := hrun
  locks := hlocks
  role := by
    rw [hnext]
    trivial
  claiming runnerId claim h := by
    rw [hnext] at h
    cases h
  renewing taskId lockUntil h := by
    rw [hnext] at h
    cases h
  deleting now lock h := by
    rw [hnext] at h
    cases h

/-- A step after which the call relies on what it relied on before, and deletes no lock. -/
theorem QuietStep.same (hrun : RunBefore w.db db) (hlocks : SameLocks w.db db) (hkeeps : KeepsTasks w.db db) (h : RoleOk w call.role)
    (hnext : next.role = call.role) (hdeleting : ∀ now lock, call.role ≠ .passing now (some lock) := by rintro _ _ ⟨⟩) :
    QuietStep w call { w with db := db } next where
  run := hrun
  locks := hlocks
  role := by
    rw [hnext]
    exact h.keep le_rfl hkeeps hrun hlocks
  claiming runnerId claim hclaim := ⟨claim, hnext.symm.trans hclaim⟩
  renewing taskId lockUntil hrenew := hnext.symm.trans hrenew
  deleting now lock hdel := absurd (hnext.symm.trans hdel) (hdeleting now lock)

theorem LeaseStep.rests (hnext : next.role = .none) : LeaseStep w call w next :=
  .quiet (QuietStep.rest (RunBefore.of_tasks rfl) (SameLocks.of_locks rfl) hnext)

theorem LeaseStep.stays (h : RoleOk w call.role) (hnext : next.role = call.role)
    (hdeleting : ∀ now lock, call.role ≠ .passing now (some lock) := by rintro _ _ ⟨⟩) : LeaseStep w call w next :=
  .quiet (QuietStep.same (RunBefore.of_tasks rfl) (SameLocks.of_locks rfl) (KeepsTasks.refl _) h hnext hdeleting)

/-! ### The locks of the running tasks -/

/-- A lock is inserted for a claim's task where its type has none: the task is not running. -/
theorem SameLocks.createLock (h : db.Ok) (hheld : Held db) (hknows : db.Knows task)
    {lockedUntil : Int} (hins : db.createLock ⟨task.type, task.taskId, lockedBy, lockedUntil, now⟩ = some db') : SameLocks db db' := by
  obtain ⟨locks, hlocks, rfl⟩ := Option.map_eq_some_iff.1 hins
  intro t ht hrun l htask
  rw [Table.mem_insert hlocks]
  refine ⟨fun hl => ?_, .inl⟩
  rcases hl with hold | rfl
  · exact hold
  obtain ⟨l', hl', hltask, -⟩ := hheld t ht hrun
  have htype : l'.type = task.type := by
    rw [lock_type h hl' ht hltask]
    exact (row_of_claim hknows ht (id_of_claim hknows ht htask.symm)).2
  have hfree := Table.lookup_insert_none hlocks
  rw [← htype, Table.lookup_of_mem hl'] at hfree
  cases hfree

/-- A lock is taken over for a pending task: no task of its type is running. -/
theorem SameLocks.takeLock (h : db.Ok) {t₀ : SystemTask} (hknows : db.Knows task) (ht₀ : t₀ ∈ db.tasks.rows)
    (hid : t₀.id = task.id) (hpending : t₀.status = .pending) (lockedBy : String) (lockUntil now : Int) :
    SameLocks db (db.takeLock task.type task.taskId lockedBy lockUntil now) := by
  obtain ⟨htask₀, htype₀⟩ := row_of_claim hknows ht₀ hid
  have hother : ∀ t ∈ db.tasks.rows, t.status = .running → t.type ≠ task.type := by
    intro t ht hrun htype
    have hsame : t = t₀ := eq_of_active h ht ht₀ (active_of_running hrun) (by simp [SystemTask.active, hpending]) (htype.trans htype₀.symm)
    rw [hsame, hpending] at hrun
    cases hrun
  intro t ht hrun l htask
  unfold SystemTaskDb.takeLock
  rw [mem_updateLocks]
  constructor
  · rintro ⟨l₀, hl₀, rfl⟩
    split at htask
    · -- the lock would be for a running task, and the claim's task is pending
      have hsame : t = t₀ := eq_of_taskId_eq ht ht₀ (htask.symm.trans htask₀.symm)
      rw [hsame, hpending] at hrun
      cases hrun
    · rename_i hstale
      rwa [if_neg hstale]
  · intro hl
    refine ⟨l, hl, if_neg fun hstale => ?_⟩
    simp only [stale, Bool.and_eq_true, decide_eq_true_eq] at hstale
    exact hother t ht hrun ((lock_type h hl ht htask).symm.trans hstale.1)

/-- A claim that failed gives back a lock that is not that of a running task. -/
theorem SameLocks.claimRelease (h : db.Ok) (hheld : Held db) {c : SystemTaskClaim} (hknows : db.Knows c.task)
    (hother : ∀ t ∈ db.tasks.rows, t.id = c.task.id → t.status = .running → t.lockedBy ≠ c.runnerId) :
    SameLocks db (db.releaseSystemTaskLock c.task.taskId c.runnerId) := by
  refine SameLocks.deleteLocks fun t ht hrun l hl htask => ?_
  by_contra hrelease
  simp only [heldFor, Bool.not_eq_false, Bool.and_eq_true, decide_eq_true_eq] at hrelease
  obtain ⟨l', hl', hltask, hlby⟩ := hheld t ht hrun
  obtain rfl := lock_unique h hl hl' (htask.trans hltask.symm)
  exact hother t ht (id_of_claim hknows ht (htask.symm.trans hrelease.1)) hrun (hlby.symm.trans hrelease.2)

/-- The lock of a task that has ended is not that of a running one. -/
theorem SameLocks.finishRelease (lockedBy : String) (hend : ∃ t ∈ db.tasks.rows, t.taskId = taskId ∧ t.active = false) :
    SameLocks db (db.releaseSystemTaskLock taskId lockedBy) := by
  refine SameLocks.deleteLocks fun t ht hrun l hl htask => ?_
  by_contra hrelease
  simp only [heldFor, Bool.not_eq_false, Bool.and_eq_true, decide_eq_true_eq] at hrelease
  obtain ⟨t', ht', htask', hnot⟩ := hend
  obtain rfl := eq_of_taskId_eq ht ht' ((htask.symm.trans hrelease.1).trans htask'.symm)
  rw [active_of_running hrun] at hnot
  cases hnot

/-- A pass deletes no lock whose lease ends after it. -/
theorem SameLocks.deleteStaleLock {lock : SystemTaskLock}
    (h : ∀ t ∈ db.tasks.rows, t.taskId = lock.taskId → t.status = .running → ∀ l ∈ db.locks.rows, l.taskId = t.taskId →
      now ≤ l.lockedUntil) : SameLocks db (db.deleteStaleLock lock now) := by
  refine SameLocks.deleteLocks fun t ht hrun l hl htask => ?_
  by_contra hdelete
  simp only [heldFor, Bool.not_eq_false, Bool.and_eq_true, decide_eq_true_eq] at hdelete
  have hlease := h t ht (htask.symm.trans hdelete.1.2.1) hrun l hl htask
  omega

theorem not_running_of_markExpired
    (h : t' ∈ (db.markSystemTaskLeaseExpired taskId now).tasks.rows) (htask : t'.taskId = taskId) : t'.status ≠ .running := by
  obtain ⟨t, ht, rfl⟩ := mem_updateTasks.1 h
  split
  · exact SystemTaskStatus.noConfusion
  rename_i hnot
  rw [if_neg hnot] at htask
  intro hrun
  simp [htask, hrun] at hnot

theorem runBefore_markExpired : RunBefore db (db.markSystemTaskLeaseExpired taskId now) :=
  RunBefore.updateTasks fun _ h => by cases h

theorem ended_of_finish (final : FinalStatus) (result error : String) (h : db.tasks.rows.any (db.fenced taskId lockedBy now) = true) :
    ∃ t ∈ (db.finishSystemTask taskId lockedBy final result error now).tasks.rows, t.taskId = taskId ∧ t.active = false := by
  obtain ⟨t, ht, hfenced⟩ := List.any_eq_true.1 h
  refine ⟨_, mem_updateTasks.2 ⟨t, ht, rfl⟩, ?_⟩
  rw [if_pos hfenced]
  simp only [fenced, Bool.and_eq_true, decide_eq_true_eq] at hfenced
  refine ⟨hfenced.1.1.1, ?_⟩
  cases final <;> rfl

/-- What every step of a call does, where it is in time. -/
theorem statement_leaseStep (ok : Bool) (hok : w.db.Ok) (hheld : Held w.db) (hclaim : ∀ c, call.claimOf = some c → w.db.Knows c.task)
    (hrole : RoleOk w call.role) (hintime : call.InTime w) : LeaseStep w call (call.statement ok w).1 (call.statement ok w).2 := by
  cases call with
  | done _ | claimReload _ | update _ _ _ | finish _ _ _ _ _ => exact .rests rfl
  | create taskId type payload state =>
    simp only [statement]
    split
    · rename_i db' hdb
      have hins : w.db.createSystemTask taskId type payload state w.clock = some db' := by
        cases ok with
        | true => exact hdb
        | false => cases hdb
      have hlocks := SameLocks.of_locks (locks_insertTask hins)
      exact .quiet (QuietStep.rest (RunBefore.insertTask hins SystemTaskStatus.noConfusion) hlocks rfl)
    · exact .rests rfl
  | claim _ _ _ _ | renew _ _ _ => exact .stays hrole rfl
  | claimFind id type runnerId lockUntil now =>
    simp only [statement]
    split
    · rename_i task hfind
      cases ok with
      | false => cases hfind
      | true =>
        obtain ⟨hmem, -, -, hpending⟩ := mem_of_findPending hfind
        refine .quiet ⟨RunBefore.of_tasks rfl, SameLocks.of_locks rfl, ?_, ?_, by rintro taskId lockUntil ⟨⟩, by rintro now lock ⟨⟩⟩
        · intro t ht hid hrun
          obtain rfl := Table.eq_of_key_eq ht hmem hid
          rw [hpending] at hrun
          cases hrun
        · rintro runner claim ⟨⟩
          exact ⟨none, rfl⟩
    · exact .rests rfl
  | acquireCreate c =>
    simp only [statement]
    split
    · rename_i db' hdb
      cases ok with
      | false => cases hdb
      | true =>
        have htasks := tasks_of_createLock hdb
        exact .quiet (QuietStep.same (RunBefore.of_tasks htasks) (SameLocks.createLock hok hheld (hclaim c rfl) hdb)
          (Keeps.lock htasks (hok.createLock (hclaim c rfl) hdb) hclaim).tasks hrole rfl)
    · exact .stays hrole rfl
  | acquireFind c =>
    simp only [statement]
    split
    · split
      · exact .rests rfl
      · exact .stays hrole rfl
    · exact .rests rfl
  | acquireTake c existing =>
    obtain ⟨t₀, ht₀, hid, hpending⟩ := hintime
    have hlocks := SameLocks.takeLock hok (hclaim c rfl) ht₀ hid hpending c.runnerId c.lockUntil c.now
    simp only [statement]
    split
    · split <;> exact .quiet (QuietStep.same (RunBefore.of_tasks rfl) hlocks (KeepsTasks.refl _) hrole rfl)
    · exact .rests rfl
  | claimExpire c expiredTaskId =>
    simp only [statement]
    split
    · exact .quiet (QuietStep.same (runBefore_markExpired) (SameLocks.of_locks rfl) (markExpired_keeps hok _).1 hrole rfl)
    · exact .stays hrole rfl
  | claimRun c =>
    simp only [statement]
    split
    · exact .runs c
    · exact .stays hrole rfl
  | claimRelease c =>
    cases ok with
    | true => exact .quiet (QuietStep.rest (RunBefore.of_tasks rfl) (SameLocks.claimRelease hok hheld (hclaim c rfl) hrole) rfl)
    | false => exact .rests rfl
  | updateAt taskId lockedBy state now =>
    cases ok with
    | true => exact .quiet (QuietStep.rest (RunBefore.updateTasks fun _ h => ⟨h, rfl⟩) (SameLocks.of_locks rfl) rfl)
    | false => exact .rests rfl
  | finishAt taskId lockedBy final result error now =>
    cases ok with
    | false => exact .rests rfl
    | true =>
      have hrun : RunBefore w.db (w.db.finishSystemTask taskId lockedBy final result error now) :=
        RunBefore.updateTasks fun _ h => by cases final <;> cases h
      simp only [statement, if_true]
      split
      · rename_i hany
        exact .quiet ⟨hrun, SameLocks.of_locks rfl, ended_of_finish final result error hany, by rintro runner claim ⟨⟩,
          by rintro taskId lockUntil ⟨⟩, by rintro now lock ⟨⟩⟩
      · exact .quiet (QuietStep.rest hrun (SameLocks.of_locks rfl) rfl)
  | finishRelease taskId lockedBy =>
    cases ok with
    | true => exact .quiet (QuietStep.rest (RunBefore.of_tasks rfl) (SameLocks.finishRelease lockedBy hrole) rfl)
    | false => exact .rests rfl
  | renewAt taskId lockedBy lockUntil now =>
    cases ok with
    | true => exact .renews taskId lockedBy lockUntil now _
    | false => exact .rests rfl
  | expireFind now =>
    cases ok with
    | true => exact .stays hrole rfl
    | false => exact .rests rfl
  | expireMark locks now =>
    cases locks with
    | nil => exact .rests rfl
    | cons lock rest =>
      cases ok with
      | false => exact .rests rfl
      | true =>
        refine .quiet ⟨runBefore_markExpired, SameLocks.of_locks rfl, ⟨hrole, ?_⟩, by rintro runner claim ⟨⟩,
          by rintro taskId lockUntil ⟨⟩, ?_⟩
        · intro t ht htask hrun
          exact absurd hrun (not_running_of_markExpired ht htask)
        · rintro now' lock' ⟨⟩ t ht htask
          exact not_running_of_markExpired ht htask
  | expireDelete lock rest now =>
    cases ok with
    | false => exact .rests rfl
    | true =>
      exact .quiet ⟨RunBefore.of_tasks rfl, SameLocks.deleteStaleLock hrole.2, hrole.1, by rintro runner claim ⟨⟩,
        by rintro taskId lockUntil ⟨⟩, by rintro now' lock' ⟨⟩⟩

theorem start_cases (what : SystemTaskStart) : (call.start what w).2 = what.begin w.clock ∨ (call.start what w).2 = call := by
  cases call with
  | done lost => exact .inl rfl
  | _ => exact .inr rfl

/-! ## The invariant -/

section Invariant

variable {ι : Type}

structure LeaseInv (c : SystemTaskConf ι) : Prop where
  base : SystemTaskInv c
  held : Held c.shared.db
  /-- No two calls claim for one runner. -/
  claimers : ∀ i j runnerId claim claim', (c.threads i).role = .claiming runnerId claim →
    (c.threads j).role = .claiming runnerId claim' → i = j
  roles : ∀ i, RoleOk c.shared (c.threads i).role
  /-- The lease of a task that a pass has not found running ends after the pass, however it is renewed. -/
  renewals : ∀ i j now lock lockUntil, (c.threads i).role = .passing now (some lock) →
    (c.threads j).role = .renewing lock.taskId lockUntil →
      ∀ t ∈ c.shared.db.tasks.rows, t.taskId = lock.taskId → t.status = .running → now ≤ lockUntil

theorem LeaseInv.fresh (clock : Int) : LeaseInv (SystemTaskConf.fresh clock : SystemTaskConf ι) where
  base := SystemTaskInv.fresh clock
  held t ht := absurd ht List.not_mem_nil
  claimers i j runnerId claim claim' hi := by cases hi
  roles i := trivial
  renewals i j now lock lockUntil hi := by cases hi

variable [DecidableEq ι] {c : SystemTaskConf ι} {i : ι} {cl : SystemTaskClaim}

theorem role_update {j : ι} (h : (Function.update c.threads i next j).role = role) :
    (j = i ∧ next.role = role) ∨ (j ≠ i ∧ (c.threads j).role = role) := by
  by_cases hji : j = i
  · subst hji
    rw [Function.update_self] at h
    exact .inl ⟨rfl, h⟩
  · rw [Function.update_of_ne hji] at h
    exact .inr ⟨hji, h⟩

/-- A step of one thread that runs no task and leaves the locks of the running tasks. -/
theorem LeaseInv.move (h : LeaseInv c) (hk : Keeps c.shared w' next) (hrun : RunBefore c.shared.db w'.db)
    (hlocks : SameLocks c.shared.db w'.db) (hrole : RoleOk w' next.role)
    (hclaiming : ∀ runnerId claim, next.role = .claiming runnerId claim →
      ∀ j, j ≠ i → ∀ claim', (c.threads j).role ≠ .claiming runnerId claim')
    (hrenewing : ∀ taskId lockUntil, next.role = .renewing taskId lockUntil → ∀ j now lock, (c.threads j).role = .passing now (some lock) →
      lock.taskId = taskId → ∀ t ∈ c.shared.db.tasks.rows, t.taskId = taskId → t.status = .running → now ≤ lockUntil)
    (hdeleting : ∀ now lock, next.role = .passing now (some lock) → ∀ t ∈ w'.db.tasks.rows, t.taskId = lock.taskId → t.status ≠ .running) :
    LeaseInv ⟨w', Function.update c.threads i next⟩ where
  base := h.base.move hk
  held := h.held.keep hrun hlocks
  claimers j j' runnerId claim claim' hj hj' := by
    rcases role_update hj with ⟨rfl, hnext⟩ | ⟨hji, hold⟩ <;> rcases role_update hj' with ⟨rfl, hnext'⟩ | ⟨hji', hold'⟩
    · rfl
    · exact absurd hold' (hclaiming runnerId claim hnext j' hji' claim')
    · exact absurd hold (hclaiming runnerId claim' hnext' j hji claim)
    · exact h.claimers j j' runnerId claim claim' hold hold'
  roles j := by
    by_cases hji : j = i
    · subst hji
      simpa using hrole
    · simpa [hji] using (h.roles j).keep hk.clock.ge hk.tasks hrun hlocks
  renewals j j' now lock lockUntil hj hj' t' ht' htask hrunning := by
    obtain ⟨t, ht, -, htask', -, hbefore⟩ := hrun t' ht' hrunning
    rcases role_update hj with ⟨rfl, hnext⟩ | ⟨-, hold⟩
    · exact absurd hrunning (hdeleting now lock hnext t' ht' htask)
    rcases role_update hj' with ⟨rfl, hnext'⟩ | ⟨-, hold'⟩
    · exact hrenewing _ _ hnext' j now lock hold rfl t ht (htask'.trans htask) hbefore
    · exact h.renewals j j' now lock lockUntil hold hold' t ht (htask'.trans htask) hbefore

/-- A quiet step keeps the invariant. -/
theorem LeaseInv.quiet (h : LeaseInv c) (hk : Keeps c.shared w' next) (hq : QuietStep c.shared (c.threads i) w' next) :
    LeaseInv ⟨w', Function.update c.threads i next⟩ := by
  refine h.move hk hq.run hq.locks hq.role ?_ ?_ hq.deleting
  · intro runnerId claim hnext j hji claim' hj
    obtain ⟨claim₀, hi⟩ := hq.claiming runnerId claim hnext
    exact hji (h.claimers j i runnerId claim' claim₀ hj hi)
  · rintro taskId lockUntil hnext j now lock hj rfl
    exact h.renewals j i now lock lockUntil hj (hq.renewing _ _ hnext)

theorem LeaseInv.rest (h : LeaseInv c) (hk : Keeps c.shared w' next) (hnext : next.role = .none) (hheld : Held w'.db)
    (hroles : ∀ j, j ≠ i → RoleOk w' (c.threads j).role)
    (hrenewals : ∀ j j' now lock lockUntil, (c.threads j).role = .passing now (some lock) →
      (c.threads j').role = .renewing lock.taskId lockUntil →
        ∀ t ∈ w'.db.tasks.rows, t.taskId = lock.taskId → t.status = .running → now ≤ lockUntil) :
    LeaseInv ⟨w', Function.update c.threads i next⟩ := by
  have hold : ∀ {j role}, role ≠ .none → (Function.update c.threads i next j).role = role → (c.threads j).role = role := by
    intro j role hrole hj
    rcases role_update hj with ⟨-, hrest⟩ | ⟨-, hold⟩
    · exact absurd (hrest.symm.trans hnext) hrole
    · exact hold
  refine ⟨h.base.move hk, hheld, ?_, ?_, ?_⟩
  · intro j j' runnerId claim claim' hj hj'
    exact h.claimers j j' runnerId claim claim' (hold SystemTaskRole.noConfusion hj) (hold SystemTaskRole.noConfusion hj')
  · intro j
    by_cases hji : j = i
    · subst hji
      simp only [Function.update_self, hnext]
      trivial
    · simpa only [Function.update_of_ne hji] using hroles j hji
  · intro j j' now lock lockUntil hj hj'
    exact hrenewals j j' now lock lockUntil (hold SystemTaskRole.noConfusion hj) (hold SystemTaskRole.noConfusion hj')

theorem running_markRunning
    (ht' : t' ∈ (db.markRunning cl.task.id cl.task.type cl.runnerId cl.now).tasks.rows) (hrun : t'.status = .running) :
    (t' ∈ db.tasks.rows ∧ t'.status = .running) ∨
      ∃ t ∈ db.tasks.rows, t.id = cl.task.id ∧ t.status = .pending ∧ t'.id = t.id ∧ t'.taskId = t.taskId ∧ t'.lockedBy = cl.runnerId := by
  obtain ⟨t, ht, rfl⟩ := mem_updateTasks.1 ht'
  split at hrun
  · rename_i hclaimable
    rw [if_pos hclaimable]
    simp only [claimable, Bool.and_eq_true, decide_eq_true_eq] at hclaimable
    exact .inr ⟨t, ht, hclaimable.1.1, hclaimable.2, rfl, rfl, rfl⟩
  · rename_i hnot
    rw [if_neg hnot]
    exact .inl ⟨ht, hrun⟩

/-- So does the step that marks a task running. -/
theorem LeaseInv.runs (h : LeaseInv c) (hi : c.threads i = .claimRun cl)
    (hk : Keeps c.shared { c.shared with db := c.shared.db.markRunning cl.task.id cl.task.type cl.runnerId cl.now } (.claimReload cl))
    (hintime : (c.threads i).InTime c.shared) :
    LeaseInv ⟨{ c.shared with db := c.shared.db.markRunning cl.task.id cl.task.type cl.runnerId cl.now },
      Function.update c.threads i (.claimReload cl)⟩ := by
  rw [hi] at hintime
  have hknows : c.shared.db.Knows cl.task := h.base.claims i cl (by rw [hi]; rfl)
  have hrole : (c.threads i).role = .claiming cl.runnerId (some cl) := by
    rw [hi]
    rfl
  -- the lock of the task that begins to run
  have hlock : ∀ t ∈ c.shared.db.tasks.rows, t.id = cl.task.id → t.status = .pending →
      ∃ l ∈ c.shared.db.locks.rows, l.taskId = t.taskId ∧ l.lockedBy = cl.runnerId ∧ c.shared.clock ≤ l.lockedUntil := by
    intro t ht hid hpending
    obtain ⟨l, hl, -, hltask, hlby, hlease⟩ := hintime ⟨t, ht, hid, hpending⟩
    exact ⟨l, hl, hltask.trans (row_of_claim hknows ht hid).1.symm, hlby, hlease⟩
  refine h.rest hk rfl ?_ ?_ ?_
  · intro t' ht' hrunning
    rcases running_markRunning ht' hrunning with ⟨hold, hrun⟩ | ⟨t, ht, hid, hpending, -, htask, hby⟩
    · exact h.held t' hold hrun
    · obtain ⟨l, hl, hltask, hlby, -⟩ := hlock t ht hid hpending
      exact ⟨l, hl, hltask.trans htask.symm, hlby.trans hby.symm⟩
  · intro j hji
    refine (h.roles j).keep_of le_rfl hk.tasks ?_ ?_
    · intro runnerId cl' hroleJ hj t' ht' hid' hrunning
      rcases running_markRunning ht' hrunning with ⟨hold, hrun⟩ | ⟨t, -, -, -, -, -, hby⟩
      · exact hj t' hold hid' hrun
      rintro rfl
      rw [← hby] at hrole
      exact hji (h.claimers j i _ _ _ hroleJ hrole)
    · intro now lock hroleJ hj
      refine ⟨hj.1, fun t' ht' htask' hrunning l hl hltask => ?_⟩
      rcases running_markRunning ht' hrunning with ⟨hold, hrun⟩ | ⟨t, ht, hid, hpending, -, htask, -⟩
      · exact hj.2 t' hold htask' hrun l hl hltask
      obtain ⟨l', hl', hltask', -, hlease⟩ := hlock t ht hid hpending
      obtain rfl := lock_unique h.base.ok hl hl' (hltask.trans (htask.trans hltask'.symm))
      exact le_trans hj.1 hlease
  · intro j j' now lock lockUntil hj hj' t' ht' htask' hrunning
    rcases running_markRunning ht' hrunning with ⟨hmem, hrun⟩ | ⟨t, ht, hid, hpending, -, htask, -⟩
    · exact h.renewals j j' now lock lockUntil hj hj' t' hmem htask' hrun
    -- a task whose lease is renewed is not pending
    have hrenewing := h.roles j'
    rw [hj'] at hrenewing
    obtain ⟨t₂, ht₂, htask₂, hnot⟩ := hrenewing
    obtain rfl := eq_of_taskId_eq ht ht₂ (htask.symm.trans (htask'.trans htask₂.symm))
    exact absurd hpending hnot

/-- So does a renewal. -/
theorem LeaseInv.renews (h : LeaseInv c) {taskId lockedBy : String} {lockUntil now : Int} {lost : Bool}
    (hi : c.threads i = .renewAt taskId lockedBy lockUntil now)
    (hk : Keeps c.shared { c.shared with db := c.shared.db.renewSystemTaskLock taskId lockedBy lockUntil now } (.done lost)) :
    LeaseInv ⟨{ c.shared with db := c.shared.db.renewSystemTaskLock taskId lockedBy lockUntil now },
      Function.update c.threads i (.done lost)⟩ := by
  have hrole : (c.threads i).role = .renewing taskId lockUntil := by
    rw [hi]
    rfl
  refine h.rest hk rfl ?_ ?_ h.renewals
  · intro t ht hrunning
    obtain ⟨l, hl, hltask, hlby⟩ := h.held t ht hrunning
    refine ⟨_, mem_updateLocks.2 ⟨l, hl, rfl⟩, ?_⟩
    split <;> exact ⟨hltask, hlby⟩
  · intro j _
    refine (h.roles j).keep_of le_rfl hk.tasks (fun _ _ _ hj => hj) ?_
    intro now' lock hroleJ hj
    refine ⟨hj.1, fun t ht htask hrunning l hl hltask => ?_⟩
    obtain ⟨l₀, hl₀, rfl⟩ := mem_updateLocks.1 hl
    split at hltask
    · rename_i hheld
      rw [if_pos hheld]
      simp only [heldFor, Bool.and_eq_true, decide_eq_true_eq] at hheld
      have hsame : lock.taskId = taskId := (hltask.trans htask).symm.trans hheld.1.1
      rw [← hsame] at hrole
      exact h.renewals j i now' lock lockUntil hroleJ hrole t ht htask hrunning
    · rename_i hnot
      rw [if_neg hnot]
      exact hj.2 t ht htask hrunning l₀ hl₀ hltask

/-- So does every statement in time. -/
theorem LeaseInv.statement (h : LeaseInv c) (i : ι) (ok : Bool) (hintime : (c.threads i).InTime c.shared) :
    LeaseInv (c.step (.statement i ok)) := by
  have hk := h.base.keeps_statement i ok
  have hstep := statement_leaseStep ok h.base.ok h.held (h.base.claims i) (h.roles i) hintime
  change LeaseInv ⟨((c.threads i).statement ok c.shared).1, Function.update c.threads i ((c.threads i).statement ok c.shared).2⟩
  generalize hi : c.threads i = call at hstep hintime hk ⊢
  generalize hw' : (call.statement ok c.shared).1 = w' at hstep hk ⊢
  generalize hnext : (call.statement ok c.shared).2 = next at hstep hk ⊢
  cases hstep with
  | quiet hq =>
    subst hi
    exact h.quiet hk hq
  | runs cl =>
    refine h.runs hi hk ?_
    rw [hi]
    exact hintime
  | renews taskId lockedBy lockUntil now lost => exact h.renews hi hk

theorem LeaseInv.begins (h : LeaseInv c) (what : SystemTaskStart) (hpromised : c.Promised (.start i what)) :
    LeaseInv ⟨c.shared, Function.update c.threads i (what.begin c.shared.clock)⟩ := by
  have hk : Keeps c.shared c.shared (what.begin c.shared.clock) :=
    Keeps.read h.base.ok fun claim hclaim => by cases what <;> cases hclaim
  have hrun : RunBefore c.shared.db c.shared.db := RunBefore.of_tasks rfl
  have hlocks : SameLocks c.shared.db c.shared.db := SameLocks.of_locks rfl
  refine h.move hk hrun hlocks ?_ ?_ ?_ ?_
  · cases what with
    | create _ _ _ _ | claim _ _ _ | update _ _ _ | finish _ _ _ _ _ => trivial
    | renew taskId lockedBy =>
      obtain ⟨t, ht, htask, -, hnot⟩ := hpromised
      exact ⟨t, ht, htask, hnot⟩
    | expire => exact le_refl c.shared.clock
  · intro runnerId claim hnext j hji claim'
    cases what with
    | claim id type runnerId' =>
      cases hnext
      exact hpromised j hji claim'
    | _ => cases hnext
  · intro taskId lockUntil hnext j now lock hj _ t _ _ _
    cases what with
    | renew taskId' lockedBy =>
      cases hnext
      have hpass := h.roles j
      rw [hj] at hpass
      have hnow : now ≤ c.shared.clock := hpass.1
      unfold systemTaskLockTTL
      omega
    | _ => cases hnext
  · intro now lock hnext
    cases what <;> cases hnext

/-- One event of a run whose runners keep their promises and whose claims are prompt. -/
theorem LeaseInv.step (h : LeaseInv c) {e : SystemTaskEvent ι} (hpromised : c.Promised e) (hprompt : c.Prompt e) : LeaseInv (c.step e) := by
  cases e with
  | tick seconds =>
    have hclock : c.shared.clock ≤ c.shared.clock + seconds := by omega
    refine ⟨h.base.step (.tick seconds), h.held, h.claimers, fun i => ?_, h.renewals⟩
    exact (h.roles i).keep hclock (KeepsTasks.refl _) (RunBefore.of_tasks rfl) (SameLocks.of_locks rfl)
  | start i what =>
    change LeaseInv ⟨((c.threads i).start what c.shared).1, Function.update c.threads i ((c.threads i).start what c.shared).2⟩
    rw [start_world]
    rcases start_cases what with hbegin | hbusy
    · rw [hbegin]
      exact h.begins what hpromised
    · rw [hbusy, Function.update_eq_self]
      exact h
  | statement i ok => exact h.statement i ok hprompt

end Invariant

/-! ## The expiry pass -/

theorem mem_pass_of_failed (db : SystemTaskDb) (locks : List SystemTaskLock) (now : Int) (ht : t ∈ db.tasks.rows)
    (hfailed : t.status = .failed) :
    t ∈ (locks.foldl (fun db lock => (db.markSystemTaskLeaseExpired lock.taskId now).deleteStaleLock lock now) db).tasks.rows := by
  induction locks generalizing db with
  | nil => exact ht
  | cons lock rest ih =>
    have hmark : t ∈ (db.markSystemTaskLeaseExpired lock.taskId now).tasks.rows := by
      refine mem_updateTasks.2 ⟨t, ht, ?_⟩
      simp [hfailed]
    exact ih _ hmark

/-- A pass over a lock of a running task ends the task. -/
theorem failed_of_pass {locks : List SystemTaskLock} (now : Int) (ht : t ∈ db.tasks.rows) (hrun : t.status = .running)
    (hl : l ∈ locks) (htask : l.taskId = t.taskId) :
    ∃ t' ∈ (locks.foldl (fun db lock => (db.markSystemTaskLeaseExpired lock.taskId now).deleteStaleLock lock now) db).tasks.rows,
      t'.id = t.id ∧ t'.status = .failed ∧ t'.activeKey = none := by
  induction locks generalizing db with
  | nil => exact absurd hl List.not_mem_nil
  | cons lock rest ih =>
    by_cases hlock : t.taskId = lock.taskId
    · have hfailed := mem_pass_of_failed ((db.markSystemTaskLeaseExpired lock.taskId now).deleteStaleLock lock now) rest now
        (t := { t with status := .failed, activeKey := none, error := "task lease expired", updatedAt := now })
        (mem_updateTasks.2 ⟨t, ht, by simp [hlock, hrun]⟩) rfl
      exact ⟨_, hfailed, rfl, rfl, rfl⟩
    · have hrest : l ∈ rest := by
        rcases List.mem_cons.1 hl with rfl | hrest
        · exact absurd htask.symm hlock
        · exact hrest
      exact ih (mem_updateTasks.2 ⟨t, ht, by simp [hlock]⟩) hrest

/-- Where running tasks are held, none is stranded. -/
theorem noneStranded_of_held (h : Held db) : db.NoneStranded := by
  intro t ht hrun
  obtain ⟨l, hl, htask, -⟩ := h t ht hrun
  refine ⟨l, hl, htask, fun now hended => ?_⟩
  exact failed_of_pass now ht hrun (List.mem_filter.2 ⟨hl, by simpa using hended⟩) htask

end SystemTaskLeaseAux

/-! ## Runs -/

open SystemTaskLeaseAux

section Runs

variable {ι : Type} [DecidableEq ι]

/-- In a run whose claims are prompt, every running task has its lock at every moment. -/
theorem no_system_task_stranded {clock : Int} {es : List (SystemTaskEvent ι)}
    (hrun : Along SystemTaskConf.step (fun c e => c.Promised e ∧ c.Prompt e) (SystemTaskConf.fresh clock) es) :
    ∀ pre, pre <+: es → (SystemTaskConf.after clock pre).shared.db.NoneStranded := by
  intro pre hpre
  have hinv := hrun.invariant_reached (fun c e hok h => h.step hok.1 hok.2) (LeaseInv.fresh clock) pre hpre
  exact noneStranded_of_held hinv.held

end Runs

/-- A task is created, a runner claims it and marks it running. -/
def claimInTime : List (SystemTaskEvent Bool) :=
  [.start false (.create "t" "sync" "" ""), .statement false true, .start true (.claim 1 "sync" "a"), .statement true true,
    .statement true true, .statement true true, .statement true true]

theorem claim_in_time_keeps_lock : (∃ t ∈ (SystemTaskConf.after 0 claimInTime).shared.db.tasks.rows, t.status = .running) ∧
    (SystemTaskConf.after 0 claimInTime).shared.db.NoneStranded := by
  refine ⟨by decide, no_system_task_stranded ?_ claimInTime (List.prefix_refl claimInTime)⟩
  refine ⟨⟨trivial, trivial⟩, ⟨trivial, trivial⟩, ⟨?_, trivial⟩, ⟨trivial, trivial⟩, ⟨trivial, trivial⟩,
    ⟨trivial, trivial⟩, ⟨trivial, ?_⟩, trivial⟩
  · intro j hj claim
    cases j with
    | true => exact absurd rfl hj
    | false => exact SystemTaskRole.noConfusion
  · intro _
    exact ⟨⟨"sync", "t", "a", 60, 0⟩, by decide, rfl, rfl, rfl, by decide⟩

/-- The runner is paused before it marks the task running, for longer than its lease, and a pass deletes the lock. -/
def pausedClaim : List (SystemTaskEvent Bool) :=
  [.start false (.create "t" "sync" "" ""), .statement false true, .start true (.claim 1 "sync" "a"), .statement true true,
    .statement true true, .statement true true, .tick 61, .start false .expire, .statement false true, .statement false true,
    .statement false true, .statement false true, .statement true true]

/-- The task is then running without a lock, although the runners keep their promises: no pass finds it any more. -/
theorem paused_claim_strands_task : Along SystemTaskConf.step SystemTaskConf.Promised (SystemTaskConf.fresh 0) pausedClaim ∧
    ¬ (SystemTaskConf.after 0 pausedClaim).shared.db.NoneStranded := by
  constructor
  · refine ⟨trivial, trivial, ?_, trivial, trivial, trivial, trivial, trivial, trivial, trivial, trivial, trivial, trivial, trivial⟩
    intro j hj claim
    cases j with
    | true => exact absurd rfl hj
    | false => exact SystemTaskRole.noConfusion
  · intro h
    have hrunning : ∃ t ∈ (SystemTaskConf.after 0 pausedClaim).shared.db.tasks.rows, t.status = .running := by decide
    obtain ⟨t, ht, hrun⟩ := hrunning
    obtain ⟨l, hl, -⟩ := h t ht hrun
    exact absurd hl List.not_mem_nil

end NewApi
