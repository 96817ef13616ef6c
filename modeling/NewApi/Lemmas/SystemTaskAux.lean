import NewApi.Model.SystemTask

/-!
# The tables of the system tasks

What every statement keeps: a task stays with its id, its `task_id` and its type, an ended task as a whole; `active_key` is the type
of a task that is pending or running and null otherwise; and a lock is for a task of its type.
-/

namespace NewApi

open Tables Threads

namespace SystemTaskDb

variable {change : TaskChange} {t task t' : SystemTask} {now : Int} {p : SystemTask → Bool}

/-- The row of a task that was read is there, with the columns that never change. -/
def Knows (db : SystemTaskDb) (task : SystemTask) : Prop :=
  ∃ t ∈ db.tasks.rows, t.id = task.id ∧ t.taskId = task.taskId ∧ t.type = task.type

/-- What becomes of a task: the columns that never change, no way back to pending, and an end that is final. -/
structure Becomes (t t' : SystemTask) : Prop where
  id : t'.id = t.id
  taskId : t'.taskId = t.taskId
  type : t'.type = t.type
  notPending : t.status ≠ .pending → t'.status ≠ .pending
  ended : t.active = false → t' = t

/-- The tasks are still there. -/
def KeepsTasks (db db' : SystemTaskDb) : Prop := ∀ t ∈ db.tasks.rows, ∃ t' ∈ db'.tasks.rows, Becomes t t'

/-- What holds between the columns: `active_key` is the type while the task is active, and a lock is for a task of its type. -/
structure Ok (db : SystemTaskDb) : Prop where
  activeKey : ∀ t ∈ db.tasks.rows, t.activeKey = if t.active then some t.type else none
  lockTask : ∀ l ∈ db.locks.rows, ∃ t ∈ db.tasks.rows, t.taskId = l.taskId ∧ t.type = l.type

variable {db db' : SystemTaskDb} {lockedUntil : Int} {id : Nat} {type : String}

/-! ## Rows -/

/-- The tasks after an update. -/
theorem mem_updateTasks {x : SystemTask} :
    x ∈ (db.updateTasks p change).tasks.rows ↔ ∃ t ∈ db.tasks.rows, (if p t then change.apply t else t) = x :=
  List.mem_map

/-- The locks after an update. -/
theorem mem_updateLocks {p : SystemTaskLock → Bool} {taskId lockedBy : SystemTaskLock → String}
    {x : SystemTaskLock} : x ∈ (db.updateLocks p taskId lockedBy lockedUntil now).locks.rows ↔
      ∃ l ∈ db.locks.rows, (if p l then ⟨l.type, taskId l, lockedBy l, lockedUntil, now⟩ else l) = x :=
  List.mem_map

/-- The locks after a deletion. -/
theorem mem_deleteLocks {p : SystemTaskLock → Bool} {x : SystemTaskLock} :
    x ∈ (db.deleteLocks p).locks.rows ↔ x ∈ db.locks.rows ∧ p x = false := by
  unfold deleteLocks
  rw [Table.mem_keep]
  simp

/-- The tasks after an insert. -/
theorem mem_insertTask {x : SystemTask} (h : db.insertTask t = some db') : x ∈ db'.tasks.rows ↔ x ∈ db.tasks.rows ∨ x = t := by
  unfold insertTask at h
  split at h
  · obtain rfl := Option.some.inj h
    simp
  · cases h

theorem locks_insertTask (h : db.insertTask t = some db') : db'.locks = db.locks := by
  unfold insertTask at h
  split at h
  · obtain rfl := Option.some.inj h
    rfl
  · cases h

theorem eq_of_taskId_eq (h : t ∈ db.tasks.rows) (h' : t' ∈ db.tasks.rows) (heq : t.taskId = t'.taskId) : t = t' :=
  List.inj_on_of_nodup_map db.taskIds h h' heq

/-- A type has one active task. -/
theorem eq_of_active (hok : db.Ok) (h : t ∈ db.tasks.rows) (h' : t' ∈ db.tasks.rows) (hactive : t.active = true)
    (hactive' : t'.active = true) (htype : t.type = t'.type) : t = t' := by
  have hkey : t.activeKey = some t.type := by rw [hok.activeKey t h, if_pos hactive]
  have hkey' : t'.activeKey = some t.type := by rw [hok.activeKey t' h', if_pos hactive', htype]
  exact Table.eq_of_column_eq db.activeKeys h h' hkey hkey'

/-! ## What is kept -/

theorem Becomes.refl (t : SystemTask) : Becomes t t := ⟨rfl, rfl, rfl, fun h => h, fun _ => rfl⟩

theorem Becomes.trans {t'' : SystemTask} (h : Becomes t t') (h' : Becomes t' t'') : Becomes t t'' where
  id := h'.id.trans h.id
  taskId := h'.taskId.trans h.taskId
  type := h'.type.trans h.type
  notPending hnot := h'.notPending (h.notPending hnot)
  ended hend := by
    obtain rfl := h.ended hend
    exact h'.ended hend

theorem KeepsTasks.refl (db : SystemTaskDb) : KeepsTasks db db := fun t ht => ⟨t, ht, Becomes.refl t⟩

theorem KeepsTasks.trans {db'' : SystemTaskDb} (h : KeepsTasks db db') (h' : KeepsTasks db' db'') : KeepsTasks db db'' := by
  intro t ht
  obtain ⟨t₁, ht₁, hfirst⟩ := h t ht
  obtain ⟨t₂, ht₂, hsecond⟩ := h' t₁ ht₁
  exact ⟨t₂, ht₂, hfirst.trans hsecond⟩

theorem KeepsTasks.insertTask (h : db.insertTask t = some db') : KeepsTasks db db' :=
  fun x hx => ⟨x, (mem_insertTask h).2 (.inl hx), Becomes.refl x⟩

/-- An update of active tasks that leaves their types and makes none of them pending. -/
theorem KeepsTasks.updateTasks (hp : ∀ t, p t = true → t.active = true)
    (htype : ∀ t, (change.apply t).type = t.type) (hnot : ∀ t, t.status ≠ .pending → (change.apply t).status ≠ .pending) :
    KeepsTasks db (db.updateTasks p change) := by
  intro t ht
  refine ⟨_, mem_updateTasks.2 ⟨t, ht, rfl⟩, ?_⟩
  split
  · rename_i hpt
    exact ⟨change.id t, change.taskId t, htype t, hnot t, fun hend => absurd (hp t hpt) (by simp [hend])⟩
  · exact Becomes.refl t

/-- A task that is known stays known. -/
theorem Knows.keep (h : db.Knows task) (hkeeps : KeepsTasks db db') : db'.Knows task := by
  obtain ⟨t, ht, hid, htask, htype⟩ := h
  obtain ⟨t', ht', hbecomes⟩ := hkeeps t ht
  exact ⟨t', ht', hbecomes.id.trans hid, hbecomes.taskId.trans htask, hbecomes.type.trans htype⟩

/-- What is found is a pending task of the type. -/
theorem mem_of_findPending (h : db.findPending id type = some task) :
    task ∈ db.tasks.rows ∧ task.id = id ∧ task.type = type ∧ task.status = .pending := by
  obtain ⟨hlookup, htest⟩ := Option.filter_eq_some_iff.1 h
  simp only [Bool.and_eq_true, decide_eq_true_eq] at htest
  exact ⟨Table.mem_of_lookup hlookup, Table.lookup_key hlookup, htest.1, htest.2⟩

/-! ## The columns -/

/-- A task that is inserted pending, with its type as its key. -/
theorem Ok.insertTask (h : db.Ok) (hkey : t.activeKey = if t.active then some t.type else none)
    (hins : db.insertTask t = some db') : db'.Ok where
  activeKey x hx := by
    rcases (mem_insertTask hins).1 hx with hold | rfl
    · exact h.activeKey x hold
    · exact hkey
  lockTask l hl := by
    rw [locks_insertTask hins] at hl
    obtain ⟨x, hx, hsame⟩ := h.lockTask l hl
    exact ⟨x, (mem_insertTask hins).2 (.inl hx), hsame⟩

/-- An update of active tasks that sets the key with the status. -/
theorem Ok.updateTasks (h : db.Ok) (hp : ∀ t, p t = true → t.active = true)
    (htype : ∀ t, (change.apply t).type = t.type) (hnot : ∀ t, t.status ≠ .pending → (change.apply t).status ≠ .pending)
    (hkey : ∀ t, p t = true → t.activeKey = some t.type →
      (change.apply t).activeKey = if (change.apply t).active then some t.type else none) : (db.updateTasks p change).Ok where
  activeKey x hx := by
    obtain ⟨t, ht, rfl⟩ := mem_updateTasks.1 hx
    split
    · rename_i hpt
      rw [htype]
      refine hkey t hpt ?_
      rw [h.activeKey t ht, if_pos (hp t hpt)]
    · exact h.activeKey t ht
  lockTask l hl := by
    obtain ⟨t, ht, htask, htype'⟩ := h.lockTask l hl
    obtain ⟨t', ht', hbecomes⟩ := KeepsTasks.updateTasks hp htype hnot t ht
    exact ⟨t', ht', hbecomes.taskId.trans htask, hbecomes.type.trans htype'⟩

/-- Locks of tasks that exist keep the tables in order. -/
theorem Ok.setLocks (h : db.Ok) {locks : Table SystemTaskLock.type}
    (hlocks : ∀ l ∈ locks.rows, ∃ t ∈ db.tasks.rows, t.taskId = l.taskId ∧ t.type = l.type) : Ok { db with locks := locks } :=
  ⟨h.activeKey, hlocks⟩

theorem Ok.deleteLocks (h : db.Ok) (p : SystemTaskLock → Bool) : (db.deleteLocks p).Ok :=
  h.setLocks fun l hl => h.lockTask l (mem_deleteLocks.1 hl).1

/-- A new lock of a known task keeps them in order. -/
theorem Ok.createLock (h : db.Ok) (hknows : db.Knows task) {lockedBy : String}
    (hins : db.createLock ⟨task.type, task.taskId, lockedBy, lockedUntil, now⟩ = some db') : db'.Ok := by
  obtain ⟨locks, hlocks, rfl⟩ := Option.map_eq_some_iff.1 hins
  refine h.setLocks fun l hl => ?_
  rcases (Table.mem_insert hlocks).1 hl with hold | rfl
  · exact h.lockTask l hold
  · obtain ⟨t, ht, -, htask, htype⟩ := hknows
    exact ⟨t, ht, htask, htype⟩

/-- So does taking over a lock. -/
theorem Ok.takeLock (h : db.Ok) (hknows : db.Knows task) (lockedBy : String) (lockUntil now : Int) :
    (db.takeLock task.type task.taskId lockedBy lockUntil now).Ok := by
  refine h.setLocks fun l hl => ?_
  obtain ⟨l₀, hl₀, rfl⟩ := mem_updateLocks.1 hl
  split
  · rename_i hstale
    have htype : l₀.type = task.type := by
      simp only [stale, Bool.and_eq_true, decide_eq_true_eq] at hstale
      exact hstale.1
    obtain ⟨t, ht, -, htask, htype'⟩ := hknows
    exact ⟨t, ht, htask, htype'.trans htype.symm⟩
  · exact h.lockTask l₀ hl₀

theorem Ok.renewSystemTaskLock (h : db.Ok) (taskId lockedBy : String) (lockUntil now : Int) :
    (db.renewSystemTaskLock taskId lockedBy lockUntil now).Ok := by
  refine h.setLocks fun l hl => ?_
  obtain ⟨l₀, hl₀, rfl⟩ := mem_updateLocks.1 hl
  split <;> exact h.lockTask l₀ hl₀

/-! ## The updates of the tasks -/

/-- What can be claimed is active. -/
theorem active_of_claimable (h : claimable id type t = true) : t.active = true := by
  simp only [claimable, Bool.and_eq_true, decide_eq_true_eq] at h
  simp [SystemTask.active, h.2]

theorem active_of_running (h : t.status = .running) : t.active = true := by
  simp [SystemTask.active, h]

/-- What a fenced write finds is running. -/
theorem running_of_fenced {taskId lockedBy : String} (h : db.fenced taskId lockedBy now t = true) : t.status = .running := by
  simp only [fenced, Bool.and_eq_true, decide_eq_true_eq] at h
  exact h.1.1.2

/-- The rows and the columns after a statement on the tasks. -/
theorem updateTasks_keeps (h : db.Ok) (hp : ∀ t, p t = true → t.active = true)
    (htype : ∀ t, (change.apply t).type = t.type) (hnot : ∀ t, t.status ≠ .pending → (change.apply t).status ≠ .pending)
    (hkey : ∀ t, p t = true → t.activeKey = some t.type →
      (change.apply t).activeKey = if (change.apply t).active then some t.type else none) :
    KeepsTasks db (db.updateTasks p change) ∧ (db.updateTasks p change).Ok :=
  ⟨KeepsTasks.updateTasks hp htype hnot, h.updateTasks hp htype hnot hkey⟩

/-- Marking a task as running keeps the tables. -/
theorem markRunning_keeps (h : db.Ok) (id : Nat) (type runnerId : String) :
    KeepsTasks db (db.markRunning id type runnerId now) ∧ (db.markRunning id type runnerId now).Ok :=
  updateTasks_keeps h (fun _ => active_of_claimable) (fun _ => rfl) (fun _ _ => SystemTaskStatus.noConfusion) fun _ _ hkey => hkey

/-- So does marking it as expired. -/
theorem markExpired_keeps (h : db.Ok) (taskId : String) :
    KeepsTasks db (db.markSystemTaskLeaseExpired taskId now) ∧ (db.markSystemTaskLeaseExpired taskId now).Ok :=
  updateTasks_keeps h (fun _ ht => active_of_running (of_decide_eq_true (Bool.and_eq_true_iff.1 ht).2)) (fun _ => rfl)
    (fun _ _ => SystemTaskStatus.noConfusion) fun _ _ _ => rfl

/-- So does writing its state. -/
theorem updateState_keeps (h : db.Ok) (taskId lockedBy state : String) :
    KeepsTasks db (db.updateSystemTaskState taskId lockedBy state now) ∧ (db.updateSystemTaskState taskId lockedBy state now).Ok := by
  refine updateTasks_keeps h (fun _ ht => active_of_running (running_of_fenced ht)) (fun _ => rfl) (fun _ hnot => hnot) fun t ht hkey => ?_
  rw [if_pos]
  · exact hkey
  · exact active_of_running (running_of_fenced ht)

/-- So does finishing it. -/
theorem finish_keeps (h : db.Ok) (taskId lockedBy : String) (final : FinalStatus) (result error : String) :
    KeepsTasks db (db.finishSystemTask taskId lockedBy final result error now) ∧
      (db.finishSystemTask taskId lockedBy final result error now).Ok := by
  refine updateTasks_keeps h (fun _ ht => active_of_running (running_of_fenced ht)) (fun _ => rfl) (fun _ _ => ?_) fun _ _ _ => ?_
  · cases final <;> exact SystemTaskStatus.noConfusion
  · cases final <;> rfl

end SystemTaskDb

/-! ## The calls -/

namespace SystemTaskCall

open SystemTaskDb

variable {db : SystemTaskDb}

/-- The claim a call is in, from the moment it has read its task until it has marked it running or given the lock back. -/
def claimOf : SystemTaskCall → Option SystemTaskClaim
  | .acquireCreate c | .acquireFind c | .acquireTake c _ | .claimExpire c _ | .claimRun c | .claimRelease c => some c
  | _ => none

/-- What a step of a call keeps. -/
structure Keeps (w w' : SystemTaskWorld) (next : SystemTaskCall) : Prop where
  clock : w'.clock = w.clock
  tasks : KeepsTasks w.db w'.db
  ok : w'.db.Ok
  claim : ∀ c, next.claimOf = some c → w'.db.Knows c.task

variable {w : SystemTaskWorld} {next call : SystemTaskCall}

/-- A read keeps the world. -/
theorem Keeps.read (h : w.db.Ok) (hclaim : ∀ c, next.claimOf = some c → w.db.Knows c.task) : Keeps w w next :=
  ⟨rfl, KeepsTasks.refl _, h, hclaim⟩

/-- A call that ends keeps it. -/
theorem Keeps.rests (h : w.db.Ok) (hnext : next.claimOf = none) : Keeps w w next :=
  Keeps.read h fun c hc => by cases hnext.symm.trans hc

/-- A write of the tasks keeps it. -/
theorem Keeps.write (h : KeepsTasks w.db db ∧ db.Ok) (hclaim : ∀ c, next.claimOf = some c → w.db.Knows c.task) :
    Keeps w { w with db := db } next :=
  ⟨rfl, h.1, h.2, fun c hc => (hclaim c hc).keep h.1⟩

/-- A write of the locks keeps it. -/
theorem Keeps.lock (htasks : db.tasks = w.db.tasks) (h : db.Ok)
    (hclaim : ∀ c, next.claimOf = some c → w.db.Knows c.task) : Keeps w { w with db := db } next := by
  refine Keeps.write ⟨fun t ht => ⟨t, ?_, Becomes.refl t⟩, h⟩ hclaim
  rw [htasks]
  exact ht

theorem tasks_of_createLock {db' : SystemTaskDb} {l : SystemTaskLock} (h : db.createLock l = some db') : db'.tasks = db.tasks := by
  obtain ⟨locks, -, rfl⟩ := Option.map_eq_some_iff.1 h
  rfl

/-- Every step of a call keeps the tables in order, whatever the other calls do between its steps. -/
theorem statement_keeps (ok : Bool) (h : w.db.Ok) (hclaim : ∀ c, call.claimOf = some c → w.db.Knows c.task) :
    Keeps w (call.statement ok w).1 (call.statement ok w).2 := by
  cases call with
  | done lost => exact Keeps.read h hclaim
  | create taskId type payload state =>
    simp only [statement]
    split
    · rename_i db hdb
      have hins : w.db.createSystemTask taskId type payload state w.clock = some db := by
        cases ok with
        | true => exact hdb
        | false => cases hdb
      exact Keeps.write ⟨KeepsTasks.insertTask hins, h.insertTask rfl hins⟩ (by rintro c ⟨⟩)
    · exact .rests h rfl
  | claim _ _ _ _ | claimReload _ | update _ _ _ | finish _ _ _ _ _ | renew _ _ _ => exact .rests h rfl
  | claimFind id type runnerId lockUntil now =>
    simp only [statement]
    split
    · rename_i task htask
      refine Keeps.read h fun c hc => ?_
      obtain rfl := Option.some.inj hc
      cases ok with
      | true => exact ⟨_, (mem_of_findPending htask).1, rfl, rfl, rfl⟩
      | false => cases htask
    · exact .rests h rfl
  | acquireCreate c =>
    simp only [statement]
    split
    · rename_i db hdb
      cases ok with
      | true => exact Keeps.lock (tasks_of_createLock hdb) (h.createLock (hclaim c rfl) hdb) hclaim
      | false => cases hdb
    · exact Keeps.read h hclaim
  | acquireFind c =>
    simp only [statement]
    split
    · refine Keeps.read h fun c' hc' => ?_
      split at hc'
      · cases hc'
      · exact hclaim c' hc'
    · exact .rests h rfl
  | acquireTake c existing =>
    simp only [statement]
    split
    · refine Keeps.lock rfl (h.takeLock (hclaim c rfl) _ _ _) fun c' hc' => ?_
      split at hc' <;> exact hclaim c' hc'
    · exact .rests h rfl
  | claimExpire c expiredTaskId =>
    simp only [statement]
    split
    · exact Keeps.write (markExpired_keeps h _) hclaim
    · exact Keeps.read h hclaim
  | claimRun c =>
    simp only [statement]
    split
    · exact Keeps.write (markRunning_keeps h _ _ _) (by rintro c ⟨⟩)
    · exact Keeps.read h hclaim
  | claimRelease c | finishRelease _ _ | expireDelete lock _ _ =>
    cases ok with
    | true => exact Keeps.lock rfl (h.deleteLocks _) (by rintro c ⟨⟩)
    | false => exact .rests h rfl
  | updateAt taskId lockedBy state now =>
    cases ok with
    | true => exact Keeps.write (updateState_keeps h _ _ _) (by rintro c ⟨⟩)
    | false => exact .rests h rfl
  | finishAt taskId lockedBy final result error now =>
    cases ok with
    | true =>
      refine Keeps.write (finish_keeps h _ _ _ _ _) fun c' hc' => ?_
      simp only [statement, if_true] at hc'
      split at hc' <;> cases hc'
    | false => exact .rests h rfl
  | renewAt taskId lockedBy lockUntil now =>
    cases ok with
    | true => exact Keeps.lock rfl (h.renewSystemTaskLock _ _ _ _) (by rintro c ⟨⟩)
    | false => exact .rests h rfl
  | expireFind now => cases ok <;> exact .rests h rfl
  | expireMark locks now =>
    cases locks with
    | nil => exact .rests h rfl
    | cons lock rest =>
      cases ok with
      | true => exact Keeps.write (markExpired_keeps h _) (by rintro c ⟨⟩)
      | false => exact .rests h rfl

/-- A call that begins is not in a claim yet, and one that is under way goes on. -/
theorem claimOf_start {what : SystemTaskStart} {c : SystemTaskClaim}
    (h : (call.start what w).2.claimOf = some c) : call.claimOf = some c := by
  cases call with
  | done lost => cases what <;> cases h
  | _ => exact h

/-- Starting a call changes nothing. -/
theorem start_world (what : SystemTaskStart) (call : SystemTaskCall) : (call.start what w).1 = w := by
  cases call <;> rfl

end SystemTaskCall

/-- The tables are in order, and the task of every claim under way is in them. -/
structure SystemTaskInv {ι : Type} (c : SystemTaskConf ι) : Prop where
  ok : c.shared.db.Ok
  claims : ∀ i claim, (c.threads i).claimOf = some claim → c.shared.db.Knows claim.task

namespace SystemTaskInv

open SystemTaskCall

variable {ι : Type} {c : SystemTaskConf ι}

/-- The invariant holds at the start. -/
theorem fresh (clock : Int) : SystemTaskInv (SystemTaskConf.fresh clock : SystemTaskConf ι) :=
  ⟨⟨fun t ht => absurd ht List.not_mem_nil, fun l hl => absurd hl List.not_mem_nil⟩, fun i claim h => by cases h⟩

variable (h : SystemTaskInv c)

include h

/-- Every statement keeps the tables. -/
theorem keeps_statement (i : ι) (ok : Bool) :
    Keeps c.shared ((c.threads i).statement ok c.shared).1 ((c.threads i).statement ok c.shared).2 :=
  statement_keeps ok h.ok fun claim => h.claims i claim

theorem keeps_start (i : ι) (what : SystemTaskStart) :
    Keeps c.shared ((c.threads i).start what c.shared).1 ((c.threads i).start what c.shared).2 := by
  rw [start_world]
  exact Keeps.read h.ok fun claim hclaim => h.claims i claim (claimOf_start hclaim)

variable [DecidableEq ι]

/-- A thread that keeps the tables keeps the invariant. -/
theorem move {i : ι} {w' : SystemTaskWorld} {next : SystemTaskCall} (hk : Keeps c.shared w' next) :
    SystemTaskInv ⟨w', Function.update c.threads i next⟩ where
  ok := hk.ok
  claims j claim hj := by
    by_cases hji : j = i
    · subst hji
      simp only [Function.update_self] at hj
      exact hk.claim claim hj
    · simp only [Function.update_of_ne hji] at hj
      exact (h.claims j claim hj).keep hk.tasks

/-- Every event keeps the invariant. -/
theorem step (e : SystemTaskEvent ι) : SystemTaskInv (c.step e) := by
  cases e with
  | tick seconds => exact ⟨h.ok, h.claims⟩
  | start i what => exact h.move (h.keeps_start i what)
  | statement i ok => exact h.move (h.keeps_statement i ok)

/-- Every event keeps the tasks. -/
theorem keepsTasks_step (e : SystemTaskEvent ι) : c.shared.db.KeepsTasks (c.step e).shared.db := by
  cases e with
  | tick seconds => exact SystemTaskDb.KeepsTasks.refl _
  | start i what => exact (h.keeps_start i what).tasks
  | statement i ok => exact (h.keeps_statement i ok).tasks

end SystemTaskInv

end NewApi
