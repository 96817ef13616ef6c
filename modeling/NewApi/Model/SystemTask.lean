import Mathlib
import NewApi.Lib.Run
import NewApi.Lib.Table

/-!
# System tasks and their locks

`model/system_task.go`, as the runners of `service/system_task.go` call it. A task is a row that is pending, running or ended; a lock is
one row for each type, with the task and the runner it is held for and the time its lease ends. Every call is a sequence of statements
with any delay before the next one; a runner that crashes is one whose calls take no further step. A call reads the clock where the code
does.
-/

namespace NewApi

open Tables Threads

inductive SystemTaskStatus where
  | pending
  | running
  | succeeded
  | failed
  deriving DecidableEq, Repr

/-- The statuses `FinishSystemTask` is called with. -/
inductive FinalStatus where
  | succeeded
  | failed
  deriving DecidableEq, Repr

def FinalStatus.status : FinalStatus → SystemTaskStatus
  | .succeeded => .succeeded
  | .failed => .failed

structure SystemTask where
  id : Nat
  taskId : String
  type : String
  status : SystemTaskStatus
  activeKey : Option String
  payload : String
  state : String
  result : String
  error : String
  lockedBy : String
  createdAt : Int
  updatedAt : Int
  deriving DecidableEq, Repr

structure SystemTaskLock where
  type : String
  taskId : String
  lockedBy : String
  lockedUntil : Int
  updatedAt : Int
  deriving DecidableEq, Repr

/-- The task is pending or running. -/
def SystemTask.active (t : SystemTask) : Bool := t.status = .pending || t.status = .running

/-- The two tables. `task_id` and, where it is not null, `active_key` are unique. -/
structure SystemTaskDb where
  tasks : Table SystemTask.id
  locks : Table SystemTaskLock.type
  taskIds : (tasks.rows.map SystemTask.taskId).Nodup
  activeKeys : (tasks.rows.filterMap SystemTask.activeKey).Nodup

/-! ## The statements -/

namespace SystemTaskDb

def empty : SystemTaskDb := ⟨Table.empty, Table.empty, List.nodup_nil, List.nodup_nil⟩

variable (db : SystemTaskDb)

def nextId : Nat := (db.tasks.rows.map SystemTask.id).foldr max 0 + 1

/-- Insert a task; `none` where a unique column refuses it. -/
def insertTask (t : SystemTask) : Option SystemTaskDb :=
  if h : t.id ∉ db.tasks.rows.map SystemTask.id ∧ t.taskId ∉ db.tasks.rows.map SystemTask.taskId ∧
      ∀ key ∈ t.activeKey, key ∉ db.tasks.rows.filterMap SystemTask.activeKey then
    some { db with
      tasks := ⟨db.tasks.rows ++ [t], by
        rw [List.map_append]
        exact db.tasks.nodup.append (List.nodup_singleton _) (by simpa using h.1)⟩
      taskIds := by
        rw [List.map_append]
        exact db.taskIds.append (List.nodup_singleton _) (by simpa using h.2.1)
      activeKeys := by
        have hnew : [t].filterMap SystemTask.activeKey = t.activeKey.toList := by
          cases hkey : t.activeKey <;> simp [hkey]
        rw [List.filterMap_append, hnew]
        refine db.activeKeys.append ?_ ?_
        · cases t.activeKey <;> simp
        · intro key hold hkey
          exact h.2.2 key (Option.mem_toList.1 hkey) hold }
  else none

/-- A change of a task that keeps its unique columns, or gives `active_key` up. -/
structure TaskChange where
  apply : SystemTask → SystemTask
  id : ∀ t, (apply t).id = t.id
  taskId : ∀ t, (apply t).taskId = t.taskId
  activeKey : ∀ t, (apply t).activeKey = t.activeKey ∨ (apply t).activeKey = none

def updateTasks (p : SystemTask → Bool) (change : TaskChange) : SystemTaskDb :=
  let f := fun t => if p t then change.apply t else t
  { db with
    tasks := db.tasks.modify f (by
      intro t
      simp only [f]
      split
      · exact change.id t
      · rfl)
    taskIds := by
      have hsame : (db.tasks.rows.map f).map SystemTask.taskId = db.tasks.rows.map SystemTask.taskId :=
        Table.map_key_map (by
          intro t
          simp only [f]
          split
          · exact change.taskId t
          · rfl) _
      exact hsame.symm ▸ db.taskIds
    activeKeys := by
      refine db.activeKeys.sublist (Table.filterMap_map_sublist (fun t => ?_) _)
      simp only [f]
      split
      · exact change.activeKey t
      · exact .inl rfl }

/-- Update the locks that pass a test; the type stays. -/
def updateLocks (p : SystemTaskLock → Bool) (taskId lockedBy : SystemTaskLock → String) (lockedUntil now : Int) : SystemTaskDb :=
  { db with
    locks := db.locks.modify
      (fun l => if p l then ⟨l.type, taskId l, lockedBy l, lockedUntil, now⟩ else l) (by intro l; split <;> rfl) }

def deleteLocks (p : SystemTaskLock → Bool) : SystemTaskDb := { db with locks := db.locks.keep fun l => !p l }

end SystemTaskDb

namespace SystemTaskDb

variable (db : SystemTaskDb)

def createSystemTask (taskId type payload state : String) (now : Int) : Option SystemTaskDb :=
  db.insertTask
    { id := db.nextId, taskId := taskId, type := type, status := .pending, activeKey := some type, payload := payload, state := state
      result := "", error := "", lockedBy := "", createdAt := now, updatedAt := now }

def findPending (id : Nat) (type : String) : Option SystemTask :=
  (db.tasks.lookup id).filter fun t => t.type = type && t.status = .pending

/-- The task is the one with this id and type, and it is pending. -/
def claimable (id : Nat) (type : String) (t : SystemTask) : Bool := t.id = id && t.type = type && t.status = .pending

/-- The statement of `ClaimSystemTask` that marks the task running. -/
def markRunning (id : Nat) (type runnerId : String) (now : Int) : SystemTaskDb :=
  db.updateTasks (claimable id type)
    ⟨fun t => { t with status := .running, lockedBy := runnerId, updatedAt := now }, fun _ => rfl, fun _ => rfl, fun _ => .inl rfl⟩

def markSystemTaskLeaseExpired (taskId : String) (now : Int) : SystemTaskDb :=
  db.updateTasks (fun t => t.taskId = taskId && t.status = .running)
    ⟨fun t => { t with status := .failed, activeKey := none, error := "task lease expired", updatedAt := now },
      fun _ => rfl, fun _ => rfl, fun _ => .inr rfl⟩

/-- What `UpdateSystemTaskState` and `FinishSystemTask` ask of a row: it is running for the runner, and there is a lock of the task
that the runner holds and whose lease has not ended. -/
def fenced (taskId lockedBy : String) (now : Int) (t : SystemTask) : Bool :=
  t.taskId = taskId && t.status = .running && t.lockedBy = lockedBy &&
    db.locks.rows.any fun l => l.taskId = t.taskId && l.lockedBy = lockedBy && now ≤ l.lockedUntil

def updateSystemTaskState (taskId lockedBy state : String) (now : Int) : SystemTaskDb :=
  db.updateTasks (db.fenced taskId lockedBy now)
    ⟨fun t => { t with state := state, updatedAt := now }, fun _ => rfl, fun _ => rfl, fun _ => .inl rfl⟩

/-- The first statement of `FinishSystemTask`. -/
def finishSystemTask (taskId lockedBy : String) (final : FinalStatus) (result error : String) (now : Int) : SystemTaskDb :=
  db.updateTasks (db.fenced taskId lockedBy now)
    ⟨fun t => { t with status := final.status, activeKey := none, result := result, error := error, updatedAt := now },
      fun _ => rfl, fun _ => rfl, fun _ => .inr rfl⟩

/-- `DB.Create` of a lock; `none` where its type has one. -/
def createLock (l : SystemTaskLock) : Option SystemTaskDb := (db.locks.insert l).map fun locks => { db with locks := locks }

/-- The lock has the type, and its lease has ended. -/
def stale (type : String) (now : Int) (l : SystemTaskLock) : Bool := l.type = type && l.lockedUntil < now

def takeLock (type taskId lockedBy : String) (lockUntil now : Int) : SystemTaskDb :=
  db.updateLocks (stale type now) (fun _ => taskId) (fun _ => lockedBy) lockUntil now

/-- The lock is held by the runner for the task. -/
def heldFor (taskId lockedBy : String) (l : SystemTaskLock) : Bool := l.taskId = taskId && l.lockedBy = lockedBy

def renewSystemTaskLock (taskId lockedBy : String) (lockUntil now : Int) : SystemTaskDb :=
  db.updateLocks (fun l => heldFor taskId lockedBy l && now ≤ l.lockedUntil) SystemTaskLock.taskId SystemTaskLock.lockedBy lockUntil now

def releaseSystemTaskLock (taskId lockedBy : String) : SystemTaskDb := db.deleteLocks (heldFor taskId lockedBy)

def findStaleLocks (now : Int) : List SystemTaskLock := db.locks.rows.filter fun l => l.lockedUntil < now

/-- The deletion of `ExpireStaleSystemTaskLocks`. -/
def deleteStaleLock (lock : SystemTaskLock) (now : Int) : SystemTaskDb :=
  db.deleteLocks fun l => l.type = lock.type && heldFor lock.taskId lock.lockedBy l && l.lockedUntil < now

/-- `ExpireStaleSystemTaskLocks`, with nothing in between and every statement succeeding. -/
def expireStaleSystemTaskLocks (now : Int) : SystemTaskDb :=
  (db.findStaleLocks now).foldl (fun db lock => (db.markSystemTaskLeaseExpired lock.taskId now).deleteStaleLock lock now) db

end SystemTaskDb

/-! ## The calls -/

/-- `systemTaskLockTTL`, in seconds. -/
def systemTaskLockTTL : Int := 60

/-- A claim under way. The id and the type it was called with are those of the row. -/
structure SystemTaskClaim where
  task : SystemTask
  runnerId : String
  lockUntil : Int
  now : Int
  deriving DecidableEq, Repr

inductive SystemTaskCall where
  /-- The call has returned; `lost` where it returned `ErrSystemTaskLockLost`. -/
  | done (lost : Bool)
  | create (taskId type payload state : String)
  /-- `ClaimSystemTask`: read the clock, then the task. -/
  | claim (id : Nat) (type runnerId : String) (lockUntil : Int)
  | claimFind (id : Nat) (type runnerId : String) (lockUntil now : Int)
  /-- `acquireSystemTaskLock`: insert the lock, or else look at the one that is there and take it over. -/
  | acquireCreate (c : SystemTaskClaim)
  | acquireFind (c : SystemTaskClaim)
  | acquireTake (c : SystemTaskClaim) (existing : SystemTaskLock)
  /-- The task of the lock that was taken over is marked failed. -/
  | claimExpire (c : SystemTaskClaim) (expiredTaskId : String)
  | claimRun (c : SystemTaskClaim)
  | claimReload (c : SystemTaskClaim)
  | claimRelease (c : SystemTaskClaim)
  | update (taskId lockedBy state : String)
  | updateAt (taskId lockedBy state : String) (now : Int)
  | finish (taskId lockedBy : String) (final : FinalStatus) (result error : String)
  | finishAt (taskId lockedBy : String) (final : FinalStatus) (result error : String) (now : Int)
  | finishRelease (taskId lockedBy : String)
  | renew (taskId lockedBy : String) (lockUntil : Int)
  | renewAt (taskId lockedBy : String) (lockUntil now : Int)
  /-- `ExpireStaleSystemTaskLocks`: one lock after the other, its task first. -/
  | expireFind (now : Int)
  | expireMark (locks : List SystemTaskLock) (now : Int)
  | expireDelete (lock : SystemTaskLock) (rest : List SystemTaskLock) (now : Int)

/-- The tables and the clock the runners share. -/
structure SystemTaskWorld where
  clock : Int
  db : SystemTaskDb

namespace SystemTaskCall

/-- The next statement of a call, and whether it succeeds; where the call reads the clock, that is a step of its own. -/
def statement (ok : Bool) (w : SystemTaskWorld) : SystemTaskCall → SystemTaskWorld × SystemTaskCall
  | .done lost => (w, .done lost)
  | .create taskId type payload state =>
    match (if ok then w.db.createSystemTask taskId type payload state w.clock else none) with
    | some db => ({ w with db := db }, .done false)
    | none => (w, .done false)
  | .claim id type runnerId lockUntil => (w, .claimFind id type runnerId lockUntil w.clock)
  | .claimFind id type runnerId lockUntil now =>
    match (if ok then w.db.findPending id type else none) with
    | some task => (w, .acquireCreate ⟨task, runnerId, lockUntil, now⟩)
    | none => (w, .done false)
  -- any error of the insert, not only a lock that is there, leads to the query
  | .acquireCreate c =>
    match (if ok then w.db.createLock ⟨c.task.type, c.task.taskId, c.runnerId, c.lockUntil, c.now⟩ else none) with
    | some db => ({ w with db := db }, .claimRun c)
    | none => (w, .acquireFind c)
  | .acquireFind c =>
    match (if ok then w.db.locks.lookup c.task.type else none) with
    | some existing => (w, if c.now ≤ existing.lockedUntil then .done false else .acquireTake c existing)
    | none => (w, .done false)
  | .acquireTake c existing =>
    if ok && w.db.locks.rows.any (SystemTaskDb.stale c.task.type c.now) then
      ({ w with db := w.db.takeLock c.task.type c.task.taskId c.runnerId c.lockUntil c.now },
        if existing.taskId ≠ "" ∧ existing.taskId ≠ c.task.taskId then .claimExpire c existing.taskId else .claimRun c)
    else (w, .done false)
  | .claimExpire c expiredTaskId =>
    if ok then ({ w with db := w.db.markSystemTaskLeaseExpired expiredTaskId w.clock }, .claimRun c) else (w, .claimRelease c)
  | .claimRun c =>
    if ok && w.db.tasks.rows.any (SystemTaskDb.claimable c.task.id c.task.type) then
      ({ w with db := w.db.markRunning c.task.id c.task.type c.runnerId c.now }, .claimReload c)
    else (w, .claimRelease c)
  | .claimReload _ => (w, .done false)
  | .claimRelease c =>
    ({ w with db := if ok then w.db.releaseSystemTaskLock c.task.taskId c.runnerId else w.db }, .done false)
  | .update taskId lockedBy state => (w, .updateAt taskId lockedBy state w.clock)
  | .updateAt taskId lockedBy state now =>
    if ok then
      ({ w with db := w.db.updateSystemTaskState taskId lockedBy state now },
        .done (!w.db.tasks.rows.any (w.db.fenced taskId lockedBy now)))
    else (w, .done false)
  | .finish taskId lockedBy final result error => (w, .finishAt taskId lockedBy final result error w.clock)
  | .finishAt taskId lockedBy final result error now =>
    if ok then
      ({ w with db := w.db.finishSystemTask taskId lockedBy final result error now },
        if w.db.tasks.rows.any (w.db.fenced taskId lockedBy now) then .finishRelease taskId lockedBy else .done true)
    else (w, .done false)
  | .finishRelease taskId lockedBy => ({ w with db := if ok then w.db.releaseSystemTaskLock taskId lockedBy else w.db }, .done false)
  | .renew taskId lockedBy lockUntil => (w, .renewAt taskId lockedBy lockUntil w.clock)
  | .renewAt taskId lockedBy lockUntil now =>
    if ok then
      ({ w with db := w.db.renewSystemTaskLock taskId lockedBy lockUntil now },
        .done (!w.db.locks.rows.any fun l => SystemTaskDb.heldFor taskId lockedBy l && now ≤ l.lockedUntil))
    else (w, .done false)
  | .expireFind now => (w, if ok then .expireMark (w.db.findStaleLocks now) now else .done false)
  | .expireMark [] _ => (w, .done false)
  | .expireMark (lock :: rest) now =>
    if ok then ({ w with db := w.db.markSystemTaskLeaseExpired lock.taskId w.clock }, .expireDelete lock rest now) else (w, .done false)
  | .expireDelete lock rest now =>
    if ok then ({ w with db := w.db.deleteStaleLock lock now }, .expireMark rest now) else (w, .done false)

end SystemTaskCall

inductive SystemTaskStart where
  | create (taskId type payload state : String)
  | claim (id : Nat) (type runnerId : String)
  | update (taskId lockedBy state : String)
  | finish (taskId lockedBy : String) (final : FinalStatus) (result error : String)
  | renew (taskId lockedBy : String)
  | expire

/-- The call a caller begins; the end of a lease and the time of an expiry pass are read from the clock before the call. -/
def SystemTaskStart.begin (clock : Int) : SystemTaskStart → SystemTaskCall
  | .create taskId type payload state => .create taskId type payload state
  | .claim id type runnerId => .claim id type runnerId (clock + systemTaskLockTTL)
  | .update taskId lockedBy state => .update taskId lockedBy state
  | .finish taskId lockedBy final result error => .finish taskId lockedBy final result error
  | .renew taskId lockedBy => .renew taskId lockedBy (clock + systemTaskLockTTL)
  | .expire => .expireFind clock

/-- What happens in a run: time passes, a thread that has returned begins a call, or a thread takes its next step. -/
inductive SystemTaskEvent (ι : Type) where
  | tick (seconds : Nat)
  | start (i : ι) (what : SystemTaskStart)
  | statement (i : ι) (ok : Bool)

/-- Begin a call, unless the thread is in one. -/
def SystemTaskCall.start (what : SystemTaskStart) (w : SystemTaskWorld) : SystemTaskCall → SystemTaskWorld × SystemTaskCall
  | .done _ => (w, what.begin w.clock)
  | call => (w, call)

section System

variable {ι : Type} [DecidableEq ι]

abbrev SystemTaskConf (ι : Type) := Conf SystemTaskWorld ι SystemTaskCall

def SystemTaskConf.step (c : SystemTaskConf ι) : SystemTaskEvent ι → SystemTaskConf ι
  | .tick seconds => { c with shared := { c.shared with clock := c.shared.clock + seconds } }
  | .start i what => c.act i (SystemTaskCall.start what)
  | .statement i ok => c.act i (SystemTaskCall.statement ok)

def SystemTaskConf.fresh (clock : Int) : SystemTaskConf ι := ⟨⟨clock, SystemTaskDb.empty⟩, fun _ => .done false⟩

end System

end NewApi
