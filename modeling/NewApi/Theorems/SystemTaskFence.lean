import NewApi.Lemmas.SystemTaskAux

/-!
# System task writes are fenced and terminal

Whatever the delays between the statements: the unique `active_key` lets one task of a type be pending or running, no statement asks for an
ended task, and the two writes of a running task ask for a lock of the task.
-/

namespace NewApi

open Tables Threads Run

/-- The task, the runner and the time of a call that is about to write a running task. -/
def SystemTaskCall.writes : SystemTaskCall → Option (String × String × Int)
  | .updateAt taskId lockedBy _ now => some (taskId, lockedBy, now)
  | .finishAt taskId lockedBy _ _ _ now => some (taskId, lockedBy, now)
  | _ => none

variable {ι : Type} [DecidableEq ι]

def SystemTaskConf.after (clock : Int) (es : List (SystemTaskEvent ι)) : SystemTaskConf ι :=
  exec SystemTaskConf.step (SystemTaskConf.fresh clock) es

/-- What a run keeps at every moment. -/
structure SystemTasksFenced (clock : Int) (es : List (SystemTaskEvent ι)) : Prop where
  /-- At most one task of a type is pending or running. -/
  oneActive : ∀ pre, pre <+: es → ∀ t ∈ (SystemTaskConf.after clock pre).shared.db.tasks.rows,
    ∀ t' ∈ (SystemTaskConf.after clock pre).shared.db.tasks.rows,
      t.status = .pending ∨ t.status = .running → t'.status = .pending ∨ t'.status = .running → t.type = t'.type → t = t'
  /-- A task that has succeeded or failed stays as it is. -/
  terminal : ∀ pre later, pre ++ later <+: es → ∀ t ∈ (SystemTaskConf.after clock pre).shared.db.tasks.rows,
    t.status = .succeeded ∨ t.status = .failed → t ∈ (SystemTaskConf.after clock (pre ++ later)).shared.db.tasks.rows
  /-- A write that reports the lock lost has written nothing. -/
  lost : ∀ pre i, pre ++ [.statement i true] <+: es → ∀ taskId lockedBy now,
    ((SystemTaskConf.after clock pre).threads i).writes = some (taskId, lockedBy, now) →
      (SystemTaskConf.after clock (pre ++ [.statement i true])).threads i = .done true →
        (SystemTaskConf.after clock (pre ++ [.statement i true])).shared.db.tasks.rows =
          (SystemTaskConf.after clock pre).shared.db.tasks.rows
  /-- Any other write has found the lock of the task's type held by the runner for the task, and its lease not ended at the time the
  statement uses. -/
  fenced : ∀ pre i, pre ++ [.statement i true] <+: es → ∀ taskId lockedBy now,
    ((SystemTaskConf.after clock pre).threads i).writes = some (taskId, lockedBy, now) →
      (SystemTaskConf.after clock (pre ++ [.statement i true])).threads i ≠ .done true →
        ∃ t ∈ (SystemTaskConf.after clock pre).shared.db.tasks.rows, t.taskId = taskId ∧ t.status = .running ∧
          ∃ l, (SystemTaskConf.after clock pre).shared.db.locks.lookup t.type = some l ∧
            l.taskId = taskId ∧ l.lockedBy = lockedBy ∧ now ≤ l.lockedUntil

namespace SystemTaskFenceAux

open SystemTaskDb SystemTaskCall

variable {db : SystemTaskDb} {t : SystemTask} {taskId lockedBy : String} {now : Int}

theorem active_iff (t : SystemTask) : t.active = true ↔ t.status = .pending ∨ t.status = .running := by
  simp [SystemTask.active]

theorem inv_after (clock : Int) (es : List (SystemTaskEvent ι)) : SystemTaskInv (SystemTaskConf.after clock es) :=
  exec_invariant (fun _ e h => h.step e) (SystemTaskInv.fresh clock) es

theorem after_append (clock : Int) (es fs : List (SystemTaskEvent ι)) :
    SystemTaskConf.after clock (es ++ fs) = exec SystemTaskConf.step (SystemTaskConf.after clock es) fs :=
  exec_append _ _ _

theorem keepsTasks_exec {c : SystemTaskConf ι} (h : SystemTaskInv c) (es : List (SystemTaskEvent ι)) :
    c.shared.db.KeepsTasks (exec SystemTaskConf.step c es).shared.db := by
  induction es generalizing c with
  | nil => exact KeepsTasks.refl _
  | cons e es ih => exact (h.keepsTasks_step e).trans (ih (h.step e))

/-- A fenced write finds the task running under its lock. -/
theorem lock_of_fenced (h : db.Ok) (ht : t ∈ db.tasks.rows)
    (hfenced : db.fenced taskId lockedBy now t = true) : t.taskId = taskId ∧ t.status = .running ∧
      ∃ l, db.locks.lookup t.type = some l ∧ l.taskId = taskId ∧ l.lockedBy = lockedBy ∧ now ≤ l.lockedUntil := by
  simp only [SystemTaskDb.fenced, Bool.and_eq_true, decide_eq_true_eq, List.any_eq_true] at hfenced
  obtain ⟨⟨⟨htask, hrunning⟩, -⟩, l, hl, ⟨hltask, hlby⟩, hnow⟩ := hfenced
  refine ⟨htask, hrunning, l, ?_, hltask.trans htask, hlby, hnow⟩
  -- the lock is for a task of its type, and the task of its id is this one
  obtain ⟨t', ht', htask', htype⟩ := h.lockTask l hl
  obtain rfl := eq_of_taskId_eq ht' ht (htask'.trans hltask)
  rw [htype]
  exact Table.lookup_of_mem hl

theorem updateTasks_of_none {p : SystemTask → Bool} (change : TaskChange) (h : db.tasks.rows.any p = false) :
    (db.updateTasks p change).tasks.rows = db.tasks.rows := by
  simp only [List.any_eq_false] at h
  exact (List.map_congr_left fun t ht => if_neg (h t ht)).trans (List.map_id _)

/-- A statement that writes a running task changes nothing where no row passes the fence. -/
theorem statement_writes {w : SystemTaskWorld} {call : SystemTaskCall} (h : call.writes = some (taskId, lockedBy, now)) :
    ((call.statement true w).2 = .done true → (call.statement true w).1.db.tasks.rows = w.db.tasks.rows) ∧
      ((call.statement true w).2 ≠ .done true → ∃ t ∈ w.db.tasks.rows, w.db.fenced taskId lockedBy now t = true) := by
  cases call with
  | updateAt taskId' lockedBy' _ now' | finishAt taskId' lockedBy' _ _ _ now' =>
    obtain ⟨rfl, rfl, rfl⟩ : taskId' = taskId ∧ lockedBy' = lockedBy ∧ now' = now := by simpa [writes] using h
    cases hany : w.db.tasks.rows.any (w.db.fenced taskId' lockedBy' now') with
    | true =>
      refine ⟨fun hlost => ?_, fun _ => by simpa using hany⟩
      simp [statement, hany] at hlost
    | false =>
      refine ⟨fun _ => updateTasks_of_none _ hany, fun hnot => ?_⟩
      simp [statement, hany] at hnot
  | _ => cases h

theorem after_statement (clock : Int) (pre : List (SystemTaskEvent ι)) (i : ι) :
    SystemTaskConf.after clock (pre ++ [.statement i true]) = (SystemTaskConf.after clock pre).act i (SystemTaskCall.statement true) :=
  after_append clock pre _

end SystemTaskFenceAux

open SystemTaskFenceAux SystemTaskDb

/-- In every interleaving of the calls of any number of runners, with any delays: at most one task of a type is pending or running, an
ended task never changes again, and a write of a running task takes effect only while the lock of the type is held by the runner for
the task and its lease has not ended. -/
theorem system_task_writes_fenced (clock : Int) (es : List (SystemTaskEvent ι)) : SystemTasksFenced clock es where
  oneActive := by
    intro pre _ t ht t' ht' hactive hactive' htype
    exact eq_of_active (inv_after clock pre).ok ht ht' ((active_iff t).2 hactive) ((active_iff t').2 hactive') htype
  terminal := by
    intro pre later _ t ht hfinal
    have hkeeps := keepsTasks_exec (inv_after clock pre) later
    rw [after_append]
    obtain ⟨t', ht', hbecomes⟩ := hkeeps t ht
    rw [← hbecomes.ended (by rcases hfinal with h | h <;> simp [SystemTask.active, h])]
    exact ht'
  lost := by
    intro pre i _ taskId lockedBy now hwrites hlost
    rw [after_statement, Conf.act_threads_self] at hlost
    rw [after_statement]
    exact (statement_writes hwrites).1 hlost
  fenced := by
    intro pre i _ taskId lockedBy now hwrites hnot
    rw [after_statement, Conf.act_threads_self] at hnot
    obtain ⟨t, ht, hfenced⟩ := (statement_writes hwrites).2 hnot
    exact ⟨t, ht, lock_of_fenced (inv_after clock pre).ok ht hfenced⟩

end NewApi
