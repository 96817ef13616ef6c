import NewApi.Tasks.Polling

/-!
# A task that has ended stays as it is

`UpdateWithStatus` compares the status with the one that was read, so whoever reads a task that has ended may move it on. Only the fetch
that a user triggers does: a task that timed out and was refunded goes back to work when upstream still reports progress, and the next
sweep refunds it again (`fetch_revives_refunded_task`). A Suno update refunds before it writes, and writes without comparing. There is no
other way (`ended_task_stays`).
-/

namespace NewApi

open Threads Run

namespace TaskAux

variable {ι : Type} [DecidableEq ι] {env : TaskEnv} {calls : ι → TaskCall} {call : TaskCall} {bill : Bill} {db : TaskDb}
  {task row snap : Task} {q now : Int} {e : TaskEvent ι} {info : TaskInfo}

/-! ## What a writer knows where it stands -/

/-- What holds of a writer of a task of quota `q`: it carries the quota, the video poller has read a task that has not ended, a write
from a terminal status keeps it, a bill is due only for a write that ends the task, and a Suno update that refunds is about to fail
the task. -/
def WriterOk (q : Int) (call : TaskCall) : TaskState → Prop
  | .ready | .done => True
  | .fetching task => task.quota = q ∧ (call = .video → task.status.terminal = false)
  | .writing fromStatus task bill always => task.quota = q ∧ (fromStatus.terminal = true → task.status = fromStatus) ∧
      (bill ≠ .nothing → fromStatus.terminal = false ∧ task.status.terminal = true ∧ always = false)
  | .billing task _ => task.quota = q
  | .refunding task => task.quota = q ∧ task.status = .failure
  | .saving task refunded => task.quota = q ∧ (refunded = true → task.status = .failure)

def billsNext : TaskState → Bool
  | .billing _ _ => true
  | _ => false

/-- A settlement is no refund. -/
theorem settle_ne_refund (info : TaskInfo) : settleTaskBillingOnComplete env task info ≠ .refund := by
  unfold settleTaskBillingOnComplete
  repeat' split
  all_goals nofun

/-- A bill comes from an answer that ends the task, a refund from one that fails a charged task. -/
theorem videoTask_some {task' : Task} (h : videoTask env now task info = some (task', bill)) :
    task'.quota = task.quota ∧ task'.submitTime = task.submitTime ∧ (bill ≠ .nothing → task'.status.terminal = true) ∧
      (bill = .refund → task'.status = .failure) ∧ (task'.status = .failure → task.quota ≠ 0 → bill = .refund) := by
  unfold videoTask at h
  simp only at h
  split at h
  · cases h
    exact ⟨rfl, rfl, fun hb => absurd rfl hb, nofun, nofun⟩
  · cases h
    exact ⟨rfl, rfl, fun hb => absurd rfl hb, nofun, nofun⟩
  · cases h
    exact ⟨rfl, rfl, fun hb => absurd rfl hb, nofun, nofun⟩
  · cases h
    exact ⟨rfl, rfl, fun _ => rfl, fun hb => absurd hb (settle_ne_refund _), nofun⟩
  · cases h
    exact ⟨rfl, rfl, fun _ => rfl, fun _ => rfl, fun _ hq => if_pos hq⟩
  · cases h

omit [DecidableEq ι] in
/-- A statement that carries a bill out leaves the row, and is the writer's last. -/
theorem billing_keeps {e : TaskEvent ι} :
    (taskStatement env call e db (.billing task bill)).1.row = db.row ∧ (taskStatement env call e db (.billing task bill)).2 = .done := by
  simp only [taskStatement, refundTaskQuota, recalculateTaskQuota]
  repeat' split
  all_goals exact ⟨rfl, rfl⟩

/-- A writer before its first write: it knows what it must, and neither a bill nor a save is due from it. -/
structure Unwritten (q : Int) (call : TaskCall) (s : TaskState) : Prop where
  ok : WriterOk q call s
  bills : billsNext s = false
  owes : s.owesSave = false

theorem unwritten_done : Unwritten q call .done := ⟨trivial, rfl, rfl⟩

/-- The video poller, which has read a task that has not ended. -/
theorem updateVideo_unwritten {answer : TaskAnswer} (hq : snap.quota = q)
    (hopen : snap.status.terminal = false) : Unwritten q call (updateVideoSingleTask env now snap answer) := by
  unfold updateVideoSingleTask
  split
  · exact unwritten_done
  rename_i task bill hsome
  obtain ⟨info, -, hvideo⟩ := Option.bind_eq_some_iff.1 hsome
  obtain ⟨hquota, -, hends, -⟩ := videoTask_some hvideo
  have hquota' : task.quota = q := hquota.trans hq
  have hfrom : snap.status.terminal = true → task.status = snap.status := by
    intro hend
    rw [hopen] at hend
    cases hend
  split
  · exact ⟨⟨hquota', hfrom, fun hb => ⟨hopen, hends hb, rfl⟩⟩, rfl, rfl⟩
  rename_i hkeep
  -- the task read had not ended, so a task that ends has another status: here there is no bill
  have hnone : bill = .nothing := by
    by_contra hb
    refine hkeep ⟨hends hb, fun heq => ?_⟩
    rw [heq, hends hb] at hopen
    cases hopen
  subst hnone
  split
  · exact unwritten_done
  · exact ⟨⟨hquota', hfrom, fun hb => absurd rfl hb⟩, rfl, rfl⟩

theorem tryRealtimeFetch_unwritten (hq : snap.quota = q)
    (hkeeps : snap.status.terminal = true → info.status.getD snap.status = snap.status) :
    Unwritten q call (tryRealtimeFetch env snap info) := by
  unfold tryRealtimeFetch
  split
  · exact unwritten_done
  · exact ⟨⟨hq, hkeeps, fun hb => absurd rfl hb⟩, rfl, rfl⟩

theorem updateSunoTask_unwritten {item : SunoItem} (hq : task.quota = q)
    (hreason : item.failReason ≠ "" → item.status.getD task.status = .failure) : Unwritten q call (updateSunoTask task item) := by
  unfold updateSunoTask
  split
  · exact unwritten_done
  split
  · rename_i hfails
    have hfailure : item.status.getD task.status = .failure := by
      simp only [SunoItem.fails, Bool.or_eq_true, decide_eq_true_eq] at hfails
      rcases hfails with hgiven | hstatus
      · exact hreason hgiven
      · exact hstatus
    exact ⟨⟨hq, hfailure⟩, rfl, rfl⟩
  · exact ⟨⟨hq, nofun⟩, rfl, rfl⟩

theorem unfinished_open (h : row.unfinished = true) : row.status.terminal = false := by
  simp only [Task.unfinished, Bool.and_eq_true, Bool.not_eq_true'] at h
  exact h.2

theorem sweepTimedOutTask_unwritten (hq : row.quota = q) : Unwritten q call (sweepTimedOutTask env now row) := by
  unfold sweepTimedOutTask
  split
  · rename_i htimed
    have hopen := unfinished_open htimed.2.1
    refine ⟨⟨hq, ?_, fun _ => ⟨hopen, rfl, rfl⟩⟩, rfl, rfl⟩
    intro hend
    rw [hopen] at hend
    cases hend
  · exact unwritten_done

/-! ## How a statement can go -/

/-- The ways a safe statement can go, with what it makes of the row and the ledger. -/
inductive Goes (q : Int) (call : TaskCall) (db : TaskDb) : TaskState → TaskDb → TaskState → Prop
  | turns (s s' : TaskState) (hs : s.owesSave = false) (hs' : Unwritten q call s') : Goes q call db s db s'
  | writes (fromStatus : TaskStatus) (task : Task) (bill : Bill) (always : Bool) (hrow : db.row.status = fromStatus) :
      Goes q call db (.writing fromStatus task bill always) { db with row := task } (billed task bill)
  | pays (task : Task) (bill : Bill) (charged refunded : Int) (hcharged : db.charged ≤ charged)
      (hrefunded : refunded ≤ db.refunded + q) :
      Goes q call db (.billing task bill) ⟨db.row, charged, refunded⟩ .done
  | refunds (task : Task) : Goes q call db (.refunding task) (refundTaskQuota db task) (.saving task true)
  | saves (task : Task) (refunded : Bool) : Goes q call db (.saving task refunded) { db with row := task } .done

theorem recalculate_goes {actual : Int} (hq : 0 ≤ q) (htask : task.quota = q) :
    Goes q call db (.billing task (.settle actual)) (recalculateTaskQuota db task actual) .done := by
  unfold recalculateTaskQuota
  split
  · exact .pays task _ db.charged db.refunded le_rfl (by omega)
  split
  · exact .pays task _ _ db.refunded (by omega) (by omega)
  · exact .pays task _ db.charged _ le_rfl (by omega)

omit [DecidableEq ι] in
theorem taskReads_unwritten (hrow : row.quota = q) : Unwritten q call (taskReads env call e row) := by
  unfold taskReads
  split
  · exact unwritten_done
  cases call with
  | sweep => exact sweepTimedOutTask_unwritten hrow
  | realtime => exact ⟨⟨hrow, nofun⟩, rfl, rfl⟩
  | video | suno =>
    simp only
    split
    · rename_i hunfinished
      exact ⟨⟨hrow, fun _ => unfinished_open hunfinished⟩, rfl, rfl⟩
    · exact unwritten_done

omit [DecidableEq ι] in
theorem taskFetches_unwritten (h : WriterOk q call (.fetching task))
    (hsafe : (TaskState.fetching task).Safe call e row) : Unwritten q call (taskFetches env call e task) := by
  obtain ⟨hrealtime, hsuno⟩ := hsafe
  unfold taskFetches
  split
  · exact updateVideo_unwritten h.1 (h.2 rfl)
  · rename_i answer hanswer
    exact tryRealtimeFetch_unwritten h.1 fun hend => hrealtime rfl hend answer hanswer
  · rename_i item hitem
    exact updateSunoTask_unwritten h.1 (hsuno rfl item hitem)
  · exact unwritten_done

omit [DecidableEq ι] in
/-- What every safe statement does. -/
theorem taskStatement_goes {s : TaskState} (hq : 0 ≤ q) (hrow : db.row.quota = q) (hok : WriterOk q call s) (hsafe : s.Safe call e db.row) :
    Goes q call db s (taskStatement env call e db s).1 (taskStatement env call e db s).2 := by
  cases s with
  | done => exact .turns _ _ rfl (unwritten_done)
  | ready => exact .turns _ _ rfl (taskReads_unwritten hrow)
  | fetching task => exact .turns _ _ rfl (taskFetches_unwritten hok hsafe)
  | writing fromStatus task bill always =>
    simp only [taskStatement]
    split
    · rename_i hwon
      exact .writes fromStatus task bill always hwon.2
    refine .turns _ _ rfl ?_
    split
    · rename_i halways
      -- where the outcome is not looked at, there is no bill
      have hnone : bill = .nothing := by
        by_contra hb
        rw [(hok.2.2 hb).2.2] at halways
        cases halways
      rw [hnone]
      exact unwritten_done
    · exact unwritten_done
  | billing task bill =>
    have htask : task.quota = q := hok
    simp only [taskStatement]
    split
    · exact .pays task bill db.charged db.refunded le_rfl (by omega)
    cases bill with
    | nothing => exact .pays task _ db.charged db.refunded le_rfl (by omega)
    | refund => exact .pays task _ db.charged _ le_rfl (by omega)
    | settle actual => exact recalculate_goes hq htask
  | refunding task =>
    simp only [taskStatement]
    split
    · exact .turns _ _ rfl ⟨⟨hok.1, nofun⟩, rfl, rfl⟩
    · exact .refunds task
  | saving task refunded =>
    simp only [taskStatement]
    split
    · rename_i hfault
      have hunpaid : refunded = false := by
        cases refunded with
        | false => rfl
        | true =>
          rw [hsafe.2 rfl] at hfault
          cases hfault
      exact .turns _ _ hunpaid (unwritten_done)
    · exact .saves task refunded

/-! ## The invariant -/

/-- The invariant of a run: nothing is given back before the task has ended, a Suno refund apart whose save is still due; a bill is
due from one writer at most, for a task that has ended and from which nothing was given back. -/
structure TaskInv (q : Int) (calls : ι → TaskCall) (c : Conf TaskDb ι TaskState) : Prop where
  row : c.shared.row.quota = q
  charged : q ≤ c.shared.charged
  limit : c.shared.refunded ≤ q
  spent : c.shared.refunded = 0 ∨ c.shared.row.status.terminal = true ∨ ∃ j, (c.threads j).owesSave = true
  writers : ∀ i, WriterOk q (calls i) (c.threads i)
  bills : ∀ i, billsNext (c.threads i) = true → c.shared.row.status.terminal = true ∧ c.shared.refunded = 0
  alone : ∀ i j, billsNext (c.threads i) = true → billsNext (c.threads j) = true → i = j

section Step

variable {c : Conf TaskDb ι TaskState} {i : ι} {s' : TaskState} (h : TaskInv q calls c)

include h

omit [DecidableEq ι] in
/-- While the task has not ended and no save is due, nothing was given back. -/
theorem TaskInv.unspent (hopen : c.shared.row.status.terminal = false)
    (howes : ∀ j, (c.threads j).owesSave = false) : c.shared.refunded = 0 := by
  rcases h.spent with hzero | hend | ⟨j, hj⟩
  · exact hzero
  · rw [hopen] at hend
    cases hend
  · rw [howes j] at hj
    cases hj

omit [DecidableEq ι] in
theorem TaskInv.no_bill (hopen : c.shared.row.status.terminal = false) (j : ι) : billsNext (c.threads j) = false := by
  cases hj : billsNext (c.threads j) with
  | false => rfl
  | true =>
    rw [(h.bills j hj).1] at hopen
    cases hopen

theorem TaskInv.no_bill_update (hopen : c.shared.row.status.terminal = false) (s' : TaskState)
    (hs' : billsNext s' = false) (j : ι) : billsNext (Function.update c.threads i s' j) ≠ true := by
  intro hj
  have hbefore : billsNext (c.threads j) = true := (had_before hs' hj).1
  rw [h.no_bill hopen j] at hbefore
  cases hbefore

theorem TaskInv.writers_update (hs' : WriterOk q (calls i) s') : ∀ j, WriterOk q (calls j) (Function.update c.threads i s' j) :=
  (Function.forall_update_iff c.threads (p := fun j s => WriterOk q (calls j) s)).2 ⟨hs', fun j _ => h.writers j⟩

/-- A turn that writes nothing keeps the invariant. -/
theorem TaskInv.turn (hs : (c.threads i).owesSave = false) (hs' : Unwritten q (calls i) s') :
    TaskInv q calls ⟨c.shared, Function.update c.threads i s'⟩ := by
  refine ⟨h.row, h.charged, h.limit, ?_, h.writers_update hs'.ok, ?_, ?_⟩
  · rcases h.spent with hzero | hend | ⟨j, hj⟩
    · exact .inl hzero
    · exact .inr (.inl hend)
    · have hji : j ≠ i := by
        rintro rfl
        rw [hs] at hj
        cases hj
      refine .inr (.inr ⟨j, ?_⟩)
      show (Function.update c.threads i s' j).owesSave = true
      rwa [Function.update_of_ne hji]
  · intro j hj
    exact h.bills j (had_before hs'.bills hj).1
  · intro j k hj hk
    exact h.alone j k (had_before hs'.bills hj).1 (had_before hs'.bills hk).1

/-- The row of an open task is replaced, and no bill follows. -/
theorem TaskInv.replace (hopen : c.shared.row.status.terminal = false)
    (htask : task.quota = q) (hspent : c.shared.refunded = 0 ∨ task.status.terminal = true) :
    TaskInv q calls ⟨{ c.shared with row := task }, Function.update c.threads i .done⟩ := by
  have hnone := h.no_bill_update (i := i) hopen .done rfl
  refine ⟨htask, h.charged, h.limit, ?_, h.writers_update trivial, fun j hj => absurd hj (hnone j), fun j k hj _ => absurd hj (hnone j)⟩
  rcases hspent with hzero | hend
  · exact .inl hzero
  · exact .inr (.inl hend)

omit [DecidableEq ι] in
theorem TaskInv.same_status (htask : task.quota = q)
    (hstatus : task.status = c.shared.row.status) : TaskInv q calls ⟨{ c.shared with row := task }, c.threads⟩ := by
  refine ⟨htask, h.charged, h.limit, ?_, h.writers, ?_, h.alone⟩
  · rw [hstatus]
    exact h.spent
  · rw [hstatus]
    exact h.bills

/-- A write that ends an open task: its bill is the first. -/
theorem TaskInv.ends (hopen : c.shared.row.status.terminal = false)
    (htask : task.quota = q) (hend : task.status.terminal = true) (hzero : c.shared.refunded = 0) :
    TaskInv q calls ⟨{ c.shared with row := task }, Function.update c.threads i (.billing task bill)⟩ := by
  have honly : ∀ j, billsNext (Function.update c.threads i (.billing task bill) j) = true → j = i := by
    intro j hj
    by_contra hji
    rw [Function.update_of_ne hji, h.no_bill hopen j] at hj
    cases hj
  refine ⟨htask, h.charged, h.limit, .inl hzero, h.writers_update htask, fun _ _ => ⟨hend, hzero⟩, ?_⟩
  intro j k hj hk
  exact (honly j hj).trans (honly k hk).symm

/-- A payment keeps the invariant. -/
theorem TaskInv.pay {charged refunded : Int} (hi : billsNext (c.threads i) = true)
    (hcharged : c.shared.charged ≤ charged) (hrefunded : refunded ≤ c.shared.refunded + q) :
    TaskInv q calls ⟨⟨c.shared.row, charged, refunded⟩, Function.update c.threads i .done⟩ := by
  obtain ⟨hend, hzero⟩ := h.bills i hi
  have hnone : ∀ j, billsNext (Function.update c.threads i .done j) ≠ true := by
    intro j hj
    obtain ⟨hbefore, hji⟩ := had_before rfl hj
    exact hji (h.alone j i hbefore hi)
  have hlimit : refunded ≤ q := by
    omega
  exact ⟨h.row, h.charged.trans hcharged, hlimit, .inr (.inl hend), h.writers_update trivial,
    fun j hj => absurd hj (hnone j), fun j k hj _ => absurd hj (hnone j)⟩

/-- So does a refund. -/
theorem TaskInv.refund (hopen : c.shared.row.status.terminal = false)
    (hzero : c.shared.refunded = 0) (htask : task.quota = q) (hfailure : task.status = .failure) :
    TaskInv q calls ⟨refundTaskQuota c.shared task, Function.update c.threads i (.saving task true)⟩ := by
  have hnone := h.no_bill_update (i := i) hopen (.saving task true) rfl
  have hlimit : c.shared.refunded + task.quota ≤ q := by omega
  refine ⟨h.row, h.charged, hlimit, .inr (.inr ⟨i, ?_⟩), h.writers_update ⟨htask, fun _ => hfailure⟩,
    fun j hj => absurd hj (hnone j), fun j k hj _ => absurd hj (hnone j)⟩
  show (Function.update c.threads i (.saving task true) i).owesSave = true
  rw [Function.update_self]
  rfl

omit [DecidableEq ι] in
theorem TaskInv.goes (hq : 0 ≤ q) (hsafe : SafeTaskStep calls c e) : Goes q (calls e.caller) c.shared (c.threads e.caller)
      (taskStatement env (calls e.caller) e c.shared (c.threads e.caller)).1
      (taskStatement env (calls e.caller) e c.shared (c.threads e.caller)).2 :=
  taskStatement_goes hq h.row (h.writers e.caller) hsafe.1

/-- Every safe step keeps the invariant. -/
theorem taskInv_step (hq : 0 ≤ q) (hsafe : SafeTaskStep calls c e) : TaskInv q calls (taskStep env calls c e) := by
  have hok := h.writers e.caller
  obtain ⟨hcaller, hothers⟩ := hsafe
  -- nothing was given back for an open task, unless it was by the caller itself
  have hunspent : (c.threads e.caller).owesSave = false → c.shared.row.status.terminal = false → c.shared.refunded = 0 := by
    intro hself hopen
    refine h.unspent hopen fun j => ?_
    by_cases hj : j = e.caller
    · exact hj ▸ hself
    · exact hothers j hj
  refine Conf.act_of_ways (h.goes hq ⟨hcaller, hothers⟩) ?_
  intro s db' s' hs hgoes
  rw [hs] at hok hcaller hunspent
  cases hgoes with
  | turns s s' howes hs' =>
    refine h.turn ?_ hs'
    rw [hs]
    exact howes
  | writes fromStatus task bill always hrow =>
    obtain ⟨htask, hkeeps, hbill⟩ := hok
    by_cases hb : bill = .nothing
    · subst hb
      cases hfrom : fromStatus.terminal with
      | false =>
        have hopen : c.shared.row.status.terminal = false := hrow ▸ hfrom
        exact h.replace hopen htask (.inl (hunspent rfl hopen))
      | true =>
        have hturn : TaskInv q calls ⟨c.shared, Function.update c.threads e.caller .done⟩ := by
          refine h.turn ?_ (unwritten_done)
          rw [hs]
          rfl
        exact hturn.same_status htask ((hkeeps hfrom).trans hrow.symm)
    · obtain ⟨hfrom, hend, -⟩ := hbill hb
      have hopen : c.shared.row.status.terminal = false := hrow ▸ hfrom
      have hbilled : billed task bill = .billing task bill := if_neg hb
      rw [hbilled]
      exact h.ends hopen htask hend (hunspent rfl hopen)
  | pays task bill charged refunded hcharged hrefunded =>
    refine h.pay ?_ hcharged hrefunded
    rw [hs]
    rfl
  | refunds task => exact h.refund hcaller (hunspent rfl hcaller) hok.1 hok.2
  | saves task refunded =>
    refine h.replace hcaller.1 hok.1 ?_
    cases refunded with
    | false => exact .inl (hunspent rfl hcaller.1)
    | true =>
      right
      rw [hok.2 rfl]
      rfl

/-! ## A terminal status -/

/-- A safe step leaves an ended task as it is. -/
theorem status_step (hq : 0 ≤ q) (hsafe : SafeTaskStep calls c e)
    (hend : c.shared.row.status.terminal = true) : (taskStep env calls c e).shared.row.status = c.shared.row.status := by
  have hok := h.writers e.caller
  have hcaller := hsafe.1
  refine Conf.act_of_ways (P := fun c' => c'.shared.row.status = c.shared.row.status) (h.goes hq hsafe) ?_
  intro s db' s' hs hgoes
  rw [hs] at hok hcaller
  cases hgoes with
  | turns | pays | refunds => rfl
  | writes fromStatus task bill always hrow =>
    -- the write went through, so the status it started from is the terminal one
    have hfrom : fromStatus.terminal = true := hrow ▸ hend
    exact (hok.2.1 hfrom).trans hrow.symm
  | saves task refunded =>
    rw [hcaller.1] at hend
    cases hend

omit h in
/-- A safe run leaves an ended task as it is. -/
theorem status_run (hq : 0 ≤ q) {es : List (TaskEvent ι)} (hsafe : Along (taskStep env calls) (SafeTaskStep calls) c es)
    (h : TaskInv q calls c) (hend : c.shared.row.status.terminal = true) :
    (exec (taskStep env calls) c es).shared.row.status = c.shared.row.status := by
  induction es generalizing c with
  | nil => rfl
  | cons e es ih =>
    have hstep : (taskStep env calls c e).shared.row.status = c.shared.row.status := status_step h hq hsafe.1 hend
    have hend' : (taskStep env calls c e).shared.row.status.terminal = true := by rw [hstep, hend]
    exact (ih hsafe.2 (taskInv_step h hq hsafe.1) hend').trans hstep

end Step

end TaskAux

open TaskAux

/-- In every run of pollers, sweeps, user fetches and Suno updates of a task whose statements are all safe, once the status is
terminal in some state on the way it is the same in every later state, and in no state more was given back than was taken. -/
theorem ended_task_stays {ι : Type} [DecidableEq ι] (env : TaskEnv) (calls : ι → TaskCall) (row : Task) (hquota : 0 ≤ row.quota)
    (es : List (TaskEvent ι)) (hsafe : Along (taskStep env calls) (SafeTaskStep calls) (taskStart row) es) :
    ∀ pre, pre <+: es →
      (∀ earlier, earlier <+: pre → (exec (taskStep env calls) (taskStart row) earlier).shared.row.status.terminal = true →
        (exec (taskStep env calls) (taskStart row) pre).shared.row.status =
          (exec (taskStep env calls) (taskStart row) earlier).shared.row.status) ∧
      (exec (taskStep env calls) (taskStart row) pre).shared.refunded ≤ (exec (taskStep env calls) (taskStart row) pre).shared.charged := by
  intro pre hpre
  have h0 : TaskInv row.quota calls (taskStart row : Conf TaskDb ι TaskState) :=
    ⟨rfl, le_rfl, hquota, .inl rfl, fun _ => trivial, nofun, nofun⟩
  have hinv : ∀ pre, pre <+: es → TaskInv row.quota calls (exec (taskStep env calls) (taskStart row) pre) :=
    hsafe.invariant_reached (fun _ _ hok h => taskInv_step h hquota hok) h0
  constructor
  · rintro earlier ⟨later, rfl⟩ hend
    have hbefore := hinv earlier ((List.prefix_append earlier later).trans hpre)
    obtain ⟨rest, rfl⟩ := hpre
    have hrun := ((along_append _ _ _ _).1 hsafe).1
    rw [exec_append]
    exact status_run hquota ((along_append _ _ _ _).1 hrun).2 hbefore hend
  · exact (hinv pre hpre).limit.trans (hinv pre hpre).charged

/-! ## A fetch revives a task -/

namespace TaskAux

/-- A timeout of an hour, and no adaptor that settles on another quota. -/
def hourTimeout : TaskEnv := ⟨60, "", fun _ _ => 0, fun _ _ => 0⟩

/-- A task of quota 500, submitted and at work. -/
def slowTask : Task := { taskId := "task_1", quota := 500, status := .inProgress, progress := "30%", submitTime := 1771718400 }

/-- Upstream reports the task at work, halfway. -/
def halfway : TaskAnswer := { info := { status := some .inProgress, progress := "50%" } }

/-- A sweep, the user's fetch, and another sweep. -/
def sweepFetchSweep : Fin 3 → TaskCall
  | 0 => .sweep
  | 1 => .realtime
  | 2 => .sweep

/-- The turns of a writer, two hours after the task was submitted. -/
def taskTurns (i : Fin 3) (n : Nat) : List (TaskEvent (Fin 3)) := List.replicate n ⟨i, false, 1771725600, some halfway, none⟩

end TaskAux

/-- The first sweep fails the task and refunds it, the fetch puts it back to work, and the second sweep refunds it again: a task
charged 500 is refunded 1000. -/
theorem fetch_revives_refunded_task :
    let start : Conf TaskDb (Fin 3) TaskState := taskStart slowTask
    let swept := exec (taskStep hourTimeout sweepFetchSweep) start (taskTurns 0 3)
    let fetched := exec (taskStep hourTimeout sweepFetchSweep) start (taskTurns 0 3 ++ taskTurns 1 3)
    let last := exec (taskStep hourTimeout sweepFetchSweep) start (taskTurns 0 3 ++ taskTurns 1 3 ++ taskTurns 2 3)
    swept.shared.row.status = .failure ∧ fetched.shared.row.status = .inProgress ∧
      last.shared.charged = 500 ∧ last.shared.refunded = 1000 := by
  decide

theorem ended_task_stays_sample :
    let es := taskTurns 0 3 ++ taskTurns 2 3
    let run := exec (taskStep hourTimeout sweepFetchSweep) (taskStart slowTask) es
    run.shared.row.status = .failure ∧ run.shared.refunded = 500 ∧ run.shared.refunded ≤ run.shared.charged := by
  refine ⟨by decide, by decide, ?_⟩
  exact (ended_task_stays hourTimeout sweepFetchSweep slowTask (by decide) (taskTurns 0 3 ++ taskTurns 2 3) (by decide) _ List.prefix_rfl).2

end NewApi
