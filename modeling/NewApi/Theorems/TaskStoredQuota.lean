import NewApi.Theorems.TaskBilling

/-!
# The quota a finished task has on its row

`updateVideoSingleTask` writes the row of a task that succeeded before it settles it. The settlement notes the actual quota in its copy of
the task; the row keeps that of the pre-charge, and says what was taken exactly where there is no difference, or where the funding source
refuses it.
-/

namespace NewApi

open Threads Run

/-- What was taken from the funding source for the task and not given back. -/
def TaskDb.net (db : TaskDb) : Int := db.charged - db.refunded

/-- The quota a task that succeeded comes to: the adaptor's, else that of its tokens; none where it is zero. -/
def quotaOnComplete (env : TaskEnv) (task : Task) (info : TaskInfo) : Int :=
  if 0 < env.adjustBilling task info then env.adjustBilling task info
  else if 0 < info.totalTokens then env.tokensQuota task info.totalTokens
  else 0

/-- The task as `updateVideoSingleTask` writes it when upstream reports a success. -/
def succeededTask (env : TaskEnv) (now : Int) (snap : Task) (answer : TaskAnswer) (info : TaskInfo) : Task :=
  { snap with
    data := answer.data
    status := .success
    progress := if info.progress ≠ "" then info.progress else "100%"
    finishTime := if snap.finishTime = 0 then now else snap.finishTime
    resultUrl := if Text.startsWith info.url "data:" ∨ info.url = "" then env.buildProxyURL snap.taskId else info.url }

/-- A poll that wins the transition to a success, among any number of pollers and sweeps of the task: the poller has read the task and
is told of a success, writes while the row still has the status it has read, and then settles. The others may act at any time. -/
structure WonPoll {ι : Type} [DecidableEq ι] (env : TaskEnv) (calls : ι → TaskCall) (row : Task) where
  poller : ι
  before : List (TaskEvent ι)
  fetch : TaskEvent ι
  between : List (TaskEvent ι)
  write : TaskEvent ι
  meanwhile : List (TaskEvent ι)
  bill : TaskEvent ι
  snap : Task
  answer : TaskAnswer
  info : TaskInfo
  writers : ∀ j, calls j = .video ∨ calls j = .sweep
  isVideo : calls poller = .video
  read : (exec (taskStep env calls) (taskStart row) before).threads poller = .fetching snap
  fetches : fetch.caller = poller ∧ fetch.answer = some answer
  succeeds : answer.effective = some info ∧ info.status = some .success
  betweenOthers : ∀ e ∈ between, e.caller ≠ poller
  writes : write.caller = poller ∧ write.fault = false
  wins : (exec (taskStep env calls) (taskStart row) (before ++ fetch :: between)).shared.row.status = snap.status
  meanwhileOthers : ∀ e ∈ meanwhile, e.caller ≠ poller
  bills : bill.caller = poller

namespace WonPoll

variable {ι : Type} [DecidableEq ι] {env : TaskEnv} {calls : ι → TaskCall} {row : Task}

def task (p : WonPoll env calls row) : Task := succeededTask env p.fetch.now p.snap p.answer p.info

/-- Everything up to the end of the poll. -/
def events (p : WonPoll env calls row) : List (TaskEvent ι) :=
  p.before ++ p.fetch :: p.between ++ p.write :: p.meanwhile ++ [p.bill]

/-- The row and the ledger when the poll returns. -/
def final (p : WonPoll env calls row) : TaskDb := (exec (taskStep env calls) (taskStart row) p.events).shared

end WonPoll

namespace StoredQuotaAux

open TaskAux VideoAux

variable {ι : Type} [DecidableEq ι] {env : TaskEnv} {calls : ι → TaskCall} {call : TaskCall} {q : Int} {e : TaskEvent ι}
  {row task : Task} {info : TaskInfo}
  {i : ι} {db : TaskDb}

/-! ## What a statement of a poller or a sweep can do -/

/-- What a poller or a sweep of a task of quota `q` knows. -/
structure Knows (q : Int) (call : TaskCall) (s : TaskState) : Prop where
  writer : WriterOk q call s
  video : VideoOk call s

theorem knows_done : Knows q call .done := ⟨trivial, trivial⟩

/-- A statement turns to another without writing, ends a task that had not ended, or carries a bill out. -/
inductive PollGoes (q : Int) (call : TaskCall) (db : TaskDb) : TaskState → TaskDb → TaskState → Prop
  | turns (s s' : TaskState) (hs' : Knows q call s') (hbills : billsNext s' = false) : PollGoes q call db s db s'
  | wins (fromStatus : TaskStatus) (task : Task) (bill : Bill) (always : Bool) (hopen : db.row.status.terminal = false)
      (hquota : task.quota = q) (hbill : task.status.terminal = false → bill = .nothing) :
      PollGoes q call db (.writing fromStatus task bill always) { db with row := task } (billed task bill)
  | bills (task : Task) (bill : Bill) (db' : TaskDb) (hrow : db'.row = db.row) : PollGoes q call db (.billing task bill) db' .done

omit [DecidableEq ι] in
/-- What every statement does. -/
theorem statement_polls {s : TaskState} (hcall : call = .video ∨ call = .sweep) (hrow : db.row.quota = q) (hknows : Knows q call s) :
    PollGoes q call db s (taskStatement env call e db s).1 (taskStatement env call e db s).2 := by
  cases s with
  | done => exact .turns _ _ knows_done rfl
  | ready =>
    have hread : Unwritten q call (taskReads env call e db.row) := taskReads_unwritten hrow
    exact .turns _ _ ⟨hread.ok, (taskReads_quiet hcall).ok⟩ hread.bills
  | fetching task =>
    have hsafe : (TaskState.fetching task).Safe call e db.row := by
      rcases hcall with rfl | rfl <;> exact ⟨nofun, nofun⟩
    have hfetch : Unwritten q call (taskFetches env call e task) := taskFetches_unwritten hknows.writer hsafe
    exact .turns _ _ ⟨hfetch.ok, (taskFetches_quiet hcall hknows.video).ok⟩ hfetch.bills
  | writing fromStatus task bill always =>
    obtain ⟨⟨hquota, -, -⟩, hfrom, hnothing, -, halways, -⟩ := hknows
    simp only [taskStatement]
    split
    · rename_i hwon
      exact .wins fromStatus task bill always (by rw [hwon.2, hfrom]) hquota hnothing
    split
    · rename_i hunseen
      rw [hnothing (halways hunseen)]
      exact .turns _ _ knows_done rfl
    · exact .turns _ _ knows_done rfl
  | billing task bill =>
    rw [billing_keeps.2]
    exact .bills task bill _ billing_keeps.1
  | refunding _ | saving _ _ => exact hknows.video.elim

/-! ## Before the write -/

/-- While the task has not ended, what was taken for it is its quota, and no bill is due. -/
structure NetInv (q : Int) (calls : ι → TaskCall) (c : Conf TaskDb ι TaskState) : Prop where
  row : c.shared.row.quota = q
  writers : ∀ i, Knows q (calls i) (c.threads i)
  going : c.shared.row.status.terminal = false → c.shared.net = q ∧ ∀ i, billsNext (c.threads i) = false

theorem knows_billed {bill : Bill} (h : task.quota = q) : Knows q call (billed task bill) := by
  refine ⟨?_, billed_ok task bill⟩
  unfold billed
  split
  · trivial
  · exact h

section Step

variable {c : Conf TaskDb ι TaskState}

theorem knows_update {s' : TaskState} (h : ∀ j, Knows q (calls j) (c.threads j)) (hs' : Knows q (calls i) s') :
    ∀ j, Knows q (calls j) (Function.update c.threads i s' j) :=
  (Function.forall_update_iff c.threads (p := fun j s => Knows q (calls j) s)).2 ⟨hs', fun j _ => h j⟩

/-- Every step keeps the invariant. -/
theorem netInv_step (hcalls : ∀ i, calls i = .video ∨ calls i = .sweep) (h : NetInv q calls c) :
    NetInv q calls (taskStep env calls c e) := by
  refine Conf.act_of_ways (P := NetInv q calls) (statement_polls (hcalls e.caller) h.row (h.writers e.caller)) ?_
  intro s db' s' hs hgoes
  cases hgoes with
  | turns s s' hs' hbills =>
    refine ⟨h.row, knows_update h.writers hs', fun hopen => ⟨(h.going hopen).1, ?_⟩⟩
    exact (Function.forall_update_iff c.threads (p := fun _ s => billsNext s = false)).2 ⟨hbills, fun j _ => (h.going hopen).2 j⟩
  | wins fromStatus task bill always hopen hquota hbill =>
    refine ⟨hquota, knows_update h.writers (knows_billed hquota), fun hgoing => ?_⟩
    obtain ⟨hnet, hnone⟩ := h.going hopen
    refine ⟨hnet, (Function.forall_update_iff c.threads (p := fun _ s => billsNext s = false)).2 ⟨?_, fun j _ => hnone j⟩⟩
    rw [hbill hgoing]
    rfl
  | bills task bill db' hrow =>
    refine ⟨by rw [hrow]; exact h.row, knows_update h.writers knows_done, fun hgoing => ?_⟩
    -- a bill is due, so the task has ended
    rw [hrow] at hgoing
    have hdue := (h.going hgoing).2 e.caller
    rw [hs] at hdue
    cases hdue

theorem netInv_run (env : TaskEnv) (hcalls : ∀ i, calls i = .video ∨ calls i = .sweep) (h : NetInv q calls c) (es : List (TaskEvent ι)) :
    NetInv q calls (exec (taskStep env calls) c es) :=
  exec_invariant (fun _ _ hinv => netInv_step hcalls hinv) h es

theorem threads_others {es : List (TaskEvent ι)} (h : ∀ e ∈ es, e.caller ≠ i) :
    (exec (taskStep env calls) c es).threads i = c.threads i := by
  induction es generalizing c with
  | nil => rfl
  | cons e es ih =>
    have hne : i ≠ e.caller := fun heq => h e (List.mem_cons_self ..) heq.symm
    rw [exec_cons, ih fun e' he' => h e' (List.mem_cons_of_mem e he')]
    exact Function.update_of_ne hne _ _

/-! ## Between the write and the bill -/

/-- The task has ended, what was taken for it is its quota, and only `i` may have a bill to carry out. -/
structure Settles (q : Int) (calls : ι → TaskCall) (i : ι) (c : Conf TaskDb ι TaskState) : Prop where
  row : c.shared.row.quota = q
  writers : ∀ j, Knows q (calls j) (c.threads j)
  ended : c.shared.row.status.terminal = true
  net : c.shared.net = q
  others : ∀ j, j ≠ i → billsNext (c.threads j) = false

theorem settles_step (hcalls : ∀ i, calls i = .video ∨ calls i = .sweep) (hne : e.caller ≠ i)
    (h : Settles q calls i c) : Settles q calls i (taskStep env calls c e) := by
  refine Conf.act_of_ways (P := Settles q calls i) (statement_polls (hcalls e.caller) h.row (h.writers e.caller)) ?_
  intro s db' s' hs hgoes
  cases hgoes with
  | turns s s' hs' hbills =>
    refine ⟨h.row, knows_update h.writers hs', h.ended, h.net, fun j hj => ?_⟩
    exact (Function.forall_update_iff c.threads (p := fun k s => k ≠ i → billsNext s = false)).2
      ⟨fun _ => hbills, fun k _ => h.others k⟩ j hj
  | wins fromStatus task bill always hopen =>
    rw [h.ended] at hopen
    cases hopen
  | bills task bill db' hrow =>
    have hdue := h.others e.caller hne
    rw [hs] at hdue
    cases hdue

end Step

/-! ## The poll -/

theorem updateVideo_success {now : Int} {snap : Task} {answer : TaskAnswer}
    (heffective : answer.effective = some info) (hsuccess : info.status = some .success) (hopen : snap.status.terminal = false) :
    updateVideoSingleTask env now snap answer = .writing snap.status (succeededTask env now snap answer info)
        (settleTaskBillingOnComplete env (succeededTask env now snap answer info) info) false := by
  have hends : (TaskStatus.success.terminal = true ∧ snap.status ≠ .success) := by
    refine ⟨rfl, fun heq => ?_⟩
    rw [heq] at hopen
    cases hopen
  unfold updateVideoSingleTask videoTask
  simp only [heffective, hsuccess, Option.bind_some]
  rw [if_pos hends]
  rfl

theorem settle_eq (info : TaskInfo) : settleTaskBillingOnComplete env task info = .nothing ∧
        (task.perCallBilling = true ∨ quotaOnComplete env task info ≤ 0) ∨
      settleTaskBillingOnComplete env task info = .settle (quotaOnComplete env task info) ∧ task.perCallBilling = false := by
  unfold settleTaskBillingOnComplete quotaOnComplete
  cases hper : task.perCallBilling with
  | true => exact .inl ⟨rfl, .inl rfl⟩
  | false =>
    by_cases hadjust : 0 < env.adjustBilling task info
    · simp [hadjust]
    · by_cases htokens : 0 < info.totalTokens <;> simp [hadjust, htokens]

/-- The settlement brings what was taken from the task's quota to the actual one. -/
theorem net_recalculate {actual : Int} (hnet : db.net = task.quota) :
    (recalculateTaskQuota db task actual).net = if actual ≤ 0 then task.quota else actual := by
  unfold recalculateTaskQuota TaskDb.net at *
  by_cases hpos : actual ≤ 0
  · simp only [hpos, if_true]
    exact hnet
  simp only [hpos, if_false]
  split
  · simp only
    omega
  · simp only
    omega

/-- The last statement of the poll: the row says what was taken exactly where the settlement changes nothing. -/
theorem stored_after_bill {c : Conf TaskDb ι TaskState} (h : Settles q calls i c) (hcaller : e.caller = i) (htask : task.quota = q)
    (hthread : c.threads i = billed task (settleTaskBillingOnComplete env task info)) :
    (taskStep env calls c e).shared.row.quota = (taskStep env calls c e).shared.net ↔
      task.perCallBilling = true ∨ quotaOnComplete env task info ≤ 0 ∨ quotaOnComplete env task info = q ∨ e.fault = true := by
  subst hcaller
  have hshared : (taskStep env calls c e).shared =
      (taskStatement env (calls e.caller) e c.shared (billed task (settleTaskBillingOnComplete env task info))).1 := by
    rw [← hthread]
    rfl
  have hnet : c.shared.net = task.quota := h.net.trans htask.symm
  rw [hshared]
  rcases settle_eq info with ⟨hbill, hfree⟩ | ⟨hbill, hper⟩
  · -- nothing is settled
    rw [hbill]
    show c.shared.row.quota = c.shared.net ↔ _
    rw [h.row, h.net]
    refine ⟨fun _ => ?_, fun _ => rfl⟩
    rcases hfree with hper | hzero
    · exact .inl hper
    · exact .inr (.inl hzero)
  · rw [hbill]
    cases hfault : e.fault with
    | true =>
      simp only [billed, taskStatement, hfault, reduceCtorEq, if_false, if_true]
      rw [h.row, h.net]
      simp
    | false =>
      have hrow : (recalculateTaskQuota c.shared task (quotaOnComplete env task info)).row = c.shared.row := by
        unfold recalculateTaskQuota
        repeat' split
        all_goals rfl
      simp only [billed, taskStatement, hfault, reduceCtorEq, if_false]
      rw [hrow, h.row, net_recalculate hnet, hper, htask]
      split
      · rename_i hzero
        simp [hzero]
      rename_i hpos
      simp only [reduceCtorEq, false_or, hpos, or_false]
      exact eq_comm

end StoredQuotaAux

open TaskAux StoredQuotaAux

/-- When a poll that wins the transition to a success returns, the quota on the row is what was taken for the task exactly where the
task is billed by the call, comes to no quota or to its pre-charge, or the funding source refused the difference. -/
theorem stored_quota_is_net_iff {ι : Type} [DecidableEq ι] {env : TaskEnv} {calls : ι → TaskCall} {row : Task} (p : WonPoll env calls row) :
    p.final.row.quota = p.final.net ↔
      p.snap.perCallBilling = true ∨ quotaOnComplete env p.task p.info ≤ 0 ∨ quotaOnComplete env p.task p.info = row.quota ∨
        p.bill.fault = true := by
  have hstart : NetInv row.quota calls (taskStart row : Conf TaskDb ι TaskState) :=
    ⟨rfl, fun _ => ⟨trivial, trivial⟩, fun _ => ⟨Int.sub_zero row.quota, fun _ => rfl⟩⟩
  have hread := netInv_run env p.writers hstart p.before
  have hsnap := hread.writers p.poller
  rw [p.read] at hsnap
  have hquota : p.snap.quota = row.quota := hsnap.writer.1
  have hopen : p.snap.status.terminal = false := hsnap.video
  -- the answer turns the poller to its write, where the others leave it
  have hwriting : (exec (taskStep env calls) (taskStart row) (p.before ++ p.fetch :: p.between)).threads p.poller =
      .writing p.snap.status p.task (settleTaskBillingOnComplete env p.task p.info) false := by
    rw [exec_append, exec_cons, threads_others p.betweenOthers]
    show (Conf.act _ _ _).threads p.poller = _
    rw [← p.fetches.1, Conf.act_threads_self, p.fetches.1, p.read]
    show taskFetches env (calls p.poller) p.fetch p.snap = _
    rw [p.isVideo]
    simp only [taskFetches, p.fetches.2]
    exact updateVideo_success p.succeeds.1 p.succeeds.2 hopen
  have hinv := netInv_run env p.writers hstart (p.before ++ p.fetch :: p.between)
  have hwins := p.wins
  rw [WonPoll.final, WonPoll.events, exec_append, exec_append]
  generalize exec (taskStep env calls) (taskStart row) (p.before ++ p.fetch :: p.between) = c at hwriting hinv hwins
  -- the write goes through
  obtain ⟨hnet, hnone⟩ := hinv.going (by rw [hwins, hopen])
  have hstep : taskStep env calls c p.write = ⟨{ c.shared with row := p.task }, Function.update c.threads p.poller
        (billed p.task (settleTaskBillingOnComplete env p.task p.info))⟩ := by
    unfold taskStep Conf.act
    rw [p.writes.1, hwriting]
    simp only [taskStatement, p.writes.2, hwins, and_self, if_true]
  have htask : p.task.quota = row.quota := hquota
  have hothers : ∀ j, j ≠ p.poller → billsNext (Function.update c.threads p.poller
      (billed p.task (settleTaskBillingOnComplete env p.task p.info)) j) = false := by
    intro j hj
    rw [Function.update_of_ne hj]
    exact hnone j
  have hsettles : Settles row.quota calls p.poller (taskStep env calls c p.write) := by
    rw [hstep]
    exact ⟨htask, knows_update hinv.writers (knows_billed htask), rfl, hnet, hothers⟩
  have hthread : (taskStep env calls c p.write).threads p.poller = billed p.task (settleTaskBillingOnComplete env p.task p.info) := by
    rw [hstep]
    exact Function.update_self _ _ _
  have halong : Along (taskStep env calls) (fun _ e => e.caller ≠ p.poller) (taskStep env calls c p.write) p.meanwhile :=
    along_of_mem p.meanwhileOthers _
  have hrun := halong.invariant (fun _ _ he hinv => settles_step p.writers he hinv) hsettles
  exact stored_after_bill hrun p.bills htask
    (by rw [threads_others p.meanwhileOthers, hthread])

namespace StoredQuotaAux

/-- An adaptor that settles every task on 300. -/
def cheaperVideo : TaskEnv := ⟨60, "", fun _ _ => 300, fun _ _ => 0⟩

/-- The only poller of a task of quota 500 is told of its success. -/
def cheaperPoll : WonPoll cheaperVideo (fun _ : Unit => TaskCall.video) slowTask where
  poller := ()
  before := [{ caller := () }]
  fetch := { caller := (), now := 1771725600, answer := some { info := { status := some .success } } }
  between := []
  write := { caller := () }
  meanwhile := []
  bill := { caller := () }
  snap := slowTask
  answer := { info := { status := some .success } }
  info := { status := some .success }
  writers := fun _ => .inl rfl
  isVideo := rfl
  read := rfl
  fetches := ⟨rfl, rfl⟩
  succeeds := ⟨rfl, rfl⟩
  betweenOthers := by simp
  writes := ⟨rfl, rfl⟩
  wins := rfl
  meanwhileOthers := by simp
  bills := rfl

end StoredQuotaAux

/-- The task was charged 500 and settled on 300: 300 was taken, and the row still says 500. -/
theorem settled_task_keeps_precharge :
    cheaperPoll.final.row.status = .success ∧ cheaperPoll.final.row.quota = 500 ∧ cheaperPoll.final.net = 300 := by
  decide

end NewApi
