import NewApi.Tasks.Lifecycle
import NewApi.Theorems.Tasks

/-!
# A video task is billed by one process

The video pollers and the sweep write a task's row only by `UpdateWithStatus`, from the status they have read, and read only tasks that
have not ended. So one billing function is called at most, the settlement where the task is a success and the refund only where it is a
failure (`video_billed_once`).

A write that does not end the task may be lost, or undo another, without harm: it does not go through once the task has ended
(`VideoGoes`), and whoever ends it is the first.
-/

namespace NewApi

open Threads Run

namespace VideoAux

variable {ι : Type} [DecidableEq ι] {env : TaskEnv} {calls : ι → TaskCall} {call : TaskCall} {now : Int} {task row snap : Task}
  {bill : Bill} {e : TaskEvent ι} {answer : TaskAnswer} {fromStatus : TaskStatus} {always : Bool}

/-! ## What a poller or a sweep knows where it stands -/

/-- What holds of a video poller or a sweep: its copy has not ended, it writes from a status that is not terminal, only a write that
ends the task has a bill, a refund is due for a failure, and only the poller writes a success. -/
def VideoOk (call : TaskCall) : TaskState → Prop
  | .ready | .done | .billing _ _ => True
  | .fetching task => task.status.terminal = false
  | .writing fromStatus task bill always => fromStatus.terminal = false ∧ (task.status.terminal = false → bill = .nothing) ∧
      (bill = .refund → task.status = .failure) ∧ (always = true → task.status.terminal = false) ∧
      (task.status = .success → call = .video)
  | .refunding _ | .saving _ _ => False

def refundsNext : TaskState → Bool
  | .billing _ .refund => true
  | _ => false

/-- The state after a turn that calls nothing: the writer knows what it must, and no refund is due from it. -/
structure Quiet (call : TaskCall) (s : TaskState) : Prop where
  ok : VideoOk call s
  refunds : refundsNext s = false

theorem quiet_done : Quiet call .done := ⟨trivial, rfl⟩

/-- The answer to a copy that has not ended: no billing function is called yet. -/
theorem updateVideo_quiet (hopen : snap.status.terminal = false) : Quiet .video (updateVideoSingleTask env now snap answer) := by
  unfold updateVideoSingleTask
  split
  · exact quiet_done
  rename_i task bill hsome
  obtain ⟨info, -, hvideo⟩ := Option.bind_eq_some_iff.1 hsome
  obtain ⟨-, -, hends, hrefund, -⟩ := TaskAux.videoTask_some hvideo
  have hnothing : task.status.terminal = false → bill = .nothing := by
    intro hgoing
    by_contra hb
    rw [hends hb] at hgoing
    cases hgoing
  split
  · exact ⟨⟨hopen, hnothing, hrefund, nofun, fun _ => rfl⟩, rfl⟩
  rename_i hkeep
  -- a task that ends has another status than the copy, which has not ended
  have hgoing : task.status.terminal = false := by
    cases hterminal : task.status.terminal with
    | false => rfl
    | true =>
      refine absurd ⟨hterminal, fun heq => ?_⟩ hkeep
      rw [heq, hterminal] at hopen
      cases hopen
  rw [hnothing hgoing]
  split
  · exact quiet_done
  · exact ⟨⟨hopen, fun _ => rfl, nofun, fun _ => hgoing, fun _ => rfl⟩, rfl⟩

theorem videoSettlesAtOnce_open (hopen : snap.status.terminal = false) : videoSettlesAtOnce env now snap answer = false := by
  unfold videoSettlesAtOnce
  split
  · rename_i task bill _
    cases hboth : (decide (task.status = .success) && snap.sameSnapshot task) with
    | false => rfl
    | true =>
      simp only [Task.sameSnapshot, Bool.and_eq_true, decide_eq_true_eq] at hboth
      rw [hboth.2.1.1.1.1.1.1, hboth.1] at hopen
      cases hopen
  · rfl

theorem sweep_quiet : Quiet .sweep (sweepTimedOutTask env now row) := by
  unfold sweepTimedOutTask
  split
  · rename_i htimed
    exact ⟨⟨TaskAux.unfinished_open htimed.2.1, nofun, fun _ => rfl, nofun, nofun⟩, rfl⟩
  · exact quiet_done

omit [DecidableEq ι] in
theorem taskReads_quiet (hcall : call = .video ∨ call = .sweep) : Quiet call (taskReads env call e row) := by
  unfold taskReads
  split
  · exact quiet_done
  rcases hcall with rfl | rfl
  · simp only
    split
    · rename_i hunfinished
      exact ⟨TaskAux.unfinished_open hunfinished, rfl⟩
    · exact quiet_done
  · exact sweep_quiet

omit [DecidableEq ι] in
theorem taskFetches_quiet (hcall : call = .video ∨ call = .sweep)
    (hopen : task.status.terminal = false) : Quiet call (taskFetches env call e task) := by
  rcases hcall with rfl | rfl
  · cases hanswer : e.answer with
    | none => simpa [taskFetches, hanswer] using quiet_done
    | some answer => simpa [taskFetches, hanswer] using updateVideo_quiet hopen
  · simpa [taskFetches] using quiet_done

/-! ## How a statement can go -/

/-- The ways a statement of a poller or a sweep can go, with the row it leaves and the billing functions it calls. -/
inductive VideoGoes (call : TaskCall) (row : Task) : TaskState → Task → TaskState → List BillingAction → Prop
  | turns (s s' : TaskState) (hs : refundsNext s = false) (hs' : Quiet call s') : VideoGoes call row s row s' []
  | moves (s : TaskState) (task : Task) (hs : refundsNext s = false) (hrow : row.status.terminal = false)
      (htask : task.status.terminal = false) : VideoGoes call row s task .done []
  | succeeds (s s' : TaskState) (task : Task) (hs : refundsNext s = false) (hs' : Quiet call s')
      (hrow : row.status.terminal = false) (htask : task.status = .success) : VideoGoes call row s task s' [.settle]
  | fails (s s' : TaskState) (task : Task) (hs : refundsNext s = false) (hs' : VideoOk call s')
      (hrow : row.status.terminal = false) (htask : task.status = .failure) : VideoGoes call row s task s' []
  | refunds (task : Task) : VideoGoes call row (.billing task .refund) row .done [.refund task.quota]

/-- What a write that won bills is in order. -/
theorem billed_ok (task : Task) (bill : Bill) : VideoOk call (billed task bill) := by
  unfold billed
  split <;> trivial

theorem billed_quiet (h : bill ≠ .refund) : Quiet call (billed task bill) := by
  refine ⟨billed_ok task bill, ?_⟩
  cases bill with
  | refund => exact absurd rfl h
  | nothing | settle _ => rfl

omit [DecidableEq ι] in
/-- A write that wins. -/
theorem write_goes (hok : VideoOk call (.writing fromStatus task bill always)) (hwon : e.fault = false ∧ row.status = fromStatus) :
    VideoGoes call row (.writing fromStatus task bill always) task (billed task bill)
      (billingActions env call e row (.writing fromStatus task bill always)) := by
  obtain ⟨hfrom, hnothing, hrefund, -, hvideo⟩ := hok
  have hrow : row.status.terminal = false := by rw [hwon.2, hfrom]
  by_cases hsuccess : task.status = .success
  · have hne : bill ≠ .refund := by
      intro hb
      rw [hrefund hb] at hsuccess
      cases hsuccess
    have hacts : billingActions env call e row (.writing fromStatus task bill always) = [.settle] :=
      if_pos ⟨hvideo hsuccess, hsuccess, .inr hwon⟩
    rw [hacts]
    exact .succeeds _ _ _ rfl (billed_quiet hne) hrow hsuccess
  · have hacts : billingActions env call e row (.writing fromStatus task bill always) = [] :=
      if_neg fun h => hsuccess h.2.1
    rw [hacts]
    by_cases hfailure : task.status = .failure
    · exact .fails _ _ _ rfl (billed_ok task bill) hrow hfailure
    have hgoing : task.status.terminal = false := by
      cases hstatus : task.status with
      | success => exact absurd hstatus hsuccess
      | failure => exact absurd hstatus hfailure
      | notStart | submitted | queued | inProgress | unknown | other _ => rfl
    rw [hnothing hgoing]
    exact .moves _ _ rfl hrow hgoing

omit [DecidableEq ι] in
/-- A write that is refused or lost: no bill follows, and no settlement. -/
theorem lost_goes (hok : VideoOk call (.writing fromStatus task bill always)) (hlost : ¬(e.fault = false ∧ row.status = fromStatus)) :
    VideoGoes call row (.writing fromStatus task bill always) row (if always then billed task bill else .done)
      (billingActions env call e row (.writing fromStatus task bill always)) := by
  obtain ⟨-, hnothing, -, halways, -⟩ := hok
  have hacts : billingActions env call e row (.writing fromStatus task bill always) = [] := by
    refine if_neg ?_
    rintro ⟨-, hsuccess, hunseen | hwon⟩
    · have hgoing := halways hunseen
      rw [hsuccess] at hgoing
      cases hgoing
    · exact hlost hwon
  rw [hacts]
  refine .turns _ _ rfl ?_
  split
  · rename_i hunseen
    rw [hnothing (halways hunseen)]
    exact quiet_done
  · exact quiet_done

omit [DecidableEq ι] in
/-- What every statement does. -/
theorem statement_goes {db : TaskDb} {s : TaskState} (hcall : call = .video ∨ call = .sweep) (hok : VideoOk call s) :
    VideoGoes call db.row s (taskStatement env call e db s).1.row (taskStatement env call e db s).2
      (billingActions env call e db.row s) := by
  cases s with
  | done => exact .turns _ _ rfl (quiet_done)
  | ready => exact .turns _ _ rfl (taskReads_quiet hcall)
  | fetching task =>
    have hacts : billingActions env call e db.row (.fetching task) = [] := by
      simp only [billingActions]
      split
      · rw [videoSettlesAtOnce_open hok]
        rfl
      · rfl
    rw [hacts]
    exact .turns _ _ rfl (taskFetches_quiet hcall hok)
  | writing fromStatus task bill always =>
    simp only [taskStatement]
    split
    · rename_i hwon
      exact write_goes hok hwon
    · rename_i hlost
      exact lost_goes hok hlost
  | billing task bill =>
    rw [TaskAux.billing_keeps.1, TaskAux.billing_keeps.2]
    cases bill with
    | nothing | settle _ => exact .turns _ _ rfl (quiet_done)
    | refund => exact .refunds task
  | refunding _ | saving _ _ => exact hok.elim

/-! ## The invariant -/

/-- The invariant of a run that started from `row₀`, with the billing functions called so far: none while the task has not ended;
the settlement, once, for a success; and for a failure the refund, once, or none yet and at most one due. -/
structure BillInv (row₀ : Task) (calls : ι → TaskCall) (c : Conf TaskDb ι TaskState) (acts : List (ι × BillingAction)) : Prop where
  writers : ∀ i, VideoOk (calls i) (c.threads i)
  going : c.shared.row.status.terminal = false → acts = [] ∧ ∀ i, refundsNext (c.threads i) = false
  settled : c.shared.row.status = .success →
    (row₀.status.terminal = true ∧ acts = [] ∨ ∃ i, acts = [(i, .settle)]) ∧ ∀ i, refundsNext (c.threads i) = false
  failed : c.shared.row.status = .failure →
    (acts = [] ∧ ∀ i j, refundsNext (c.threads i) = true → refundsNext (c.threads j) = true → i = j) ∨
      (∃ i q, acts = [(i, .refund q)]) ∧ ∀ i, refundsNext (c.threads i) = false

section Step

variable {row₀ : Task} {c : Conf TaskDb ι TaskState} {acts : List (ι × BillingAction)} {i : ι} {s' : TaskState} {db' : TaskDb}

theorem refundsNext_update (h : ∀ j, refundsNext (c.threads j) = false) (hs' : refundsNext s' = false) :
    ∀ j, refundsNext (Function.update c.threads i s' j) = false :=
  (Function.forall_update_iff c.threads (p := fun _ s => refundsNext s = false)).2 ⟨hs', fun j _ => h j⟩

variable (h : BillInv row₀ calls c acts)

include h

theorem BillInv.writers_update (hs' : VideoOk (calls i) s') : ∀ j, VideoOk (calls j) (Function.update c.threads i s' j) :=
  (Function.forall_update_iff c.threads (p := fun j s => VideoOk (calls j) s)).2 ⟨hs', fun j _ => h.writers j⟩

/-- A turn that writes nothing keeps the invariant. -/
theorem BillInv.turn (hs' : Quiet (calls i) s') (hrow : db'.row = c.shared.row) :
    BillInv row₀ calls ⟨db', Function.update c.threads i s'⟩ acts := by
  refine ⟨h.writers_update hs'.ok, ?_, ?_, ?_⟩
  · intro hgoing
    obtain ⟨hacts, hnone⟩ := h.going (hrow ▸ hgoing)
    exact ⟨hacts, refundsNext_update hnone hs'.refunds⟩
  · intro hsuccess
    obtain ⟨hacts, hnone⟩ := h.settled (hrow ▸ hsuccess)
    exact ⟨hacts, refundsNext_update hnone hs'.refunds⟩
  · intro hfailure
    rcases h.failed (hrow ▸ hfailure) with ⟨hacts, halone⟩ | ⟨hacts, hnone⟩
    · refine .inl ⟨hacts, fun j k hj hk => ?_⟩
      exact halone j k (had_before hs'.refunds hj).1 (had_before hs'.refunds hk).1
    · exact .inr ⟨hacts, refundsNext_update hnone hs'.refunds⟩

theorem BillInv.move (hrow : c.shared.row.status.terminal = false)
    (htask : db'.row.status.terminal = false) : BillInv row₀ calls ⟨db', Function.update c.threads i .done⟩ acts := by
  obtain ⟨hacts, hnone⟩ := h.going hrow
  refine ⟨h.writers_update trivial, fun _ => ⟨hacts, refundsNext_update hnone rfl⟩, ?_, ?_⟩
  · intro hsuccess
    rw [show db'.row.status = .success from hsuccess] at htask
    cases htask
  · intro hfailure
    rw [show db'.row.status = .failure from hfailure] at htask
    cases htask

/-- The write of a success calls the settlement. -/
theorem BillInv.succeed (hs' : Quiet (calls i) s') (hrow : c.shared.row.status.terminal = false) (htask : db'.row.status = .success) :
    BillInv row₀ calls ⟨db', Function.update c.threads i s'⟩ (acts ++ [(i, .settle)]) := by
  obtain ⟨rfl, hnone⟩ := h.going hrow
  refine ⟨h.writers_update hs'.ok, ?_, fun _ => ⟨.inr ⟨i, rfl⟩, refundsNext_update hnone hs'.refunds⟩, ?_⟩
  · intro hgoing
    rw [show db'.row.status = .success from htask] at hgoing
    cases hgoing
  · intro hfailure
    rw [show db'.row.status = .success from htask] at hfailure
    cases hfailure

/-- The write of a failure: at most the writer's own refund is due. -/
theorem BillInv.fail (hs' : VideoOk (calls i) s') (hrow : c.shared.row.status.terminal = false) (htask : db'.row.status = .failure) :
    BillInv row₀ calls ⟨db', Function.update c.threads i s'⟩ acts := by
  obtain ⟨hacts, hnone⟩ := h.going hrow
  have honly : ∀ j, refundsNext (Function.update c.threads i s' j) = true → j = i := by
    intro j hj
    by_contra hji
    rw [Function.update_of_ne hji, hnone j] at hj
    cases hj
  refine ⟨h.writers_update hs', ?_, ?_, fun _ => .inl ⟨hacts, fun j k hj hk => (honly j hj).trans (honly k hk).symm⟩⟩
  · intro hgoing
    rw [show db'.row.status = .failure from htask] at hgoing
    cases hgoing
  · intro hsuccess
    rw [show db'.row.status = .failure from htask] at hsuccess
    cases hsuccess

/-- The refund is carried out: the task is a failure, and no refund was called before. -/
theorem BillInv.refund (hi : refundsNext (c.threads i) = true) (hrow : db'.row = c.shared.row) (q : Int) :
    BillInv row₀ calls ⟨db', Function.update c.threads i .done⟩ (acts ++ [(i, .refund q)]) := by
  have hdue : ∀ {P : Prop}, (∀ j, refundsNext (c.threads j) = false) → P := by
    intro P hnone
    rw [hnone i] at hi
    cases hi
  refine ⟨h.writers_update trivial, ?_, ?_, ?_⟩
  · intro hgoing
    exact hdue (h.going (hrow ▸ hgoing)).2
  · intro hsuccess
    exact hdue (h.settled (hrow ▸ hsuccess)).2
  · intro hfailure
    rcases h.failed (hrow ▸ hfailure) with ⟨rfl, halone⟩ | ⟨-, hnone⟩
    · refine .inr ⟨⟨i, q, rfl⟩, fun j => ?_⟩
      by_contra hj
      rw [Bool.not_eq_false] at hj
      obtain ⟨hbefore, hji⟩ := had_before rfl hj
      exact hji (halone j i hbefore hi)
    · exact hdue hnone

/-- Every step keeps the invariant. -/
theorem billInv_step {e : TaskEvent ι} (hcalls : ∀ i, calls i = .video ∨ calls i = .sweep) :
    BillInv row₀ calls (taskStep env calls c e) (acts ++ taskActions env calls c e) := by
  refine Conf.act_of_ways (P := fun c' => BillInv row₀ calls c' (acts ++ taskActions env calls c e))
    (G := fun s db' s' => VideoGoes (calls e.caller) c.shared.row s db'.row s' (billingActions env (calls e.caller) e c.shared.row s))
    (statement_goes (hcalls e.caller) (h.writers e.caller)) ?_
  intro s db' s' hs hgoes
  simp only [taskActions, hs]
  generalize billingActions env (calls e.caller) e c.shared.row s = called at hgoes ⊢
  generalize hrow' : db'.row = row' at hgoes
  cases hgoes with
  | turns s s' _ hs' =>
    rw [List.map_nil, List.append_nil]
    exact h.turn hs' hrow'
  | moves s task _ hrow htask =>
    rw [List.map_nil, List.append_nil]
    exact h.move hrow (hrow' ▸ htask)
  | succeeds s s' task _ hs' hrow htask => exact h.succeed hs' hrow (hrow' ▸ htask)
  | fails s s' task _ hs' hrow htask =>
    rw [List.map_nil, List.append_nil]
    exact h.fail hs' hrow (hrow' ▸ htask)
  | refunds task =>
    have hdue : refundsNext (c.threads e.caller) = true := by
      rw [hs]
      rfl
    exact h.refund hdue hrow' task.quota

end Step

omit [DecidableEq ι] in
theorem BillInv.verdict {row₀ : Task} {c : Conf TaskDb ι TaskState} {acts : List (ι × BillingAction)} (h : BillInv row₀ calls c acts) :
    acts.length ≤ 1 ∧
      (∀ a ∈ acts, (a.2 = .settle ↔ c.shared.row.status = .success) ∧ (a.2 ≠ .settle → c.shared.row.status = .failure)) ∧
      (row₀.status.terminal = false → c.shared.row.status = .success → ∃ i, (i, .settle) ∈ acts) := by
  cases hterminal : c.shared.row.status.terminal with
  | false =>
    obtain ⟨rfl, -⟩ := h.going hterminal
    refine ⟨Nat.zero_le 1, nofun, fun _ hsuccess => ?_⟩
    rw [hsuccess] at hterminal
    cases hterminal
  | true =>
    have hended : c.shared.row.status = .success ∨ c.shared.row.status = .failure := by
      cases hstatus : c.shared.row.status with
      | success => exact .inl rfl
      | failure => exact .inr rfl
      | notStart | submitted | queued | inProgress | unknown | other _ =>
        rw [hstatus] at hterminal
        cases hterminal
    rcases hended with hsuccess | hfailure
    · rcases (h.settled hsuccess).1 with ⟨hended, rfl⟩ | ⟨i, rfl⟩
      · refine ⟨Nat.zero_le 1, nofun, fun hopen => ?_⟩
        rw [hended] at hopen
        cases hopen
      · simp [hsuccess]
    · rcases h.failed hfailure with ⟨rfl, -⟩ | ⟨⟨i, q, rfl⟩, -⟩ <;> simp [hfailure]

end VideoAux

open VideoAux

/-- For any number of video pollers and sweeps of one task, in any interleaving, with any answers, times and refused statements: at
most one billing function is called, a call is the settlement exactly where the persisted status is a success, and a call that is
the refund only where it is a failure. A task that had not ended before and is a success has been settled. -/
theorem video_billed_once {ι : Type} [DecidableEq ι] (env : TaskEnv) (calls : ι → TaskCall)
    (hcalls : ∀ i, calls i = .video ∨ calls i = .sweep) (row : Task) (es : List (TaskEvent ι)) :
    let status := (exec (taskStep env calls) (taskStart row) es).shared.row.status
    let acts := trace (taskStep env calls) (taskActions env calls) (taskStart row) es
    acts.length ≤ 1 ∧
      (∀ a ∈ acts, (a.2 = .settle ↔ status = .success) ∧ (a.2 ≠ .settle → status = .failure)) ∧
      (row.status.terminal = false → status = .success → ∃ i, (i, .settle) ∈ acts) := by
  have h0 : BillInv row calls (taskStart row : Conf TaskDb ι TaskState) [] := by
    refine ⟨fun _ => trivial, fun _ => ⟨rfl, fun _ => rfl⟩, fun hsuccess => ⟨.inl ⟨?_, rfl⟩, fun _ => rfl⟩, fun _ => .inl ⟨rfl, nofun⟩⟩
    rw [show row.status = .success from hsuccess]
    rfl
  have hrun : Along (taskStep env calls) (fun _ _ => True) (taskStart row) es := along_of_forall (fun _ _ => trivial) _ es
  have hinv : BillInv row calls (exec (taskStep env calls) (taskStart row) es)
      ([] ++ trace (taskStep env calls) (taskActions env calls) (taskStart row) es) :=
    hrun.invariant_traced (P := BillInv row calls) (fun _ _ _ _ h => billInv_step h hcalls) h0
  exact hinv.verdict

namespace VideoAux

def pollPollSweep : Fin 3 → TaskCall := fun i => if i.val = 2 then .sweep else .video

/-- A turn of one of them, two hours after the task was submitted; upstream reports a success to the pollers. -/
def successTurn (i : Fin 3) : TaskEvent (Fin 3) := ⟨i, false, 1771725600, some { info := { status := some .success } }, none⟩

end VideoAux

/-- All three read the task before one of them writes: the second poller wins, and the other two call nothing. -/
theorem video_billed_once_sample :
    let es := [0, 1, 2, 0, 1, 1, 0, 2, 1, 0, 2].map successTurn
    trace (taskStep TaskAux.hourTimeout pollPollSweep) (taskActions TaskAux.hourTimeout pollPollSweep)
        (taskStart TaskAux.slowTask) es = [(1, .settle)] ∧
      (trace (taskStep TaskAux.hourTimeout pollPollSweep) (taskActions TaskAux.hourTimeout pollPollSweep)
        (taskStart TaskAux.slowTask) es).length ≤ 1 := by
  refine ⟨by decide, ?_⟩
  have hcalls : ∀ i, pollPollSweep i = .video ∨ pollPollSweep i = .sweep := by decide
  exact (video_billed_once TaskAux.hourTimeout pollPollSweep hcalls TaskAux.slowTask _).1

end NewApi
