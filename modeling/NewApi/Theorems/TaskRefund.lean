import NewApi.Tasks.Lifecycle
import NewApi.Theorems.Tasks

/-!
# A task that fails is refunded

The video poller, the sweep and the Suno loop refund what they fail. The bulk updates of a polling pass and the fetch a user triggers do
not: a task whose channel was deleted keeps its charge (`deleted_channel_keeps_charge`). Nor does the sweep refund a task of the old
system, and it takes one for it whose submit time a Suno item has moved back. Whatever else moves a task to a failure refunds it
(`failed_task_refunded`).
-/

namespace NewApi

open Threads Run

namespace RefundAux

variable {ι : Type} [DecidableEq ι] {env : TaskEnv} {origin : TaskOrigin} {calls : ι → TaskCall} {call : TaskCall} {q now : Int}
  {refunded : Prop} {task snap row : Task} {s : PassState}

/-! ## What a call knows where it stands -/

/-- A copy of a task of quota `q` that the sweep does not take for one of the old system. -/
structure Fresh (q : Int) (task : Task) : Prop where
  quota : task.quota = q
  recent : ¬LegacyTime task.submitTime

/-- What holds of a call on a task of quota `q`, where `refunded` says whether it has refunded already: a write that turns the task
into a failure has the refund for its bill, and the save of a failure comes after the refund. -/
def PassOk (q : Int) (refunded : Prop) : PassState → Prop
  | .own .ready | .own .done => True
  | .own (.fetching task) | .items task _ | .refunding task _ => Fresh q task
  | .own (.writing fromStatus task bill _) =>
    Fresh q task ∧ (fromStatus ≠ .failure → task.status = .failure → bill = .refund)
  | .own (.billing task _) => task.quota = q
  | .saving task _ _ => Fresh q task ∧ (task.status = .failure → refunded)
  | .own (.refunding _) | .own (.saving _ _) | .bulk _ => False

theorem PassOk.mono {refunded' : Prop} (himp : refunded → refunded') (h : PassOk q refunded s) : PassOk q refunded' s := by
  cases s with
  | saving task paid rest => exact ⟨h.1, fun hfailure => himp (h.2 hfailure)⟩
  | own s => cases s <;> exact h
  | bulk _ | items _ _ | refunding _ _ => exact h

/-- A bill of the stored quota is in order. -/
theorem billed_ok {bill : Bill} (h : task.quota = q) : PassOk q refunded (.own (billed task bill)) := by
  unfold billed
  split
  · trivial
  · exact h

/-- What a video poll goes on with. -/
theorem updateVideo_ok {answer : TaskAnswer} (hq : q ≠ 0) (hfresh : Fresh q snap) :
    PassOk q refunded (.own (updateVideoSingleTask env now snap answer)) := by
  unfold updateVideoSingleTask
  split
  · trivial
  rename_i task bill hsome
  obtain ⟨info, -, hvideo⟩ := Option.bind_eq_some_iff.1 hsome
  obtain ⟨hquota, hsubmit, -, -, hrefund⟩ := TaskAux.videoTask_some hvideo
  have hfresh' : Fresh q task := ⟨hquota.trans hfresh.quota, hsubmit ▸ hfresh.recent⟩
  have hbill : task.status = .failure → bill = .refund := fun hfailure => hrefund hfailure (hfresh.quota ▸ hq)
  split
  · exact ⟨hfresh', fun _ => hbill⟩
  split
  · exact billed_ok hfresh'.quota
  · exact ⟨hfresh', fun _ => hbill⟩

theorem tryRealtimeFetch_ok {info : TaskInfo} (hfresh : Fresh q snap)
    (hanswer : info.status = some .failure → snap.status = .failure) : PassOk q refunded (.own (tryRealtimeFetch env snap info)) := by
  unfold tryRealtimeFetch
  split
  · trivial
  refine ⟨⟨hfresh.quota, hfresh.recent⟩, fun hfrom hfailure => absurd ?_ hfrom⟩
  -- the status written is upstream's, or the one read where upstream gives none
  cases hstatus : info.status with
  | none => simpa [realtimeTask, hstatus] using hfailure
  | some status =>
    refine hanswer ?_
    simpa [realtimeTask, hstatus] using hfailure

/-- What a sweep goes on with. -/
theorem sweep_ok (hq : q ≠ 0) (hfresh : Fresh q row) : PassOk q refunded (.own (sweepTimedOutTask env now row)) := by
  unfold sweepTimedOutTask
  split
  · refine ⟨⟨hfresh.quota, hfresh.recent⟩, fun _ _ => if_pos ⟨?_, ?_⟩⟩
    · have hrecent := hfresh.recent
      simpa [LegacyTime] using hrecent
    · rw [hfresh.quota]
      exact hq
  · trivial

/-- What an item of a Suno answer goes on with. -/
theorem passItem_ok {id : String} {item : SunoItem} {rest : List (String × SunoItem)} (hfresh : Fresh q task)
    (hitem : id = getUpstreamTaskID origin task → ¬LegacyTime item.submitTime) : PassOk q refunded (passItem origin task id item rest) := by
  unfold passItem
  split
  · exact hfresh
  rename_i hmine
  have hid : id = getUpstreamTaskID origin task := by
    by_contra hne
    exact hmine (.inl hne)
  have hfresh' : Fresh q (sunoTask task item) := by
    refine ⟨hfresh.quota, ?_⟩
    show ¬LegacyTime (if item.submitTime ≠ 0 then item.submitTime else task.submitTime)
    split
    · exact hitem hid
    · exact hfresh.recent
  split
  · exact hfresh'
  rename_i hfails
  refine ⟨hfresh', fun hfailure => absurd ?_ hfails⟩
  have hstatus : item.status.getD task.status = .failure := hfailure
  simp [SunoItem.fails, hstatus]

/-! ## How a statement can go -/

/-- The ways an answered statement can go, with the row it leaves and the billing functions it calls: the row stays, a compared write
goes through with its bill to follow, or a Suno save replaces the row. -/
inductive PassGoes (q : Int) (refunded : Prop) (row : Task) : PassState → Task → PassState → List BillingAction → Prop
  | turns (s s' : PassState) (acts : List BillingAction) (hs' : PassOk q (refunded ∨ .refund q ∈ acts) s') :
      PassGoes q refunded row s row s' acts
  | writes (fromStatus : TaskStatus) (task : Task) (bill : Bill) (always : Bool) (acts : List BillingAction)
      (hrow : row.status = fromStatus) :
      PassGoes q refunded row (.own (.writing fromStatus task bill always)) task (.own (billed task bill)) acts
  | saves (task : Task) (paid : Bool) (rest : List (String × SunoItem)) :
      PassGoes q refunded row (.saving task paid rest) task (.items task rest) []

omit [DecidableEq ι] in
theorem taskReads_ok {e : TaskEvent ι} (hq : q ≠ 0) (hrow : Fresh q row) : PassOk q refunded (.own (taskReads env call e row)) := by
  unfold taskReads
  split
  · trivial
  cases call with
  | sweep => exact sweep_ok hq hrow
  | realtime => exact hrow
  | video | suno =>
    simp only
    split
    · exact hrow
    · trivial

variable {e : PassEvent ι} {db : TaskDb}

omit [DecidableEq ι] in
/-- What an answered call does with its copy; there is no bulk update. -/
theorem passFetches_ok (hq : q ≠ 0) (hfresh : Fresh q task) (hanswered : (PassState.own (.fetching task)).Answered origin call e) :
    PassOk q refunded (passFetches env origin call e task) := by
  obtain ⟨hpass, hrealtime⟩ := hanswered
  have hdue : bulkDue origin call e.channelFound task = none := by
    cases call with
    | sweep | realtime => rfl
    | video =>
      obtain ⟨hid, hfound⟩ := hpass (.inl rfl)
      simp [bulkDue, hid, hfound]
    | suno =>
      obtain ⟨hid, hfound⟩ := hpass (.inr rfl)
      simp [bulkDue, hid, hfound]
  simp only [passFetches, hdue]
  split
  · exact hfresh
  rename_i hsuno
  unfold taskFetches
  split
  · exact updateVideo_ok hq hfresh
  · rename_i answer hanswer
    exact tryRealtimeFetch_ok hfresh (hrealtime rfl answer hanswer)
  · exact absurd rfl hsuno
  · trivial

omit [DecidableEq ι] in
theorem own_goes {s : TaskState} (hq : q ≠ 0) (hrow : Fresh q db.row)
    (hok : PassOk q refunded (.own s)) (hanswered : (PassState.own s).Answered origin call e) :
    PassGoes q refunded db.row (.own s) (passStatement env origin call e db (.own s)).1.row
      (passStatement env origin call e db (.own s)).2 ((PassState.own s).actions env origin call e db.row) := by
  cases s with
  | done => exact .turns _ _ _ trivial
  | ready => exact .turns _ _ _ (taskReads_ok hq hrow)
  | fetching task => exact .turns _ _ _ (passFetches_ok hq hok hanswered)
  | writing fromStatus task bill always =>
    simp only [passStatement, taskStatement]
    split
    · rename_i hwon
      exact .writes fromStatus task bill always _ hwon.2
    refine .turns _ _ _ ?_
    split
    · exact billed_ok hok.1.quota
    · trivial
  | billing task bill =>
    simp only [passStatement, TaskAux.billing_keeps]
    exact .turns _ _ _ trivial
  | refunding _ | saving _ _ => exact hok.elim

omit [DecidableEq ι] in
/-- What every answered statement does. -/
theorem statement_goes (hq : q ≠ 0) (hrow : Fresh q db.row) (hok : PassOk q refunded s) (hanswered : s.Answered origin call e) :
    PassGoes q refunded db.row s (passStatement env origin call e db s).1.row (passStatement env origin call e db s).2
      (s.actions env origin call e db.row) := by
  cases s with
  | own s => exact own_goes hq hrow hok hanswered
  | bulk failReason => exact hok.elim
  | items task rest =>
    cases rest with
    | nil => exact .turns _ _ _ trivial
    | cons entry rest => exact .turns _ _ _ (passItem_ok hok hanswered)
  | refunding task rest =>
    have hnow : BillingAction.refund q ∈ (PassState.refunding task rest).actions env origin call e db.row := by
      simp [PassState.actions, (show Fresh q task from hok).quota]
    simp only [passStatement]
    split <;> exact .turns _ _ _ ⟨hok, fun _ => .inr hnow⟩
  | saving task paid rest =>
    simp only [passStatement]
    split
    · exact .turns _ _ _ hok.1
    · exact .saves task paid rest

/-! ## The invariant -/

/-- The invariant of a run, with the billing functions called so far. -/
structure RefundInv (q : Int) (c : Conf TaskDb ι PassState) (acts : List (ι × BillingAction)) : Prop where
  row : Fresh q c.shared.row
  passes : ∀ i, PassOk q ((i, .refund q) ∈ acts) (c.threads i)

/-- The call has refunded the quota, or does so at its next turn. -/
def Refunding (q : Int) (i : ι) (c : Conf TaskDb ι PassState) (acts : List (ι × BillingAction)) : Prop :=
  (i, .refund q) ∈ acts ∨ ∃ task, c.threads i = .own (.billing task .refund) ∧ task.quota = q

section Step

variable {c : Conf TaskDb ι PassState} {acts : List (ι × BillingAction)} {i : ι}

theorem RefundInv.passes_update (h : RefundInv q c acts) {s' : PassState} {called : List BillingAction}
    (hs' : PassOk q ((i, .refund q) ∈ acts ∨ .refund q ∈ called) s') :
    ∀ j, PassOk q ((j, .refund q) ∈ acts ++ called.map (i, ·)) (Function.update c.threads i s' j) := by
  refine (Function.forall_update_iff c.threads
    (p := fun j s => PassOk q ((j, .refund q) ∈ acts ++ called.map (i, ·)) s)).2 ⟨hs'.mono ?_, fun j _ => ?_⟩
  · rintro (hbefore | hnow)
    · exact List.mem_append_left _ hbefore
    · exact List.mem_append_right _ (List.mem_map_of_mem hnow)
  · exact (h.passes j).mono fun hbefore => List.mem_append_left _ hbefore

/-- Every answered statement keeps the invariant; one that fails the task is the refunding call's. -/
theorem refundInv_step (hq : q ≠ 0) (hanswered : AnsweredStep origin calls c e) (h : RefundInv q c acts) :
    RefundInv q (passStep env origin calls c e) (acts ++ passActions env origin calls c e) ∧
      (c.shared.row.status ≠ .failure → (passStep env origin calls c e).shared.row.status = .failure →
        Refunding q e.caller (passStep env origin calls c e) (acts ++ passActions env origin calls c e)) := by
  have hok := h.passes e.caller
  refine Conf.act_of_ways (P := fun c' => RefundInv q c' (acts ++ passActions env origin calls c e) ∧
      (c.shared.row.status ≠ .failure → c'.shared.row.status = .failure →
        Refunding q e.caller c' (acts ++ passActions env origin calls c e)))
    (G := fun s db' s' => PassGoes q ((e.caller, .refund q) ∈ acts) c.shared.row s db'.row s'
      (s.actions env origin (calls e.caller) e c.shared.row))
    (statement_goes hq h.row hok hanswered) ?_
  intro s db' s' hs hgoes
  rw [hs] at hok
  simp only [passActions, hs]
  generalize hrow' : db'.row = row' at hgoes
  cases hgoes with
  | turns s s' called hs' =>
    exact ⟨⟨hrow' ▸ h.row, h.passes_update hs'⟩, fun hbefore hafter => absurd (hrow' ▸ hafter) hbefore⟩
  | writes fromStatus task bill always called hrow =>
    refine ⟨⟨hrow' ▸ hok.1, h.passes_update (billed_ok hok.1.quota)⟩, fun hbefore hafter => .inr ⟨row', ?_, hok.1.quota⟩⟩
    have hfailure : row'.status = .failure := hrow' ▸ hafter
    have hbill : bill = .refund := hok.2 (hrow ▸ hbefore) hfailure
    rw [hbill]
    exact Function.update_self _ _ _
  | saves task paid rest =>
    refine ⟨⟨hrow' ▸ hok.1, h.passes_update hok.1⟩, fun _ hafter => .inl ?_⟩
    have hfailure : row'.status = .failure := hrow' ▸ hafter
    exact List.mem_append_left _ (hok.2 hfailure)

/-- Whoever refunds at its next turn has refunded once it has had one. -/
theorem refunded_after_turn {es : List (PassEvent ι)} (hturn : ∃ e ∈ es, e.caller = i) (h : Refunding q i c acts) :
    (i, .refund q) ∈ acts ++ trace (passStep env origin calls) (passActions env origin calls) c es := by
  rcases h with hdone | ⟨task, hthread, hquota⟩
  · exact List.mem_append_left _ hdone
  refine List.mem_append_right _ ?_
  -- the call stays where it is until its own turn
  induction es generalizing c with
  | nil =>
    obtain ⟨e, he, -⟩ := hturn
    cases he
  | cons e es ih =>
    by_cases hcaller : e.caller = i
    · refine List.mem_append_left _ ?_
      subst hcaller
      simp only [passActions, hthread]
      exact List.mem_singleton.2 (by rw [hquota])
    · refine List.mem_append_right _ (ih ?_ ?_)
      · obtain ⟨e', he', hi⟩ := hturn
        rcases List.mem_cons.1 he' with rfl | hlater
        · exact absurd hi hcaller
        · exact ⟨e', hlater, hi⟩
      · exact (Function.update_of_ne (Ne.symm hcaller) _ _).trans hthread

end Step

end RefundAux

open RefundAux

/-- In every run of polling passes, sweeps and user fetches of a charged task that is not one of the old system, whose statements are
all answered: whenever a statement turns the persisted status into a failure, the call it belongs to has called `RefundTaskQuota` for
the charged quota once it takes another turn. -/
theorem failed_task_refunded {ι : Type} [DecidableEq ι] (env : TaskEnv) (origin : TaskOrigin) (calls : ι → TaskCall) (row : Task)
    (hquota : row.quota ≠ 0) (hsubmit : legacyTaskCutoff ≤ row.submitTime) (es : List (PassEvent ι))
    (hanswered : Along (passStep env origin calls) (AnsweredStep origin calls) (passStart row) es) :
    ∀ pre e post, es = pre ++ e :: post →
      (exec (passStep env origin calls) (passStart row) pre).shared.row.status ≠ .failure →
      (exec (passStep env origin calls) (passStart row) (pre ++ [e])).shared.row.status = .failure → (∃ e' ∈ post, e'.caller = e.caller) →
      (e.caller, .refund row.quota) ∈ trace (passStep env origin calls) (passActions env origin calls) (passStart row) es := by
  rintro pre e post rfl hbefore hafter hturn
  have hrecent : ¬LegacyTime row.submitTime := by
    rintro ⟨-, hlegacy⟩
    omega
  have h0 : RefundInv row.quota (passStart row : Conf TaskDb ι PassState) [] := ⟨⟨rfl, hrecent⟩, fun _ => trivial⟩
  obtain ⟨hpre, hstep, -⟩ := (along_append _ _ _ _).1 hanswered
  have hinv : RefundInv row.quota (exec (passStep env origin calls) (passStart row) pre)
      ([] ++ trace (passStep env origin calls) (passActions env origin calls) (passStart row) pre) :=
    hpre.invariant_traced (P := RefundInv row.quota) (fun _ _ _ hok h => (refundInv_step hquota hok h).1) h0
  rw [exec_append] at hafter
  rw [trace_append, trace_cons, ← List.append_assoc]
  exact refunded_after_turn hturn ((refundInv_step hquota hstep hinv).2 hbefore hafter)

namespace RefundAux

def seventhChannel : TaskOrigin := ⟨"upstream-1", 7⟩

/-- A turn of the only call, two hours after the task was submitted. -/
def soleTurn (channelFound : Bool) (answer : Option TaskAnswer) : PassEvent Unit :=
  ⟨⟨(), false, 1771725600, answer, none⟩, channelFound, []⟩

end RefundAux

/-- The sweep fails a task that timed out, and refunds it. -/
theorem failed_task_refunded_sample :
    let es := List.replicate 3 (soleTurn true none)
    ((), .refund 500) ∈ trace (passStep TaskAux.hourTimeout seventhChannel fun _ => .sweep)
      (passActions TaskAux.hourTimeout seventhChannel fun _ => .sweep) (passStart TaskAux.slowTask) es :=
  failed_task_refunded TaskAux.hourTimeout seventhChannel (fun _ => .sweep) TaskAux.slowTask (by decide) (by decide) _ (by decide)
    [soleTurn true none] (soleTurn true none) [soleTurn true none] rfl (by decide) (by decide)
    ⟨soleTurn true none, List.mem_singleton.2 rfl, rfl⟩

/-- A task of quota 500 whose channel was deleted: the pass reads it, finds no channel and fails it. So does the fetch of a user to
whom upstream reports a failure. In both runs the call is over, the task is a failure, and nothing was refunded. -/
theorem deleted_channel_keeps_charge :
    let pass := passStep TaskAux.hourTimeout seventhChannel fun _ => .video
    let fetch := passStep TaskAux.hourTimeout seventhChannel fun _ => .realtime
    let passTurns := List.replicate 3 (soleTurn false none)
    let fetchTurns := List.replicate 3 (soleTurn true (some { info := { status := some .failure } }))
    let passed := exec pass (passStart TaskAux.slowTask) passTurns
    let fetched := exec fetch (passStart TaskAux.slowTask) fetchTurns
    (passed.shared.row.status = .failure ∧ passed.threads () = .finished ∧ passed.shared.refunded = 0 ∧
        trace pass (passActions TaskAux.hourTimeout seventhChannel fun _ => .video) (passStart TaskAux.slowTask) passTurns = []) ∧
      fetched.shared.row.status = .failure ∧ fetched.threads () = .finished ∧ fetched.shared.refunded = 0 ∧
        trace fetch (passActions TaskAux.hourTimeout seventhChannel fun _ => .realtime) (passStart TaskAux.slowTask) fetchTurns =
          [] := by
  decide

end NewApi
