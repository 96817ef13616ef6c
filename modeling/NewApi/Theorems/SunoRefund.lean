import NewApi.Theorems.TaskRefund

/-!
# A Suno task is refunded once

A Suno pass refunds before it saves, saves without comparing, and decides by its own copy whether an item is news. So a task is refunded
twice where the response lists it twice, where the save fails and the next pass finds it unfinished, and where two passes hold copies of it
(`suno_refunded_twice`). There is no other way (`suno_refunded_at_most_once`).
-/

namespace NewApi

open Threads Run

namespace SunoAux

variable {ι : Type} [DecidableEq ι] {env : TaskEnv} {origin : TaskOrigin} {calls : ι → TaskCall} {q : Int} {task : Task} {s : PassState}
  {db : TaskDb} {e : PassEvent ι} {rest : List (String × SunoItem)}

/-! ## What a pass knows where it stands -/

/-- What holds of a Suno pass over a task of quota `q`: its copy carries the quota, and shows the task at 100% once an item failed
it. -/
def SunoOk (q : Int) : PassState → Prop
  | .own .ready | .own .done | .bulk _ => True
  | .own (.fetching task) | .items task _ => task.quota = q
  | .refunding task _ => task.quota = q ∧ task.progress = "100%"
  | .saving task refunded _ => task.quota = q ∧ (refunded = true → task.progress = "100%")
  | .own (.writing _ _ _ _) | .own (.billing _ _) | .own (.refunding _) | .own (.saving _ _) => False

/-- A pass that cannot come to a refund on a row that is not read any more: it holds no copy, or has no item for the task left. -/
def Drained (origin : TaskOrigin) : PassState → Prop
  | .own .ready | .own .done | .bulk _ => True
  | .items task rest => FreeOf origin task rest
  | _ => False

theorem drained_of_no_copy (h : s.holdsCopy = false) : Drained origin s := by
  cases s with
  | own s =>
    cases s with
    | ready | done => trivial
    | fetching _ | writing _ _ _ _ | billing _ _ | refunding _ | saving _ _ => cases h
  | bulk _ => trivial
  | items _ _ | refunding _ _ | saving _ _ _ => cases h

/-! ## How a statement can go -/

/-- The ways a statement of a Suno pass can go. A turn that writes nothing leaves a drained pass drained where the row is at 100%. -/
inductive SunoGoes (q : Int) (origin : TaskOrigin) (db : TaskDb) : PassState → TaskDb → PassState → Prop
  | turns (s s' : PassState) (hs : s.owesSave = false) (hok : SunoOk q s') (hs' : s'.owesSave = false)
      (hdrained : db.row.progress = "100%" → Drained origin s → Drained origin s') : SunoGoes q origin db s db s'
  | bulk (failReason : Option String) :
      SunoGoes q origin db (.bulk failReason) { db with row := taskBulkUpdate failReason db.row } .finished
  | refunds (task : Task) (rest : List (String × SunoItem)) :
      SunoGoes q origin db (.refunding task rest) (refundTaskQuota db task) (.saving task true rest)
  | saves (task : Task) (refunded : Bool) (rest : List (String × SunoItem)) :
      SunoGoes q origin db (.saving task refunded rest) { db with row := task } (.items task rest)

theorem turns_finished (hs : s.owesSave = false) : SunoGoes q origin db s db .finished :=
  .turns s _ hs trivial rfl fun _ _ => trivial

omit [DecidableEq ι] in
theorem ready_goes (env : TaskEnv) (hrow : db.row.quota = q) :
    SunoGoes q origin db (.own .ready) db (.own (taskReads env .suno e.toTaskEvent db.row)) := by
  unfold taskReads
  simp only
  split
  · exact turns_finished rfl
  split
  · rename_i hunfinished
    refine .turns _ _ rfl hrow rfl fun hfull _ => ?_
    simp [Task.unfinished, hfull] at hunfinished
  · exact turns_finished rfl

omit [DecidableEq ι] in
theorem fetching_goes (hok : task.quota = q) : SunoGoes q origin db (.own (.fetching task)) db (passFetches env origin .suno e task) := by
  unfold passFetches
  split
  · exact .turns _ _ rfl trivial rfl fun _ hdrained => hdrained.elim
  · exact .turns _ _ rfl hok rfl fun _ hdrained => hdrained.elim

/-- The next item. A drained pass has none for the task. -/
theorem item_goes {id : String} {item : SunoItem} (hok : task.quota = q) :
    SunoGoes q origin db (.items task ((id, item) :: rest)) db (passItem origin task id item rest) := by
  unfold passItem
  split
  · exact .turns _ _ rfl hok rfl fun _ hfree entry hentry => hfree entry (List.mem_cons_of_mem _ hentry)
  rename_i hmine
  have hnot : ¬FreeOf origin task ((id, item) :: rest) := fun hfree => hmine (.inl (hfree _ List.mem_cons_self))
  split
  · rename_i hfails
    refine .turns _ _ rfl ⟨hok, ?_⟩ rfl fun _ hdrained => absurd hdrained hnot
    simp [sunoTask, hfails]
  · exact .turns _ _ rfl ⟨hok, fun hpaid => absurd hpaid Bool.false_ne_true⟩ rfl fun _ hdrained => absurd hdrained hnot

omit [DecidableEq ι] in
/-- What every statement does. -/
theorem statement_goes {others : Prop} (hrow : db.row.quota = q) (hok : SunoOk q s) (hsingle : s.Single origin e others) :
    SunoGoes q origin db s (passStatement env origin .suno e db s).1 (passStatement env origin .suno e db s).2 := by
  cases s with
  | own s =>
    cases s with
    | done => exact turns_finished rfl
    | ready => exact ready_goes env hrow
    | fetching task => exact fetching_goes hok
    | writing _ _ _ _ | billing _ _ | refunding _ | saving _ _ => exact hok.elim
  | bulk failReason =>
    simp only [passStatement]
    split
    · exact turns_finished rfl
    · exact .bulk failReason
  | items task rest =>
    cases rest with
    | nil => exact turns_finished rfl
    | cons entry rest => exact item_goes hok
  | refunding task rest =>
    simp only [passStatement]
    split
    · exact .turns _ _ rfl ⟨hok.1, fun hpaid => absurd hpaid Bool.false_ne_true⟩ rfl fun _ hdrained => hdrained.elim
    · exact .refunds task rest
  | saving task refunded rest =>
    simp only [passStatement]
    split
    · rename_i hfault
      have hunpaid : refunded = false := by
        cases refunded with
        | false => rfl
        | true =>
          rw [hsingle rfl] at hfault
          cases hfault
      exact .turns _ _ hunpaid hok.1 rfl fun _ hdrained => hdrained.elim
    · exact .saves task refunded rest

/-! ## The invariant -/

/-- After the refund: the refunding pass has yet to save and every other is drained, or the row is at 100% and all are. -/
inductive Spent (origin : TaskOrigin) (c : Conf TaskDb ι PassState) : Prop
  | owed (i : ι) (task : Task) (rest : List (String × SunoItem)) (hi : c.threads i = .saving task true rest)
      (hfree : FreeOf origin task rest) (hothers : ∀ j, j ≠ i → Drained origin (c.threads j))
  | saved (hrow : c.shared.row.progress = "100%") (hall : ∀ j, Drained origin (c.threads j))

/-- The invariant of a run: nothing was returned and no save is owed, or the quota was and the task is spent. -/
structure OnceInv (q : Int) (origin : TaskOrigin) (c : Conf TaskDb ι PassState) : Prop where
  row : c.shared.row.quota = q
  passes : ∀ i, SunoOk q (c.threads i)
  phase : (c.shared.refunded = 0 ∧ ∀ i, (c.threads i).owesSave = false) ∨ (c.shared.refunded = q ∧ Spent origin c)

section Step

variable {c : Conf TaskDb ι PassState} {i : ι} {s' : PassState}

theorem OnceInv.passes_update (h : OnceInv q origin c) (hs' : SunoOk q s') : ∀ j, SunoOk q (Function.update c.threads i s' j) :=
  (Function.forall_update_iff c.threads (p := fun _ s => SunoOk q s)).2 ⟨hs', fun j _ => h.passes j⟩

theorem owesSave_update (h : ∀ j, (c.threads j).owesSave = false) (hs' : s'.owesSave = false) :
    ∀ j, (Function.update c.threads i s' j).owesSave = false :=
  (Function.forall_update_iff c.threads (p := fun _ s => s.owesSave = false)).2 ⟨hs', fun j _ => h j⟩

theorem drained_update (h : ∀ j, j ≠ i → Drained origin (c.threads j)) (hs' : Drained origin s') :
    ∀ j, Drained origin (Function.update c.threads i s' j) :=
  (Function.forall_update_iff c.threads (p := fun _ s => Drained origin s)).2 ⟨hs', h⟩

omit [DecidableEq ι] in
/-- Where the acting pass owes no save and no other does, the task that is spent has been saved. -/
theorem Spent.saved_of (h : Spent origin c) (howes : ∀ j, (c.threads j).owesSave = false) :
    c.shared.row.progress = "100%" ∧ ∀ j, Drained origin (c.threads j) := by
  cases h with
  | owed i task rest hi _ _ =>
    have hnone := howes i
    rw [hi] at hnone
    cases hnone
  | saved hrow hall => exact ⟨hrow, hall⟩

variable (h : OnceInv q origin c)

include h

/-- A turn that saves nothing keeps the invariant. -/
theorem OnceInv.turn (howes : ∀ j, (c.threads j).owesSave = false) (hok : SunoOk q s') (hs' : s'.owesSave = false)
    (hdrained : c.shared.row.progress = "100%" → Drained origin (c.threads i) → Drained origin s') :
    OnceInv q origin ⟨c.shared, Function.update c.threads i s'⟩ := by
  refine ⟨h.row, h.passes_update hok, ?_⟩
  rcases h.phase with ⟨hzero, hnone⟩ | ⟨hpaid, hspent⟩
  · exact .inl ⟨hzero, owesSave_update hnone hs'⟩
  · obtain ⟨hrow, hall⟩ := hspent.saved_of howes
    exact .inr ⟨hpaid, .saved hrow (drained_update (fun j _ => hall j) (hdrained hrow (hall i)))⟩

/-- A bulk update leaves the quota, and the row at 100%. -/
theorem OnceInv.bulk (howes : ∀ j, (c.threads j).owesSave = false) (failReason : Option String) :
    OnceInv q origin ⟨{ c.shared with row := taskBulkUpdate failReason c.shared.row }, Function.update c.threads i .finished⟩ := by
  refine ⟨h.row, h.passes_update trivial, ?_⟩
  rcases h.phase with ⟨hzero, hnone⟩ | ⟨hpaid, hspent⟩
  · exact .inl ⟨hzero, owesSave_update hnone rfl⟩
  · obtain ⟨-, hall⟩ := hspent.saved_of howes
    exact .inr ⟨hpaid, .saved rfl (drained_update (fun j _ => hall j) trivial)⟩

/-- The refund: before it nothing was returned, since the refunding pass is not drained. -/
theorem OnceInv.refund
    (hi : c.threads i = .refunding task rest) (howes : ∀ j, (c.threads j).owesSave = false) (hfree : FreeOf origin task rest)
    (hothers : ∀ j, j ≠ i → (c.threads j).holdsCopy = false) :
    OnceInv q origin ⟨refundTaskQuota c.shared task, Function.update c.threads i (.saving task true rest)⟩ := by
  have hok : SunoOk q (.refunding task rest) := hi ▸ h.passes i
  have hzero : c.shared.refunded = 0 := by
    rcases h.phase with ⟨hzero, -⟩ | ⟨-, hspent⟩
    · exact hzero
    have hdrained := (hspent.saved_of howes).2 i
    rw [hi] at hdrained
    exact hdrained.elim
  refine ⟨h.row, h.passes_update ⟨hok.1, fun _ => hok.2⟩, .inr ⟨?_, .owed i task rest (Function.update_self _ _ _) hfree ?_⟩⟩
  · show c.shared.refunded + task.quota = q
    rw [hzero, hok.1, Int.zero_add]
  · intro j hj
    show Drained origin (Function.update c.threads i (.saving task true rest) j)
    rw [Function.update_of_ne hj]
    exact drained_of_no_copy (hothers j hj)

/-- The save: where a refund came before it the row is at 100% from here on. -/
theorem OnceInv.save {refunded : Bool}
    (hi : c.threads i = .saving task refunded rest) (hothers : ∀ j, j ≠ i → (c.threads j).owesSave = false) :
    OnceInv q origin ⟨{ c.shared with row := task }, Function.update c.threads i (.items task rest)⟩ := by
  have hok : SunoOk q (.saving task refunded rest) := hi ▸ h.passes i
  refine ⟨hok.1, h.passes_update hok.1, ?_⟩
  rcases h.phase with ⟨hzero, hnone⟩ | ⟨hpaid, hspent⟩
  · exact .inl ⟨hzero, owesSave_update hnone rfl⟩
  refine .inr ⟨hpaid, ?_⟩
  cases hspent with
  | owed k task' rest' hk hfree hdrained =>
    -- the pass that owes a save is the acting one
    have hki : k = i := by
      by_contra hne
      have hnone := hothers k hne
      rw [hk] at hnone
      cases hnone
    subst hki
    rw [hi] at hk
    cases hk
    exact .saved (hok.2 rfl) (drained_update hdrained hfree)
  | saved _ hall =>
    have hdrained := hall i
    rw [hi] at hdrained
    exact hdrained.elim

/-- Every step of a single writer keeps the invariant. -/
theorem onceInv_step {e : PassEvent ι} (hcalls : ∀ i, calls i = .suno) (hsingle : SingleStep origin c e) :
    OnceInv q origin (passStep env origin calls c e) := by
  obtain ⟨hcaller, hothers⟩ := hsingle
  have howes : (c.threads e.caller).owesSave = false → ∀ j, (c.threads j).owesSave = false := by
    intro hself j
    by_cases hj : j = e.caller
    · rw [hj]
      exact hself
    · exact hothers j hj
  rw [passStep, hcalls e.caller]
  refine Conf.act_of_ways (statement_goes h.row (h.passes e.caller) hcaller) ?_
  intro s db' s' hs hgoes
  rw [hs] at hcaller howes
  cases hgoes with
  | turns s s' hself hok hs' hdrained =>
    refine h.turn (howes hself) hok hs' ?_
    rw [hs]
    exact hdrained
  | bulk failReason => exact h.bulk (howes rfl) failReason
  | refunds task rest => exact h.refund hs (howes rfl) hcaller.1 hcaller.2
  | saves task refunded rest => exact h.save hs hothers

end Step

end SunoAux

open SunoAux

/-- In every run of Suno passes over a task whose statements are all single, no state shows more returned through `RefundTaskQuota`
than the quota charged: each response, each number of passes, each failed save and each interleaving that meets the condition. -/
theorem suno_refunded_at_most_once {ι : Type} [DecidableEq ι] (env : TaskEnv) (origin : TaskOrigin) (calls : ι → TaskCall)
    (hcalls : ∀ i, calls i = .suno) (row : Task) (hquota : 0 ≤ row.quota) (es : List (PassEvent ι))
    (hsingle : Along (passStep env origin calls) (SingleStep origin) (passStart row) es) :
    ∀ pre, pre <+: es → (exec (passStep env origin calls) (passStart row) pre).shared.refunded ≤ row.quota := by
  intro pre hpre
  have h0 : OnceInv row.quota origin (passStart row : Conf TaskDb ι PassState) :=
    ⟨rfl, fun _ => trivial, .inl ⟨rfl, fun _ => rfl⟩⟩
  have hinv := hsingle.invariant_reached (fun _ _ hok h => onceInv_step h hcalls hok) h0 pre hpre
  rcases hinv.phase with ⟨hzero, -⟩ | ⟨hpaid, -⟩
  · rw [hzero]
    exact hquota
  · exact hpaid.le

namespace SunoAux

def failedItem : String × SunoItem := ("upstream-1", { status := some .failure, failReason := "rejected" })

def twoSuno : Fin 2 → TaskCall := fun _ => .suno

/-- A turn of a pass, whether the database refuses its statement, and the response. -/
def sunoTurn (response : List (String × SunoItem)) (i : Fin 2) (fault : Bool) : PassEvent (Fin 2) :=
  ⟨⟨i, fault, 1771725600, none, none⟩, true, response⟩

/-- What the passes returned for a task of quota 500, after turns of the given passes. -/
def sunoReturned (response : List (String × SunoItem)) (turns : List (Fin 2 × Bool)) : Int :=
  (exec (passStep TaskAux.hourTimeout RefundAux.seventhChannel twoSuno) (passStart TaskAux.slowTask)
    (turns.map fun turn => sunoTurn response turn.1 turn.2)).shared.refunded

end SunoAux

theorem suno_refunded_at_most_once_sample :
    let es := [0, 0, 0, 0, 0, 0, 1, 1].map fun i => sunoTurn [failedItem] i false
    let run := exec (passStep TaskAux.hourTimeout RefundAux.seventhChannel twoSuno) (passStart TaskAux.slowTask) es
    run.shared.refunded = 500 ∧ run.shared.refunded ≤ TaskAux.slowTask.quota := by
  refine ⟨by decide, ?_⟩
  exact suno_refunded_at_most_once TaskAux.hourTimeout RefundAux.seventhChannel twoSuno (fun _ => rfl) TaskAux.slowTask (by decide) _
    (by decide) _ List.prefix_rfl

/-- A task charged 500 is refunded 1000 in three ways: one response lists the failed task twice; the save after the refund fails, and
the next pass finds the task unfinished; and two passes read the task before either has saved. -/
theorem suno_refunded_twice :
    sunoReturned [failedItem, failedItem] (List.replicate 8 (0, false)) = 1000 ∧
      sunoReturned [failedItem]
        ([(0, false), (0, false), (0, false), (0, false), (0, true), (0, false)] ++ List.replicate 6 (1, false)) = 1000 ∧
      sunoReturned [failedItem] ([(0, false), (1, false)] ++ List.replicate 5 (0, false) ++ List.replicate 5 (1, false)) = 1000 := by
  decide

end NewApi
