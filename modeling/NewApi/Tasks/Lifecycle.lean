import NewApi.Tasks.Polling

/-!
# A task from its submission on

The writers of `Tasks.Polling` work on their own copy of the row. A polling pass of `service/task_polling.go` does more: a task without an
upstream id, and every task of a channel that cannot be loaded, is failed by `TaskBulkUpdateByID`, which compares and refunds nothing; and
a pass over Suno tasks goes through all items of the response on one copy.

A statement's turn also says which billing function it calls, `settleTaskBillingOnComplete` (for every success) or `RefundTaskQuota`.
-/

namespace NewApi

open Threads

/-! ## The billing functions a turn calls -/

/-- A call of `settleTaskBillingOnComplete`, or of `RefundTaskQuota` for the quota of the copy. -/
inductive BillingAction where
  | settle
  | refund (quota : Int)
  deriving DecidableEq, Repr

variable {ι : Type} [DecidableEq ι] (env : TaskEnv)

/-- What the video poller calls once it has the answer: where the answer changes nothing there is no write, and the settlement of a
success follows at once. -/
def videoSettlesAtOnce (now : Int) (snap : Task) (answer : TaskAnswer) : Bool :=
  match answer.effective.bind (videoTask env now { snap with data := answer.data }) with
  | some (task, _) => task.status = .success && snap.sameSnapshot task
  | none => false

/-- The billing function that the writer's next statement calls. The settlement of the video poller is called with the outcome of its
write, or without looking at it where the status had been terminal before. -/
def billingActions (call : TaskCall) (e : TaskEvent ι) (row : Task) : TaskState → List BillingAction
  | .fetching snap =>
    match call, e.answer with
    | .video, some answer => if videoSettlesAtOnce env e.now snap answer then [.settle] else []
    | _, _ => []
  | .writing fromStatus task _ always =>
    if call = .video ∧ task.status = .success ∧ (always = true ∨ e.fault = false ∧ row.status = fromStatus) then [.settle] else []
  | .billing task .refund => [.refund task.quota]
  | .refunding task => [.refund task.quota]
  | _ => []

/-- The billing functions a statement calls, with the writer that calls them. -/
def taskActions (calls : ι → TaskCall) (c : Conf TaskDb ι TaskState) (e : TaskEvent ι) : List (ι × BillingAction) :=
  (billingActions env (calls e.caller) e c.shared.row (c.threads e.caller)).map (e.caller, ·)

/-! ## A polling pass -/

/-- What a task keeps from its submission: the id upstream gave it, and its channel. -/
structure TaskOrigin where
  upstreamTaskId : String
  channelId : Int
  deriving DecidableEq, Repr

variable (origin : TaskOrigin)

def getUpstreamTaskID (task : Task) : String :=
  if origin.upstreamTaskId ≠ "" then origin.upstreamTaskId else task.taskId

/-- The columns `TaskBulkUpdateByID` sets: the failure, and a reason where one is given. -/
def taskBulkUpdate (failReason : Option String) (row : Task) : Task :=
  { row with status := .failure, progress := "100%", failReason := failReason.getD row.failReason }

variable (call : TaskCall)

/-- The reason of a pass that cannot load the channel. -/
def channelMissingReason (channelId : Int) : String :=
  if call = .suno then "获取渠道信息失败，请联系管理员，渠道ID：" ++ toString channelId
  else "Failed to get channel info, channel ID: " ++ toString channelId

/-- Where a call stands. The loop of a Suno pass carries the copy and the items still to come, each with the id it names. -/
inductive PassState where
  | own (s : TaskState)
  | bulk (failReason : Option String)
  | items (task : Task) (rest : List (String × SunoItem))
  | refunding (task : Task) (rest : List (String × SunoItem))
  | saving (task : Task) (refunded : Bool) (rest : List (String × SunoItem))
  deriving DecidableEq

def PassState.finished : PassState := .own .done

/-- One statement's turn; also whether the channel can be loaded, and the items of the Suno response, none where there is no
response. -/
structure PassEvent (ι : Type) extends TaskEvent ι where
  channelFound : Bool := true
  response : List (String × SunoItem) := []

/-- The bulk update a pass makes in place of asking upstream, with the reason it gives: for a task without an id, and for one whose
channel is gone. -/
def bulkDue (channelFound : Bool) (task : Task) : Option (Option String) :=
  match call with
  | .sweep | .realtime => none
  | .video | .suno =>
    if getUpstreamTaskID origin task = "" then some none
    else if channelFound = false then some (some (channelMissingReason call origin.channelId))
    else none

/-- What a call does with the copy it has read. A Suno pass goes on to the items of the response. -/
def passFetches (e : PassEvent ι) (task : Task) : PassState :=
  match bulkDue origin call e.channelFound task with
  | some failReason => .bulk failReason
  | none => if call = .suno then .items task e.response else .own (taskFetches env call e.toTaskEvent task)

/-- The next item of a Suno response: one for another task is not for this copy, and one that tells nothing new is passed over. -/
def passItem (task : Task) (id : String) (item : SunoItem) (rest : List (String × SunoItem)) : PassState :=
  if id ≠ getUpstreamTaskID origin task ∨ taskNeedsUpdate task item = false then .items task rest
  else if item.fails task then .refunding (sunoTask task item) rest
  else .saving (sunoTask task item) false rest

/-- The next statement of a call. An `Update` that fails is logged, and the loop goes on with the copy as it is. -/
def passStatement (e : PassEvent ι) (db : TaskDb) (s : PassState) : TaskDb × PassState :=
  match s with
  | .own (.fetching task) => (db, passFetches env origin call e task)
  | .own s => ((taskStatement env call e.toTaskEvent db s).1, .own (taskStatement env call e.toTaskEvent db s).2)
  | .bulk failReason => if e.fault then (db, .finished) else ({ db with row := taskBulkUpdate failReason db.row }, .finished)
  | .items _ [] => (db, .finished)
  | .items task ((id, item) :: rest) => (db, passItem origin task id item rest)
  | .refunding task rest =>
    if e.fault then (db, .saving task false rest) else (refundTaskQuota db task, .saving task true rest)
  | .saving task _ rest => if e.fault then (db, .items task rest) else ({ db with row := task }, .items task rest)

variable (calls : ι → TaskCall) (c : Conf TaskDb ι PassState)

def passStep (e : PassEvent ι) : Conf TaskDb ι PassState :=
  c.act e.caller (passStatement env origin (calls e.caller) e)

/-- All calls before their first statement, on a task that was submitted and charged its quota. -/
def passStart (row : Task) : Conf TaskDb ι PassState := ⟨⟨row, row.quota, 0⟩, fun _ => .own .ready⟩

/-- The billing function that the call's next statement calls. -/
def PassState.actions (e : PassEvent ι) (row : Task) : PassState → List BillingAction
  | .own (.fetching task) =>
    if (bulkDue origin call e.channelFound task).isSome then [] else billingActions env call e.toTaskEvent row (.fetching task)
  | .own s => billingActions env call e.toTaskEvent row s
  | .refunding task _ => [.refund task.quota]
  | .bulk _ | .items _ _ | .saving _ _ _ => []

/-- The billing functions a statement calls, with the call they belong to. -/
def passActions (e : PassEvent ι) : List (ι × BillingAction) :=
  ((c.threads e.caller).actions env origin (calls e.caller) e c.shared.row).map (e.caller, ·)

/-! ## The tasks of a pass -/

/-- A task of the platform as a pass has read it: its primary key, what it keeps from its submission, and its row. -/
structure FetchedTask where
  id : Int
  origin : TaskOrigin
  row : Task
  deriving DecidableEq

def FetchedTask.upstreamID (t : FetchedTask) : String := getUpstreamTaskID t.origin t.row

/-- What `RunTaskPollingOnce` makes of the tasks: the upstream ids of each channel, the task of each upstream id, and the tasks
without one, which are failed in bulk. -/
structure PollMaps where
  taskChannelM : Int → List String := fun _ => []
  taskM : String → Option FetchedTask := fun _ => none
  nullTaskIds : List Int := []

def PollMaps.add (m : PollMaps) (t : FetchedTask) : PollMaps :=
  if t.upstreamID = "" then { m with nullTaskIds := m.nullTaskIds ++ [t.id] }
  else
    { m with
      taskM := Function.update m.taskM t.upstreamID (some t)
      taskChannelM := Function.update m.taskChannelM t.origin.channelId (m.taskChannelM t.origin.channelId ++ [t.upstreamID]) }

def pollMaps (tasks : List FetchedTask) : PollMaps := tasks.foldl PollMaps.add {}

/-- The tasks `updateVideoTasks` goes through for a channel, in its order: it asks upstream for each, or fails each where the channel
cannot be loaded. -/
def PollMaps.polled (m : PollMaps) (channelId : Int) : List FetchedTask := (m.taskChannelM channelId).filterMap m.taskM

/-! ## What a refund for every failure asks -/

/-- A submit time that the sweep takes for one of the old system. -/
def LegacyTime (submitTime : Int) : Prop := 0 < submitTime ∧ submitTime < legacyTaskCutoff

instance (submitTime : Int) : Decidable (LegacyTime submitTime) := inferInstanceAs (Decidable (_ ∧ _))

/-- What the next statement of a call must meet: a pass has an upstream id for the task and loads its channel, upstream reports no
failure to a user's fetch of a task that is not a failure already, and a Suno item does not date the task back to the old system. -/
def PassState.Answered (e : PassEvent ι) : PassState → Prop
  | .own (.fetching task) =>
    (call = .video ∨ call = .suno → getUpstreamTaskID origin task ≠ "" ∧ e.channelFound = true) ∧
      (call = .realtime → ∀ a ∈ e.answer, a.info.status = some .failure → task.status = .failure)
  | .items task ((id, item) :: _) => id = getUpstreamTaskID origin task → ¬LegacyTime item.submitTime
  | _ => True

def AnsweredStep (e : PassEvent ι) : Prop :=
  (c.threads e.caller).Answered origin (calls e.caller) e

omit [DecidableEq ι] in
instance (e : PassEvent ι) : (s : PassState) → Decidable (s.Answered origin call e)
  | .own (.fetching _) => inferInstanceAs (Decidable (_ ∧ _))
  | .items _ ((_, _) :: _) => inferInstanceAs (Decidable (_ → _))
  | .items _ [] | .own .ready | .own (.writing _ _ _ _) | .own (.billing _ _) | .own (.refunding _) | .own (.saving _ _)
  | .own .done | .bulk _ | .refunding _ _ | .saving _ _ _ => isTrue trivial

instance (e : PassEvent ι) : Decidable (AnsweredStep origin calls c e) :=
  inferInstanceAs (Decidable ((c.threads e.caller).Answered origin (calls e.caller) e))

/-! ## What a single refund asks -/

/-- The items hold none for the task. -/
def FreeOf (task : Task) (rest : List (String × SunoItem)) : Prop :=
  ∀ entry ∈ rest, entry.1 ≠ getUpstreamTaskID origin task

instance (task : Task) (rest : List (String × SunoItem)) : Decidable (FreeOf origin task rest) :=
  inferInstanceAs (Decidable (∀ entry ∈ rest, _ ≠ _))

def PassState.holdsCopy : PassState → Bool
  | .own .ready | .own .done | .bulk _ => false
  | _ => true

def PassState.owesSave : PassState → Bool
  | .saving _ refunded _ => refunded
  | _ => false

/-- What the next statement of a Suno pass must meet: at a refund, the response has no further item for the task and no other pass
works on a copy of it; and the save after a refund is not refused. -/
def PassState.Single (e : PassEvent ι) (others : Prop) : PassState → Prop
  | .refunding task rest => FreeOf origin task rest ∧ others
  | .saving _ refunded _ => refunded = true → e.fault = false
  | _ => True

/-- The statement is single in this sense, and comes between no refund and save of another pass. -/
def SingleStep (e : PassEvent ι) : Prop :=
  (c.threads e.caller).Single origin e (∀ j, j ≠ e.caller → (c.threads j).holdsCopy = false) ∧
    ∀ j, j ≠ e.caller → (c.threads j).owesSave = false

omit [DecidableEq ι] in
instance (e : PassEvent ι) (others : Prop) [Decidable others] : (s : PassState) → Decidable (s.Single origin e others)
  | .refunding _ _ => inferInstanceAs (Decidable (_ ∧ _))
  | .saving _ _ _ => inferInstanceAs (Decidable (_ → _))
  | .own _ | .bulk _ | .items _ _ => isTrue trivial

instance [Fintype ι] (origin : TaskOrigin) (c : Conf TaskDb ι PassState) (e : PassEvent ι) : Decidable (SingleStep origin c e) :=
  inferInstanceAs (Decidable (_ ∧ _))

end NewApi
