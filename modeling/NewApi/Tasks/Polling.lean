import NewApi.Lib.Run
import NewApi.Lib.Text
import Mathlib.Data.Fintype.Basic
import Mathlib.Data.List.Perm.Basic

/-!
# The row of an asynchronous task

The writers of one row of `tasks`: in `service/task_polling.go` the pollers of video tasks (`updateVideoSingleTask`) and Suno tasks
(`updateSunoTasks`) and the sweep of timed-out tasks, and the fetch a user triggers (`tryRealtimeFetch` of `relay/relay_task.go`). Each
but the sweep asks upstream, and each writes the whole row back: by `UpdateWithStatus`, which compares the status with the one read, or,
for Suno, by `Update`.

Any number run at once, one statement at a time, with any answers. The ledger adds up what `taskAdjustFunding` (`service/task_billing.go`)
took from the funding source and gave back.
-/

namespace NewApi

open Threads

/-- `TaskStatus`; upstream may report any text. -/
inductive TaskStatus where
  | notStart | submitted | queued | inProgress | failure | success | unknown
  | other (text : String)
  deriving DecidableEq, Repr

def TaskStatus.terminal : TaskStatus → Bool
  | .failure | .success => true
  | _ => false

/-- `Task`, as far as its writers read and write it. -/
structure Task where
  taskId : String
  quota : Int
  status : TaskStatus
  progress : String := ""
  submitTime : Int := 0
  startTime : Int := 0
  finishTime : Int := 0
  failReason : String := ""
  resultUrl : String := ""
  data : String := ""
  perCallBilling : Bool := false
  deriving DecidableEq, Repr

def Task.sameSnapshot (t u : Task) : Bool :=
  t.status = u.status && t.progress = u.progress && t.startTime = u.startTime && t.finishTime = u.finishTime &&
    t.failReason = u.failReason && t.resultUrl = u.resultUrl && t.data = u.data

/-- `TaskInfo`: what an adaptor reads from an answer. An empty status is none. -/
structure TaskInfo where
  status : Option TaskStatus := none
  reason : String := ""
  url : String := ""
  progress : String := ""
  totalTokens : Int := 0
  deriving DecidableEq, Repr

def failTaskInfo (reason : String) : TaskInfo := { status := some .failure, reason := reason }

/-- What the body of an answer without a status is: no JSON, an error in OpenAI's format with its code, or anything else. -/
inductive ErrorBody where
  | unreadable
  | openAI (code : String)
  | unrecognized
  deriving DecidableEq, Repr

structure TaskAnswer where
  info : TaskInfo
  body : ErrorBody := .unrecognized
  data : String := ""
  deriving DecidableEq, Repr

structure SunoItem where
  status : Option TaskStatus := none
  failReason : String := ""
  submitTime : Int := 0
  startTime : Int := 0
  finishTime : Int := 0
  data : String := ""
  deriving DecidableEq, Repr

/-- What the writers read and do not change: the settings, the quota an adaptor settles on (`AdjustBillingOnComplete`), and the quota
that the tokens come to (`RecalculateTaskQuotaByTokens`; zero where it does not recalculate). -/
structure TaskEnv where
  timeoutMinutes : Int
  serverAddress : String
  adjustBilling : Task → TaskInfo → Int
  tokensQuota : Task → Int → Int

variable (env : TaskEnv)

def TaskEnv.buildProxyURL (taskId : String) : String := env.serverAddress ++ "/v1/videos/" ++ taskId ++ "/content"

def legacyTaskCutoff : Int := 1740182400

/-! ## Billing -/

/-- What is due once a task has ended. -/
inductive Bill where
  | nothing
  | refund
  | settle (actualQuota : Int)
  deriving DecidableEq, Repr

/-- The row, and what was taken from the funding source and given back. -/
structure TaskDb where
  row : Task
  charged : Int
  refunded : Int

/-- `settleTaskBillingOnComplete`: the quota a task that succeeded is settled on. -/
def settleTaskBillingOnComplete (task : Task) (info : TaskInfo) : Bill :=
  if task.perCallBilling then .nothing
  else if 0 < env.adjustBilling task info then .settle (env.adjustBilling task info)
  else if 0 < info.totalTokens then .settle (env.tokensQuota task info.totalTokens)
  else .nothing

def refundTaskQuota (db : TaskDb) (task : Task) : TaskDb := { db with refunded := db.refunded + task.quota }

/-- `RecalculateTaskQuota` on the funding source. -/
def recalculateTaskQuota (db : TaskDb) (task : Task) (actualQuota : Int) : TaskDb :=
  if actualQuota ≤ 0 then db
  else if task.quota ≤ actualQuota then { db with charged := db.charged + (actualQuota - task.quota) }
  else { db with refunded := db.refunded + (task.quota - actualQuota) }

/-! ## The writers -/

inductive TaskCall where
  | video | sweep | realtime | suno
  deriving DecidableEq, Repr

/-- Where a writer stands. `writing` is about to `UpdateWithStatus`; its bill follows where it won, and always where the code does
not look at the outcome. -/
inductive TaskState where
  | ready
  | fetching (task : Task)
  | writing (fromStatus : TaskStatus) (task : Task) (bill : Bill) (always : Bool)
  | billing (task : Task) (bill : Bill)
  | refunding (task : Task)
  | saving (task : Task) (refunded : Bool)
  | done
  deriving DecidableEq

/-- One statement's turn: the writer, whether the database refuses the statement, the time, and what upstream answered. -/
structure TaskEvent (ι : Type) where
  caller : ι
  fault : Bool := false
  now : Int := 0
  answer : Option TaskAnswer := none
  item : Option SunoItem := none

/-- Whether the queries of the pollers return the row (`GetAllUnFinishSyncTasks`). -/
def Task.unfinished (t : Task) : Bool := t.progress ≠ "100%" && !t.status.terminal

/-- The sweep's part for the task: `GetTimedOutUnfinishedTasks`, and the row it is about to write. -/
def sweepTimedOutTask (now : Int) (row : Task) : TaskState :=
  if 0 < env.timeoutMinutes ∧ row.unfinished = true ∧ row.submitTime < now - env.timeoutMinutes * 60 then
    let isLegacy : Bool := 0 < row.submitTime && row.submitTime < legacyTaskCutoff
    let reason := if isLegacy then "任务超时（旧系统遗留任务，不进行退款，请联系管理员）"
      else "任务超时（" ++ toString env.timeoutMinutes ++ "分钟）"
    .writing row.status { row with status := .failure, progress := "100%", finishTime := now, failReason := reason }
      (if isLegacy = false ∧ row.quota ≠ 0 then .refund else .nothing) false
  else .done

def billed (task : Task) (bill : Bill) : TaskState := if bill = .nothing then .done else .billing task bill

/-- The answer as the video poller takes it: an answer without a status is a failure, unless it is a rate limit or no JSON. -/
def TaskAnswer.effective (answer : TaskAnswer) : Option TaskInfo :=
  match answer.info.status with
  | some _ => some answer.info
  | none =>
    match answer.body with
    | .unreadable => none
    | .openAI code => if code = "429" then none else some (failTaskInfo "upstream returned error")
    | .unrecognized => some (failTaskInfo "upstream returned unrecognized message")

/-- The task after an answer, and its bill; none for a status the poller does not know. -/
def videoTask (now : Int) (task : Task) (info : TaskInfo) : Option (Task × Bill) :=
  let shown (own : String) : String := if info.progress ≠ "" then info.progress else own
  let finished : Int := if task.finishTime = 0 then now else task.finishTime
  match info.status with
  | some .submitted => some ({ task with status := .submitted, progress := shown "10%" }, .nothing)
  | some .queued => some ({ task with status := .queued, progress := shown "20%" }, .nothing)
  | some .inProgress =>
    some ({ task with status := .inProgress, progress := shown "30%",
                      startTime := if task.startTime = 0 then now else task.startTime }, .nothing)
  | some .success =>
    let url := if Text.startsWith info.url "data:" ∨ info.url = "" then env.buildProxyURL task.taskId else info.url
    let task := { task with status := .success, progress := shown "100%", finishTime := finished, resultUrl := url }
    some (task, settleTaskBillingOnComplete env task info)
  | some .failure =>
    some ({ task with status := .failure, progress := "100%", finishTime := finished, failReason := info.reason },
      if task.quota ≠ 0 then .refund else .nothing)
  | _ => none

/-- `updateVideoSingleTask` from the answer on. The outcome of the write matters only where the status turned terminal. -/
def updateVideoSingleTask (now : Int) (snap : Task) (answer : TaskAnswer) : TaskState :=
  match answer.effective.bind (videoTask env now { snap with data := answer.data }) with
  | none => .done
  | some (task, bill) =>
    if task.status.terminal = true ∧ snap.status ≠ task.status then .writing snap.status task bill false
    else if snap.sameSnapshot task then billed task bill
    else .writing snap.status task bill true

/-- The task as upstream reports it to a user's fetch. -/
def realtimeTask (snap : Task) (info : TaskInfo) : Task :=
  let status := info.status.getD snap.status
  { snap with
    status := status
    progress := if info.progress ≠ "" then info.progress else snap.progress
    resultUrl :=
      if Text.startsWith info.url "data:" then snap.resultUrl
      else if info.url ≠ "" then info.url
      else if status = .success then env.buildProxyURL snap.taskId
      else snap.resultUrl }

/-- `tryRealtimeFetch` from the answer on. -/
def tryRealtimeFetch (snap : Task) (info : TaskInfo) : TaskState :=
  if snap.sameSnapshot (realtimeTask env snap info) then .done
  else .writing snap.status (realtimeTask env snap info) .nothing false

/-- A character as `encoding/json` writes it into HTML. -/
def htmlEscape (c : Char) : List Char :=
  if c = '<' then "\\u003c".toList else if c = '>' then "\\u003e".toList else if c = '&' then "\\u0026".toList
  else if c = '\u2028' then "\\u2028".toList else if c = '\u2029' then "\\u2029".toList else [c]

/-- A JSON text without the blanks between its tokens; the flag says whether the text begins inside a string. -/
def compactJson : Bool → List Char → List Char
  | _, [] => []
  | true, '\\' :: c :: rest => '\\' :: c :: compactJson true rest
  | inString, c :: rest =>
    if c = '"' then c :: compactJson (!inString) rest
    else if inString = false ∧ c ∈ [' ', '\t', '\r', '\n'] then compactJson false rest
    else htmlEscape c ++ compactJson inString rest

/-- What `json.Marshal` makes of a `json.RawMessage` that holds a JSON text, or nothing. -/
def marshalRaw (data : String) : List UInt8 :=
  (if data = "" then "null".toList else compactJson false data.toList).flatMap String.utf8EncodeChar

/-- `taskNeedsUpdate`; the data are compared with their bytes sorted. -/
def taskNeedsUpdate (task : Task) (item : SunoItem) : Bool :=
  task.submitTime ≠ item.submitTime || task.startTime ≠ item.startTime || task.finishTime ≠ item.finishTime ||
    some task.status ≠ item.status || task.failReason ≠ item.failReason ||
    (task.status.terminal && task.progress ≠ "100%") || !decide ((marshalRaw task.data).Perm (marshalRaw item.data))

/-- The answer tells of a failure: it gives a reason, or the task's status is now a failure. -/
def SunoItem.fails (item : SunoItem) (task : Task) : Bool :=
  item.failReason ≠ "" || item.status.getD task.status = .failure

def sunoTask (task : Task) (item : SunoItem) : Task :=
  { task with
    status := item.status.getD task.status
    failReason := if item.failReason ≠ "" then item.failReason else task.failReason
    submitTime := if item.submitTime ≠ 0 then item.submitTime else task.submitTime
    startTime := if item.startTime ≠ 0 then item.startTime else task.startTime
    finishTime := if item.finishTime ≠ 0 then item.finishTime else task.finishTime
    progress := if item.fails task = true ∨ item.status = some .success then "100%" else task.progress
    data := item.data }

/-- `updateSunoTasks` for the task, from the answer on: the refund comes before the write. -/
def updateSunoTask (task : Task) (item : SunoItem) : TaskState :=
  if taskNeedsUpdate task item = false then .done
  else if item.fails task then .refunding (sunoTask task item)
  else .saving (sunoTask task item) false

variable {ι : Type} [DecidableEq ι]

/-- The read of the row. A refused query returns no task. -/
def taskReads (env : TaskEnv) (call : TaskCall) (e : TaskEvent ι) (row : Task) : TaskState :=
  if e.fault then .done
  else match call with
    | .sweep => sweepTimedOutTask env e.now row
    | .realtime => .fetching row
    | .video | .suno => if row.unfinished then .fetching row else .done

/-- The answer from upstream; none where the request failed or could not be read. -/
def taskFetches (env : TaskEnv) (call : TaskCall) (e : TaskEvent ι) (task : Task) : TaskState :=
  match call, e.answer, e.item with
  | .video, some answer, _ => updateVideoSingleTask env e.now task answer
  | .realtime, some answer, _ => tryRealtimeFetch env task answer.info
  | .suno, _, some item => updateSunoTask task item
  | _, _, _ => .done

/-- The next statement of a writer. A video poller has a copy of the task that it handles once: the upstream ids of a pass are distinct. -/
def taskStatement (env : TaskEnv) (call : TaskCall) (e : TaskEvent ι) (db : TaskDb) (s : TaskState) : TaskDb × TaskState :=
  match s with
  | .done => (db, .done)
  | .ready => (db, taskReads env call e db.row)
  | .fetching task => (db, taskFetches env call e task)
  | .writing fromStatus task bill always =>
    if e.fault = false ∧ db.row.status = fromStatus then ({ db with row := task }, billed task bill)
    else (db, if always then billed task bill else .done)
  | .billing task bill =>
    if e.fault then (db, .done)
    else match bill with
      | .nothing => (db, .done)
      | .refund => (refundTaskQuota db task, .done)
      | .settle actual => (recalculateTaskQuota db task actual, .done)
  | .refunding task =>
    if e.fault then (db, .saving task false) else (refundTaskQuota db task, .saving task true)
  | .saving task _ => if e.fault then (db, .done) else ({ db with row := task }, .done)

def taskStep (env : TaskEnv) (calls : ι → TaskCall) (c : Conf TaskDb ι TaskState) (e : TaskEvent ι) : Conf TaskDb ι TaskState :=
  c.act e.caller (taskStatement env (calls e.caller) e)

/-- All writers before their first statement, on a task charged its quota. -/
def taskStart (row : Task) : Conf TaskDb ι TaskState := ⟨⟨row, row.quota, 0⟩, fun _ => .ready⟩

/-! ## What keeps a task that has ended as it is -/

/-- A Suno update that has refunded and not yet saved. -/
def TaskState.owesSave : TaskState → Bool
  | .saving _ refunded => refunded
  | _ => false

/-- What the next statement of a writer must meet: upstream reports no other status to a fetch that has read a task that has ended;
a Suno answer that gives a reason leaves the task a failure; a Suno update refunds and saves only while the row has not ended, and
its save after a refund is not refused. -/
def TaskState.Safe (call : TaskCall) (e : TaskEvent ι) (row : Task) : TaskState → Prop
  | .fetching task =>
    (call = .realtime → task.status.terminal = true → ∀ a ∈ e.answer, a.info.status.getD task.status = task.status) ∧
      (call = .suno → ∀ item ∈ e.item, item.failReason ≠ "" → item.status.getD task.status = .failure)
  | .refunding _ => row.status.terminal = false
  | .saving _ refunded => row.status.terminal = false ∧ (refunded = true → e.fault = false)
  | _ => True

/-- The statement is safe, and comes between no refund and save of another writer. -/
def SafeTaskStep (calls : ι → TaskCall) (c : Conf TaskDb ι TaskState) (e : TaskEvent ι) : Prop :=
  (c.threads e.caller).Safe (calls e.caller) e c.shared.row ∧ ∀ j, j ≠ e.caller → (c.threads j).owesSave = false

omit [DecidableEq ι] in
instance (call : TaskCall) (e : TaskEvent ι) (row : Task) : (s : TaskState) → Decidable (s.Safe call e row)
  | .fetching _ => inferInstanceAs (Decidable (_ ∧ _))
  | .refunding _ => inferInstanceAs (Decidable (_ = _))
  | .saving _ _ => inferInstanceAs (Decidable (_ ∧ _))
  | .ready | .writing _ _ _ _ | .billing _ _ | .done => isTrue trivial

instance [Fintype ι] (calls : ι → TaskCall) (c : Conf TaskDb ι TaskState) (e : TaskEvent ι) : Decidable (SafeTaskStep calls c e) :=
  inferInstanceAs (Decidable (_ ∧ _))

end NewApi
