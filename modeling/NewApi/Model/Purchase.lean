import NewApi.Billing.Store
import NewApi.Lib.Run
import NewApi.Lib.Tx

/-!
# Subscribing to a plan

`model/subscription.go`. `CreateUserSubscriptionFromPlanTx` counts what the user already has of the plan, may move the user to the plan's
group, and inserts the row. Its transaction is opened by the completion of a paid order (`CompleteSubscriptionOrder`, under the lock of
the trade number), a grant (`AdminBindSubscription`), or a purchase from the wallet (`PurchaseSubscriptionWithBalance`).

Any number of calls run at once, one statement at a time, under read-committed isolation. Of the top-up row written beside an order only a
refusal is modelled.
-/

namespace NewApi

open Threads Tx

/-! ## Plans and subscriptions -/

structure PurchasePlan extends SubscriptionPlan where
  priceAmount : ℚ
  durationUnit : String
  durationValue : Int
  customSeconds : Int
  enabled : Bool
  allowBalancePay : Option Bool
  allowWalletOverflow : Option Bool
  maxPurchasePerUser : Int
  upgradeGroup : String
  downgradeGroup : String
  totalAmount : Int

/-- A subscription with what the purchase adds to it. -/
structure PurchasedSubscription extends UserSubscription where
  source : String
  upgradeGroup : String
  prevUserGroup : String
  downgradeGroup : String

/-- `SubscriptionOrder`, as far as a completion reads and writes it. -/
structure SubscriptionOrder where
  tradeNo : String
  userId : Int
  planId : Int
  paymentProvider : String
  paymentMethod : String
  status : String
  completeTime : Int
  deriving DecidableEq, Repr

/-- The columns of a user that a purchase reads and writes. -/
structure PurchaseUser where
  quota : Int
  group : String
  deriving DecidableEq, Repr

/-- What purchases read and do not change: the plans by id, the local calendar, the offset of the local zone at a second, and the quota
of a dollar. -/
structure PurchaseEnv where
  plans : Int → Option PurchasePlan
  plans_id : ∀ id plan, plans id = some plan → plan.id = id
  calendar : Calendar
  zoneOffset : Int → Int
  quotaPerUnit : ℚ

variable (env : PurchaseEnv)

def PurchaseEnv.getSubscriptionPlanById (id : Int) : Except String PurchasePlan :=
  if id ≤ 0 then .error "invalid plan id"
  else match env.plans id with
    | none => .error "record not found"
    | some plan => .ok plan

/-! ## The end of a plan

Go computes durations in nanoseconds in a signed 64-bit word, which wraps after about 292 years, and dates in 64-bit words of days and
seconds. `time.Time` itself reaches 292 billion years. -/

namespace Machine

open Rounding

/-- `time.Second`, in nanoseconds. -/
def second : Int := 1000000000

/-- `time.Hour`, in nanoseconds. -/
def hour : Int := 3600000000000

/-- `dateToAbsDays` for the first of a month, from the epoch: days are counted from a year far below 0, in unsigned 64-bit words. -/
def dateToDays (month : Int) : Int :=
  let year := (month / 12 + 292277022400) % 18446744073709551616
  146097 * (year / 100) % 18446744073709551616 / 4 + 1461 * (year % 100) / 4 + (153 * (month % 12) + 2) / 5 -
    (292277022400 / 400 * 146097 + 719468)

/-- The month that `time.Date` comes to from the month of a day: it counts months from January, and carries them over into years. -/
def laterMonth (day years months : Int) : Int :=
  let month := monthOf day + 2
  12 * (month / 12 + years) + int64 (month % 12 + months) - 2

end Machine

open Rounding Machine in
/-- `AddDate` and `Unix`: `time.Date` of the day of the month and the clock in a later month, where a day past the end of the month runs on
into the next. The date is on the wall, and the zone's offset is looked up for it. -/
def PurchaseEnv.addDate (start years months : Int) : Int :=
  let wall := start + env.zoneOffset start
  let day := wall / 86400
  let later := int64 (86400 * (dateToDays (laterMonth day years months) + dayOfMonth day - 1) + wall % 86400)
  int64 (later - env.zoneOffset (int64 (later - env.zoneOffset later)))

open Rounding in
/-- `calcPlanEndTime`, from a start in nanoseconds; the end is in seconds. -/
def Machine.calcPlanEndTime (start : Int) (plan : PurchasePlan) : Except String Int :=
  if plan.durationValue ≤ 0 ∧ plan.durationUnit ≠ "custom" then .error "duration_value must be > 0"
  else match plan.durationUnit with
    | "year" => .ok (env.addDate (start / second) plan.durationValue 0)
    | "month" => .ok (env.addDate (start / second) 0 plan.durationValue)
    | "day" => .ok ((start + int64 (int64 (plan.durationValue * 24) * hour)) / second)
    | "hour" => .ok ((start + int64 (plan.durationValue * hour)) / second)
    | "custom" =>
      if plan.customSeconds ≤ 0 then .error "custom_seconds must be > 0"
      else .ok ((start + int64 (plan.customSeconds * second)) / second)
    | unit => .error ("invalid duration_unit: " ++ unit)

/-- The row `CreateUserSubscriptionFromPlanTx` inserts at `now`, for the id the database gives it. -/
def newSubscription (id : Nat) (userId : Int) (plan : PurchasePlan) (source : String) (now endUnix : Int)
    (prevGroup : String) : PurchasedSubscription :=
  let nextReset := calcNextResetTime env.calendar now plan.toSubscriptionPlan endUnix
  { id := id + 1, userId := userId, planId := plan.id, amountTotal := plan.totalAmount, amountUsed := 0, startTime := now
    endTime := endUnix, status := "active", lastResetTime := if 0 < nextReset then now else 0, nextResetTime := nextReset
    allowWalletOverflow := plan.allowWalletOverflow.getD true, id_pos := by omega, used_nonneg := Int.le_refl 0
    source := source, upgradeGroup := Text.trimSpace plan.upgradeGroup, prevUserGroup := prevGroup
    downgradeGroup := Text.trimSpace plan.downgradeGroup }

def calcSubscriptionBalanceQuota (priceAmount : ℚ) : Except String Int :=
  if priceAmount ≤ 0 then .ok 0
  else if env.quotaPerUnit ≤ 0 then .error "额度单位配置错误"
  else .ok ⌈priceAmount * env.quotaPerUnit⌉

/-! ## Calls and their transactions -/

inductive PurchaseCall where
  | order (tradeNo expectedProvider actualMethod : String)
  | admin (userId planId : Int)
  | balance (userId planId : Int) (tradeNo : String)
  deriving DecidableEq, Repr

def PurchaseCall.source : PurchaseCall → String
  | .order _ _ _ => "order"
  | .admin _ _ => "admin"
  | .balance _ _ _ => "balance"

/-- What a transaction is for, and what it has written and not committed beside the subscription: the debit of the wallet, the
change of the user's group, and the order. -/
structure PurchaseTx where
  userId : Int
  plan : PurchasePlan
  charge : Int
  regroup : Bool
  order : Option SubscriptionOrder

/-- The user's row with the transaction's changes. -/
def PurchaseTx.apply (tx : PurchaseTx) (u : PurchaseUser) : PurchaseUser :=
  ⟨u.quota - tx.charge, if tx.regroup then Text.trimSpace tx.plan.upgradeGroup else u.group⟩

/-- Where a call stands. A count that was read is kept to the end. -/
inductive PurchaseState where
  | ready
  | locked
  | debiting (tx : PurchaseTx)
  | creating (tx : PurchaseTx)
  | counted (tx : PurchaseTx) (n : Nat)
  | regrouping (tx : PurchaseTx) (n : Nat) (now endUnix : Int) (prevGroup : String)
  | placing (tx : PurchaseTx) (n : Nat) (now endUnix : Int) (prevGroup : String)
  | inserted (tx : PurchaseTx) (n : Nat)
  | closing (tx : PurchaseTx) (n : Nat)
  | done (result : Except String Unit)

/-- The database, with the in-process locks of trade numbers. -/
structure PurchaseDb (ι : Type) where
  subs : Rows ι PurchasedSubscription
  nextId : Nat
  orders : String → Option SubscriptionOrder
  users : Int → Option PurchaseUser
  orderMutex : String → Option ι
  userLock : Int → Option ι

/-- One statement's turn: the call, the time, and what the database refuses it with. -/
structure PurchaseEvent (ι : Type) where
  caller : ι
  now : Int
  fault : Option String := none

namespace PurchaseDb

/-- The rows of a user and a plan. -/
def isOf (userId planId : Int) (s : PurchasedSubscription) : Bool := decide (s.userId = userId ∧ s.planId = planId)

/-- How many subscriptions to the plan the user owns. -/
def owned {ι : Type} (db : PurchaseDb ι) (userId planId : Int) : Nat := db.subs.committed.countP (isOf userId planId)

variable {ι : Type} [DecidableEq ι]

/-- The call is over: its transaction's rows are gone where they were not committed, and its locks are given back. -/
def close (db : PurchaseDb ι) (i : ι) : PurchaseDb ι :=
  { db with
    subs := db.subs.rollback i
    orderMutex := fun tradeNo => unlock (db.orderMutex tradeNo) i
    userLock := fun u => unlock (db.userLock u) i }

/-- A commit: what the transaction wrote takes effect, and the call is over. -/
def commit (db : PurchaseDb ι) (i : ι) (tx : PurchaseTx) : PurchaseDb ι :=
  let db := { db with
    subs := db.subs.commit i
    users := Function.update db.users tx.userId ((db.users tx.userId).map tx.apply)
    orders := match tx.order with
      | none => db.orders
      | some o => Function.update db.orders o.tradeNo (some o) }
  db.close i

/-- The lock of a user's row, for an update of it; an update of no row takes none. -/
def lockUser (db : PurchaseDb ι) (i : ι) (userId : Int) : PurchaseDb ι :=
  { db with
    userLock := match db.users userId with
      | none => db.userLock
      | some _ => Function.update db.userLock userId (some i) }

end PurchaseDb

variable {ι : Type} [DecidableEq ι]

open PurchaseDb

/-- The call ends with an error: its transaction is rolled back. -/
def purchaseFails (db : PurchaseDb ι) (i : ι) (msg : String) : PurchaseDb ι × PurchaseState := (db.close i, .done (.error msg))

variable (env : PurchaseEnv)

/-- The first statement of `CompleteSubscriptionOrder` under the lock of its trade number: the order is read, and a pending one
is completed. An order that is complete already is no error. -/
def readOrder (tradeNo expectedProvider actualMethod : String) (e : PurchaseEvent ι) (db : PurchaseDb ι) : PurchaseDb ι × PurchaseState :=
  if tradeNo = "" then purchaseFails db e.caller "tradeNo is empty"
  else match (if e.fault.isSome then none else db.orders tradeNo) with
    | none => purchaseFails db e.caller "subscription order not found"
    | some order =>
      if expectedProvider ≠ "" ∧ order.paymentProvider ≠ expectedProvider then
        purchaseFails db e.caller "payment method mismatch"
      else if order.status = "success" then (db.close e.caller, .done (.ok ()))
      else if order.status ≠ "pending" then purchaseFails db e.caller "subscription order status invalid"
      else match env.getSubscriptionPlanById order.planId with
        | .error msg => purchaseFails db e.caller msg
        | .ok plan =>
          let order := { order with
            status := "success", completeTime := e.now
            paymentMethod := if actualMethod = "" then order.paymentMethod else actualMethod }
          (db, .creating ⟨order.userId, plan, 0, false, some order⟩)

/-- The first statement of `PurchaseSubscriptionWithBalance`: the plan's conditions, and the user's row, which is read without a
lock. -/
def readWallet (userId planId : Int) (tradeNo : String) (e : PurchaseEvent ι) (db : PurchaseDb ι) : PurchaseDb ι × PurchaseState :=
  match env.getSubscriptionPlanById planId with
  | .error msg => purchaseFails db e.caller msg
  | .ok plan =>
    if ¬ plan.enabled = true then purchaseFails db e.caller "套餐未启用"
    else if plan.priceAmount < 0 then purchaseFails db e.caller "套餐价格不能为负数"
    else if plan.allowBalancePay = some false then purchaseFails db e.caller "该套餐不允许使用余额兑换"
    else match calcSubscriptionBalanceQuota env plan.priceAmount with
      | .error msg => purchaseFails db e.caller msg
      | .ok required =>
        match db.users userId with
        | none => purchaseFails db e.caller "record not found"
        | some user =>
          if 0 < required ∧ user.quota < required then purchaseFails db e.caller "余额不足"
          else
            let order := ⟨tradeNo, userId, planId, "balance", "balance", "success", e.now⟩
            let tx : PurchaseTx := ⟨userId, plan, required, false, some order⟩
            (db, if 0 < required then .debiting tx else .creating tx)

/-- The first statement of a call: an order's completion waits for the lock of its trade number. -/
def purchaseBegins (call : PurchaseCall) (e : PurchaseEvent ι) (db : PurchaseDb ι) : PurchaseDb ι × PurchaseState :=
  match call with
  | .order tradeNo _ _ =>
    if free (db.orderMutex tradeNo) e.caller then
      ({ db with orderMutex := Function.update db.orderMutex tradeNo (some e.caller) }, .locked)
    else (db, .ready)
  | .admin userId planId =>
    if userId ≤ 0 ∨ planId ≤ 0 then purchaseFails db e.caller "invalid userId or planId"
    else match env.getSubscriptionPlanById planId with
      | .error msg => purchaseFails db e.caller msg
      | .ok plan => (db, .creating ⟨userId, plan, 0, false, none⟩)
  | .balance userId planId tradeNo =>
    if userId ≤ 0 ∨ planId ≤ 0 then purchaseFails db e.caller "invalid userId or planId"
    else readWallet env userId planId tradeNo e db

/-- The checks and the count of `CreateUserSubscriptionFromPlanTx`. A plan without a limit is not counted. -/
def countPurchases (tx : PurchaseTx) (e : PurchaseEvent ι) (db : PurchaseDb ι) : PurchaseDb ι × PurchaseState :=
  if tx.plan.id = 0 then purchaseFails db e.caller "invalid plan"
  else if tx.userId ≤ 0 then purchaseFails db e.caller "invalid user id"
  else if 0 < tx.plan.maxPurchasePerUser then
    let count := (db.subs.visible e.caller).countP (isOf tx.userId tx.plan.id)
    if tx.plan.maxPurchasePerUser ≤ count then purchaseFails db e.caller "已达到该套餐购买上限"
    else (db, .counted tx count)
  else (db, .counted tx 0)

/-- The times of the subscription, and the user's group where the plan has one. -/
def readGroup (tx : PurchaseTx) (n : Nat) (e : PurchaseEvent ι) (db : PurchaseDb ι) : PurchaseDb ι × PurchaseState :=
  match Machine.calcPlanEndTime env (e.now * Machine.second) tx.plan with
  | .error msg => purchaseFails db e.caller msg
  | .ok endUnix =>
    let group := ((db.users tx.userId).map PurchaseUser.group).getD ""
    if Text.trimSpace tx.plan.upgradeGroup = "" ∨ group = Text.trimSpace tx.plan.upgradeGroup then
      (db, .placing tx n e.now endUnix "")
    else (db, .regrouping tx n e.now endUnix group)

/-- The next statement of a call. A statement the database refuses ends the call. -/
def purchaseStatement (call : PurchaseCall) (e : PurchaseEvent ι) (db : PurchaseDb ι) (s : PurchaseState) : PurchaseDb ι × PurchaseState :=
  match s, e.fault with
  | .done result, _ => (db, .done result)
  | .locked, _ =>
    match call with
    | .order tradeNo provider method => readOrder env tradeNo provider method e db
    | _ => (db, .locked)
  | _, some msg => purchaseFails db e.caller msg
  | .ready, none => purchaseBegins env call e db
  | .debiting tx, none =>
    if free (db.userLock tx.userId) e.caller then (db.lockUser e.caller tx.userId, .creating tx) else (db, .debiting tx)
  | .creating tx, none => countPurchases tx e db
  | .counted tx n, none => readGroup env tx n e db
  | .regrouping tx n now endUnix prev, none =>
    if free (db.userLock tx.userId) e.caller then
      (db.lockUser e.caller tx.userId, .placing { tx with regroup := true } n now endUnix prev)
    else (db, .regrouping tx n now endUnix prev)
  | .placing tx n now endUnix prev, none =>
    ({ db with
        subs := db.subs.insert e.caller (newSubscription env db.nextId tx.userId tx.plan call.source now endUnix prev)
        nextId := db.nextId + 1 }, .inserted tx n)
  | .inserted tx n, none => (db, .closing tx n)
  | .closing tx _, none => (db.commit e.caller tx, .done (.ok ()))

def purchaseStep (calls : ι → PurchaseCall) (c : Conf (PurchaseDb ι) ι PurchaseState)
    (e : PurchaseEvent ι) : Conf (PurchaseDb ι) ι PurchaseState :=
  c.act e.caller (purchaseStatement env (calls e.caller) e)

/-- All calls before their first statement, on a database without open transactions. -/
def purchaseStart (subs : List PurchasedSubscription) (orders : String → Option SubscriptionOrder)
    (users : Int → Option PurchaseUser) : Conf (PurchaseDb ι) ι PurchaseState :=
  ⟨⟨Rows.ofList subs, subs.length, orders, users, fun _ => none, fun _ => none⟩, fun _ => .ready⟩

/-! ## The limit -/

/-- No user owns more subscriptions to a plan than the plan allows. -/
def LimitHolds {ι : Type} (env : PurchaseEnv) (db : PurchaseDb ι) : Prop :=
  ∀ planId plan userId, env.plans planId = some plan → 0 < plan.maxPurchasePerUser →
    (db.owned userId planId : Int) ≤ plan.maxPurchasePerUser

/-- What a call is about to commit, with the count it read. -/
def PurchaseState.closes : PurchaseState → Option (PurchaseTx × Nat)
  | .closing tx n => some (tx, n)
  | _ => none

/-- A commit meets a count that has not grown since the transaction read it. -/
def CountFresh (c : Conf (PurchaseDb ι) ι PurchaseState) (e : PurchaseEvent ι) : Prop :=
  ∀ p ∈ (c.threads e.caller).closes, e.fault = none → 0 < p.1.plan.maxPurchasePerUser →
    c.shared.owned p.1.userId p.1.plan.id ≤ p.2

instance (c : Conf (PurchaseDb ι) ι PurchaseState) (e : PurchaseEvent ι) : Decidable (CountFresh c e) :=
  inferInstanceAs (Decidable (∀ p ∈ (c.threads e.caller).closes, _ → _ → _))

end NewApi
