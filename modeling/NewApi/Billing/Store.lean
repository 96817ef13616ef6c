import Mathlib
import NewApi.Lib.Rounding
import NewApi.Lib.Table
import NewApi.Lib.Text

/-!
# The quota columns and the statements that move them

`model/user.go`, `model/token.go` and `model/subscription.go`, as far as a relayed request reaches them: the quotas of a user and a token,
a user's subscriptions with their used amounts, and the pre-consume records that make a subscription's pre-charge idempotent. Whether the
database refuses a statement is an input, and so is a cached read.

The batch updater (`BatchUpdateEnabled`) collects the increments of a quota in memory, so a row has a stored and a collected part, and its
balance is their sum.
-/

namespace NewApi

open Tables

/-- The error a statement ends in, if it fails. -/
abbrev Fault := Option String

def negativeQuota : String := "quota 不能为负数！"

/-! ## Rows -/

/-- The quota of a user: the stored column and the increments the batch updater still holds. -/
@[ext] structure UserRow where
  quota : Int
  pending : Int
  deriving DecidableEq, Repr

/-- A token's `remain_quota` and `used_quota`, and the increments the batch updater still holds. -/
@[ext] structure TokenRow where
  remainQuota : Int
  usedQuota : Int
  pending : Int
  deriving DecidableEq, Repr

/-- What the user has, the collected increments included. -/
def UserRow.balance (u : UserRow) : Int := u.quota + u.pending

/-- What the token has left, the collected increments included. -/
def TokenRow.balance (t : TokenRow) : Int := t.remainQuota + t.pending

/-- A subscription (`UserSubscription`). Ids are given by the database from 1 on. `amountUsed` is the exact amount, which every write
clamps at 0 or increases; the column is the `int64` of it (`usedColumn`). -/
structure UserSubscription where
  id : Int
  userId : Int
  planId : Int
  amountTotal : Int
  amountUsed : Int
  startTime : Int
  endTime : Int
  status : String
  lastResetTime : Int
  nextResetTime : Int
  allowWalletOverflow : Bool
  id_pos : 0 < id
  used_nonneg : 0 ≤ amountUsed
  deriving DecidableEq

inductive RecordStatus where
  | consumed | refunded
  deriving DecidableEq, Repr

/-- A pre-consume record (`SubscriptionPreConsumeRecord`); `request_id` is its unique index. -/
structure SubscriptionPreConsumeRecord where
  requestId : String
  userId : Int
  userSubscriptionId : Int
  preConsumed : Int
  status : RecordStatus
  deriving DecidableEq, Repr

/-- The columns of a plan that a quota reset reads, and its title. -/
structure SubscriptionPlan where
  id : Int
  title : String
  quotaResetPeriod : String
  quotaResetCustomSeconds : Int
  deriving DecidableEq, Repr

structure Store where
  users : Int → UserRow
  tokens : Int → TokenRow
  subs : Table UserSubscription.id
  records : Table SubscriptionPreConsumeRecord.requestId

/-- The local calendar, on seconds since the epoch: the next midnight, the next Monday's and the next month's first. Each is
later than the moment it is asked for. -/
structure Calendar where
  nextDay : Int → Int
  nextMonday : Int → Int
  nextMonth : Int → Int
  lt_nextDay : ∀ t, t < nextDay t
  lt_nextMonday : ∀ t, t < nextMonday t
  lt_nextMonth : ∀ t, t < nextMonth t

/-- The month of a day counted from the epoch, in the proleptic Gregorian calendar. Months are counted from March of the year 0. -/
def monthOf (day : Int) : Int :=
  let z := day + 719468
  let doe := z % 146097
  let yoe := (doe - doe / 1460 + doe / 36524 - doe / 146096) / 365
  let doy := doe - (365 * yoe + yoe / 4 - yoe / 100)
  12 * (z / 146097 * 400 + yoe) + (5 * doy + 2) / 153

/-- The first day of a month. -/
def monthStart (month : Int) : Int :=
  let year := month / 12
  365 * year + year / 4 - year / 100 + year / 400 + (153 * (month % 12) + 2) / 5 - 719468

def dayOfMonth (day : Int) : Int := day - monthStart (monthOf day) + 1

/-- The first day after `day`, within the next `fuel` ones, that starts a month. -/
def daysToMonth (day : Int) : Nat → Int
  | 0 => 1
  | fuel + 1 => if dayOfMonth (day + 1) = 1 then 1 else 1 + daysToMonth (day + 1) fuel

theorem daysToMonth_pos (day : Int) (fuel : Nat) : 1 ≤ daysToMonth day fuel := by
  induction fuel generalizing day with
  | zero => exact le_refl 1
  | succ fuel ih =>
    unfold daysToMonth
    split
    · exact le_refl 1
    · have := ih (day + 1)
      omega

/-- The calendar of a server that runs in UTC; the epoch was a Thursday. -/
def Calendar.utc : Calendar where
  nextDay t := (t / 86400 + 1) * 86400
  nextMonday t := (t / 86400 + (7 - (t / 86400 + 3) % 7)) * 86400
  nextMonth t := (t / 86400 + daysToMonth (t / 86400) 31) * 86400
  lt_nextDay t := by omega
  lt_nextMonday t := by omega
  lt_nextMonth t := by
    have := daysToMonth_pos (t / 86400) 31
    omega

/-- The process's settings. -/
structure Config where
  batchUpdateEnabled : Bool
  quotaPerUnit : ℚ
  formatQuota : Int → String
  calendar : Calendar
  planById : Int → Except String SubscriptionPlan

def Config.trustQuota (cfg : Config) : Int := Rounding.trunc (10 * cfg.quotaPerUnit)

/-! ## The quota of a user and of a token -/

/-- Add to a user's quota: to the collected increments under the batch updater, to the stored column otherwise. -/
def UserRow.add (batch : Bool) (n : Int) (u : UserRow) : UserRow :=
  if batch then { u with pending := u.pending + n } else { u with quota := u.quota + n }

/-- Add to a token's remaining quota; the stored write takes the same amount from `used_quota`. -/
def TokenRow.add (batch : Bool) (n : Int) (t : TokenRow) : TokenRow :=
  if batch then { t with pending := t.pending + n }
  else { t with remainQuota := t.remainQuota + n, usedQuota := t.usedQuota - n }

/-- The store with a user's quota moved by `n`. -/
def Store.addUser (batch : Bool) (st : Store) (id n : Int) : Store :=
  { st with users := Function.update st.users id ((st.users id).add batch n) }

/-- The store with a token's remaining quota moved by `n`. -/
def Store.addToken (batch : Bool) (st : Store) (id n : Int) : Store :=
  { st with tokens := Function.update st.tokens id ((st.tokens id).add batch n) }

variable (st : Store)

def Store.userBalance (id : Int) : Int := (st.users id).balance

def Store.tokenBalance (id : Int) : Int := (st.tokens id).balance

/-- The increment of one of the two columns (`IncreaseUserQuota`, `IncreaseTokenQuota` and their decreasing twins): a negative
amount is refused, the batch updater takes any other and never fails, and a stored write fails as the database does. -/
def moveQuota (batch : Bool) (quota : Int) (fault : Fault) (moved : Store) : Except String Store :=
  if quota < 0 then .error negativeQuota
  else if batch then .ok moved
  else match fault with
    | some e => .error e
    | none => .ok moved

/-- `model.IncreaseUserQuota`; `db` asks for a stored write even under the batch updater. -/
def increaseUserQuota (cfg : Config) (st : Store) (id quota : Int) (db : Bool) (fault : Fault) : Except String Store :=
  let batch := !db && cfg.batchUpdateEnabled
  moveQuota batch quota fault (st.addUser batch id quota)

def decreaseUserQuota (cfg : Config) (st : Store) (id quota : Int) (db : Bool) (fault : Fault) : Except String Store :=
  let batch := !db && cfg.batchUpdateEnabled
  moveQuota batch quota fault (st.addUser batch id (-quota))

def increaseTokenQuota (cfg : Config) (st : Store) (id quota : Int) (fault : Fault) : Except String Store :=
  moveQuota cfg.batchUpdateEnabled quota fault (st.addToken cfg.batchUpdateEnabled id quota)

def decreaseTokenQuota (cfg : Config) (st : Store) (id quota : Int) (fault : Fault) : Except String Store :=
  moveQuota cfg.batchUpdateEnabled quota fault (st.addToken cfg.batchUpdateEnabled id (-quota))

/-! ## Subscriptions -/

def recordNotFound : String := "record not found"

def normalizeResetPeriod (period : String) : String :=
  let p := Text.trimSpace period
  if p = "daily" ∨ p = "weekly" ∨ p = "monthly" ∨ p = "custom" then p else "never"

/-- `calcNextResetTime`: when the period after `base` ends, 0 for never and past the end of the subscription. -/
def calcNextResetTime (cal : Calendar) (base : Int) (plan : SubscriptionPlan) (endUnix : Int) : Int :=
  let clip (next : Int) : Int := if 0 < endUnix ∧ endUnix < next then 0 else next
  match normalizeResetPeriod plan.quotaResetPeriod with
  | "daily" => clip (cal.nextDay base)
  | "weekly" => clip (cal.nextMonday base)
  | "monthly" => clip (cal.nextMonth base)
  | "custom" => if plan.quotaResetCustomSeconds ≤ 0 then 0 else clip (base + plan.quotaResetCustomSeconds)
  | _ => 0

/-- The loop of `maybeResetUserSubscriptionWithPlanTx`: move `base` over the periods that have ended by `now`. Each round moves
it forward, so `now - base` rounds are enough. -/
def advancePeriods (cal : Calendar) (plan : SubscriptionPlan) (endUnix now : Int) : Nat → Int → Int → Bool → Int × Int × Bool
  | 0, base, next, advanced => (base, next, advanced)
  | fuel + 1, base, next, advanced =>
    if 0 < next ∧ next ≤ now then
      advancePeriods cal plan endUnix now fuel next (calcNextResetTime cal next plan endUnix) true
    else (base, next, advanced)

/-- `maybeResetUserSubscriptionWithPlanTx`: the row after the reset that is due, if one is, and whether it is written. -/
def maybeResetUserSubscription (cal : Calendar) (sub : UserSubscription) (plan : SubscriptionPlan) (now : Int) : UserSubscription × Bool :=
  if 0 < sub.nextResetTime ∧ now < sub.nextResetTime then (sub, false)
  else if normalizeResetPeriod plan.quotaResetPeriod = "never" then (sub, false)
  else
    let base := if sub.lastResetTime ≤ 0 then sub.startTime else sub.lastResetTime
    let next := calcNextResetTime cal base plan sub.endTime
    match advancePeriods cal plan sub.endTime now (now - base).toNat base next false with
    | (base, next, true) =>
      ({ sub with amountUsed := 0, lastResetTime := base, nextResetTime := next, used_nonneg := le_refl 0 }, true)
    | (base, next, false) =>
      if sub.nextResetTime = 0 ∧ 0 < next then ({ sub with nextResetTime := next, lastResetTime := base }, true)
      else (sub, false)

/-- `PostConsumeUserSubscriptionDelta`: move the used amount by `delta`, held at 0 from below and refused above the total. It
is a transaction of its own; `fault` is the error of a statement of it. -/
def postConsumeUserSubscriptionDelta (userSubscriptionId delta : Int) (fault : Fault) : Except String Store :=
  if userSubscriptionId ≤ 0 then .error "invalid userSubscriptionId"
  else if delta = 0 then .ok st
  else match fault with
    | some e => .error e
    | none =>
      match st.subs.lookup userSubscriptionId with
      | none => .error recordNotFound
      | some sub =>
        let newUsed := max 0 (sub.amountUsed + delta)
        if 0 < sub.amountTotal ∧ sub.amountTotal < newUsed then
          .error ("subscription used exceeds total, used=" ++ toString newUsed ++ " total=" ++ toString sub.amountTotal)
        else .ok { st with
          subs := st.subs.save { sub with amountUsed := newUsed, used_nonneg := le_max_left 0 (sub.amountUsed + delta) } }

structure SubscriptionPreConsumeResult where
  userSubscriptionId : Int
  preConsumed : Int
  amountTotal : Int
  amountUsedBefore : Int
  amountUsedAfter : Int
  deriving DecidableEq, Repr

/-- The subscriptions a user may spend from at `now`. -/
def Store.activeSubs (userId now : Int) : List UserSubscription :=
  st.subs.rows.filter (fun s => decide (s.userId = userId ∧ s.status = "active" ∧ now < s.endTime))

/-- The order of the candidates: by end time, then by id. -/
def spendsBefore (a b : UserSubscription) : Prop := a.endTime < b.endTime ∨ (a.endTime = b.endTime ∧ a.id ≤ b.id)

instance : DecidableRel spendsBefore := fun a b => by unfold spendsBefore; infer_instance

def UserSubscription.charge (sub : UserSubscription) (amount : Int) (h : 0 < amount) : UserSubscription :=
  { sub with amountUsed := sub.amountUsed + amount, used_nonneg := by have := sub.used_nonneg; omega }

/-- The loop over the candidates of `PreConsumeUserSubscription`: each is reset if a reset is due, and the first with room for
`amount` is charged and recorded. The resets of the candidates passed over are written as well. -/
def consumeFirst (cfg : Config) (requestId : String) (userId amount now : Int) (hpos : 0 < amount) :
    List UserSubscription → Store → Except String (Store × SubscriptionPreConsumeResult)
  | [], _ => .error ("subscription quota insufficient, need=" ++ toString amount)
  | candidate :: rest, st =>
    match cfg.planById candidate.planId with
    | .error e => .error e
    | .ok plan =>
      let (sub, written) := maybeResetUserSubscription cfg.calendar candidate plan now
      let st := if written then { st with subs := st.subs.save sub } else st
      if 0 < sub.amountTotal ∧ sub.amountTotal - sub.amountUsed < amount then
        consumeFirst cfg requestId userId amount now hpos rest st
      else
        match st.records.insert ⟨requestId, userId, sub.id, amount, .consumed⟩ with
        | none => .error "UNIQUE constraint failed: subscription_pre_consume_records.request_id"
        | some records =>
          .ok ({ st with subs := st.subs.save (sub.charge amount hpos), records := records },
            ⟨sub.id, amount, sub.amountTotal, sub.amountUsed, sub.amountUsed + amount⟩)

/-- `PreConsumeUserSubscription`: one transaction, whose error is `fault` where a statement of it fails. A request id that is
already recorded charges nothing again. -/
def preConsumeUserSubscription (cfg : Config) (st : Store) (requestId : String) (userId amount now : Int) (fault : Fault) :
    Except String (Store × SubscriptionPreConsumeResult) :=
  if userId ≤ 0 then .error "invalid userId"
  else if Text.trimSpace requestId = "" then .error "requestId is empty"
  else if hpos : 0 < amount then
    match fault with
    | some e => .error e
    | none =>
      match st.records.lookup requestId with
      | some existing =>
        if existing.status = .refunded then .error "subscription pre-consume already refunded"
        else match st.subs.lookup existing.userSubscriptionId with
          | none => .error recordNotFound
          | some sub => .ok (st, ⟨sub.id, existing.preConsumed, sub.amountTotal, sub.amountUsed, sub.amountUsed⟩)
      | none =>
        match (st.activeSubs userId now).insertionSort spendsBefore with
        | [] => .error "no active subscription"
        | subs => consumeFirst cfg requestId userId amount now hpos subs st
  else .error "amount must be > 0"

/-- `RefundSubscriptionPreConsume`, once per request id. The used amount is given back in a transaction of its own, so where
the write of the record fails afterwards the amount stays given back. -/
def refundSubscriptionPreConsume (requestId : String) (readFault deltaFault saveFault : Fault) : Store × Except String Unit :=
  if Text.trimSpace requestId = "" then (st, .error "requestId is empty")
  else match readFault, st.records.lookup requestId with
    | some e, _ => (st, .error e)
    | none, none => (st, .error recordNotFound)
    | none, some record =>
      if record.status = .refunded then (st, .ok ())
      else
        let given := if record.preConsumed ≤ 0 then .ok st
          else postConsumeUserSubscriptionDelta st record.userSubscriptionId (-record.preConsumed) deltaFault
        match given, saveFault with
        | .error e, _ => (st, .error e)
        | .ok st, some e => (st, .error e)
        | .ok st, none => ({ st with records := st.records.save { record with status := .refunded } }, .ok ())

def hasActiveUserSubscription (userId now : Int) (fault : Fault) : Except String Bool :=
  if userId ≤ 0 then .error "invalid userId"
  else match fault with
    | some e => .error e
    | none => .ok !(st.activeSubs userId now).isEmpty

def userActiveSubscriptionsAllowWalletOverflow (userId now : Int) (fault : Fault) : Except String Bool :=
  if userId ≤ 0 then .error "invalid userId"
  else match fault with
    | some e => .error e
    | none => .ok ((st.activeSubs userId now).all (·.allowWalletOverflow))

end NewApi
