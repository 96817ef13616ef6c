import NewApi.Billing.Store
import NewApi.Lib.Run

/-!
# Top-up orders

`model/topup.go` and `controller/topup.go`. A paid order is marked as successful and the user's quota is increased: by `EpayNotify`,
`Recharge` (Stripe), `RechargeCreem`, `RechargeWaffo`, `RechargeWaffoPancake`, or by hand (`ManualCompleteTopUp`), all but the first in
one transaction. The callers hold the lock of the trade number (`LockOrder`), so the completions of one order come one after the other.

`Amount` counts currency units, for Creem raw quota. What the floating-point product of `Recharge` adds to the integer column is left to
the database.
-/

namespace NewApi

open Tables

/-! ## Rows -/

/-- The gateways (`PaymentProvider*`). -/
inductive PaymentProvider where
  | epay | stripe | creem | waffo | waffoPancake | balance
  deriving DecidableEq, Repr

/-- The states of an order (`TopUpStatus*`). -/
inductive TopUpStatus where
  | pending | success | failed | expired
  deriving DecidableEq, Repr

/-- An order (`TopUp`); `trade_no` is its unique index. -/
structure TopUp where
  tradeNo : String
  userId : Int
  amount : Int
  money : ℚ
  paymentMethod : String
  paymentProvider : PaymentProvider
  completeTime : Int := 0
  status : TopUpStatus := .pending
  deriving DecidableEq

/-- The columns of a user that a completion reads and writes. -/
structure TopUpUser where
  quota : Int
  email : String
  stripeCustomer : String
  deriving DecidableEq, Repr

/-- The orders, and the users that are not deleted. -/
structure TopUpDb where
  orders : Table TopUp.tradeNo
  users : Int → Option TopUpUser

/-- An update of a user's row; a user who is gone is no error. -/
def TopUpDb.updateUser (db : TopUpDb) (id : Int) (f : TopUpUser → TopUpUser) : TopUpDb :=
  { db with users := Function.update db.users id ((db.users id).map f) }

/-- The quota of a user, 0 for one who is gone. -/
def TopUpDb.quotaOf (db : TopUpDb) (id : Int) : Int := ((db.users id).map (·.quota)).getD 0

/-- The quota of a currency unit, and what `Recharge` adds for an order's `Money`. -/
structure TopUpEnv where
  quotaPerUnit : ℚ
  stripeQuota : ℚ → Int

variable (env : TopUpEnv)

/-- The quota of a decimal number of units, cut to an integer. -/
def TopUpEnv.quotaOfUnits (units : ℚ) : Int := Rounding.int64 (Rounding.trunc (units * env.quotaPerUnit))

/-! ## Completion in one transaction -/

/-- What the transactional completions differ in; `touch` is what else they write to the user. -/
structure Completion where
  expects : Option PaymentProvider
  acceptsSuccess : Bool
  wrongStatus : String
  quota : TopUp → Int
  rejectsEmpty : Bool
  readsUser : Bool
  touch : TopUpUser → TopUpUser

/-- The transaction: the order is read and checked, marked as successful, and credited to its user. `read` is the error of the first
read and `write` that of a later statement or of the commit; either way nothing is written. -/
def Completion.run (c : Completion) (db : TopUpDb) (tradeNo : String) (now : Int) (read write : Fault) : Except String TopUpDb :=
  match read, db.orders.lookup tradeNo with
  | some _, _ => .error "充值订单不存在"
  | none, none => .error "充值订单不存在"
  | none, some topUp =>
    if ∃ provider ∈ c.expects, topUp.paymentProvider ≠ provider then .error "payment method mismatch"
    else if c.acceptsSuccess = true ∧ topUp.status = .success then .ok db
    else if topUp.status ≠ .pending then .error c.wrongStatus
    else if c.rejectsEmpty = true ∧ c.quota topUp ≤ 0 then .error "无效的充值额度"
    else if c.readsUser = true ∧ db.users topUp.userId = none then .error recordNotFound
    else match write with
      | some e => .error e
      | none => .ok (TopUpDb.updateUser { db with orders := db.orders.save { topUp with completeTime := now, status := .success } }
          topUp.userId fun u => c.touch { u with quota := u.quota + c.quota topUp })

/-- The result of a gateway's completion: every error is told as the same one. -/
def recharged (db : TopUpDb) : Except String TopUpDb → TopUpDb × Except String Unit
  | .error _ => (db, .error "充值失败，请稍后重试")
  | .ok db' => (db', .ok ())

def stripeCompletion (customerId : String) : Completion where
  expects := some .stripe
  acceptsSuccess := false
  wrongStatus := "充值订单状态错误"
  quota topUp := env.stripeQuota topUp.money
  rejectsEmpty := false
  readsUser := false
  touch u := { u with stripeCustomer := customerId }

/-- `RechargeCreem` as a completion: the amount is the quota, and the address the customer paid with becomes that of a user without
one. -/
def creemCompletion (customerEmail : String) : Completion where
  expects := some .creem
  acceptsSuccess := false
  wrongStatus := "充值订单状态错误"
  quota topUp := topUp.amount
  rejectsEmpty := false
  readsUser := decide (customerEmail ≠ "")
  touch u := if customerEmail ≠ "" ∧ u.email = "" then { u with email := customerEmail } else u

/-- `RechargeWaffo` and `RechargeWaffoPancake` as completions. -/
def waffoCompletion (provider : PaymentProvider) : Completion where
  expects := some provider
  acceptsSuccess := true
  wrongStatus := "充值订单状态错误"
  quota topUp := env.quotaOfUnits topUp.amount
  rejectsEmpty := true
  readsUser := false
  touch u := u

/-- `ManualCompleteTopUp` as a completion: it takes the money of a Stripe order for its units, and the amount of any other. -/
def manualCompletion : Completion where
  expects := none
  acceptsSuccess := true
  wrongStatus := "订单状态不是待支付，无法补单"
  quota topUp := env.quotaOfUnits (if topUp.paymentProvider = .stripe then topUp.money else topUp.amount)
  rejectsEmpty := true
  readsUser := false
  touch u := u

def recharge (db : TopUpDb) (referenceId customerId : String) (now : Int) (read write : Fault) :
    TopUpDb × Except String Unit :=
  if referenceId = "" then (db, .error "未提供支付单号")
  else recharged db ((stripeCompletion env customerId).run db referenceId now read write)

def rechargeCreem (db : TopUpDb) (referenceId customerEmail : String) (now : Int) (read write : Fault) : TopUpDb × Except String Unit :=
  if referenceId = "" then (db, .error "未提供支付单号")
  else recharged db ((creemCompletion customerEmail).run db referenceId now read write)

def rechargeWaffo (db : TopUpDb) (tradeNo : String) (now : Int) (read write : Fault) : TopUpDb × Except String Unit :=
  if tradeNo = "" then (db, .error "未提供支付单号")
  else recharged db ((waffoCompletion env .waffo).run db tradeNo now read write)

def rechargeWaffoPancake (db : TopUpDb) (tradeNo : String) (now : Int) (read write : Fault) :
    TopUpDb × Except String Unit :=
  if tradeNo = "" then (db, .error "未提供支付单号")
  else recharged db ((waffoCompletion env .waffoPancake).run db tradeNo now read write)

/-- `ManualCompleteTopUp`, which tells its errors as they are. -/
def manualCompleteTopUp (db : TopUpDb) (tradeNo : String) (now : Int) (read write : Fault) :
    TopUpDb × Except String Unit :=
  if tradeNo = "" then (db, .error "未提供订单号")
  else match (manualCompletion env).run db tradeNo now read write with
    | .error msg => (db, .error msg)
    | .ok db' => (db', .ok ())

/-! ## The other writes of an order -/

/-- A notification of the epay gateway: whether its signature is verified, whether the trade succeeded, and the way it was paid. -/
structure EpayNotification where
  verified : Bool
  tradeSuccess : Bool
  type : String
  deriving DecidableEq, Repr

/-- `EpayNotify`: the tables and the answer. The order is written, then the quota by a statement of its own; `update` and `increase` are
their errors. The answer is sent before either. -/
def epayNotify (db : TopUpDb) (tradeNo : String) (note : EpayNotification) (read update increase : Fault) :
    TopUpDb × String :=
  if note.verified = false then (db, "fail")
  else if note.tradeSuccess = false then (db, "success")
  else match read, db.orders.lookup tradeNo with
    | some _, _ => (db, "success")
    | none, none => (db, "success")
    | none, some topUp =>
      if topUp.paymentProvider ≠ .epay ∨ topUp.status ≠ .pending then (db, "success")
      else match update with
        | some _ => (db, "success")
        | none =>
          let db := { db with orders := db.orders.save { topUp with paymentMethod := note.type, status := .success } }
          let quotaToAdd := env.quotaOfUnits topUp.amount
          if quotaToAdd < 0 ∨ increase ≠ none then (db, "success")
          else (db.updateUser topUp.userId fun u => { u with quota := u.quota + quotaToAdd }, "success")

/-- `UpdatePendingTopUpStatus`, by which a pending order ends as failed or expired. -/
def updatePendingTopUpStatus (db : TopUpDb) (tradeNo : String) (expected : PaymentProvider) (expired : Bool) (read write : Fault) :
    TopUpDb × Except String Unit :=
  if tradeNo = "" then (db, .error "未提供支付单号")
  else match read, db.orders.lookup tradeNo with
    | some _, _ => (db, .error "topup not found")
    | none, none => (db, .error "topup not found")
    | none, some topUp =>
      if topUp.paymentProvider ≠ expected then (db, .error "payment method mismatch")
      else if topUp.status ≠ .pending then (db, .error "topup status invalid")
      else match write with
        | some e => (db, .error e)
        | none => ({ db with orders := db.orders.save { topUp with status := if expired then .expired else .failed } }, .ok ())

/-! ## Deliveries -/

inductive TopUpCall where
  | epayNotify (note : EpayNotification)
  | recharge (customerId : String)
  | rechargeCreem (customerEmail : String)
  | rechargeWaffo
  | rechargeWaffoPancake
  | manual
  | close (expected : PaymentProvider) (expired : Bool)
  deriving DecidableEq, Repr

/-- A call, the order it is for, its time, and the errors of its read, of its write, and of the separate increase of the quota. -/
structure TopUpEvent where
  tradeNo : String
  call : TopUpCall
  now : Int := 0
  read : Fault := none
  write : Fault := none
  increase : Fault := none
  deriving DecidableEq, Repr

def topUpStep (db : TopUpDb) (e : TopUpEvent) : TopUpDb :=
  match e.call with
  | .epayNotify note => (epayNotify env db e.tradeNo note e.read e.write e.increase).1
  | .recharge customerId => (recharge env db e.tradeNo customerId e.now e.read e.write).1
  | .rechargeCreem customerEmail => (rechargeCreem db e.tradeNo customerEmail e.now e.read e.write).1
  | .rechargeWaffo => (rechargeWaffo env db e.tradeNo e.now e.read e.write).1
  | .rechargeWaffoPancake => (rechargeWaffoPancake env db e.tradeNo e.now e.read e.write).1
  | .manual => (manualCompleteTopUp env db e.tradeNo e.now e.read e.write).1
  | .close expected expired => (updatePendingTopUpStatus db e.tradeNo expected expired e.read e.write).1

/-- What a call adds to the quota of the order's user, with the order. -/
def topUpCredits (db : TopUpDb) (e : TopUpEvent) : List (String × Int) :=
  match db.orders.lookup e.tradeNo with
  | none => []
  | some topUp =>
    let gained := (topUpStep env db e).quotaOf topUp.userId - db.quotaOf topUp.userId
    if gained = 0 then [] else [(e.tradeNo, gained)]

/-- What a call must meet for its order to be credited when it is marked: the separate increase is not refused, and the quota to credit
is positive where the call does not check it. -/
def TopUpCall.Pays (increase : Fault) (topUp : TopUp) : TopUpCall → Prop
  | .epayNotify _ => increase = none ∧ 0 < env.quotaOfUnits topUp.amount
  | .recharge _ => 0 < env.stripeQuota topUp.money
  | .rechargeCreem _ => 0 < topUp.amount
  | .rechargeWaffo | .rechargeWaffoPancake | .manual | .close _ _ => True

/-- A call for order `t` pays, and the order's user is not gone. -/
def PaysStep (t : String) (db : TopUpDb) (e : TopUpEvent) : Prop :=
  e.tradeNo = t → ∀ topUp ∈ db.orders.lookup t, (db.users topUp.userId).isSome = true ∧ e.call.Pays env e.increase topUp

instance (env : TopUpEnv) (increase : Fault) (topUp : TopUp) : (call : TopUpCall) → Decidable (call.Pays env increase topUp)
  | .epayNotify _ => inferInstanceAs (Decidable (_ ∧ _))
  | .recharge _ => inferInstanceAs (Decidable (_ < _))
  | .rechargeCreem _ => inferInstanceAs (Decidable (_ < _))
  | .rechargeWaffo | .rechargeWaffoPancake | .manual | .close _ _ => isTrue trivial

instance (env : TopUpEnv) (t : String) (db : TopUpDb) (e : TopUpEvent) : Decidable (PaysStep env t db e) :=
  inferInstanceAs (Decidable (e.tradeNo = t → ∀ topUp ∈ db.orders.lookup t,
    (db.users topUp.userId).isSome = true ∧ e.call.Pays env e.increase topUp))

/-! ## Ordering -/

/-- What the orders are priced by; `inexactFloat64` rounds a decimal to the nearest float. -/
structure PaySettings extends TopUpEnv where
  displayTokens : Bool
  minTopUp : Int
  price : ℚ
  topupGroupRatio : String → ℚ
  amountDiscount : Int → Option ℚ
  payMethods : List String
  epayClient : Bool
  inexactFloat64 : ℚ → ℚ

/-- The units of a number of tokens. A decimal division is rounded to 16 places. -/
def TopUpEnv.unitsOfTokens (tokens : Int) : ℚ := Rounding.roundTo 16 (tokens / env.quotaPerUnit)

/-- `getPayMoney`: the price of the amount that is asked for. -/
def getPayMoney (s : PaySettings) (amount : Int) (group : String) : ℚ :=
  let dAmount := if s.displayTokens then s.unitsOfTokens amount else amount
  let ratio := if s.topupGroupRatio group = 0 then 1 else s.topupGroupRatio group
  let discount := match s.amountDiscount amount with
    | none => 1
    | some ds => if 0 < ds then ds else 1
  s.inexactFloat64 (dAmount * s.price * ratio * discount)

def getMinTopup (s : PaySettings) : Int := if s.displayTokens then s.quotaOfUnits s.minTopUp else s.minTopUp

/-- A request to `RequestEpay`, with the trade number it draws and the errors of the gateway and of the insertion. -/
structure EpayRequest where
  userId : Int
  group : Except String String
  amount : Int
  paymentMethod : String
  tradeNo : String
  purchase : Fault := none
  insert : Fault := none
  amount_lt : amount < 9223372036854775808

/-- The order of an accepted request: its amount is in units, cut to an integer, and its money is the price of the amount asked for. -/
def EpayRequest.order (s : PaySettings) (req : EpayRequest) (group : String) : TopUp where
  tradeNo := req.tradeNo
  userId := req.userId
  amount := if s.displayTokens then Rounding.int64 (Rounding.trunc (s.unitsOfTokens req.amount)) else req.amount
  money := getPayMoney s req.amount group
  paymentMethod := req.paymentMethod
  paymentProvider := .epay

/-- `RequestEpay`: the tables and the order, or the error that is answered. A division by a `QuotaPerUnit` of 0 panics. -/
def requestEpay (s : PaySettings) (db : TopUpDb) (req : EpayRequest) : TopUpDb × Except String TopUp :=
  if req.amount < getMinTopup s then (db, .error ("充值数量不能小于 " ++ toString (getMinTopup s)))
  else match req.group with
    | .error _ => (db, .error "获取用户分组失败")
    | .ok group =>
      if s.displayTokens = true ∧ s.quotaPerUnit = 0 then (db, .error "decimal division by 0")
      else if getPayMoney s req.amount group < s.inexactFloat64 (1 / 100) then (db, .error "充值金额过低")
      else if req.paymentMethod ∉ s.payMethods then (db, .error "支付方式不存在")
      else if s.epayClient = false then (db, .error "当前管理员未配置支付信息")
      else if req.purchase ≠ none then (db, .error "拉起支付失败")
      else match req.insert, db.orders.insert (req.order s group) with
        | some _, _ => (db, .error "创建订单失败")
        | none, none => (db, .error "创建订单失败")
        | none, some orders => ({ db with orders := orders }, .ok (req.order s group))

structure CreemProduct where
  productId : String
  price : ℚ
  quota : Int
  deriving DecidableEq

/-- The order that Creem's `RequestPay` stores for a product. -/
def CreemProduct.order (product : CreemProduct) (userId : Int) (referenceId : String) : TopUp where
  tradeNo := referenceId
  userId := userId
  amount := product.quota
  money := product.price
  paymentMethod := "creem"
  paymentProvider := .creem

/-- The completion by the order's own gateway, once it is paid. -/
def gatewayCompletes (db : TopUpDb) (topUp : TopUp) (type customer : String) (now : Int) : TopUpDb :=
  match topUp.paymentProvider with
  | .epay => (epayNotify env db topUp.tradeNo ⟨true, true, type⟩ none none none).1
  | .stripe => (recharge env db topUp.tradeNo customer now none none).1
  | .creem => (rechargeCreem db topUp.tradeNo customer now none none).1
  | .waffo => (rechargeWaffo env db topUp.tradeNo now none none).1
  | .waffoPancake => (rechargeWaffoPancake env db topUp.tradeNo now none none).1
  | .balance => db

end NewApi
