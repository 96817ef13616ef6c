import Mathlib.Data.List.Sort
import NewApi.Model.Purchase

/-!
# The group a subscription puts its user in

`model/subscription.go`, on the rows of one user. Who subscribes to a plan that names a group is moved there, and the subscription keeps
the group it moved the user from, or nothing where it did not. Three routines end a subscription and may move the user back, each in one
transaction: the job that expires what is due (`ExpireDueSubscriptions`, in batches, which may not reach this user), and an administrator
who invalidates or deletes one.

A run carries the group the user held before the first upgrade of those that overlap.
-/

namespace NewApi

open Tables

/-- The user's group and subscriptions, and the last id the database gave. -/
structure GroupDb where
  group : String
  subs : Table (fun s : PurchasedSubscription => s.id)
  nextId : Nat

variable (env : PurchaseEnv)

def createUserSubscriptionFromPlan (userId : Int) (plan : PurchasePlan) (source : String) (now : Int)
    (db : GroupDb) : Except String GroupDb :=
  if plan.id = 0 then .error "invalid plan"
  else if userId ≤ 0 then .error "invalid user id"
  else if 0 < plan.maxPurchasePerUser ∧ plan.maxPurchasePerUser ≤ db.subs.rows.countP (fun s => s.planId = plan.id) then
    .error "已达到该套餐购买上限"
  else match Machine.calcPlanEndTime env (now * Machine.second) plan with
    | .error e => .error e
    | .ok endUnix =>
      let upgradeGroup := Text.trimSpace plan.upgradeGroup
      let regroup : Bool := upgradeGroup ≠ "" && db.group ≠ upgradeGroup
      match db.subs.insert (newSubscription env db.nextId userId plan source now endUnix (if regroup then db.group else "")) with
      | none => .error "UNIQUE constraint failed: user_subscriptions.id"
      | some subs => .ok ⟨if regroup then upgradeGroup else db.group, subs, db.nextId + 1⟩

/-- The subscription is active, has not ended at `now`, and came with a group. -/
def PurchasedSubscription.upgrades (now : Int) (s : PurchasedSubscription) : Bool :=
  s.status = "active" && now < s.endTime && s.upgradeGroup ≠ ""

/-- The user has an active unexpired subscription with a group. -/
def GroupDb.upgraded (db : GroupDb) (now : Int) : Bool := db.subs.rows.any (·.upgrades now)

/-- The user's group after `downgradeUserGroupForSubscriptionTx` for a subscription that ends. -/
def downgradeUserGroupForSubscription (db : GroupDb) (sub : PurchasedSubscription) (now : Int) : String :=
  let downgradeGroup := Text.trimSpace sub.downgradeGroup
  let upgradeGroup := Text.trimSpace sub.upgradeGroup
  if downgradeGroup = "" ∧ upgradeGroup = "" then db.group
  else if db.subs.rows.any (fun s => s.id ≠ sub.id && s.upgrades now) then db.group
  else if downgradeGroup ≠ "" then downgradeGroup
  else if db.group ≠ upgradeGroup then db.group
  else if Text.trimSpace sub.prevUserGroup = "" then db.group
  else Text.trimSpace sub.prevUserGroup

def PurchasedSubscription.cancel (now : Int) (s : PurchasedSubscription) : PurchasedSubscription :=
  { s with status := "cancelled", endTime := now }

/-- The subscription that an administrator names. -/
def namedSubscription (id : Int) (db : GroupDb) : Except String PurchasedSubscription :=
  if id ≤ 0 then .error "invalid userSubscriptionId" else (db.subs.lookup id).elim (.error recordNotFound) .ok

def adminInvalidateUserSubscription (id now : Int) (db : GroupDb) : Except String GroupDb :=
  (namedSubscription id db).map fun sub =>
    let db := { db with subs := db.subs.save (sub.cancel now) }
    { db with group := downgradeUserGroupForSubscription db sub now }

def adminDeleteUserSubscription (id now : Int) (db : GroupDb) : Except String GroupDb :=
  (namedSubscription id db).map fun sub =>
    { db with group := downgradeUserGroupForSubscription db sub now, subs := db.subs.remove id }

/-! ## The job -/

def PurchasedSubscription.due (now : Int) (s : PurchasedSubscription) : Bool :=
  s.status = "active" && 0 < s.endTime && s.endTime ≤ now

def PurchasedSubscription.expire (now : Int) (s : PurchasedSubscription) : PurchasedSubscription :=
  if s.due now then { s with status := "expired" } else s

theorem PurchasedSubscription.expire_id (now : Int) (s : PurchasedSubscription) : (s.expire now).id = s.id := by
  unfold PurchasedSubscription.expire
  split <;> rfl

/-- The order of the job's query: by end time, then by id, the last one first. -/
def endsAfter (a b : PurchasedSubscription) : Prop := b.endTime < a.endTime ∨ (b.endTime = a.endTime ∧ b.id ≤ a.id)

instance : DecidableRel endsAfter := fun _ _ => inferInstanceAs (Decidable (_ ∨ _))

/-- The expired subscription that ended last, of those that came with a group or name one to fall to. -/
def lastExpired (rows : List PurchasedSubscription) : Option PurchasedSubscription :=
  ((rows.filter fun s => s.status = "expired" && (s.downgradeGroup ≠ "" || s.upgradeGroup ≠ "")).insertionSort endsAfter).head?

/-- The user's group after the subscription that ended last, where none upgrades the user any more. -/
def expiredGroup (group : String) (last : PurchasedSubscription) : String :=
  let target := Text.trimSpace last.downgradeGroup
  let upgradeGroup := Text.trimSpace last.upgradeGroup
  let prevGroup := Text.trimSpace last.prevUserGroup
  if target ≠ "" then target
  else if upgradeGroup = "" ∨ prevGroup = "" then group
  else if group ≠ upgradeGroup then group
  else prevGroup

/-- `ExpireDueSubscriptions` for the user, where the batch reaches them. -/
def expireDueSubscriptions (now : Int) (reached : Bool) (db : GroupDb) : GroupDb :=
  if reached = false ∨ db.subs.rows.any (·.due now) = false then db
  else
    let subs := db.subs.modify (·.expire now) (PurchasedSubscription.expire_id now)
    if subs.rows.any (·.upgrades now) then { db with subs := subs }
    else match lastExpired subs.rows with
      | none => { db with subs := subs }
      | some last => { db with subs := subs, group := expiredGroup db.group last }

/-! ## Runs -/

inductive GroupOp where
  | create (plan : PurchasePlan) (source : String)
  | expire (reached : Bool)
  | invalidate (id : Int)
  | delete (id : Int)

structure GroupEvent where
  now : Int
  op : GroupOp

def GroupOp.ends : GroupOp → Bool
  | .create _ _ => false
  | .expire _ | .invalidate _ | .delete _ => true

/-- What the call makes of the rows; a call that fails is rolled back. -/
def groupCall (userId : Int) (e : GroupEvent) (db : GroupDb) : Except String GroupDb :=
  match e.op with
  | .create plan source => createUserSubscriptionFromPlan env userId plan source e.now db
  | .expire reached => .ok (expireDueSubscriptions e.now reached db)
  | .invalidate id => adminInvalidateUserSubscription id e.now db
  | .delete id => adminDeleteUserSubscription id e.now db

/-- The rows, the group held before the first of the overlapping upgrades, and the time of the last call. -/
structure GroupRun where
  db : GroupDb
  origin : String
  clock : Int

/-- The group before the first of the overlapping upgrades, after a call that went through: an upgrade that meets no other starts
anew. -/
def nextOrigin (e : GroupEvent) (r : GroupRun) : String :=
  match e.op with
  | .create plan _ => if Text.trimSpace plan.upgradeGroup ≠ "" ∧ r.db.upgraded e.now = false then r.db.group else r.origin
  | .expire _ | .invalidate _ | .delete _ => r.origin

def groupStep (userId : Int) (r : GroupRun) (e : GroupEvent) : GroupRun :=
  match groupCall env userId e r.db with
  | .error _ => { r with clock := e.now }
  | .ok db => ⟨db, nextOrigin e r, e.now⟩

def groupStart (group : String) : GroupRun := ⟨⟨group, Table.empty, 0⟩, group, 0⟩

/-- Times do not go back, and the plans come with a group and name none to fall to. -/
def GroupDomain (r : GroupRun) (e : GroupEvent) : Prop :=
  r.clock ≤ e.now ∧ match e.op with
    | .create plan _ => plan.upgradeGroup ≠ "" ∧ plan.downgradeGroup = ""
    | .expire _ | .invalidate _ | .delete _ => True

/-- The subscription is marked active and came with a group. -/
def PurchasedSubscription.Upgrade (s : PurchasedSubscription) : Prop := s.status = "active" ∧ s.upgradeGroup ≠ ""

/-- The plan has no end, which is an error, or ends after it starts. -/
def PurchasePlan.EndsLater (now : Int) (plan : PurchasePlan) : Prop :=
  ∀ endUnix ∈ (Machine.calcPlanEndTime env (now * Machine.second) plan).toOption, now < endUnix

/-- What each call must meet: a plan is bought while no upgrade is active, and ends after it starts; the job reaches the user; and an
administrator ends a subscription only when every other upgrade that is still marked active has not ended. -/
def AloneStep (r : GroupRun) (e : GroupEvent) : Prop :=
  match e.op with
  | .create plan _ => plan.EndsLater env e.now ∧ ∀ s ∈ r.db.subs.rows, ¬s.Upgrade
  | .expire reached => reached = true
  | .invalidate id | .delete id => ∀ s ∈ r.db.subs.rows, s.Upgrade → s.id = id ∨ e.now < s.endTime

instance (s : PurchasedSubscription) : Decidable s.Upgrade := inferInstanceAs (Decidable (_ ∧ _))

instance (r : GroupRun) : (e : GroupEvent) → Decidable (GroupDomain r e)
  | ⟨_, .create _ _⟩ => inferInstanceAs (Decidable (_ ∧ (_ ∧ _)))
  | ⟨_, .expire _⟩ | ⟨_, .invalidate _⟩ | ⟨_, .delete _⟩ => inferInstanceAs (Decidable (_ ∧ True))

instance (env : PurchaseEnv) (now : Int) (plan : PurchasePlan) : Decidable (plan.EndsLater env now) :=
  inferInstanceAs (Decidable (∀ endUnix ∈ (Machine.calcPlanEndTime env (now * Machine.second) plan).toOption, now < endUnix))

instance (env : PurchaseEnv) (r : GroupRun) : (e : GroupEvent) → Decidable (AloneStep env r e)
  | ⟨now, .create plan _⟩ => inferInstanceAs (Decidable (plan.EndsLater env now ∧ ∀ s ∈ r.db.subs.rows, ¬s.Upgrade))
  | ⟨_, .expire reached⟩ => inferInstanceAs (Decidable (reached = true))
  | ⟨now, .invalidate id⟩ | ⟨now, .delete id⟩ =>
    inferInstanceAs (Decidable (∀ s ∈ r.db.subs.rows, s.Upgrade → s.id = id ∨ now < s.endTime))

end NewApi
