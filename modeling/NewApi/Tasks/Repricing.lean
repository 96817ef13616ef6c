import NewApi.Relay.GroupPricing

/-!
# Repricing a task by its tokens

A task is sold at the ratio `HandleGroupRatio` gives, which `RelayTask` stores with it (`controller/relay.go`), and is priced again by
its tokens when it is done (`RecalculateTaskQuotaByTokens`, `service/task_billing.go`).
-/

namespace NewApi

open Rounding

/-- A task as `RelayTask` stores it, as far as a repricing reads it. -/
structure SoldTask where
  group : String
  /-- `GroupRatio` of the billing context. -/
  groupRatio : ℚ
  /-- `OtherRatios` of the billing context, as its map is visited. -/
  otherRatios : List ℚ
  /-- `taskModelName`. -/
  modelName : String

/-- The task a request is sold, with the ratio `HandleGroupRatio` gives and the group it leaves in use. -/
def RelayPricing.sellTask (st : PricingSettings) (otherRatios : List ℚ) (modelName : String) (r : RelayPricing) : SoldTask :=
  ⟨(r.handleGroupRatio st).1.usingGroup, (r.handleGroupRatio st).2, otherRatios, modelName⟩

/-- The group a task is repriced in: its own, or that on the user's row where it has none. -/
def repricedGroup (used : String) (rowGroup : Option String) : String := if used = "" then rowGroup.getD "" else used

/-- `RecalculateTaskQuotaByTokens`: the ratio it applies and the quota it comes to, where it reprices the task. `modelRatio` is
`GetModelRatio`, the ratio and whether it is set, and `rowGroup` the group of the user where `GetUserById` finds one. -/
def SoldTask.recalculateByTokens (st : PricingSettings) (modelRatio : String → ℚ × Bool) (rowGroup : Option String) (totalTokens : Int)
    (task : SoldTask) : Option (ℚ × Int) :=
  let (ratio, hasRatioSetting) := modelRatio task.modelName
  let group := repricedGroup task.group rowGroup
  if totalTokens ≤ 0 ∨ hasRatioSetting = false ∨ ratio ≤ 0 ∨ group = "" then none
  else
    let finalGroupRatio := match st.getGroupGroupRatio group group with
      | some special => special
      | none => st.getGroupRatio group
    let otherMultiplier := task.otherRatios.foldl (fun (x : ℚ) r => if r ≠ 1 ∧ 0 < r then x * r else x) 1
    some (finalGroupRatio, trunc (totalTokens * ratio * finalGroupRatio * otherMultiplier))

end NewApi
