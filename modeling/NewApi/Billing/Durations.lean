import NewApi.Model.Purchase

/-!
# How long a plan should last

The end of a plan in exact seconds: what `calcPlanEndTime` computes as long as its durations fit into a word.
-/

namespace NewApi

/-- The end of a plan, start and end in seconds. -/
def calcPlanEndTime (env : PurchaseEnv) (start : Int) (plan : PurchasePlan) : Except String Int :=
  if plan.durationValue ≤ 0 ∧ plan.durationUnit ≠ "custom" then .error "duration_value must be > 0"
  else match plan.durationUnit with
    | "year" => .ok (env.addDate start plan.durationValue 0)
    | "month" => .ok (env.addDate start 0 plan.durationValue)
    | "day" => .ok (start + plan.durationValue * 86400)
    | "hour" => .ok (start + plan.durationValue * 3600)
    | "custom" => if plan.customSeconds ≤ 0 then .error "custom_seconds must be > 0" else .ok (start + plan.customSeconds)
    | unit => .error ("invalid duration_unit: " ++ unit)

end NewApi
