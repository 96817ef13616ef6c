import NewApi.Tasks.Repricing
import NewApi.Theorems.GroupPricing

/-!
# The ratio of a task's tokens

A task is sold at the ratio its user's group has for the group it uses. Its tokens are priced at the ratio the group it uses has for
itself: the user's group is not looked up again.
-/

namespace NewApi

/-- The ratio of the user's group for the group it used, special or not, is the ratio of the group for itself. -/
def RatiosAgree (st : PricingSettings) (userGroup used group : String) : Prop :=
  match st.getGroupGroupRatio userGroup used, st.getGroupGroupRatio group group with
  | some special, some own => own = special
  | some special, none => st.getGroupRatio group = special
  | none, some own => own = st.getGroupRatio used
  | none, none => st.getGroupRatio group = st.getGroupRatio used

/-- The tokens of a task are priced at the ratio it was sold at exactly when the two look-ups agree: the user's group for the group that
was used, and that group for itself. -/
theorem token_ratio_iff (st : PricingSettings) (r : RelayPricing) (otherRatios : List ℚ) (modelName : String)
    (modelRatio : String → ℚ × Bool) (rowGroup : Option String) (totalTokens : Int) (ratio : ℚ) (actualQuota : Int)
    (h : (r.sellTask st otherRatios modelName).recalculateByTokens st modelRatio rowGroup totalTokens = some (ratio, actualQuota)) :
    ratio = (r.sellTask st otherRatios modelName).groupRatio ↔
      RatiosAgree st r.userGroup (r.autoGroup.getD r.usingGroup) (repricedGroup (r.autoGroup.getD r.usingGroup) rowGroup) := by
  have hratio : ratio = st.ratioOf (repricedGroup (r.autoGroup.getD r.usingGroup) rowGroup)
      (repricedGroup (r.autoGroup.getD r.usingGroup) rowGroup) := by
    unfold SoldTask.recalculateByTokens at h
    simp only at h
    split at h
    · cases h
    · cases h
      rfl
  rw [hratio]
  show st.ratioOf _ _ = st.ratioOf r.userGroup (r.autoGroup.getD r.usingGroup) ↔ _
  unfold PricingSettings.ratioOf RatiosAgree
  generalize repricedGroup (r.autoGroup.getD r.usingGroup) rowGroup = group
  cases st.getGroupGroupRatio r.userGroup (r.autoGroup.getD r.usingGroup) with
  | some _ | none =>
    cases st.getGroupGroupRatio group group with
    | some _ | none => exact Iff.rfl

namespace TaskRepricingAux

/-- Every group has the ratio 1, and the group vip has the group default at half price. -/
def vipAtHalf : PricingSettings := { GroupPricingAux.twoGroups with
  groupRatioMap := fun _ => some 1
  groupGroupRatioMap := fun group => if group = "vip" then some fun used => if used = "default" then some (1 / 2) else none else none }

def defaultRequest (userGroup : String) : RelayPricing :=
  { GroupPricingAux.autoRequest with userGroup := userGroup, usingGroup := "default", autoGroup := none }

def ratioTwo : String → ℚ × Bool := fun _ => (2, true)

end TaskRepricingAux

open TaskRepricingAux

/-- The task of a user of vip is sold at half price, and its 100000 tokens are priced in full, at 200000. -/
theorem vip_task_repriced_in_full :
    let task := (defaultRequest "vip").sellTask vipAtHalf [] "video-1"
    task.recalculateByTokens vipAtHalf ratioTwo (some "vip") 100000 = some (1, 200000) ∧
      ¬ ∀ ratio actualQuota, task.recalculateByTokens vipAtHalf ratioTwo (some "vip") 100000 = some (ratio, actualQuota) →
        ratio = task.groupRatio := by
  intro task
  have hpriced : task.recalculateByTokens vipAtHalf ratioTwo (some "vip") 100000 = some (1, 200000) := by decide +kernel
  have hhalf : task.groupRatio ≠ 1 := by decide +kernel
  exact ⟨hpriced, fun h => hhalf (h 1 200000 hpriced).symm⟩

theorem token_ratio_iff_sample : (1 : ℚ) = ((defaultRequest "default").sellTask vipAtHalf [] "video-1").groupRatio :=
  (token_ratio_iff vipAtHalf (defaultRequest "default") [] "video-1" ratioTwo none 100000 1 200000 (by decide +kernel)).2
    (by unfold RatiosAgree; rfl)

end NewApi
