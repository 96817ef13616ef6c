import NewApi.Theorems.UserGroup

/-!
# What the expiry of a subscription does to its user's group

`ExpireDueSubscriptions` looks for the subscription that ended last among all that have expired, not among those it expires. So a turn
that expires only subscriptions without a group still applies the last of the earlier ones, over whatever group the user was given since.
-/

namespace NewApi

open Tables

/-- The subscription says that a user of the group is to be moved: it names another group to fall to, or it names none and the user is
in the group it came with and was in another before. -/
def PurchasedSubscription.Moves (group : String) (s : PurchasedSubscription) : Prop :=
  (Text.trimSpace s.downgradeGroup ≠ "" ∧ Text.trimSpace s.downgradeGroup ≠ group) ∨
    (Text.trimSpace s.downgradeGroup = "" ∧ Text.trimSpace s.upgradeGroup ≠ "" ∧ Text.trimSpace s.prevUserGroup ≠ "" ∧
      group = Text.trimSpace s.upgradeGroup ∧ Text.trimSpace s.prevUserGroup ≠ group)

namespace GroupAux

variable {now : Int} {rows : List PurchasedSubscription}

/-- The job keeps the group exactly where the last subscription moves nobody. -/
theorem expiredGroup_eq_iff {group : String} {last : PurchasedSubscription} : expiredGroup group last = group ↔ ¬last.Moves group := by
  unfold expiredGroup PurchasedSubscription.Moves
  simp only
  split
  · rename_i htarget
    simp [htarget]
  rename_i htarget
  split
  · rename_i hnone
    rcases hnone with hnone | hnone <;> simp [not_not.1 htarget, hnone]
  rename_i hsome
  obtain ⟨hup, hprev⟩ := not_or.1 hsome
  split
  · rename_i hother
    simp [not_not.1 htarget, hother]
  · rename_i hsame
    simp [not_not.1 htarget, hup, hprev, not_not.1 hsame]

theorem upgrades_expire (s : PurchasedSubscription) : (s.expire now).upgrades now = s.upgrades now := by
  rcases expire_cases with ⟨hdue, heq⟩ | ⟨-, heq⟩
  · obtain ⟨-, hend⟩ := due_past hdue
    have hnot : decide (now < s.endTime) = false := decide_eq_false (not_lt.2 hend)
    rw [heq]
    simp [PurchasedSubscription.upgrades, hnot]
  · rw [heq]

/-- Where nothing that is due has a group, the last that ended is among those that had expired before. -/
theorem lastExpired_expire (h : ∀ s ∈ rows, s.due now = true → s.upgradeGroup = "" ∧ s.downgradeGroup = "") :
    lastExpired (rows.map (·.expire now)) = lastExpired rows := by
  have hfilter : (rows.map (·.expire now)).filter (fun s => s.status = "expired" && (s.downgradeGroup ≠ "" || s.upgradeGroup ≠ "")) =
      rows.filter fun s => s.status = "expired" && (s.downgradeGroup ≠ "" || s.upgradeGroup ≠ "") := by
    induction rows with
    | nil => rfl
    | cons s rest ih =>
      have hrest := ih fun x hx => h x (List.mem_cons_of_mem s hx)
      rw [List.map_cons]
      rcases expire_cases with ⟨hdue, heq⟩ | ⟨-, heq⟩
      · -- a row that is due was active before and has no group after
        obtain ⟨hup, hdown⟩ := h s (List.mem_cons_self ..) hdue
        obtain ⟨hactive, -⟩ := due_past hdue
        rw [heq, List.filter_cons_of_neg (by simp [hup, hdown]), List.filter_cons_of_neg (by simp [hactive]), hrest]
      · rw [heq, List.filter_cons, List.filter_cons, hrest]
  unfold lastExpired
  rw [hfilter]

end GroupAux

open GroupAux

/-- A turn of the job that expires only subscriptions without a group leaves the user's group as it is exactly when it does not reach
the user or finds nothing due, or an upgrade is still active, or the subscription that had ended last, of those expired before, does not
move the user. -/
theorem expiry_keeps_group_iff (now : Int) (reached : Bool) (db : GroupDb)
    (hplain : ∀ s ∈ db.subs.rows, s.due now = true → s.upgradeGroup = "" ∧ s.downgradeGroup = "") :
    (expireDueSubscriptions now reached db).group = db.group ↔
      reached = false ∨ (∀ s ∈ db.subs.rows, s.due now = false) ∨ db.upgraded now = true ∨
        ∀ last, lastExpired db.subs.rows = some last → ¬last.Moves db.group := by
  have hrows : (db.subs.modify (·.expire now) (PurchasedSubscription.expire_id now)).rows = db.subs.rows.map (·.expire now) := rfl
  have hany : (db.subs.rows.map (·.expire now)).any (·.upgrades now) = db.upgraded now := by
    rw [List.any_map]
    exact congrArg (db.subs.rows.any ·) (funext upgrades_expire)
  have hnodue : db.subs.rows.any (·.due now) = false ↔ ∀ s ∈ db.subs.rows, s.due now = false := by simp
  unfold expireDueSubscriptions
  split
  · rename_i hidle
    rw [hnodue] at hidle
    rcases hidle with hreached | hdue
    · simp [hreached]
    · simp only [true_iff]
      exact .inr (.inl hdue)
  · rename_i hbusy
    rw [hnodue] at hbusy
    obtain ⟨hreached, hdue⟩ := not_or.1 hbusy
    simp only [hrows, hany, lastExpired_expire hplain, hreached, hdue, false_or]
    split
    · rename_i hup
      simp [hup]
    rename_i hup
    cases hlast : lastExpired db.subs.rows with
    | none => simp
    | some last => simp [hup, expiredGroup_eq_iff]

namespace GroupAux

/-- A subscription with the group it falls to, its end and its status; the amounts do not matter here. -/
def endingSub (id endTime : Int) (hid : 0 < id) (status downgradeGroup : String) : PurchasedSubscription :=
  { id := id, userId := 1, planId := 1, amountTotal := 0, amountUsed := id, startTime := 0, endTime := endTime, status := status
    lastResetTime := 0, nextResetTime := 0, allowWalletOverflow := false, id_pos := hid, used_nonneg := Int.le_of_lt hid
    source := "order", upgradeGroup := "", prevUserGroup := "", downgradeGroup := downgradeGroup }

/-- A user of the group, with a subscription that has expired and falls to "default", and one without a group that ends at 200. -/
def regrouped (group : String) : GroupDb :=
  ⟨group, ⟨[endingSub 1 100 (by decide) "expired" "default", endingSub 2 200 (by decide) "active" ""], by decide⟩, 2⟩

end GroupAux

/-- An administrator has put the user in "vip" since; when a subscription without a group expires, the user is back in "default". -/
theorem plain_expiry_moves_user :
    (∀ s ∈ (regrouped "vip").subs.rows, s.due 200 = true → s.upgradeGroup = "" ∧ s.downgradeGroup = "") ∧
      (regrouped "vip").group = "vip" ∧ (expireDueSubscriptions 200 true (regrouped "vip")).group = "default" := by
  decide

theorem expiry_keeps_group_iff_sample : (expireDueSubscriptions 200 true (regrouped "default")).group = "default" :=
  (expiry_keeps_group_iff 200 true (regrouped "default") (by decide)).2 (.inr (.inr (.inr (by
    intro last hlast
    cases hlast
    unfold PurchasedSubscription.Moves
    decide))))

end NewApi
