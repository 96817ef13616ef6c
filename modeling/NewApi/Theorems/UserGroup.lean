import NewApi.Model.UserGroup

/-!
# The group a user returns to

A subscription remembers only the group it moved its user from. Where a second one is bought while the first runs, that is the first one's
group, or nothing where both are for one group, and the end of the second leaves the user there (`overlap_keeps_group`). Where upgrades do
not overlap the user does return (`group_returns`).
-/

namespace NewApi

open Tables Run

namespace GroupAux

variable {g source : String} {now id userId : Int} {db db' : GroupDb} {a last s sub : PurchasedSubscription} {env : PurchaseEnv}
  {plan : PurchasePlan} {r : GroupRun} {rows : List PurchasedSubscription}

/-! ## A subscription and the group it returns to -/

/-- A subscription of a user whose own group is `g`: it came with no group to fall to, and where it came with one to rise to it keeps
`g`, or nothing where the user was there already. -/
structure Shaped (g : String) (s : PurchasedSubscription) : Prop where
  downgrade : s.downgradeGroup = ""
  trimmed : Text.trimSpace s.upgradeGroup = s.upgradeGroup
  prev : s.upgradeGroup ≠ "" →
    (s.prevUserGroup = g ∧ s.upgradeGroup ≠ g) ∨ (s.prevUserGroup = "" ∧ s.upgradeGroup = g)

/-- The user's own group can be told from none, and is kept as it is written. -/
structure Proper (g : String) : Prop where
  nonempty : g ≠ ""
  trimmed : Text.trimSpace g = g

theorem trim_empty : Text.trimSpace "" = "" := by decide

/-- The user's group is their own, or that of the subscription. -/
def InReach (g : String) (s : PurchasedSubscription) (group : String) : Prop :=
  group = g ∨ (s.upgradeGroup ≠ "" ∧ group = s.upgradeGroup)

/-- Where no other upgrade runs, an ending subscription brings the user to their own group. -/
theorem Shaped.downgrade_eq (hg : Proper g) (h : Shaped g sub)
    (hreach : InReach g sub db.group) (hnone : ∀ s ∈ db.subs.rows, s.id ≠ sub.id → s.upgrades now = false) :
    downgradeUserGroupForSubscription db sub now = g := by
  have hany : (db.subs.rows.any fun s => s.id ≠ sub.id && s.upgrades now) = false := by
    rw [List.any_eq_false]
    intro s hs
    simp only [Bool.and_eq_true, decide_eq_true_eq, not_and, Bool.not_eq_true]
    exact hnone s hs
  unfold downgradeUserGroupForSubscription
  simp only [h.downgrade, h.trimmed, trim_empty, hany, true_and, ne_eq, not_true_eq_false, if_false, Bool.false_eq_true]
  by_cases hup : sub.upgradeGroup = ""
  · rw [if_pos hup]
    rcases hreach with hown | ⟨hne, -⟩
    · exact hown
    · exact absurd hup hne
  · rw [if_neg hup]
    by_cases hgroup : db.group = sub.upgradeGroup
    · rw [if_neg (not_not.2 hgroup)]
      rcases h.prev hup with ⟨hprev, -⟩ | ⟨hprev, hown⟩
      · rw [hprev, hg.trimmed, if_neg hg.nonempty]
      · rw [hprev, trim_empty, if_pos rfl, hgroup, hown]
    · rw [if_pos hgroup]
      rcases hreach with hown | ⟨-, heq⟩
      · exact hown
      · exact absurd heq hgroup

theorem downgrade_keeps (ha : a ∈ db.subs.rows) (hne : a.id ≠ sub.id)
    (hruns : a.upgrades now = true) : downgradeUserGroupForSubscription db sub now = db.group := by
  have hany : (db.subs.rows.any fun s => s.id ≠ sub.id && s.upgrades now) = true := by
    rw [List.any_eq_true]
    exact ⟨a, ha, by simp [hne, hruns]⟩
  unfold downgradeUserGroupForSubscription
  simp only [hany, if_true, ite_self]

theorem Shaped.expiredGroup_eq {group : String} (hg : Proper g) (h : Shaped g last)
    (hreach : InReach g last group) : expiredGroup group last = g := by
  unfold expiredGroup
  simp only [h.downgrade, h.trimmed, trim_empty, ne_eq, not_true_eq_false, if_false]
  by_cases hup : last.upgradeGroup = ""
  · rw [if_pos (.inl hup)]
    rcases hreach with hown | ⟨hne, -⟩
    · exact hown
    · exact absurd hup hne
  · rcases h.prev hup with ⟨hprev, -⟩ | ⟨hprev, hown⟩
    · rw [hprev, hg.trimmed, if_neg (not_or.2 ⟨hup, hg.nonempty⟩)]
      rcases hreach with hgroup | ⟨-, hgroup⟩
      · split
        · exact hgroup
        · rfl
      · rw [if_neg (not_not.2 hgroup)]
    · rw [hprev, trim_empty, if_pos (.inr rfl)]
      rcases hreach with hgroup | ⟨-, hgroup⟩
      · exact hgroup
      · rw [hgroup, hown]

/-! ## The invariant -/

/-- No upgrade is active and the user is in their own group; or one is, and it will be the last to have ended. -/
inductive Phase (g : String) (db : GroupDb) : Prop
  | idle (hnone : ∀ s ∈ db.subs.rows, ¬s.Upgrade) (hgroup : db.group = g)
  | busy (a : PurchasedSubscription) (ha : a ∈ db.subs.rows) (hup : a.Upgrade) (hgroup : db.group = a.upgradeGroup)
      (hend : 0 < a.endTime) (hsole : ∀ s ∈ db.subs.rows, s.Upgrade → s.id = a.id)
      (hlast : ∀ s ∈ db.subs.rows, s.status = "expired" → s.upgradeGroup ≠ "" → s.endTime < a.endTime)

/-- The invariant of a run of a user whose own group is `g`. -/
structure GroupInv (g : String) (r : GroupRun) : Prop where
  origin : r.origin = g
  clock : 0 ≤ r.clock
  shaped : ∀ s ∈ r.db.subs.rows, Shaped g s
  past : ∀ s ∈ r.db.subs.rows, s.status = "expired" → s.endTime ≤ r.clock
  phase : Phase g r.db

/-- No upgrade that is marked active has ended. -/
def Current (now : Int) (db : GroupDb) : Prop := ∀ s ∈ db.subs.rows, s.Upgrade → now < s.endTime

theorem upgrades_of (hup : s.Upgrade) (hend : now < s.endTime) : s.upgrades now = true := by
  simp [PurchasedSubscription.upgrades, hup.1, hup.2, hend]

theorem upgrade_of_upgrades (h : s.upgrades now = true) : s.Upgrade ∧ now < s.endTime := by
  simp only [PurchasedSubscription.upgrades, Bool.and_eq_true, decide_eq_true_eq] at h
  exact ⟨⟨h.1.1, h.2⟩, h.1.2⟩

/-- Where all upgrades are current and none runs, the user is in their own group. -/
theorem Phase.group_eq (h : Phase g db) (hcurrent : Current now db) (hidle : db.upgraded now = false) : db.group = g := by
  cases h with
  | idle _ hgroup => exact hgroup
  | busy a ha hup =>
    have hruns : db.upgraded now = true := List.any_eq_true.2 ⟨a, ha, upgrades_of hup (hcurrent a ha hup)⟩
    rw [hruns] at hidle
    cases hidle

/-! ## A purchase -/

theorem create_ok (h : createUserSubscriptionFromPlan env userId plan source now db = .ok db') :
    ∃ endUnix regroup, Machine.calcPlanEndTime env (now * Machine.second) plan = .ok endUnix ∧
      (regroup = true ↔ Text.trimSpace plan.upgradeGroup ≠ "" ∧ db.group ≠ Text.trimSpace plan.upgradeGroup) ∧
      db.subs.insert (newSubscription env db.nextId userId plan source now endUnix (if regroup then db.group else "")) = some db'.subs ∧
      db'.group = if regroup then Text.trimSpace plan.upgradeGroup else db.group := by
  unfold createUserSubscriptionFromPlan at h
  split at h
  · cases h
  split at h
  · cases h
  split at h
  · cases h
  split at h
  · cases h
  rename_i endUnix hend
  simp only at h
  generalize hregroup : (decide (Text.trimSpace plan.upgradeGroup ≠ "") && decide (db.group ≠ Text.trimSpace plan.upgradeGroup)) =
    regroup at h
  split at h
  · cases h
  rename_i subs hinsert
  obtain rfl := Except.ok.inj h
  exact ⟨endUnix, regroup, hend, by simp [← hregroup], hinsert, rfl⟩

/-- What a purchase adds for a user in their own group: a subscription that is active and ends later, and its group. -/
structure Bought (g : String) (now : Int) (db db' : GroupDb) (sub : PurchasedSubscription) : Prop where
  rows : ∀ {s}, s ∈ db'.subs.rows ↔ s ∈ db.subs.rows ∨ s = sub
  active : sub.status = "active"
  endsLater : now < sub.endTime
  shaped : Shaped g sub
  group : db'.group = if sub.upgradeGroup = "" then g else sub.upgradeGroup

/-- What a purchase adds. -/
theorem create_bought (hlater : plan.EndsLater env now) (hgroup : db.group = g) (hplan : plan.downgradeGroup = "")
    (hok : createUserSubscriptionFromPlan env userId plan source now db = .ok db') : ∃ sub, Bought g now db db' sub := by
  obtain ⟨endUnix, regroup, hend, hregroup, hinsert, hgroup'⟩ := create_ok hok
  rw [hgroup] at hregroup hinsert hgroup'
  generalize hsub : newSubscription env db.nextId userId plan source now endUnix (if regroup then g else "") = sub at hinsert
  have hup : sub.upgradeGroup = Text.trimSpace plan.upgradeGroup := by rw [← hsub]; rfl
  have hprev : sub.prevUserGroup = if regroup then g else "" := by rw [← hsub]; rfl
  have hdown : sub.downgradeGroup = "" := by
    rw [← hsub]
    show Text.trimSpace plan.downgradeGroup = ""
    rw [hplan, trim_empty]
  rw [← hup] at hregroup hgroup'
  -- the user is moved unless the plan's group is none or their own
  have hstays : (sub.upgradeGroup = "" ∨ g = sub.upgradeGroup) → regroup = false := by
    intro hstay
    rw [← Bool.not_eq_true, hregroup]
    rintro ⟨hne, hother⟩
    exact hstay.elim hne hother
  refine ⟨sub, Table.mem_insert hinsert, by rw [← hsub]; rfl, ?_, ⟨hdown, by rw [hup, Text.trimSpace_idem], fun hne => ?_⟩, ?_⟩
  · rw [← hsub]
    exact hlater endUnix (by rw [hend]; rfl)
  · by_cases hown : g = sub.upgradeGroup
    · exact .inr ⟨by rw [hprev, hstays (.inr hown)]; rfl, hown.symm⟩
    · exact .inl ⟨by rw [hprev, hregroup.2 ⟨hne, hown⟩]; rfl, Ne.symm hown⟩
  · by_cases hne : sub.upgradeGroup = ""
    · rw [hgroup', hstays (.inl hne), if_pos hne]
      rfl
    rw [hgroup', if_neg hne]
    split
    · rfl
    rename_i hstay
    by_contra hown
    exact hstay (hregroup.2 ⟨hne, hown⟩)

/-- A purchase while no upgrade is active: the new subscription is the only upgrade, if it is one. -/
theorem GroupInv.create (hlater : plan.EndsLater env now) (h : GroupInv g r) (hclock : r.clock ≤ now) (hplan : plan.downgradeGroup = "")
    (hnone : ∀ s ∈ r.db.subs.rows, ¬s.Upgrade) (hok : createUserSubscriptionFromPlan env userId plan source now r.db = .ok db') :
    GroupInv g ⟨db', nextOrigin ⟨now, .create plan source⟩ r, now⟩ := by
  have hgroup : r.db.group = g := by
    cases h.phase with
    | idle _ hgroup => exact hgroup
    | busy a ha hup => exact absurd hup (hnone a ha)
  obtain ⟨sub, hbought⟩ := create_bought hlater hgroup hplan hok
  have hexpired : ∀ s ∈ db'.subs.rows, s.status = "expired" → s.endTime ≤ now := by
    intro s hs hstatus
    rcases hbought.rows.1 hs with hold | rfl
    · exact (h.past s hold hstatus).trans hclock
    · rw [hbought.active] at hstatus
      exact absurd hstatus (by decide)
  refine ⟨?_, h.clock.trans hclock, ?_, hexpired, ?_⟩
  · simp only [nextOrigin, hgroup, h.origin, ite_self]
  · intro s hs
    rcases hbought.rows.1 hs with hold | rfl
    · exact h.shaped s hold
    · exact hbought.shaped
  · by_cases hne : sub.upgradeGroup = ""
    · refine .idle ?_ (by rw [hbought.group, if_pos hne])
      intro s hs hupgrade
      rcases hbought.rows.1 hs with hold | rfl
      · exact hnone s hold hupgrade
      · exact hupgrade.2 hne
    · have hend := hbought.endsLater
      refine .busy sub (hbought.rows.2 (.inr rfl)) ⟨hbought.active, hne⟩ (by rw [hbought.group, if_neg hne]) ?_ ?_ ?_
      · have := h.clock
        omega
      · intro s hs hupgrade
        rcases hbought.rows.1 hs with hold | rfl
        · exact absurd hupgrade (hnone s hold)
        · rfl
      · intro s hs hstatus _
        have := hexpired s hs hstatus
        omega

/-! ## An administrator ends a subscription -/

/-- A subscription that was cancelled is as it was but for its status and end. -/
theorem Shaped.cancel (h : Shaped g s) : Shaped g (s.cancel now) := ⟨h.downgrade, h.trimmed, h.prev⟩

/-- The end of one subscription: the group is decided on the rows of the others, which stay as they are. -/
theorem GroupInv.ended (db₁ : GroupDb) (hg : Proper g) (h : GroupInv g r) (hclock : r.clock ≤ now)
    (hlookup : r.db.subs.lookup id = some sub) (hothers : ∀ s ∈ r.db.subs.rows, s.Upgrade → s.id = id ∨ now < s.endTime)
    (hgroup₁ : db₁.group = r.db.group)
    (hrows₁ : ∀ s, s.id ≠ sub.id → (s ∈ db₁.subs.rows ↔ s ∈ r.db.subs.rows))
    (hgroup' : db'.group = downgradeUserGroupForSubscription db₁ sub now) (hkept : ∀ s ∈ r.db.subs.rows, s.id ≠ sub.id → s ∈ db'.subs.rows)
    (hback : ∀ s ∈ db'.subs.rows, (s ∈ r.db.subs.rows ∧ s.id ≠ sub.id) ∨ s = sub.cancel now) :
    GroupInv g ⟨db', r.origin, now⟩ ∧ Current now db' := by
  have hsub := Table.mem_of_lookup hlookup
  obtain rfl : sub.id = id := Table.lookup_key (t := r.db.subs) hlookup
  have hupgrade : ∀ s ∈ db'.subs.rows, s.Upgrade → s ∈ r.db.subs.rows ∧ s.id ≠ sub.id := by
    intro s hs hup
    rcases hback s hs with hold | rfl
    · exact hold
    · exact absurd hup.1 (by decide : ¬("cancelled" = "active"))
  have hcurrent : Current now db' := by
    intro s hs hup
    obtain ⟨hold, hne⟩ := hupgrade s hs hup
    rcases hothers s hold hup with heq | hend
    · exact absurd heq hne
    · exact hend
  have hshaped : ∀ s ∈ db'.subs.rows, Shaped g s := by
    intro s hs
    rcases hback s hs with ⟨hold, -⟩ | rfl
    · exact h.shaped s hold
    · exact (h.shaped sub hsub).cancel
  have hexpired : ∀ s ∈ db'.subs.rows, s.status = "expired" → s ∈ r.db.subs.rows := by
    intro s hs hstatus
    rcases hback s hs with ⟨hold, -⟩ | rfl
    · exact hold
    · exact absurd hstatus (by decide : ¬("cancelled" = "expired"))
  have hreturn : (∀ s ∈ r.db.subs.rows, s.Upgrade → s.id = sub.id) → InReach g sub r.db.group → db'.group = g := by
    intro honly hreach
    rw [hgroup']
    refine (h.shaped sub hsub).downgrade_eq hg (hgroup₁ ▸ hreach) ?_
    intro s hs hne
    by_contra hruns
    rw [Bool.not_eq_false] at hruns
    exact hne (honly s ((hrows₁ s hne).1 hs) (upgrade_of_upgrades hruns).1)
  refine ⟨⟨h.origin, h.clock.trans hclock, hshaped, fun s hs hstatus => (h.past s (hexpired s hs hstatus) hstatus).trans hclock, ?_⟩,
    hcurrent⟩
  cases h.phase with
  | idle hnone hgroup =>
    refine .idle (fun s hs hup => hnone s (hupgrade s hs hup).1 hup) ?_
    exact hreturn (fun s hs hup => absurd hup (hnone s hs)) (.inl hgroup)
  | busy a ha hup hgroup hend hsole hlast =>
    by_cases heq : a.id = sub.id
    · have hasub : a = sub := Table.eq_of_key_eq ha hsub heq
      subst hasub
      refine .idle (fun s hs hup' => ?_) (hreturn hsole (.inr ⟨hup.2, hgroup⟩))
      obtain ⟨hold, hne⟩ := hupgrade s hs hup'
      exact hne (hsole s hold hup')
    · have hruns : a.upgrades now = true := by
        rcases hothers a ha hup with hid | hlater
        · exact absurd hid heq
        · exact upgrades_of hup hlater
      have hstays : db'.group = a.upgradeGroup := by
        rw [hgroup', downgrade_keeps ((hrows₁ a heq).2 ha) heq hruns, hgroup₁, hgroup]
      refine .busy a (hkept a ha heq) hup hstays hend (fun s hs hup' => hsole s (hupgrade s hs hup').1 hup') ?_
      intro s hs hstatus
      exact hlast s (hexpired s hs hstatus) hstatus

/-- A call that fails changes nothing; it was about no subscription of the user. -/
theorem GroupInv.unchanged (h : GroupInv g r) (hclock : r.clock ≤ now) : GroupInv g { r with clock := now } :=
  ⟨h.origin, h.clock.trans hclock, h.shaped, fun s hs hstatus => (h.past s hs hstatus).trans hclock, h.phase⟩

theorem namedSubscription_cases :
    (id ≤ 0 ∨ db.subs.lookup id = none) ∧ (∃ msg, namedSubscription id db = .error msg) ∨
      ∃ sub, db.subs.lookup id = some sub ∧ namedSubscription id db = .ok sub := by
  unfold namedSubscription
  by_cases hneg : id ≤ 0
  · exact .inl ⟨.inl hneg, _, if_pos hneg⟩
  rw [if_neg hneg]
  cases db.subs.lookup id with
  | none => exact .inl ⟨.inr rfl, _, rfl⟩
  | some sub => exact .inr ⟨sub, rfl, rfl⟩

/-- A call of an administrator that fails names no subscription of the user: no upgrade has ended. -/
theorem current_of_not_found (hlookup : id ≤ 0 ∨ db.subs.lookup id = none)
    (hothers : ∀ s ∈ db.subs.rows, s.Upgrade → s.id = id ∨ now < s.endTime) : Current now db := by
  intro s hs hup
  rcases hothers s hs hup with rfl | hend
  · rcases hlookup with hneg | hnone
    · exact absurd s.id_pos (not_lt.2 hneg)
    · rw [Table.lookup_of_mem hs] at hnone
      cases hnone
  · exact hend

/-- An invalidation keeps the invariant. -/
theorem GroupInv.invalidate (hg : Proper g) (h : GroupInv g r) (hclock : r.clock ≤ now)
    (hothers : ∀ s ∈ r.db.subs.rows, s.Upgrade → s.id = id ∨ now < s.endTime) :
    GroupInv g (groupStep env userId r ⟨now, .invalidate id⟩) ∧ Current now (groupStep env userId r ⟨now, .invalidate id⟩).db := by
  simp only [groupStep, groupCall, adminInvalidateUserSubscription]
  rcases namedSubscription_cases with ⟨hnone, msg, herr⟩ | ⟨sub, hlookup, hok⟩
  · rw [herr]
    exact ⟨h.unchanged hclock, current_of_not_found hnone hothers⟩
  rw [hok]
  refine h.ended { r.db with subs := r.db.subs.save (sub.cancel now) } hg hclock hlookup hothers rfl ?_ rfl ?_ ?_
  · intro s hne
    constructor
    · intro hs
      rcases Table.mem_save hs with rfl | ⟨hold, -⟩
      · exact absurd rfl hne
      · exact hold
    · intro hs
      exact Table.mem_save_of_ne hs hne
  · intro s hs hne
    exact Table.mem_save_of_ne hs hne
  · intro s hs
    rcases Table.mem_save hs with rfl | hold
    · exact .inr rfl
    · exact .inl hold

/-- So does a deletion. -/
theorem GroupInv.delete (hg : Proper g) (h : GroupInv g r) (hclock : r.clock ≤ now)
    (hothers : ∀ s ∈ r.db.subs.rows, s.Upgrade → s.id = id ∨ now < s.endTime) :
    GroupInv g (groupStep env userId r ⟨now, .delete id⟩) ∧ Current now (groupStep env userId r ⟨now, .delete id⟩).db := by
  simp only [groupStep, groupCall, adminDeleteUserSubscription]
  rcases namedSubscription_cases with ⟨hnone, msg, herr⟩ | ⟨sub, hlookup, hok⟩
  · rw [herr]
    exact ⟨h.unchanged hclock, current_of_not_found hnone hothers⟩
  rw [hok]
  obtain rfl : sub.id = id := Table.lookup_key (t := r.db.subs) hlookup
  refine h.ended r.db hg hclock hlookup hothers rfl (fun _ _ => Iff.rfl) rfl ?_ ?_
  · intro s hs hne
    exact Table.mem_remove.2 ⟨hs, hne⟩
  · intro s hs
    exact .inl (Table.mem_remove.1 hs)

/-! ## The job -/

instance : Std.Total endsAfter := ⟨fun a b => by unfold endsAfter; omega⟩

instance : IsTrans PurchasedSubscription endsAfter := ⟨fun a b c hab hbc => by unfold endsAfter at *; omega⟩

/-- A subscription the job's last query looks at. -/
def Candidate (s : PurchasedSubscription) : Prop := s.status = "expired" ∧ (s.downgradeGroup ≠ "" ∨ s.upgradeGroup ≠ "")

/-- The last query finds a candidate that no other ends after. -/
theorem lastExpired_some (h : lastExpired rows = some last) :
    last ∈ rows ∧ Candidate last ∧ ∀ s ∈ rows, Candidate s → s = last ∨ endsAfter last s := by
  obtain ⟨tail, htail⟩ := List.head?_eq_some_iff.1 h
  have hmem : ∀ s, s ∈ last :: tail ↔ s ∈ rows ∧ Candidate s := by
    intro s
    rw [← htail, List.mem_insertionSort, List.mem_filter]
    simp [Candidate]
  have hsorted := List.pairwise_insertionSort endsAfter
    (rows.filter fun s => s.status = "expired" && (s.downgradeGroup ≠ "" || s.upgradeGroup ≠ ""))
  rw [htail, List.pairwise_cons] at hsorted
  obtain ⟨hlast, hcandidate⟩ := (hmem last).1 List.mem_cons_self
  refine ⟨hlast, hcandidate, fun s hs hs' => ?_⟩
  rcases List.mem_cons.1 ((hmem s).2 ⟨hs, hs'⟩) with rfl | hrest
  · exact .inl rfl
  · exact .inr (hsorted.1 s hrest)

theorem lastExpired_none (h : lastExpired rows = none) : ∀ s ∈ rows, ¬Candidate s := by
  intro s hs hcandidate
  have hempty := List.head?_eq_none_iff.1 h
  have hmem : s ∈ (rows.filter fun s => s.status = "expired" && (s.downgradeGroup ≠ "" || s.upgradeGroup ≠ "")).insertionSort
      endsAfter := by
    rw [List.mem_insertionSort, List.mem_filter]
    exact ⟨hs, by simpa [Candidate] using hcandidate⟩
  rw [hempty] at hmem
  cases hmem

theorem expire_cases : (s.due now = true ∧ s.expire now = { s with status := "expired" }) ∨ (s.due now = false ∧ s.expire now = s) := by
  cases hdue : s.due now with
  | true => exact .inl ⟨rfl, if_pos hdue⟩
  | false =>
    refine .inr ⟨rfl, if_neg ?_⟩
    rw [hdue]
    exact Bool.false_ne_true

theorem Shaped.expire (h : Shaped g s) : Shaped g (s.expire now) := by
  rcases expire_cases with ⟨-, heq⟩ | ⟨-, heq⟩
  · rw [heq]
    exact ⟨h.downgrade, h.trimmed, h.prev⟩
  · rw [heq]
    exact h

theorem upgrade_expire (h : (s.expire now).Upgrade) : s.expire now = s ∧ s.due now = false := by
  rcases expire_cases with ⟨-, heq⟩ | ⟨hdue, heq⟩
  · rw [heq] at h
    exact absurd h.1 (by decide : ¬("expired" = "active"))
  · exact ⟨heq, hdue⟩

theorem not_due_iff (hup : s.Upgrade) (hend : 0 < s.endTime) : s.due now = false ↔ now < s.endTime := by
  simp [PurchasedSubscription.due, hup.1, hend]

theorem due_past (h : s.due now = true) : s.status = "active" ∧ s.endTime ≤ now := by
  simp only [PurchasedSubscription.due, Bool.and_eq_true, decide_eq_true_eq] at h
  exact ⟨h.1.1, h.2⟩

/-- What holds of the rows after the job, whatever the group: each comes from a row of before. -/
theorem GroupInv.expired_rows (h : GroupInv g r) (hclock : r.clock ≤ now) {s' : PurchasedSubscription}
    (hs' : s' ∈ (r.db.subs.modify (·.expire now) (PurchasedSubscription.expire_id now)).rows) :
    Shaped g s' ∧ (s'.status = "expired" → s'.endTime ≤ now) ∧ (s'.Upgrade → s' ∈ r.db.subs.rows ∧ s'.due now = false) := by
  obtain ⟨s, hs, rfl⟩ := Table.mem_modify.1 hs'
  refine ⟨(h.shaped s hs).expire, ?_, ?_⟩
  · intro hstatus
    rcases expire_cases with ⟨hdue, heq⟩ | ⟨-, heq⟩
    · rw [heq]
      exact (due_past hdue).2
    · rw [heq] at hstatus ⊢
      exact (h.past s hs hstatus).trans hclock
  · intro hup
    obtain ⟨heq, hdue⟩ := upgrade_expire hup
    rw [heq]
    exact ⟨hs, hdue⟩

/-- The one active upgrade is due: the job finds it as the last, and the user returns to their own group. -/
theorem expired_last (hlast : lastExpired (rows.map (·.expire now)) = some last) (ha : a ∈ rows) (hup : a.Upgrade) (hdue : a.due now = true)
    (hshaped : ∀ s ∈ rows, s.downgradeGroup = "") (hsole : ∀ s ∈ rows, s.Upgrade → s = a)
    (hbefore : ∀ s ∈ rows, s.status = "expired" → s.upgradeGroup ≠ "" → s.endTime < a.endTime) : last = a.expire now := by
  obtain ⟨hmem, hcandidate, hafter⟩ := lastExpired_some hlast
  have hexpire : a.expire now = { a with status := "expired" } := if_pos hdue
  have hown : Candidate (a.expire now) := by
    rw [hexpire]
    exact ⟨rfl, .inr hup.2⟩
  rcases hafter _ (List.mem_map_of_mem ha) hown with heq | hends
  · exact heq.symm
  obtain ⟨s, hs, rfl⟩ := List.mem_map.1 hmem
  -- another candidate had expired before, and ended before `a`
  rcases expire_cases with ⟨hdue', heq⟩ | ⟨-, heq⟩
  · rw [heq] at hcandidate
    have hups : s.upgradeGroup ≠ "" := hcandidate.2.resolve_left (not_not.2 (hshaped s hs))
    rw [hsole s hs ⟨(due_past hdue').1, hups⟩]
  · rw [heq] at hcandidate hends
    have hups : s.upgradeGroup ≠ "" := hcandidate.2.resolve_left (not_not.2 (hshaped s hs))
    have hless := hbefore s hs hcandidate.1 hups
    rw [hexpire] at hends
    simp only [endsAfter] at hends
    omega

theorem due_of_not_upgrade (hup : a.Upgrade) (h : ¬(a.expire now).Upgrade) : a.due now = true := by
  rcases expire_cases with ⟨hdue, -⟩ | ⟨-, heq⟩
  · exact hdue
  · rw [heq] at h
    exact absurd hup h

theorem Phase.current (h : Phase g db) (hnodue : ∀ s ∈ db.subs.rows, s.due now = false) : Current now db := by
  intro s hs hup
  cases h with
  | idle hnone _ => exact absurd hup (hnone s hs)
  | busy a ha _ _ hend hsole _ =>
    obtain rfl : s = a := Table.eq_of_key_eq hs ha (hsole s hs hup)
    exact (not_due_iff hup hend).1 (hnodue s hs)

/-- No upgrade is left after the job, and there is none to have ended last: the user was in their own group. -/
theorem GroupInv.own_of_none (h : GroupInv g r) (hidle : ∀ s ∈ r.db.subs.rows, ¬(s.expire now).Upgrade)
    (hlast : lastExpired (r.db.subs.rows.map (·.expire now)) = none) : r.db.group = g := by
  cases h.phase with
  | idle _ hgroup => exact hgroup
  | busy a ha hup =>
    have hexpire : a.expire now = { a with status := "expired" } := if_pos (due_of_not_upgrade hup (hidle a ha))
    refine absurd ?_ (lastExpired_none hlast _ (List.mem_map_of_mem ha))
    rw [hexpire]
    exact ⟨rfl, .inr hup.2⟩

/-- No upgrade is left after the job: the one that ended last returns the user to their own group. -/
theorem GroupInv.own_of_last (hg : Proper g) (h : GroupInv g r) (hidle : ∀ s ∈ r.db.subs.rows, ¬(s.expire now).Upgrade)
    (hlast : lastExpired (r.db.subs.rows.map (·.expire now)) = some last) : expiredGroup r.db.group last = g := by
  have hshaped : Shaped g last := by
    obtain ⟨s, hs, rfl⟩ := List.mem_map.1 (lastExpired_some hlast).1
    exact (h.shaped s hs).expire
  refine hshaped.expiredGroup_eq hg ?_
  cases h.phase with
  | idle _ hgroup => exact .inl hgroup
  | busy a ha hup hgroup hend hsole hbefore =>
    have hdue := due_of_not_upgrade hup (hidle a ha)
    have hexpire : a.expire now = { a with status := "expired" } := if_pos hdue
    have hlast' : last = a.expire now := expired_last hlast ha hup hdue (fun s hs => (h.shaped s hs).downgrade)
      (fun s hs hups => Table.eq_of_key_eq hs ha (hsole s hs hups)) hbefore
    rw [hlast', hexpire]
    exact .inr ⟨hup.2, hgroup⟩

/-- The one upgrade that is left after the job goes on. -/
theorem GroupInv.goes_on (h : GroupInv g r) (hclock : r.clock ≤ now) {subs : Table fun s : PurchasedSubscription => s.id}
    (hsubs : subs = r.db.subs.modify (·.expire now) (PurchasedSubscription.expire_id now)) (ha : a ∈ subs.rows) (hup : a.Upgrade) :
    now < a.endTime ∧ Phase g ⟨r.db.group, subs, r.db.nextId⟩ ∧ Current now ⟨r.db.group, subs, r.db.nextId⟩ := by
  have hrow : ∀ s ∈ subs.rows, s.Upgrade → s ∈ r.db.subs.rows ∧ s.due now = false := by
    intro s hs
    rw [hsubs] at hs
    exact (h.expired_rows hclock hs).2.2
  obtain ⟨hold, hdue⟩ := hrow a ha hup
  cases h.phase with
  | idle hnone _ => exact absurd hup (hnone a hold)
  | busy b hb _ hgroup hend hsole _ =>
    have hsame : ∀ s ∈ subs.rows, s.Upgrade → s = b :=
      fun s hs hups => Table.eq_of_key_eq (hrow s hs hups).1 hb (hsole s (hrow s hs hups).1 hups)
    obtain rfl : a = b := hsame a ha hup
    have hlater : now < a.endTime := (not_due_iff hup hend).1 hdue
    refine ⟨hlater, .busy a ha hup hgroup hend (fun s hs hups => by rw [hsame s hs hups]) ?_, ?_⟩
    · intro s hs hstatus _
      rw [hsubs] at hs
      have := (h.expired_rows hclock hs).2.1 hstatus
      omega
    · intro s hs hups
      rw [hsame s hs hups]
      exact hlater

/-- So does the job. -/
theorem GroupInv.expire (hg : Proper g) (h : GroupInv g r) (hclock : r.clock ≤ now) :
    GroupInv g ⟨expireDueSubscriptions now true r.db, r.origin, now⟩ ∧ Current now (expireDueSubscriptions now true r.db) := by
  unfold expireDueSubscriptions
  split
  · rename_i hnothing
    have hnodue : ∀ s ∈ r.db.subs.rows, s.due now = false := by
      rcases hnothing with hunreached | hany
      · cases hunreached
      · simpa using hany
    exact ⟨h.unchanged hclock, h.phase.current hnodue⟩
  · generalize hsubs : r.db.subs.modify (·.expire now) (PurchasedSubscription.expire_id now) = subs
    have hlist : subs.rows = r.db.subs.rows.map (·.expire now) := by rw [← hsubs]; rfl
    have hinv : ∀ {group}, Phase g ⟨group, subs, r.db.nextId⟩ → GroupInv g ⟨⟨group, subs, r.db.nextId⟩, r.origin, now⟩ := by
      intro group hphase
      refine ⟨h.origin, h.clock.trans hclock, fun s hs => ?_, fun s hs => ?_, hphase⟩
      · rw [← hsubs] at hs
        exact (h.expired_rows hclock hs).1
      · rw [← hsubs] at hs
        exact (h.expired_rows hclock hs).2.1
    by_cases hleft : ∃ s ∈ subs.rows, s.Upgrade
    · obtain ⟨a, ha, hup⟩ := hleft
      obtain ⟨hlater, hphase, hcurrent⟩ := h.goes_on hclock hsubs.symm ha hup
      rw [if_pos (List.any_eq_true.2 ⟨a, ha, upgrades_of hup hlater⟩)]
      exact ⟨hinv hphase, hcurrent⟩
    · have hidle : ∀ s ∈ subs.rows, ¬s.Upgrade := fun s hs hup => hleft ⟨s, hs, hup⟩
      have hnone : ∀ s ∈ r.db.subs.rows, ¬(s.expire now).Upgrade := by
        intro s hs
        refine hidle _ ?_
        rw [hlist]
        exact List.mem_map_of_mem hs
      have hcurrent : ∀ {group}, Current now ⟨group, subs, r.db.nextId⟩ := fun s hs hup => absurd hup (hidle s hs)
      have hany : (subs.rows.any fun s => s.upgrades now) = false := by
        rw [List.any_eq_false]
        intro s hs hruns
        exact hidle s hs (upgrade_of_upgrades hruns).1
      rw [if_neg (Bool.eq_false_iff.1 hany)]
      split
      · rename_i hlast
        rw [hlist] at hlast
        exact ⟨hinv (.idle hidle (h.own_of_none hnone hlast)), hcurrent⟩
      · rename_i last hlast
        rw [hlist] at hlast
        have hown := h.own_of_last hg hnone hlast
        generalize expiredGroup r.db.group last = group' at hown ⊢
        exact ⟨hinv (.idle hidle hown), hcurrent⟩

/-! ## Runs -/

/-- Every call that meets the condition keeps the invariant. -/
theorem groupInv_step {e : GroupEvent} (hg : Proper g) (hdomain : GroupDomain r e) (halone : AloneStep env r e) (h : GroupInv g r) :
    GroupInv g (groupStep env userId r e) ∧ (e.op.ends = true → Current e.now (groupStep env userId r e).db) := by
  obtain ⟨now, op⟩ := e
  obtain ⟨hclock, hplan⟩ := hdomain
  cases op with
  | create plan source =>
    unfold groupStep
    split
    · exact ⟨h.unchanged hclock, nofun⟩
    · rename_i db' hok
      exact ⟨h.create halone.1 hclock hplan.2 halone.2 hok, nofun⟩
  | expire reached =>
    have hreached : reached = true := halone
    subst hreached
    obtain ⟨hinv, hcurrent⟩ := h.expire hg hclock
    exact ⟨hinv, fun _ => hcurrent⟩
  | invalidate id =>
    obtain ⟨hinv, hcurrent⟩ := h.invalidate hg hclock halone
    exact ⟨hinv, fun _ => hcurrent⟩
  | delete id =>
    obtain ⟨hinv, hcurrent⟩ := h.delete hg hclock halone
    exact ⟨hinv, fun _ => hcurrent⟩

end GroupAux

open GroupAux

/-- A user whose own group is a word of its own, plans that come with a group and name none to fall to, and any sequence of purchases,
turns of the job and calls of an administrator at times that do not go back. Where every call meets `AloneStep`, then after each call
that may end a subscription the user is in the group held before the first of the overlapping upgrades, unless an active unexpired
upgrade remains. -/
theorem group_returns (env : PurchaseEnv) (userId : Int) (group : String) (hgroup : Proper group)
    (es : List GroupEvent) (hdomain : Along (groupStep env userId) GroupDomain (groupStart group) es)
    (halone : Along (groupStep env userId) (AloneStep env) (groupStart group) es) :
    ∀ pre e, pre ++ [e] <+: es → e.op.ends = true →
      (exec (groupStep env userId) (groupStart group) (pre ++ [e])).db.upgraded e.now = false →
      (exec (groupStep env userId) (groupStart group) (pre ++ [e])).db.group =
        (exec (groupStep env userId) (groupStart group) (pre ++ [e])).origin := by
  rintro pre e ⟨post, rfl⟩ hends hidle
  have hboth := along_and.2 ⟨hdomain, halone⟩
  rw [List.append_assoc] at hboth
  obtain ⟨hpre, hstep, -⟩ := (along_append _ _ _ _).1 hboth
  have hempty : ∀ s, s ∉ (groupStart group).db.subs.rows := fun _ hs => List.not_mem_nil hs
  have h0 : GroupInv group (groupStart group) :=
    ⟨rfl, le_rfl, fun s hs => absurd hs (hempty s), fun s hs => absurd hs (hempty s), .idle (fun s hs => absurd hs (hempty s)) rfl⟩
  have hinv := hpre.invariant (P := GroupInv group) (fun _ _ hok h => (groupInv_step hgroup hok.1 hok.2 h).1) h0
  rw [exec_append, exec_cons, exec_nil] at hidle ⊢
  obtain ⟨hafter, hcurrent⟩ := groupInv_step hgroup hstep.1 hstep.2 hinv
  rw [hafter.phase.group_eq (hcurrent hends) hidle, hafter.origin]

namespace GroupAux

/-- A process on UTC that looks up no plans. -/
def utcEnv : PurchaseEnv where
  plans _ := none
  plans_id := by
    intro id plan h
    cases h
  calendar := Calendar.utc
  zoneOffset _ := 0
  quotaPerUnit := 500000

/-- A plan of 30 days in the group. -/
def thirtyDays (group : String) : PurchasePlan :=
  { id := 1, title := "", quotaResetPeriod := "never", quotaResetCustomSeconds := 0, priceAmount := 0, durationUnit := "day"
    durationValue := 30, customSeconds := 0, enabled := true, allowBalancePay := none, allowWalletOverflow := none
    maxPurchasePerUser := 0, upgradeGroup := group, downgradeGroup := "", totalAmount := 0 }

def buys (now : Int) (group : String) : GroupEvent := ⟨now, .create (thirtyDays group) "order"⟩

def runsJob (now : Int) : GroupEvent := ⟨now, .expire true⟩

/-- The user, first in the group "default", after the calls. -/
def defaultUser (es : List GroupEvent) : GroupRun := exec (groupStep utcEnv 1) (groupStart "default") es

end GroupAux

/-- Thirty days in a better group, and once they are over again: the user is in their own group after each. -/
theorem group_returns_sample :
    (defaultUser [buys 100 "vip", runsJob 2592100, buys 2592200 "vip", runsJob 5184200]).db.group =
      (defaultUser [buys 100 "vip", runsJob 2592100, buys 2592200 "vip", runsJob 5184200]).origin := by
  refine group_returns utcEnv 1 "default" ⟨by decide, by decide⟩ _ ?_ ?_
    [buys 100 "vip", runsJob 2592100, buys 2592200 "vip"] (runsJob 5184200) List.prefix_rfl rfl ?_
  · decide
  · decide
  · decide

/-- A user of the group "default" renews thirty days in "vip" a day before they end, or buys thirty in "svip" then. Both subscriptions
end and are expired, none is left, and the user stays in "vip" for good. -/
theorem overlap_keeps_group :
    let renewed := defaultUser [buys 100 "vip", buys 2505700 "vip", runsJob 2592100, runsJob 5097700]
    let raised := defaultUser [buys 100 "vip", buys 2505700 "svip", runsJob 2592100, runsJob 5097700]
    (renewed.db.upgraded 5097700 = false ∧ renewed.origin = "default" ∧ renewed.db.group = "vip") ∧
      raised.db.upgraded 5097700 = false ∧ raised.origin = "default" ∧ raised.db.group = "vip" := by
  decide

end NewApi
