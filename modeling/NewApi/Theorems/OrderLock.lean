import NewApi.Model.OrderLock

/-!
# The locks of the orders exclude and do not leak

A caller that has counted itself in keeps the entry of its trade number in the map, so whoever comes later finds the same object, and the
caller itself finds it again when it unlocks. An entry is removed only when nobody refers to its object, and an entry made later gets an
object that nobody has seen. Nor do they deadlock.
-/

namespace NewApi

open Threads Run OrderLocks

namespace OrderLockAux

open OrderCaller

/-! ## The operations on the shared state -/

section

variable (locks : OrderLocks) (rcm : Nat)

@[simp] theorem addRef_createLock (n : Int) : (locks.addRef rcm n).createLock = locks.createLock :=
  rfl

@[simp] theorem addRef_mu (n : Int) (r : Nat) : ((locks.addRef rcm n).heap r).mu = (locks.heap r).mu := by
  by_cases h : r = rcm
  · subst h
    simp [addRef]
  · simp [addRef, h]

theorem addRef_refCount_self (n : Int) : ((locks.addRef rcm n).heap rcm).refCount = (locks.heap rcm).refCount + n := by
  simp [addRef]

theorem addRef_heap_of_ne {rcm r : Nat} (n : Int) (h : r ≠ rcm) : (locks.addRef rcm n).heap r = locks.heap r := by
  simp [addRef, h]

@[simp] theorem setMu_refCount (locked : Bool) (r : Nat) : ((locks.setMu rcm locked).heap r).refCount = (locks.heap r).refCount := by
  by_cases h : r = rcm
  · subst h
    simp [setMu]
  · simp [setMu, h]

theorem setMu_mu_self (locked : Bool) : ((locks.setMu rcm locked).heap rcm).mu = locked := by
  simp [setMu]

theorem setMu_heap_of_ne {rcm r : Nat} (locked : Bool) (h : r ≠ rcm) : (locks.setMu rcm locked).heap r = locks.heap r := by
  simp [setMu, h]

end

/-- Who owns a mutex uses it. -/
theorem uses_of_owns {s : OrderCaller} {r : Nat} (h : s.owns = some r) : s.uses = some r := by
  cases s <;> simp_all [owns, uses]

/-! ## The entries of the map -/

variable {ι : Type}

/-- The entries of the map: each points to an object made before, no two to one, and its count is the number of the callers that use
it; the object a caller uses is the entry of its trade number. -/
structure EntriesOk (tradeNo : ι → String) (locks : OrderLocks) (callers : ι → OrderCaller) : Prop where
  entry : ∀ i r, (callers i).uses = some r → locks.orderLocks (tradeNo i) = some r
  made : ∀ t r, locks.orderLocks t = some r → r < locks.next
  apart : ∀ t t' r, locks.orderLocks t = some r → locks.orderLocks t' = some r → t = t'
  counts : ∀ t r, locks.orderLocks t = some r → Counts (locks.heap r).refCount fun i => (callers i).uses = some r

variable {tradeNo : ι → String} {locks locks' : OrderLocks} {callers : ι → OrderCaller} {i : ι} {s' : OrderCaller} {r : Nat}
  {c : Conf OrderLocks ι OrderCaller}

/-- Nobody uses the next address. -/
theorem EntriesOk.next_unused (h : EntriesOk tradeNo locks callers) (i : ι) : (callers i).uses ≠ some locks.next := by
  intro huses
  exact lt_irrefl _ (h.made _ _ (h.entry i _ huses))

theorem loadOrStore_entry (locks : OrderLocks) (t : String) : (locks.loadOrStore t).1.orderLocks t = some (locks.loadOrStore t).2 := by
  unfold loadOrStore
  split
  · assumption
  · simp

section

variable (h : EntriesOk tradeNo locks callers)

include h

/-- A new entry keeps the entries in order. -/
theorem EntriesOk.loadOrStore (t : String) : EntriesOk tradeNo (locks.loadOrStore t).1 callers := by
  unfold OrderLocks.loadOrStore
  split
  · exact h
  rename_i hnone
  -- an entry of the new map is an old one or the new object's
  have hcases : ∀ {t' r}, Function.update locks.orderLocks t (some locks.next) t' = some r →
      (t' = t ∧ r = locks.next) ∨ (t' ≠ t ∧ locks.orderLocks t' = some r) := by
    intro t' r ht'
    by_cases htt : t' = t
    · subst htt
      rw [Function.update_self] at ht'
      exact .inl ⟨rfl, (Option.some.inj ht').symm⟩
    · rw [Function.update_of_ne htt] at ht'
      exact .inr ⟨htt, ht'⟩
  refine ⟨fun i r huses => ?_, fun t' r ht' => ?_, fun t' t'' r ht' ht'' => ?_, fun t' r ht' => ?_⟩
  · have hentry := h.entry i r huses
    have hne : tradeNo i ≠ t := by
      intro heq
      rw [heq, hnone] at hentry
      cases hentry
    simpa [Function.update_of_ne hne] using hentry
  · rcases hcases ht' with ⟨-, rfl⟩ | ⟨-, hold⟩
    · exact Nat.lt_succ_self _
    · exact Nat.lt_succ_of_lt (h.made t' r hold)
  · rcases hcases ht' with ⟨rfl, rfl⟩ | ⟨-, hold⟩ <;> rcases hcases ht'' with ⟨rfl, hr⟩ | ⟨-, hold'⟩
    · rfl
    · exact absurd (h.made _ _ hold') (lt_irrefl _)
    · exact absurd (hr ▸ h.made _ _ hold) (lt_irrefl _)
    · exact h.apart t' t'' r hold hold'
  · rcases hcases ht' with ⟨rfl, rfl⟩ | ⟨-, hold⟩
    · simpa using Counts.of_none h.next_unused
    · simpa [Function.update_of_ne (h.made t' r hold).ne] using h.counts t' r hold

/-- Removing an entry nobody uses keeps the entries in order. -/
theorem EntriesOk.delete {t : String} (hentry : locks.orderLocks t = some r)
    (hcount : (locks.heap r).refCount = 0) : EntriesOk tradeNo (locks.delete t) callers := by
  have hold : ∀ {t' r}, (locks.delete t).orderLocks t' = some r → locks.orderLocks t' = some r := by
    intro t' r ht'
    by_cases htt : t' = t
    · subst htt
      simp [OrderLocks.delete] at ht'
    · simpa [OrderLocks.delete, htt] using ht'
  refine ⟨fun i r' huses => ?_, fun t' r ht' => h.made t' r (hold ht'),
    fun t' t'' r ht' ht'' => h.apart t' t'' r (hold ht') (hold ht''), fun t' r ht' => h.counts t' r (hold ht')⟩
  have hne : tradeNo i ≠ t := by
    intro heq
    have hi := h.entry i r' huses
    rw [heq, hentry] at hi
    obtain rfl := Option.some.inj hi
    exact (h.counts t r hentry).eq_zero_iff.1 hcount i huses
  simpa [OrderLocks.delete, hne] using h.entry i r' huses

variable [DecidableEq ι]

/-- So does a step that changes none. -/
theorem EntriesOk.keep (hlocks : locks'.orderLocks = locks.orderLocks)
    (hnext : locks'.next = locks.next) (hcount : ∀ r, (locks'.heap r).refCount = (locks.heap r).refCount)
    (huses : s'.uses = (callers i).uses) : EntriesOk tradeNo locks' (Function.update callers i s') := by
  have hsame : ∀ j, (Function.update callers i s' j).uses = (callers j).uses := by
    intro j
    by_cases hji : j = i
    · subst hji
      simpa using huses
    · simp [hji]
  refine ⟨fun j r hj => ?_, fun t r ht => ?_, fun t t' r ht ht' => ?_, fun t r ht => ?_⟩
  · rw [hsame] at hj
    rw [hlocks]
    exact h.entry j r hj
  · rw [hlocks] at ht
    rw [hnext]
    exact h.made t r ht
  · rw [hlocks] at ht ht'
    exact h.apart t t' r ht ht'
  · rw [hlocks] at ht
    simp only [hcount, hsame]
    exact h.counts t r ht

/-- A caller that counts itself in keeps the entries in order. -/
theorem EntriesOk.enter (hi : (callers i).uses = none) (hentry : locks.orderLocks (tradeNo i) = some r) (hs' : s'.uses = some r) :
    EntriesOk tradeNo (locks.addRef r 1) (Function.update callers i s') := by
  refine ⟨fun j r' hj => ?_, h.made, h.apart, fun t r' ht => ?_⟩
  · by_cases hji : j = i
    · subst hji
      rw [Function.update_self, hs'] at hj
      rw [← hj]
      exact hentry
    · rw [Function.update_of_ne hji] at hj
      exact h.entry j r' hj
  · by_cases hr : r' = r
    · subst hr
      rw [addRef_refCount_self]
      exact (h.counts t r' ht).enter (fun s : OrderCaller => s.uses = some r') (by simp [hi]) hs'
    · rw [addRef_heap_of_ne _ _ hr]
      refine (h.counts t r' ht).keep (fun s : OrderCaller => s.uses = some r') ?_
      simp [hi, hs', Ne.symm hr]

/-- A caller that counts itself out keeps the entries in order. -/
theorem EntriesOk.leave (hi : (callers i).uses = some r) (hs' : s'.uses = none) :
    EntriesOk tradeNo (locks.addRef r (-1)) (Function.update callers i s') := by
  refine ⟨fun j r' hj => ?_, h.made, h.apart, fun t r' ht => ?_⟩
  · by_cases hji : j = i
    · subst hji
      rw [Function.update_self, hs'] at hj
      cases hj
    · rw [Function.update_of_ne hji] at hj
      exact h.entry j r' hj
  · by_cases hr : r' = r
    · subst hr
      rw [addRef_refCount_self]
      exact (h.counts t r' ht).leave (fun s : OrderCaller => s.uses = some r') hi (by simp [hs'])
    · rw [addRef_heap_of_ne _ _ hr]
      refine (h.counts t r' ht).keep (fun s : OrderCaller => s.uses = some r') ?_
      simp [hi, hs', Ne.symm hr]

end

variable [DecidableEq ι]

/-! ## The invariant -/

omit [DecidableEq ι] in
/-- Every entry has a user. -/
def Used (locks : OrderLocks) (callers : ι → OrderCaller) : Prop :=
  ∀ t r, locks.orderLocks t = some r → ∃ i, (callers i).uses = some r

/-- A step that keeps the map and what its caller uses keeps every entry used. -/
theorem Used.keep (h : Used locks callers) (hlocks : locks'.orderLocks = locks.orderLocks) (huses : s'.uses = (callers i).uses) :
    Used locks' (Function.update callers i s') := by
  intro t r ht
  rw [hlocks] at ht
  obtain ⟨j, hj⟩ := h t r ht
  by_cases hji : j = i
  · subst hji
    exact ⟨j, by simpa [huses] using hj⟩
  · exact ⟨j, by simpa [hji] using hj⟩

theorem alive_update (h : ∀ j, callers j ≠ .fatal) (hs' : s' ≠ .fatal) : ∀ j, Function.update callers i s' j ≠ .fatal :=
  (Function.forall_update_iff callers (p := fun _ s => s ≠ .fatal)).2 ⟨hs', fun j _ => h j⟩

structure OrderInv (tradeNo : ι → String) (c : Conf OrderLocks ι OrderCaller) : Prop where
  create : Excludes c.shared.createLock fun i => (c.threads i).creates
  entries : EntriesOk tradeNo c.shared c.threads
  used : Used c.shared c.threads
  owned : ∀ r, Excludes (c.shared.heap r).mu fun i => (c.threads i).owns = some r
  alive : ∀ i, c.threads i ≠ .fatal

section

variable (h : OrderInv tradeNo c)

include h

/-- A step that changes only `createLock` and the caller's place. -/
theorem OrderInv.move {create : Bool} (hcreate : Excludes create fun j => (Function.update c.threads i s' j).creates)
    (huses : s'.uses = (c.threads i).uses) (howns : s'.owns = (c.threads i).owns) (halive : s' ≠ .fatal) :
    OrderInv tradeNo ⟨{ c.shared with createLock := create }, Function.update c.threads i s'⟩ where
  create := hcreate
  entries := h.entries.keep rfl rfl (fun _ => rfl) huses
  used := h.used.keep rfl huses
  owned r := (h.owned r).keep (fun s : OrderCaller => s.owns = some r) (by simp [howns])
  alive := alive_update h.alive halive

/-- A step at the mutex of the caller's object. -/
theorem OrderInv.setMu {locked : Bool} (howned : Excludes locked fun j => (Function.update c.threads i s' j).owns = some r)
    (hself : (c.threads i).uses = some r) (huses : s'.uses = some r) (hcreate : s'.creates → (c.threads i).creates) (halive : s' ≠ .fatal) :
    OrderInv tradeNo ⟨c.shared.setMu r locked, Function.update c.threads i s'⟩ where
  create := h.create.keep (fun s : OrderCaller => s.creates) hcreate
  entries := h.entries.keep rfl rfl (setMu_refCount _ _ _) (huses.trans hself.symm)
  used := h.used.keep rfl (huses.trans hself.symm)
  owned r' := by
    by_cases hr : r' = r
    · subst hr
      rw [setMu_mu_self]
      exact howned
    · rw [setMu_heap_of_ne _ _ hr]
      refine (h.owned r').keep (fun s : OrderCaller => s.owns = some r') fun hs' => ?_
      exact absurd (Option.some.inj ((uses_of_owns hs').symm.trans huses)) hr
  alive := alive_update h.alive halive

omit [DecidableEq ι] in
/-- An object that is made has its mutex open, and nobody owns it. -/
theorem owned_loadOrStore (t : String) (r : Nat) :
    Excludes ((c.shared.loadOrStore t).1.heap r).mu fun i => (c.threads i).owns = some r := by
  unfold loadOrStore
  split
  · exact h.owned r
  by_cases hr : r = c.shared.next
  · subst hr
    exact Excludes.of_none fun i howns => h.entries.next_unused i (uses_of_owns howns)
  · simpa [hr] using h.owned r

/-- Counting in keeps the invariant. -/
theorem OrderInv.count (hi : c.threads i = .counting) :
    OrderInv tradeNo ⟨(c.shared.loadOrStore (tradeNo i)).1.addRef (c.shared.loadOrStore (tradeNo i)).2 1,
      Function.update c.threads i (.counted (c.shared.loadOrStore (tradeNo i)).2)⟩ := by
  have hentry := loadOrStore_entry c.shared (tradeNo i)
  have hentries := h.entries.loadOrStore (tradeNo i)
  have howned := owned_loadOrStore h (tradeNo i)
  have hother : ∀ t, t ≠ tradeNo i → (c.shared.loadOrStore (tradeNo i)).1.orderLocks t = c.shared.orderLocks t := by
    intro t ht
    unfold loadOrStore
    split
    · rfl
    · simp [ht]
  have hcreate : (c.shared.loadOrStore (tradeNo i)).1.createLock = c.shared.createLock := by
    unfold loadOrStore
    split <;> rfl
  have huses : (c.threads i).uses = none := by rw [hi]; rfl
  exact {
    create := by
      rw [addRef_createLock, hcreate]
      exact h.create.keep (fun s : OrderCaller => s.creates) (by simp [hi, creates])
    entries := hentries.enter huses hentry rfl
    used := by
      intro t r ht
      by_cases htt : t = tradeNo i
      · subst htt
        exact ⟨i, by simpa [uses] using Option.some.inj (hentry.symm.trans ht)⟩
      obtain ⟨j, hj⟩ := h.used t r ((hother t htt).symm.trans ht)
      have hji : j ≠ i := by
        rintro rfl
        rw [huses] at hj
        cases hj
      exact ⟨j, by simpa [hji] using hj⟩
    owned := by
      intro r
      rw [addRef_mu]
      exact (howned r).keep (fun s : OrderCaller => s.owns = some r) (by simp [owns])
    alive := alive_update h.alive (by simp) }

/-- Counting out keeps it, and drops an entry nobody uses. -/
theorem OrderInv.uncount (hi : c.threads i = .uncounting r) :
    OrderInv tradeNo ⟨c.shared.dropRef (tradeNo i) r, Function.update c.threads i .uncounted⟩ := by
  have huses : (c.threads i).uses = some r := by rw [hi]; rfl
  have hentry : c.shared.orderLocks (tradeNo i) = some r := h.entries.entry i r huses
  have hleft : EntriesOk tradeNo (c.shared.addRef r (-1)) (Function.update c.threads i .uncounted) := h.entries.leave huses rfl
  have hcreate : Excludes c.shared.createLock fun j => (Function.update c.threads i .uncounted j).creates :=
    h.create.keep (fun s : OrderCaller => s.creates) (by simp [hi, creates])
  have howned : ∀ r', Excludes ((c.shared.addRef r (-1)).heap r').mu fun j =>
      (Function.update c.threads i .uncounted j).owns = some r' := by
    intro r'
    rw [addRef_mu]
    exact (h.owned r').keep (fun s : OrderCaller => s.owns = some r') (by simp [owns])
  have halive : ∀ j, Function.update c.threads i .uncounted j ≠ .fatal :=
    alive_update h.alive (by simp)
  -- an entry of another trade number has a user, and it is not the caller that leaves
  have hothers : ∀ t r', c.shared.orderLocks t = some r' → r' ≠ r →
      ∃ j, (Function.update c.threads i .uncounted j).uses = some r' := by
    intro t r' ht hr
    obtain ⟨j, hj⟩ := h.used t r' ht
    have hji : j ≠ i := by
      rintro rfl
      exact hr (Option.some.inj (hj.symm.trans huses))
    exact ⟨j, by simpa [hji] using hj⟩
  unfold dropRef
  simp only
  split
  · rename_i hzero
    refine ⟨hcreate, hleft.delete hentry hzero, fun t r' ht => ?_, howned, halive⟩
    by_cases htt : t = tradeNo i
    · subst htt
      simp [OrderLocks.delete] at ht
    have hold : c.shared.orderLocks t = some r' := by simpa [OrderLocks.delete, OrderLocks.addRef, htt] using ht
    refine hothers t r' hold fun hr => htt ?_
    exact h.entries.apart t (tradeNo i) r' hold (hr ▸ hentry)
  · rename_i hleftover
    refine ⟨hcreate, hleft, fun t r' ht => ?_, howned, halive⟩
    by_cases hr : r' = r
    · subst hr
      have hcounts := hleft.counts t r' ht
      by_contra hnone
      exact hleftover (hcounts.eq_zero_iff.2 fun j hj => hnone ⟨j, hj⟩)
    · exact hothers t r' ht hr

end

/-- Every step keeps it. -/
theorem orderInv_step (tradeNo : ι → String) (c : Conf OrderLocks ι OrderCaller) (i : ι) (h : OrderInv tradeNo c) :
    OrderInv tradeNo (orderStep tradeNo c i) := by
  have hwait : ∀ {s}, c.threads i = s → OrderInv tradeNo ⟨c.shared, Function.update c.threads i s⟩ := by
    rintro s rfl
    rw [Function.update_eq_self]
    exact h
  unfold orderStep Conf.act
  cases hi : c.threads i with
  | ready | unlocked _ =>
    simp only [orderStatement]
    split
    · exact hwait hi
    rename_i hopen
    have hcreate := h.create
    rw [Bool.eq_false_iff.2 hopen] at hcreate
    exact h.move (hcreate.acquire (fun s : OrderCaller => s.creates)) (by rw [hi]; rfl) (by rw [hi]; rfl) (by simp)
  | counting => exact h.count hi
  | counted _ | uncounted =>
    have hcreates : (c.threads i).creates := by rw [hi]; trivial
    simp only [orderStatement, h.create.locked i hcreates, if_true]
    exact h.move (h.create.release false (fun s : OrderCaller => s.creates) hcreates (by simp [creates]))
      (by rw [hi]; rfl) (by rw [hi]; rfl) (by simp)
  | waiting rcm =>
    simp only [orderStatement]
    split
    · exact hwait hi
    rename_i hopen
    have howned := h.owned rcm
    rw [Bool.eq_false_iff.2 hopen] at howned
    exact h.setMu (howned.acquire (fun s : OrderCaller => s.owns = some rcm)) (by rw [hi]; rfl) rfl (by simp [creates]) (by simp)
  | holding rcm =>
    have huses : (c.threads i).uses = some rcm := by rw [hi]; rfl
    simp only [orderStatement, h.entries.entry i rcm huses]
    exact h.move (h.create.keep (fun s : OrderCaller => s.creates) (by simp [creates])) (by rw [hi]; rfl) (by rw [hi]; rfl) (by simp)
  | unlocking rcm =>
    have howns : (c.threads i).owns = some rcm := by rw [hi]; rfl
    simp only [orderStatement, (h.owned rcm).locked i howns, if_true]
    exact h.setMu ((h.owned rcm).release false (fun s : OrderCaller => s.owns = some rcm) howns (by simp [owns]))
      (uses_of_owns howns) rfl (by simp [creates]) (by simp)
  | uncounting rcm => exact h.uncount hi
  | done => exact hwait hi
  | fatal => exact absurd hi (h.alive i)

omit [DecidableEq ι] in
theorem orderInv_start (tradeNo : ι → String) : OrderInv tradeNo orderStart where
  create := Excludes.of_none (by simp [orderStart, creates])
  entries := ⟨by simp [orderStart, uses], by simp [orderStart], by simp [orderStart], by simp [orderStart]⟩
  used := by simp [Used, orderStart]
  owned r := Excludes.of_none (by simp [orderStart, owns])
  alive := by simp [orderStart]

/-! ## Every lock has its holder -/

/-- What a step leaves locked, its caller holds, or it was locked before by another. -/
theorem locked_orderStatement {t : String} {locks : OrderLocks} {s : OrderCaller} (hcreate : s.creates → locks.createLock = true)
    (hentry : ∀ r, s.owns = some r → locks.orderLocks t = some r ∧ (locks.heap r).mu = true) :
    ((orderStatement t locks s).1.createLock = true → (orderStatement t locks s).2.creates ∨ locks.createLock = true ∧ ¬ s.creates) ∧
      ∀ r, ((orderStatement t locks s).1.heap r).mu = true →
        (orderStatement t locks s).2.owns = some r ∨ (locks.heap r).mu = true ∧ s.owns ≠ some r := by
  cases s with
  | ready | unlocked _ =>
    simp only [orderStatement]
    split <;> simp_all [creates, owns]
  | counting =>
    simp only [orderStatement, loadOrStore]
    split
    · simp_all [creates, owns]
    · refine ⟨by simp [creates], fun r hr => ?_⟩
      by_cases hr' : r = locks.next <;> simp_all [owns]
  | waiting rcm =>
    simp only [orderStatement]
    split
    · simp_all [creates, owns]
    · refine ⟨by simp [creates, setMu], fun r hr => ?_⟩
      by_cases hr' : r = rcm <;> simp_all [owns, setMu]
  | unlocking rcm =>
    have hentry := hentry rcm rfl
    simp only [orderStatement, hentry, if_true]
    refine ⟨by simp [creates, setMu], fun r hr => ?_⟩
    by_cases hr' : rcm = r <;> simp_all [owns, setMu, Ne.symm]
  | uncounting rcm =>
    simp only [orderStatement, dropRef]
    split <;> simp_all [creates, owns, OrderLocks.delete]
  | counted _ | holding _ | uncounted | done | fatal => simp_all [orderStatement, creates, owns, em]

/-- Whatever is locked is held by a caller. -/
structure LocksHeld (c : Conf OrderLocks ι OrderCaller) : Prop where
  create : c.shared.createLock = true → ∃ i, (c.threads i).creates
  owned : ∀ r, (c.shared.heap r).mu = true → ∃ i, (c.threads i).owns = some r

/-- Every step leaves who holds a lock where it may go on. -/
theorem locksHeld_step (h : OrderInv tradeNo c) (hheld : LocksHeld c) (i : ι) : LocksHeld (orderStep tradeNo c i) := by
  obtain ⟨hcreate, howned⟩ := locked_orderStatement (t := tradeNo i) (h.create.locked i) fun r hr =>
    ⟨h.entries.entry i r (uses_of_owns hr), (h.owned r).locked i hr⟩
  -- a holder before the step that is not the acting caller is one after it
  have hother : ∀ {p : OrderCaller → Prop}, (∃ j, p (c.threads j)) → ¬ p (c.threads i) → ∃ j, p ((orderStep tradeNo c i).threads j) := by
    rintro p ⟨j, hj⟩ hi
    have hji : j ≠ i := fun hji => hi (hji ▸ hj)
    exact ⟨j, by simpa [orderStep, Conf.act, hji] using hj⟩
  constructor
  · intro hlocked
    rcases hcreate hlocked with hi | ⟨hbefore, hi⟩
    · exact ⟨i, by rwa [orderStep, Conf.act_threads_self]⟩
    · exact hother (hheld.create hbefore) hi
  · intro r hlocked
    rcases howned r hlocked with hi | ⟨hbefore, hi⟩
    · exact ⟨i, by rwa [orderStep, Conf.act_threads_self]⟩
    · exact hother (p := fun s => s.owns = some r) (hheld.owned r hbefore) hi

end OrderLockAux

open OrderLockAux

/-- What the order locks guarantee in a state: at most one caller has the lock of a trade number, the callers of one trade number
use one mutex object, a trade number has an entry exactly while a caller of it is between the two counting steps, the map is empty
once every pair has finished, and no mutex is unlocked that is not locked. -/
structure OrderLocksHold {ι : Type} (tradeNo : ι → String) (c : Conf OrderLocks ι OrderCaller) : Prop where
  exclusive : ∀ i j, tradeNo i = tradeNo j → (c.threads i).owns.isSome → (c.threads j).owns.isSome → i = j
  oneMutex : ∀ i j rcm rcm', tradeNo i = tradeNo j → (c.threads i).uses = some rcm → (c.threads j).uses = some rcm' → rcm = rcm'
  entry : ∀ t, (c.shared.orderLocks t).isSome ↔ ∃ i, tradeNo i = t ∧ (c.threads i).uses.isSome
  empty : (∀ i, c.threads i = .ready ∨ c.threads i = .done) → ∀ t, c.shared.orderLocks t = none
  alive : ∀ i, c.threads i ≠ .fatal

/-- Over any number of pairs of `LockOrder` and `UnlockOrder`, and every interleaving of their steps, the order locks hold. -/
theorem orderLocks_exclude_and_do_not_leak {ι : Type} [DecidableEq ι] (tradeNo : ι → String) (steps : List ι) :
    OrderLocksHold tradeNo (exec (orderStep tradeNo) orderStart steps) := by
  generalize hc : exec (orderStep tradeNo) orderStart steps = c
  have h : OrderInv tradeNo c := hc ▸ exec_invariant (orderInv_step tradeNo) (orderInv_start tradeNo) steps
  have hsame : ∀ i j rcm rcm', tradeNo i = tradeNo j → (c.threads i).uses = some rcm → (c.threads j).uses = some rcm' →
      rcm = rcm' := by
    intro i j rcm rcm' htrade hi hj
    have hi' := h.entries.entry i rcm hi
    rw [htrade, h.entries.entry j rcm' hj] at hi'
    exact (Option.some.inj hi').symm
  have hentry : ∀ t, (c.shared.orderLocks t).isSome ↔ ∃ i, tradeNo i = t ∧ (c.threads i).uses.isSome := by
    intro t
    constructor
    · intro ht
      obtain ⟨rcm, hrcm⟩ := Option.isSome_iff_exists.1 ht
      obtain ⟨i, hi⟩ := h.used t rcm hrcm
      exact ⟨i, h.entries.apart (tradeNo i) t rcm (h.entries.entry i rcm hi) hrcm, by rw [hi]; rfl⟩
    · rintro ⟨i, rfl, hi⟩
      obtain ⟨rcm, hrcm⟩ := Option.isSome_iff_exists.1 hi
      rw [h.entries.entry i rcm hrcm]
      rfl
  refine ⟨fun i j htrade hi hj => ?_, hsame, hentry, fun hdone t => ?_, h.alive⟩
  · obtain ⟨rcm, hrcm⟩ := Option.isSome_iff_exists.1 hi
    obtain ⟨rcm', hrcm'⟩ := Option.isSome_iff_exists.1 hj
    obtain rfl := hsame i j rcm rcm' htrade (uses_of_owns hrcm) (uses_of_owns hrcm')
    exact (h.owned rcm).unique i j hrcm hrcm'
  · rw [← Option.not_isSome_iff_eq_none, hentry]
    rintro ⟨i, -, hi⟩
    rcases hdone i with hi' | hi' <;> rw [hi'] at hi <;> cases hi

/-- In every state reached, no caller can go on exactly when all are done. -/
theorem orderLocks_stuck_iff_done {ι : Type} [DecidableEq ι] (tradeNo : ι → String) (steps : List ι) :
    (∀ i, orderStep tradeNo (exec (orderStep tradeNo) orderStart steps) i = exec (orderStep tradeNo) orderStart steps) ↔
      ∀ i, (exec (orderStep tradeNo) orderStart steps).threads i = .done := by
  set c := exec (orderStep tradeNo) orderStart steps
  obtain ⟨h, hheld⟩ : OrderInv tradeNo c ∧ LocksHeld c :=
    exec_invariant (P := fun c => OrderInv tradeNo c ∧ LocksHeld c) (fun c i h => ⟨orderInv_step tradeNo c i h.1, locksHeld_step h.1 h.2 i⟩)
      ⟨orderInv_start tradeNo, by simp [orderStart], by simp [orderStart]⟩ steps
  constructor
  · intro hstuck
    have hself : ∀ i, (orderStatement (tradeNo i) c.shared (c.threads i)).2 = c.threads i := by
      intro i
      rw [← Conf.act_threads_self, ← orderStep, hstuck]
    -- whoever is under `createLock` can go on, and so can whoever has a mutex: they are all open
    have hcreate : c.shared.createLock = false := by
      by_contra hlocked
      obtain ⟨i, hi⟩ := hheld.create (by simpa using hlocked)
      have hi' := hself i
      cases hs : c.threads i <;> simp_all [orderStatement, OrderCaller.creates]
    have hmu : ∀ r, (c.shared.heap r).mu = false := by
      intro r
      by_contra hlocked
      obtain ⟨i, hi⟩ := hheld.owned r (by simpa using hlocked)
      have hi' := hself i
      have hentry := h.entries.entry i r (uses_of_owns hi)
      cases hs : c.threads i <;> simp_all [orderStatement, OrderCaller.owns]
    intro i
    have hi := hself i
    have halive := h.alive i
    cases hs : c.threads i <;> simp_all [orderStatement]
    split at hi <;> cases hi
  · intro hdone i
    unfold orderStep Conf.act
    rw [hdone i]
    exact Conf.ext rfl (by simp [orderStatement, ← hdone i])

end NewApi
