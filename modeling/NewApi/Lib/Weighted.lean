import Mathlib

/-!
# Choosing by weight

A ticket is drawn below the sum of the shares; each element takes its share off the ticket, and the one that brings it below a bound is
chosen. With every share above the bound, each element of the list has a ticket.
-/

namespace Weighted

variable {α : Type*} (share : α → Nat) (bound : Nat)

def total (xs : List α) : Nat := (xs.map share).sum

/-- The element that brings the ticket below the bound. -/
def pick : Int → List α → Option α
  | _, [] => none
  | ticket, x :: xs => if ticket - share x < bound then some x else pick (ticket - share x) xs

variable {share bound} {ticket : Int} {xs : List α} {x : α}

/-- What is picked is one of the candidates. -/
theorem mem_of_pick (h : pick share bound ticket xs = some x) : x ∈ xs := by
  induction xs generalizing ticket with
  | nil => cases h
  | cons y ys ih =>
    unfold pick at h
    split at h
    · cases h
      exact List.mem_cons_self
    · exact List.mem_cons_of_mem y (ih h)

/-- A ticket below the sum chooses an element. -/
theorem exists_pick (share : α → Nat) (bound : Nat) (hne : xs ≠ []) (h : ticket < total share xs) :
    ∃ x ∈ xs, pick share bound ticket xs = some x := by
  induction xs generalizing ticket with
  | nil => exact absurd rfl hne
  | cons y ys ih =>
    by_cases hy : ticket - share y < bound
    · exact ⟨y, List.mem_cons_self, by rw [pick, if_pos hy]⟩
    have hrest : ticket - share y < total share ys := by
      simp only [total, List.map_cons, List.sum_cons, Nat.cast_add] at h ⊢
      omega
    have hys : ys ≠ [] := by
      rintro rfl
      simp only [total, List.map_nil, List.sum_nil, Nat.cast_zero] at hrest
      omega
    obtain ⟨x, hx, hpick⟩ := ih hys hrest
    exact ⟨x, List.mem_cons_of_mem y hx, by rw [pick, if_neg hy, hpick]⟩

/-- An element whose share is above the bound has a ticket. -/
theorem exists_ticket (hx : x ∈ xs) (hshare : bound < share x) :
    ∃ ticket : Nat, ticket < total share xs ∧ pick share bound ticket xs = some x := by
  -- the ticket is the sum of the shares before the element, and the bound
  suffices h : ∃ ticket : Nat, bound ≤ ticket ∧ ticket < total share xs ∧ pick share bound ticket xs = some x by
    obtain ⟨ticket, -, hlt, hpick⟩ := h
    exact ⟨ticket, hlt, hpick⟩
  induction xs with
  | nil => cases hx
  | cons y ys ih =>
    rcases List.mem_cons.1 hx with rfl | hys
    · refine ⟨bound, le_refl _, ?_, ?_⟩
      · simp only [total, List.map_cons, List.sum_cons]
        omega
      · rw [pick, if_pos (by omega)]
    · obtain ⟨ticket, hbound, hlt, hpick⟩ := ih hys
      refine ⟨share y + ticket, by omega, ?_, ?_⟩
      · simp only [total, List.map_cons, List.sum_cons] at hlt ⊢
        omega
      · have hleft : ((share y + ticket : Nat) : Int) - share y = ticket := by
          push_cast
          ring
        rw [pick, hleft, if_neg (by omega), hpick]

/-- The tickets whose choice is of a kind are as many as the shares of that kind add up to. -/
theorem count_pick (p : α → Bool) (xs : List α) :
    Nat.count (fun ticket : Nat => (pick share 0 ticket xs).any p = true) (total share xs) = total share (xs.filter p) := by
  induction xs with
  | nil => rfl
  | cons x xs ih =>
    have hfirst : Nat.count (fun ticket : Nat => (pick share 0 ticket (x :: xs)).any p = true) (share x) =
        if p x then share x else 0 := by
      have hx : ∀ ticket < share x, (pick share 0 ticket (x :: xs)).any p = p x := by
        intro ticket hlt
        rw [pick, if_pos (by omega), Option.any_some]
      split
      · rename_i hp
        exact Nat.count_iff_forall.2 fun ticket hlt => (hx ticket hlt).trans hp
      · rename_i hp
        exact Nat.count_iff_forall_not.2 fun ticket hlt => by rw [hx ticket hlt]; exact hp
    have hrest : ∀ ticket : Nat, pick share 0 ((share x + ticket : Nat) : Int) (x :: xs) = pick share 0 ticket xs := by
      intro ticket
      rw [pick, if_neg (by omega)]
      congr 1
      omega
    have htotal : total share (x :: xs) = share x + total share xs := rfl
    simp only [htotal, Nat.count_add, hfirst, hrest, ih, List.filter_cons]
    cases p x <;> simp [total]

end Weighted
