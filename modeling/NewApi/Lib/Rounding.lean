import Mathlib.Data.Rat.Floor
import Mathlib.Tactic.FieldSimp
import Mathlib.Tactic.Linarith
import Mathlib.Tactic.NormNum

/-!
# Rounding rationals to integers

Truncation towards zero and rounding to the nearest integer with halves away from zero, on exact rationals; rounding to decimal places;
and the part of an integer that a signed 64-bit word keeps.
-/

namespace Rounding

/-- The integer part: the fraction is dropped. -/
def trunc (x : ℚ) : Int := if 0 ≤ x then ⌊x⌋ else -⌊-x⌋

/-- The nearest integer; a half goes away from zero. -/
def roundHalfAway (x : ℚ) : Int := if 0 ≤ x then ⌊x + 1 / 2⌋ else -⌊-x + 1 / 2⌋

/-- The number to the nearest multiple of `10 ^ -places`; a half goes away from zero. -/
def roundTo (places : Nat) (x : ℚ) : ℚ := roundHalfAway (x * 10 ^ places) / 10 ^ places

/-- What a signed 64-bit word keeps of an integer. -/
def int64 (n : Int) : Int := n.bmod 18446744073709551616

theorem trunc_intCast (n : Int) : trunc n = n := by
  unfold trunc
  split
  · exact Int.floor_intCast n
  · rw [← Int.cast_neg, Int.floor_intCast, neg_neg]

/-- Truncation is odd. -/
theorem trunc_neg (x : ℚ) : trunc (-x) = -trunc x := by
  unfold trunc
  rcases lt_trichotomy x 0 with hx | rfl | hx
  · rw [if_pos (by linarith), if_neg (by linarith), neg_neg]
  · simp
  · rw [if_neg (by linarith), if_pos hx.le, neg_neg]

/-- What is truncated to a positive number. -/
theorem trunc_eq_of_pos {x : ℚ} {n : Int} (hn : 0 < n) : trunc x = n ↔ (n : ℚ) ≤ x ∧ x < n + 1 := by
  have hcast : (0 : ℚ) < n := by exact_mod_cast hn
  unfold trunc
  split
  · exact Int.floor_eq_iff
  rename_i hx
  have hfloor : 0 ≤ ⌊-x⌋ := Int.floor_nonneg.2 (by linarith)
  constructor
  · intro h
    omega
  · rintro ⟨hle, -⟩
    linarith

/-- Truncation stays within whole bounds around zero. -/
theorem trunc_bounds {x : ℚ} {low high : Int} (hlow : low ≤ 0) (hhigh : 0 ≤ high) (hlx : low ≤ x) (hxh : x ≤ high) :
    low ≤ trunc x ∧ trunc x ≤ high := by
  unfold trunc
  split
  · rename_i hx
    exact ⟨hlow.trans (Int.floor_nonneg.2 hx), Int.floor_le_iff.2 (by linarith)⟩
  rename_i hx
  have hneg : ⌊-x⌋ ≤ -low := Int.floor_le_iff.2 (by push_cast; linarith)
  have hnonneg : 0 ≤ ⌊-x⌋ := Int.floor_nonneg.2 (by linarith)
  omega

theorem roundHalfAway_intCast (n : Int) : roundHalfAway n = n := by
  have hhalf : ∀ m : Int, ⌊(m : ℚ) + 1 / 2⌋ = m := by
    intro m
    norm_num
  unfold roundHalfAway
  split
  · exact hhalf n
  · rw [← Int.cast_neg, hhalf, neg_neg]

theorem roundTo_intCast (places : Nat) (n : Int) : roundTo places n = n := by
  have hscaled : (n : ℚ) * 10 ^ places = ((n * 10 ^ places : Int) : ℚ) := by push_cast; rfl
  unfold roundTo
  rw [hscaled, roundHalfAway_intCast]
  push_cast
  field_simp

/-- A number in range is kept. -/
theorem int64_of_lt {n : Int} (hlow : -9223372036854775808 ≤ n) (hhigh : n < 9223372036854775808) : int64 n = n := by
  unfold int64
  rw [Int.bmod_eq_of_le]
  · omega
  · omega

/-- Rounding to places is odd. -/
theorem roundTo_neg (places : Nat) (x : ℚ) : roundTo places (-x) = -roundTo places x := by
  have hhalf : ∀ y : ℚ, roundHalfAway (-y) = -roundHalfAway y := by
    intro y
    unfold roundHalfAway
    rcases lt_trichotomy y 0 with hy | rfl | hy
    · rw [if_pos (by linarith), if_neg (by linarith), neg_neg]
    · norm_num
    · rw [if_neg (by linarith), if_pos hy.le, neg_neg]
  unfold roundTo
  rw [neg_mul, hhalf, Int.cast_neg, neg_div]

/-- What is within half of the last place below an integer is rounded up to it before the fraction is dropped. -/
theorem trunc_roundTo {x : ℚ} (places : Nat) (hx : 0 ≤ x) : trunc (roundTo places x) = ⌊x + 1 / (2 * 10 ^ places)⌋ := by
  have hpow : (0 : ℚ) < 10 ^ places := by positivity
  have hround : 0 ≤ roundTo places x := by
    unfold roundTo roundHalfAway
    rw [if_pos (by positivity)]
    have : 0 ≤ ⌊x * 10 ^ places + 1 / 2⌋ := Int.floor_nonneg.2 (by positivity)
    positivity
  rw [trunc, if_pos hround, roundTo, roundHalfAway, if_pos (by positivity)]
  have h := Int.floor_div_natCast (x * 10 ^ places + 1 / 2) (10 ^ places)
  have h' := Rat.floor_intCast_div_natCast ⌊x * 10 ^ places + 1 / 2⌋ (10 ^ places)
  push_cast at h h'
  rw [h', ← h]
  congr 1
  field_simp

/-- A word keeps `a` of a number exactly where the two differ by a multiple of `2 ^ 64`. -/
theorem int64_eq_iff {n a : Int} (hlow : -9223372036854775808 ≤ a) (hhigh : a < 9223372036854775808) :
    int64 n = a ↔ (18446744073709551616 : Int) ∣ n - a := by
  unfold int64
  rw [Int.bmod_def]
  constructor
  · intro h
    omega
  · intro h
    omega

/-- What is kept is in range. -/
theorem int64_range (n : Int) : -9223372036854775808 ≤ int64 n ∧ int64 n < 9223372036854775808 := by
  unfold int64
  rw [Int.bmod_def]
  omega

/-- A word is not negative exactly where its highest bit is clear. -/
theorem int64_nonneg_iff (n : Int) : 0 ≤ int64 n ↔ n % 18446744073709551616 < 9223372036854775808 := by
  unfold int64
  rw [Int.bmod_def]
  omega

/-- A sum is cut to the same word whether or not its second part was cut before. -/
theorem int64_add_int64 (m n : Int) : int64 (m + int64 n) = int64 (m + n) := Int.add_bmod_bmod

theorem roundHalfAway_zero : roundHalfAway 0 = 0 := by decide +kernel

theorem roundHalfAway_of_nonneg {x : ℚ} (h : 0 ≤ x) : roundHalfAway x = ⌊x + 1 / 2⌋ := if_pos h

/-- A number that is half a unit inside the range of a word rounds to one of its values. -/
theorem roundHalfAway_fits {x : ℚ} (h : |x| + 1 / 2 < 9223372036854775808) :
    -9223372036854775808 ≤ roundHalfAway x ∧ roundHalfAway x < 9223372036854775808 := by
  have hpos := le_abs_self x
  have hneg := neg_abs_le x
  unfold roundHalfAway
  split
  · have hlow : 0 ≤ ⌊x + 1 / 2⌋ := Int.floor_nonneg.2 (by linarith)
    have hhigh : ⌊x + 1 / 2⌋ < 9223372036854775808 := Int.floor_lt.2 (by push_cast; linarith)
    omega
  · have hlow : 0 ≤ ⌊-x + 1 / 2⌋ := Int.floor_nonneg.2 (by linarith)
    have hhigh : ⌊-x + 1 / 2⌋ < 9223372036854775808 := Int.floor_lt.2 (by push_cast; linarith)
    omega

/-- A number rounds to a non-negative integer exactly when it is more than minus one half. -/
theorem roundHalfAway_nonneg_iff (x : ℚ) : 0 ≤ roundHalfAway x ↔ -(1 / 2) < x := by
  unfold roundHalfAway
  split
  · have hx : -(1 / 2) < x := by linarith
    exact ⟨fun _ => hx, fun _ => Int.floor_nonneg.2 (by linarith)⟩
  have hfloor : (⌊-x + 1 / 2⌋ ≤ 0) ↔ -x + 1 / 2 < 1 := by
    rw [← Int.lt_add_one_iff, zero_add, Int.floor_lt]
    simp
  constructor
  · intro hr
    have := hfloor.1 (by linarith)
    linarith
  · intro hx
    have := hfloor.2 (by linarith)
    linarith

/-- A number rounds to zero exactly when it is less than one half away from it. -/
theorem roundHalfAway_eq_zero_iff (x : ℚ) : roundHalfAway x = 0 ↔ -(1 / 2) < x ∧ x < 1 / 2 := by
  have hfloor : ∀ y : ℚ, 0 ≤ y → (⌊y + 1 / 2⌋ = 0 ↔ y < 1 / 2) := by
    intro y hy
    rw [Int.floor_eq_zero_iff, Set.mem_Ico]
    constructor
    · rintro ⟨-, hlt⟩
      linarith
    · intro hlt
      constructor <;> linarith
  unfold roundHalfAway
  split
  · rename_i h
    rw [hfloor x h]
    exact ⟨fun hlt => ⟨by linarith, hlt⟩, fun hx => hx.2⟩
  · rw [neg_eq_zero, hfloor (-x) (by linarith)]
    constructor
    · intro hlt
      constructor <;> linarith
    · rintro ⟨hlt, -⟩
      linarith

end Rounding
