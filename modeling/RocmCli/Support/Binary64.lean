import Mathlib.Data.Int.Log
import Mathlib.Data.Rat.Floor
import Mathlib.Tactic.Positivity

namespace RocmCli
namespace Support.Binary64

/-!
# Rounding to binary64

Binary64 arithmetic on numbers in its normal range rounds the exact result to
the nearest number with 53 significant bits, ties to even.  The relative error
of that rounding is at most `2 ^ -53`, so it keeps the order of any two numbers
that lie further apart than their errors; whole numbers below `2 ^ 53` are kept
as they are.
-/

/-- The nearest integer, the even one of two that are equally near. -/
def nearestInt (number : ℚ) : ℤ :=
  if number - ⌊number⌋ < 1 / 2 then ⌊number⌋
  else if 1 / 2 < number - ⌊number⌋ then ⌊number⌋ + 1
  else if ⌊number⌋ % 2 = 0 then ⌊number⌋
  else ⌊number⌋ + 1

/-- The distance of neighbouring binary64 numbers around a number. -/
def ulp (number : ℚ) : ℚ := 2 ^ (Int.log 2 number - 52)

/-- The binary64 number nearest to a number that is not negative. -/
def nearest (number : ℚ) : ℚ := nearestInt (number / ulp number) * ulp number

theorem ulp_pos (number : ℚ) : 0 < ulp number := by
  unfold ulp
  exact zpow_pos (by norm_num) _

theorem nearestInt_error (number : ℚ) : |(nearestInt number : ℚ) - number| ≤ 1 / 2 := by
  have below := Int.floor_le number
  have above := Int.lt_floor_add_one number
  unfold nearestInt
  split
  · rw [abs_le]
    constructor <;> linarith
  · split
    · push_cast
      rw [abs_le]
      constructor <;> linarith
    · have tie : number - ⌊number⌋ = 1 / 2 := by linarith
      split
      · rw [abs_le]
        constructor <;> linarith
      · push_cast
        rw [abs_le]
        constructor <;> linarith

theorem nearestInt_intCast (number : ℤ) : nearestInt (number : ℚ) = number := by
  simp [nearestInt]

/-- Around a positive number the neighbours are close. -/
theorem ulp_le {number : ℚ} (positive : 0 < number) : ulp number ≤ number / 2 ^ 52 := by
  have lower : (2 : ℚ) ^ Int.log 2 number ≤ number :=
    Int.zpow_log_le_self (by norm_num) positive
  have shifted : ulp number = 2 ^ Int.log 2 number / 2 ^ 52 := by
    rw [ulp, zpow_sub₀ (by norm_num)]
    norm_num
  rw [shifted]
  gcongr

/-- The relative error of rounding. -/
theorem nearest_error {number : ℚ} (nonnegative : 0 ≤ number) :
    |nearest number - number| ≤ number / 2 ^ 53 := by
  rcases nonnegative.eq_or_lt with rfl | positive
  · simp [nearest, nearestInt]
  · have unit := ulp_pos number
    have scaled : nearest number - number =
        (nearestInt (number / ulp number) - number / ulp number) * ulp number := by
      rw [nearest, sub_mul, div_mul_cancel₀ _ unit.ne']
    have half := nearestInt_error (number / ulp number)
    have close := ulp_le positive
    rw [scaled, abs_mul, abs_of_pos unit]
    calc |(nearestInt (number / ulp number) : ℚ) - number / ulp number| * ulp number
        ≤ 1 / 2 * (number / 2 ^ 52) := by gcongr
      _ = number / 2 ^ 53 := by ring

/-- Rounding keeps the order of two numbers further apart than their errors. -/
theorem nearest_lt {smaller larger : ℚ} (nonnegative : 0 ≤ smaller)
    (apart : smaller + (smaller + larger) / 2 ^ 53 < larger) : nearest smaller < nearest larger := by
  have ordered : smaller ≤ larger := by
    by_contra reversed
    have sum : 0 ≤ larger ∨ larger < 0 := le_or_gt 0 larger
    have total : larger < smaller := lt_of_not_ge reversed
    rcases sum with nonneg | negative
    · have rest : 0 ≤ (smaller + larger) / 2 ^ 53 := by positivity
      linarith
    · have bound : larger ≤ (smaller + larger) / 2 ^ 53 := by
        rw [le_div_iff₀ (by norm_num)]
        linarith
      linarith
  have low := abs_le.mp (nearest_error nonnegative)
  have high := abs_le.mp (nearest_error (nonnegative.trans ordered))
  have parts : (smaller + larger) / 2 ^ 53 = smaller / 2 ^ 53 + larger / 2 ^ 53 := add_div _ _ _
  linarith [low.2, high.1]

/-- Two numbers that are equal or further apart than their errors compare after
rounding as before. -/
theorem nearest_le_nearest_iff {left right : ℚ} (leftNonnegative : 0 ≤ left)
    (rightNonnegative : 0 ≤ right)
    (apart : left = right ∨ (left + right) / 2 ^ 53 < |left - right|) :
    nearest left ≤ nearest right <-> left ≤ right := by
  rcases apart with rfl | apart
  · exact iff_of_true le_rfl le_rfl
  · rcases le_or_gt left right with ordered | reversed
    · rw [abs_of_nonpos (by linarith)] at apart
      exact iff_of_true (nearest_lt leftNonnegative (by linarith)).le ordered
    · rw [abs_of_pos (by linarith)] at apart
      have below := nearest_lt rightNonnegative (show right + (right + left) / 2 ^ 53 < left by
        rw [add_comm right left]
        linarith)
      exact iff_of_false (not_le_of_gt below) (not_le_of_gt reversed)

/-- A whole number below `2 ^ 53` is a binary64 number. -/
theorem nearest_natCast {count : Nat} (small : count < 2 ^ 53) : nearest (count : ℚ) = count := by
  have exponent : Nat.log 2 count ≤ 52 := by
    rcases Nat.eq_zero_or_pos count with rfl | positive
    · simp
    · have below := Nat.log_lt_of_lt_pow positive.ne' small
      omega
  have unit : ulp (count : ℚ) = ((2 ^ (52 - Nat.log 2 count) : ℤ) : ℚ)⁻¹ := by
    rw [ulp, Int.log_natCast]
    push_cast
    rw [← zpow_natCast, ← zpow_neg]
    congr 1
    omega
  rw [nearest, unit, div_inv_eq_mul]
  have whole : (count : ℚ) * ((2 ^ (52 - Nat.log 2 count) : ℤ) : ℚ) =
      ((count * 2 ^ (52 - Nat.log 2 count) : ℤ) : ℚ) := by
    push_cast
    ring
  rw [whole, nearestInt_intCast]
  push_cast
  field_simp

end Support.Binary64
end RocmCli
