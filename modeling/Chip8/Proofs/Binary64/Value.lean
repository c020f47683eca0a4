import Chip8.Binary64
import Mathlib.Algebra.Order.Field.Basic
import Mathlib.Algebra.Order.Field.Rat
import Mathlib.Tactic.FieldSimp
import Mathlib.Tactic.NormNum

namespace Chip8.Binary64

/-- The distance of a finite number from zero: its fraction over `2^52`, with a leading one unless
the exponent bits are all zero, scaled by a power of two. -/
def magnitude (x : Binary64) : ℚ :=
  if x.exponent = 0 then x.fraction / 2 ^ 52 * 2 ^ (-1022 : ℤ)
  else (1 + x.fraction / 2 ^ 52) * 2 ^ ((x.exponent : ℤ) - 1023)

/-- The number that a pattern stands for, if it is finite. -/
def value? (x : Binary64) : Option ℚ :=
  if x.isFinite then some (if x.isNegative then -x.magnitude else x.magnitude) else none

private theorem cast_shiftLeft (n k : ℕ) : ((n <<< k : ℕ) : ℚ) = n * 2 ^ k := by
  rw [Nat.shiftLeft_eq]
  push_cast
  rfl

/-- The distance of a finite number from zero is its units, in steps of the smallest number. -/
theorem magnitude_eq (x : Binary64) : x.magnitude = x.units / 2 ^ 1074 := by
  have hidden : hiddenBit = 2 ^ 52 := rfl
  have scale : (2 : ℚ) ^ 1074 = 2 ^ 52 * 2 ^ 1022 := by rw [← pow_add]
  have positive : (2 : ℚ) ^ 1022 ≠ 0 := pow_ne_zero _ two_ne_zero
  rw [units, cast_shiftLeft, magnitude, significand, shift, scale]
  split
  · rename_i subnormal
    rw [subnormal, zpow_neg, zpow_ofNat, Nat.zero_sub, pow_zero, mul_one, ← div_div,
      ← div_eq_mul_inv]
  · have exponent : (x.exponent : ℤ) - 1023 = ((x.exponent - 1 : ℕ) : ℤ) - 1022 := by omega
    rw [exponent, zpow_sub₀ two_ne_zero, zpow_natCast, zpow_ofNat, hidden]
    push_cast
    generalize (2 : ℚ) ^ 1022 = unit at positive
    field_simp
    norm_num

/-- A number is above zero and at most a limit if its value is: a pattern without a value is not. -/
theorem inRange_iff (x : Binary64) (limit : Nat) :
    x.InRange limit ↔ ∃ q, x.value? = some q ∧ 0 < q ∧ q ≤ limit := by
  have one : (unitsOfOne : ℚ) = 2 ^ 1074 := by
    rw [unitsOfOne, cast_shiftLeft, Nat.cast_one, one_mul]
  have unit : (0 : ℚ) < 2 ^ 1074 := pow_pos two_pos _
  have positive : 0 < x.magnitude ↔ 0 < x.units := by
    rw [magnitude_eq, div_pos_iff_of_pos_right unit, Nat.cast_pos]
  have most : x.magnitude ≤ limit ↔ x.units ≤ limit * unitsOfOne := by
    rw [magnitude_eq, div_le_iff₀ unit, ← one, ← Nat.cast_mul, Nat.cast_le]
  have least : 0 ≤ x.magnitude := by
    rw [magnitude_eq]
    exact div_nonneg (Nat.cast_nonneg _) unit.le
  rw [InRange, ← positive, ← most, value?]
  by_cases finite : x.isFinite = true
  · rw [if_pos finite]
    by_cases negative : x.isNegative = true
    · rw [if_pos negative]
      constructor
      · intro within
        exact absurd negative within.2.1
      · rintro ⟨_, ⟨⟩, above, _⟩
        exact absurd (neg_pos.mp above) (not_lt.mpr least)
    · rw [if_neg negative]
      constructor
      · intro within
        exact ⟨_, rfl, within.2.2⟩
      · rintro ⟨_, ⟨⟩, within⟩
        exact ⟨finite, negative, within⟩
  · rw [if_neg finite]
    constructor
    · intro within
      exact absurd within.1 finite
    · rintro ⟨_, ⟨⟩, _⟩

end Chip8.Binary64
