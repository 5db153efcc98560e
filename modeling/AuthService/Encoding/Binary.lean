import Mathlib.Algebra.Group.Nat.Defs
import Mathlib.Tactic.Common

namespace Binary

/-- The integer nearest to a fraction. A tie goes to the even one. -/
def nearest (numerator denominator : Nat) : Nat :=
  let quotient := numerator / denominator
  let twice := 2 * (numerator % denominator)
  if twice < denominator then quotient
  else if denominator < twice then quotient + 1
  else quotient + quotient % 2

/-- A fraction of units rounded to a significand of the given digits, in units. The unit is `2 ^ -depth`, so one
is `2 ^ depth` units. Whole numbers beyond the digits are kept. -/
def round (digits depth numerator denominator : Nat) : Nat :=
  let step := 2 ^ min ((numerator / denominator).log2 + 1 - digits) depth
  nearest numerator (denominator * step) * step

/-- The whole part of a whole number plus a fraction. The fraction and the sum are rounded. -/
def wholeOfSum (digits depth whole numerator denominator : Nat) : Nat :=
  round digits depth (whole * 2 ^ depth + round digits depth (numerator * 2 ^ depth) denominator) 1 / 2 ^ depth

theorem div_le_nearest (numerator denominator : Nat) : numerator / denominator ≤ nearest numerator denominator := by
  unfold nearest
  dsimp only
  split
  · exact Nat.le_refl _
  · split <;> omega

theorem nearest_mul {denominator : Nat} (positive : 0 < denominator) (quotient : Nat) :
    nearest (denominator * quotient) denominator = quotient := by
  unfold nearest
  rw [Nat.mul_mod_right, Nat.mul_div_cancel_left _ positive]
  exact if_pos positive

section
variable {digits depth numerator denominator : Nat}

/-- Rounding keeps whole numbers. -/
theorem round_whole (positive : 0 < denominator) (whole : Nat) :
    round digits depth (denominator * (whole * 2 ^ depth)) denominator = whole * 2 ^ depth := by
  unfold round
  dsimp only
  generalize exponent : min _ depth = step
  have below : step ≤ depth := exponent ▸ Nat.min_le_right _ _
  obtain ⟨rest, rfl⟩ := Nat.exists_eq_add_of_le below
  rw [Nat.pow_add, show denominator * (whole * (2 ^ step * 2 ^ rest)) =
    denominator * 2 ^ step * (whole * 2 ^ rest) by ac_rfl, nearest_mul (Nat.mul_pos positive (Nat.two_pow_pos _))]
  ac_rfl

/-- Rounding does not fall below a whole number that the fraction reaches. -/
theorem le_round (positive : 0 < denominator) {whole : Nat}
    (reached : denominator * (whole * 2 ^ depth) ≤ numerator) :
    whole * 2 ^ depth ≤ round digits depth numerator denominator := by
  unfold round
  dsimp only
  generalize exponent : min _ depth = step
  have below : step ≤ depth := exponent ▸ Nat.min_le_right _ _
  obtain ⟨rest, rfl⟩ := Nat.exists_eq_add_of_le below
  have scaled : whole * 2 ^ rest ≤ numerator / (denominator * 2 ^ step) := by
    rw [Nat.le_div_iff_mul_le (Nat.mul_pos positive (Nat.two_pow_pos _))]
    calc whole * 2 ^ rest * (denominator * 2 ^ step)
        = denominator * (whole * 2 ^ (step + rest)) := by rw [Nat.pow_add]; ac_rfl
      _ ≤ numerator := reached
  calc whole * 2 ^ (step + rest) = whole * 2 ^ rest * 2 ^ step := by rw [Nat.pow_add]; ac_rfl
    _ ≤ nearest numerator (denominator * 2 ^ step) * 2 ^ step :=
        Nat.mul_le_mul_right _ (Nat.le_trans scaled (div_le_nearest _ _))

/-- Nothing is lost when the fraction is zero. -/
theorem wholeOfSum_zero (positive : 0 < denominator) (whole : Nat) :
    wholeOfSum digits depth whole 0 denominator = whole := by
  have fraction : round digits depth (0 * 2 ^ depth) denominator = 0 * 2 ^ depth := by
    rw [show 0 * 2 ^ depth = denominator * (0 * 2 ^ depth) by simp only [Nat.zero_mul, Nat.mul_zero],
      round_whole positive, Nat.zero_mul, Nat.mul_zero]
  have sum : round digits depth (1 * (whole * 2 ^ depth)) 1 = whole * 2 ^ depth := round_whole Nat.one_pos whole
  rw [Nat.one_mul] at sum
  rw [wholeOfSum, fraction, Nat.zero_mul, Nat.add_zero, sum, Nat.mul_div_cancel _ (Nat.two_pow_pos _)]

theorem le_wholeOfSum (whole : Nat) : whole ≤ wholeOfSum digits depth whole numerator denominator := by
  rw [wholeOfSum, Nat.le_div_iff_mul_le (Nat.two_pow_pos _)]
  refine le_round Nat.one_pos ?_
  rw [Nat.one_mul]
  exact Nat.le_add_right ..

end
end Binary
