import Mathlib.Algebra.Order.Ring.Nat

/-!
# Lengths of numerals

How long a number is in one base, by how long it is in base two. What relates the bases is a single
inequality between powers of theirs.

Results:

1. `pow_le_of_ratio`: the inequality carries over to every pair of exponents in that ratio;
2. `length_toDigits_le`, `lt_length_toDigits`: bounds of the length of a numeral from its bits.
-/

namespace Base.Numerals

/-- `log a / log b ≤ p / q`, as an inequality between powers. -/
structure Ratio (a b p q : Nat) : Prop where
  base : 0 < b
  pos : 0 < q
  powers : a ^ q ≤ b ^ p

variable {a b p q n k : Nat}

theorem pow_le_of_ratio (ratio : Ratio a b p q) (scaled : n * p ≤ k * q) : a ^ n ≤ b ^ k := by
  refine (Nat.pow_le_pow_iff_left ratio.pos.ne').mp ?_
  calc
    (a ^ n) ^ q = (a ^ q) ^ n := Nat.pow_right_comm a n q
    _ ≤ (b ^ p) ^ n := Nat.pow_le_pow_left ratio.powers n
    _ = b ^ (n * p) := by rw [← Nat.pow_mul, Nat.mul_comm]
    _ ≤ b ^ (k * q) := Nat.pow_le_pow_right ratio.base scaled
    _ = (b ^ k) ^ q := Nat.pow_mul b k q

/-- No more digits than the bits allow. -/
theorem length_toDigits_le (wide : 1 < b) (ratio : Ratio 2 b p q) (positive : 0 < k)
    (scaled : (n.log2 + 1) * p ≤ k * q) : (Nat.toDigits b n).length ≤ k := by
  rw [Nat.length_toDigits_le_iff wide positive]
  calc
    n < 2 ^ (n.log2 + 1) := Nat.lt_log2_self
    _ ≤ b ^ k := pow_le_of_ratio ratio scaled

/-- More digits than the bits need. -/
theorem lt_length_toDigits (wide : 1 < b) (ratio : Ratio b 2 p q) (nonzero : n ≠ 0)
    (scaled : k * p ≤ n.log2 * q) : k < (Nat.toDigits b n).length := by
  rcases Nat.eq_zero_or_pos k with rfl | positive
  · exact Nat.length_toDigits_pos
  · rw [← Nat.not_le, Nat.length_toDigits_le_iff wide positive, Nat.not_lt]
    calc
      b ^ k ≤ 2 ^ n.log2 := pow_le_of_ratio ratio scaled
      _ ≤ n := Nat.log2_self_le nonzero

end Base.Numerals
