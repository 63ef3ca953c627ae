import ParametricScene.Proofs.ReadingBack
import ParametricScene.Proofs.Rounding

/-!
# Integer parts of doubles

Counts and indices are whole numbers made from doubles. What is behind the point is dropped, and
what is too large for the kind of number that is asked for counts as its bound. Here this is said in
terms of the rational number that a double is: the integer part is that number truncated toward
zero, and bounds apply to the truncated number. So nothing is lost between a double and its integer
part, for all exponents a double can have.

## Main definitions

* `Binary.value`, `Double.value` — the rational number that a finite double is
* `truncation` — a rational number without what is behind the point

## Main results

* `Binary.toInt_eq_truncation` — integer parts, computed on mantissas
* `Double.toInt_eq_truncation`, `Double.toNat_eq_truncation` — integer parts within bounds
-/

namespace ParametricScene

/-- Toward zero to a whole number. -/
def truncation (q : ℚ) : ℤ := if 0 ≤ q then ⌊q⌋ else ⌈q⌉

theorem truncation_neg (q : ℚ) : truncation (-q) = -truncation q := by
  rw [truncation, truncation]
  rcases lt_trichotomy q 0 with h | rfl | h
  · rw [if_pos (by linarith), if_neg (by linarith), Int.floor_neg]
  · simp
  · rw [if_neg (by linarith), if_pos h.le, Int.ceil_neg]

namespace Binary

/-- The rational number that `b` is. -/
def value (b : Binary) : ℚ := if b.negative then -b.magnitude else b.magnitude

theorem magnitude_nonneg (b : Binary) : 0 ≤ b.magnitude := by
  rw [magnitude]
  positivity

/-- Shifting a mantissa drops just what is behind the point. -/
theorem whole_eq_floor (b : Binary) : (b.whole : ℤ) = ⌊b.magnitude⌋ := by
  rw [whole, mantissaAt, magnitude, Nat.shiftLeft_eq, Nat.shiftRight_eq_div_pow, sub_zero, zero_sub]
  rcases le_total 0 b.exponent with h | h
  · have hnone : (-b.exponent).toNat = 0 := by omega
    have hscale : (2 : ℚ) ^ b.exponent = 2 ^ b.exponent.toNat := by
      rw [← zpow_natCast, Int.toNat_of_nonneg h]
    rw [hnone, pow_zero, Nat.div_one, hscale]
    exact_mod_cast (Int.floor_natCast (R := ℚ) (b.mantissa * 2 ^ b.exponent.toNat)).symm
  · have hnone : b.exponent.toNat = 0 := by omega
    have hscale : (2 : ℚ) ^ b.exponent = ((2 ^ (-b.exponent).toNat : ℕ) : ℚ)⁻¹ := by
      push_cast
      rw [← zpow_natCast, Int.toNat_of_nonneg (by omega), zpow_neg, inv_inv]
    rw [hnone, pow_zero, Nat.mul_one, hscale, ← div_eq_mul_inv, Rat.floor_natCast_div_natCast]
    exact Int.natCast_ediv _ _

/-- **The integer part of a double is the truncated number.** -/
theorem toInt_eq_truncation (b : Binary) : b.toInt = truncation b.value := by
  have hwhole : (b.whole : ℤ) = truncation b.magnitude := by
    rw [truncation, if_pos b.magnitude_nonneg, whole_eq_floor]
  rw [toInt, value]
  split
  · rw [truncation_neg, hwhole]
  · exact hwhole

end Binary

namespace Double

/-- The rational number that a finite double is; zero stands in for what is none. -/
def value (x : Float) : ℚ := ((Binary.ofFloat? x).map Binary.value).getD 0

variable {x : Float}

/-- The truncated number, from the fields of the double. -/
theorem truncation_value {b : Binary} (h : Binary.ofFloat? x = some b) :
    truncation (value x) = b.toInt := by
  rw [value, h]
  exact b.toInt_eq_truncation.symm

/-- The integer part of a finite double within bounds. -/
theorem toInt_eq_truncation (low high : ℤ) (h : x.isFinite = true) :
    toInt low high x = max low (min high (truncation (value x))) := by
  obtain ⟨b, hb⟩ := isFinite_iff.mp h
  rw [toInt, hb, truncation_value hb]

/-- The natural part of a finite double within a bound. -/
theorem toNat_eq_truncation (high : ℕ) (h : x.isFinite = true) :
    toNat high x = min high (truncation (value x)).toNat := by
  rw [toNat, toInt_eq_truncation 0 high h]
  omega

end Double

end ParametricScene
