import Mathlib.Data.Prod.Lex
import ParametricScene.Decimal.Binary

/-!
# The order of doubles

Doubles compare through their unpacked form: infinities lie outside, the two zeros are equal, and finite
numbers go by exponent before they go by mantissa. NaN does not compare with anything, not even with
itself; any two other numbers do.

So numbers other than NaN have places in a linear order, and two numbers with one place are equal, or
are the two zeros.

## Main definitions

* `Double.place` — the place of a number among all numbers

## Main results

* `Double.compare_swap` — comparing the other way round
* `Double.compare_eq_compare_place` — numbers compare like their places
* `Double.le_or_le` — any two numbers but NaN compare
* `Double.le_trans`, `Double.not_lt_iff`, `Double.beq_of_le_of_le` — the laws of a linear order
* `Double.le_larger`, `Double.smaller_le` — the larger and the smaller of two numbers are bounds
-/

namespace ParametricScene

namespace Double

/-! ### Comparing -/

section Model

open Float.Model

variable {u v : UnpackedFloat}

/-- Any two numbers but NaN compare. -/
theorem exists_compare (hu : u.isNaN = false) (hv : v.isNaN = false) :
    ∃ order, u.compare v = some order := by
  cases u with
  | notANumber => contradiction
  | infinity s | zero s | finite s _ _ _ =>
    cases v with
    | notANumber => contradiction
    | infinity t | zero t | finite t _ _ _ => cases s <;> cases t <;> exact ⟨_, rfl⟩

/-- Only numbers compare. -/
theorem not_isNaN_of_compare {order : Ordering} (h : u.compare v = some order) :
    u.isNaN = false ∧ v.isNaN = false := by
  cases u with
  | notANumber => contradiction
  | infinity s | zero s | finite s _ _ _ =>
    cases v with
    | notANumber => cases s <;> contradiction
    | infinity _ | zero _ | finite _ _ _ _ => exact ⟨rfl, rfl⟩

/-- Compared the other way round, two numbers are in the opposite order. -/
theorem compare_swap (u v : UnpackedFloat) : v.compare u = (u.compare v).map Ordering.swap := by
  have hfinite : ∀ (m n : Nat) (e f : Int),
      (compare f e).then (compare n m) = ((compare e f).then (compare m n)).swap := by
    intro m n e f
    rw [Ordering.swap_then, ← Std.OrientedCmp.eq_swap, ← Std.OrientedCmp.eq_swap]
  cases u with
  | notANumber =>
    cases v with
    | notANumber | infinity _ | zero _ | finite _ _ _ _ => rfl
  | infinity s =>
    cases v with
    | notANumber | zero _ | finite _ _ _ _ => cases s <;> rfl
    | infinity t => cases s <;> cases t <;> rfl
  | zero s =>
    cases v with
    | notANumber | zero _ => rfl
    | infinity t | finite t _ _ _ => cases t <;> rfl
  | finite s m e _ =>
    cases v with
    | notANumber => rfl
    | infinity t => cases t <;> rfl
    | zero _ => cases s <;> rfl
    | finite t n f _ =>
      -- of two negative numbers the one with the smaller magnitude is above
      cases s <;> cases t
      · exact congrArg some (congrArg Ordering.swap (hfinite m n e f))
      · rfl
      · rfl
      · exact congrArg some (hfinite m n e f)

/-! ### Places -/

/-- The place of a number among all numbers. Magnitudes count by exponent and then by mantissa, the
other way round below zero; infinities lie outside, and both zeros have one place. -/
def place : UnpackedFloat → ℤ ×ₗ ℤ ×ₗ ℤ
  | .infinity .negative => toLex (-2, toLex (0, 0))
  | .finite .negative m e _ => toLex (-1, toLex (-e, -m))
  | .zero _ | .notANumber => toLex (0, toLex (0, 0))
  | .finite .positive m e _ => toLex (1, toLex (e, m))
  | .infinity .positive => toLex (2, toLex (0, 0))

theorem compare_toLex (a b c d e f : ℤ) :
    compare (toLex (a, toLex (b, c))) (toLex (d, toLex (e, f))) =
      (compare a d).then ((compare b e).then (compare c f)) := by
  simp only [Prod.Lex.compare_def, compareLex, compareOn, ofLex_toLex]

theorem compare_neg (a b : ℤ) : compare (-a) (-b) = (compare a b).swap := by
  rw [← Std.OrientedCmp.eq_swap]
  simp only [Int.compare_eq_ite_lt, Int.neg_lt_neg_iff]

theorem compare_natCast (m n : ℕ) : compare (m : ℤ) (n : ℤ) = compare m n := by
  simp only [Int.compare_eq_ite_lt, Nat.compare_eq_ite_lt, Int.ofNat_lt]

/-- Numbers compare like their places. -/
theorem compare_eq_compare_place (hu : u.isNaN = false) (hv : v.isNaN = false) :
    u.compare v = some (compare (place u) (place v)) := by
  cases u with
  | notANumber => contradiction
  | infinity s | zero s =>
    cases v with
    | notANumber => contradiction
    | infinity t | zero t | finite t _ _ _ =>
      cases s <;> cases t <;> dsimp only [place] <;> rw [compare_toLex] <;> rfl
  | finite s m e _ =>
    cases v with
    | notANumber => contradiction
    | infinity t | zero t =>
      cases s <;> cases t <;> dsimp only [place] <;> rw [compare_toLex] <;> rfl
    | finite t n f _ =>
      cases s <;> cases t <;> dsimp only [place] <;> rw [compare_toLex]
      · -- of two negative numbers the one with the smaller magnitude is above
        rw [compare_neg e, compare_neg (m : ℤ), compare_natCast, ← Ordering.swap_then]
        rfl
      · rfl
      · rfl
      · rw [compare_natCast]
        rfl

end Model

variable {a b c : Float}

theorem le_iff : a ≤ b ↔ a.toModel.unpack.le b.toModel.unpack = true := decide_eq_true_iff

theorem le_or_le (ha : a.isNaN = false) (hb : b.isNaN = false) : a ≤ b ∨ b ≤ a := by
  obtain ⟨order, horder⟩ := exists_compare ha hb
  rw [le_iff, le_iff, Float.Model.UnpackedFloat.le, Float.Model.UnpackedFloat.le,
    compare_swap a.toModel.unpack, horder]
  cases order with
  | lt | eq => exact Or.inl rfl
  | gt => exact Or.inr rfl

theorem le_self (h : a.isNaN = false) : a ≤ a := (le_or_le h h).elim id id

theorem not_isNaN_of_le (h : a ≤ b) : a.isNaN = false ∧ b.isNaN = false := by
  rw [le_iff, Float.Model.UnpackedFloat.le] at h
  cases hcompare : a.toModel.unpack.compare b.toModel.unpack with
  | none => simp [hcompare] at h
  | some order => exact not_isNaN_of_compare hcompare

theorem le_iff_place (ha : a.isNaN = false) (hb : b.isNaN = false) :
    a ≤ b ↔ place a.toModel.unpack ≤ place b.toModel.unpack := by
  rw [le_iff, Float.Model.UnpackedFloat.le, compare_eq_compare_place ha hb, ← compare_le_iff_le]
  exact Ordering.isLE_iff_ne_gt

theorem le_trans (hab : a ≤ b) (hbc : b ≤ c) : a ≤ c := by
  obtain ⟨ha, hb⟩ := not_isNaN_of_le hab
  obtain ⟨-, hc⟩ := not_isNaN_of_le hbc
  exact (le_iff_place ha hc).mpr
    (((le_iff_place ha hb).mp hab).trans ((le_iff_place hb hc).mp hbc))

theorem not_lt_iff (ha : a.isNaN = false) (hb : b.isNaN = false) : ¬ a < b ↔ b ≤ a := by
  have hlt : a < b ↔ place a.toModel.unpack < place b.toModel.unpack := by
    rw [← compare_lt_iff_lt, ← Option.some_inj, ← compare_eq_compare_place ha hb, ← beq_iff_eq]
    exact decide_eq_true_iff
  rw [hlt, le_iff_place hb ha, not_lt]

/-- Two numbers that are at most each other are equal as far as comparing tells. -/
theorem beq_of_le_of_le (hab : a ≤ b) (hba : b ≤ a) : (a == b) = true := by
  obtain ⟨ha, hb⟩ := not_isNaN_of_le hab
  have hplace : compare (place a.toModel.unpack) (place b.toModel.unpack) = .eq :=
    compare_eq_iff_eq.mpr
      (le_antisymm ((le_iff_place ha hb).mp hab) ((le_iff_place hb ha).mp hba))
  show (a.toModel.unpack.compare b.toModel.unpack == some Ordering.eq) = true
  rw [compare_eq_compare_place ha hb, hplace]
  rfl

/-! ### The larger and the smaller of two numbers -/

theorem le_larger (ha : a.isNaN = false) (hb : b.isNaN = false) : b ≤ larger a b := by
  rw [larger]
  split
  · exact le_self hb
  · rename_i h
    exact (le_or_le ha hb).resolve_left (not_or.mp h).2

theorem smaller_le (ha : a.isNaN = false) (hb : b.isNaN = false) : smaller a b ≤ b := by
  rw [smaller]
  split
  · exact le_self hb
  · rename_i h
    exact (le_or_le hb ha).resolve_left (not_or.mp h).2

end Double

end ParametricScene
