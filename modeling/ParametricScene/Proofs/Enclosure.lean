import Mathlib.Algebra.Order.Field.Basic
import Mathlib.Analysis.SpecialFunctions.Trigonometric.Basic
import Mathlib.Tactic.NormNum
import ParametricScene.Geometry.Box

/-!
# The box around an image

A box is moved by moving its eight corners and taking the least box around their images. Here it is
shown that nothing of the image of the box gets outside: a matrix whose last row is `0 0 0 1` gives each
coordinate of an image as a linear function of the point, up to a constant, and over a box such a function
is least, and greatest, at some corner. Which corner that is depends on the signs of three entries, and
differs from coordinate to coordinate, so all eight are needed.

All of it is about exact arithmetic, in any ordered field. Doubles round, and the image of a point may
then lie outside by as much as that.

## Implementation notes

The least box around points is described by the boxes it is inside of, `Box.around_inside_iff`. That says
both that it contains the points and that no box inside it does, so that the two halves of the result are
one statement, `Box.transform_inside_iff`.

## Main definitions

* `Box.Contains`, `Box.Inside` — points and boxes in a box

## Main results

* `Box.around_inside_iff` — the least box around points
* `Box.exists_corner_dot_le`, `Box.exists_corner_le_dot` — a linear function is least and greatest at
  corners
* `Box.transform_isLeast` — the transformed box is the least around the image
-/

namespace ParametricScene

namespace Vec3

variable {α : Type}

/-- Points are compared on every axis. -/
instance [LE α] : LE (Vec3 α) := ⟨fun p q => p.x ≤ q.x ∧ p.y ≤ q.y ∧ p.z ≤ q.z⟩

theorem le_iff [LE α] {p q : Vec3 α} : p ≤ q ↔ p.x ≤ q.x ∧ p.y ≤ q.y ∧ p.z ≤ q.z := Iff.rfl

instance [Preorder α] : Preorder (Vec3 α) where
  le_refl _ := ⟨le_rfl, le_rfl, le_rfl⟩
  le_trans _ _ _ h h' := ⟨h.1.trans h'.1, h.2.1.trans h'.2.1, h.2.2.trans h'.2.2⟩

end Vec3

/-- A matrix with the last row `0 0 0 1` divides by one. -/
theorem Matrix.apply_of_fourth {α : Type} [Field α] [BEq α] [Scalar α] {m : Matrix α}
    (hm : m.fourth = ⟨0, 0, 0, 1⟩) (p : Vec3 α) :
    m.apply p =
      ⟨m.first.dot p + m.first.w, m.second.dot p + m.second.w, m.third.dot p + m.third.w⟩ := by
  have hdivisor : m.fourth.dot p + m.fourth.w = 1 := by
    rw [hm, Row.dot]
    ring
  rw [apply, hdivisor]
  simp [Vec3.shrink, Vec3.map]

namespace Box

/-- A corner is at one of the two ends on each axis. -/
theorem mem_corners_iff {α : Type} {b : Box α} {p : Vec3 α} :
    p ∈ b.corners ↔ (p.x = b.min.x ∨ p.x = b.max.x) ∧ (p.y = b.min.y ∨ p.y = b.max.y) ∧
      (p.z = b.min.z ∨ p.z = b.max.z) := by
  constructor
  · intro h
    simp only [corners, List.mem_cons, List.not_mem_nil, or_false] at h
    rcases h with rfl | rfl | rfl | rfl | rfl | rfl | rfl | rfl <;> simp
  · obtain ⟨x, y, z⟩ := p
    rintro ⟨hx, hy, hz⟩
    rcases hx with rfl | rfl <;> rcases hy with rfl | rfl <;> rcases hz with rfl | rfl <;>
      simp [corners]

/-! ### Points and boxes in a box -/

section Order

variable {α : Type} [LinearOrder α] {a b c : Box α} {p : Vec3 α}

/-- The point is in the box. -/
def Contains (b : Box α) (p : Vec3 α) : Prop := b.min ≤ p ∧ p ≤ b.max

/-- The corners of the first box do not reach beyond those of the second. -/
def Inside (b c : Box α) : Prop := c.min ≤ b.min ∧ b.max ≤ c.max

theorem Inside.refl (b : Box α) : b.Inside b := ⟨le_rfl, le_rfl⟩

theorem Inside.contains (h : b.Inside c) (hp : b.Contains p) : c.Contains p :=
  ⟨h.1.trans hp.1, hp.2.trans h.2⟩

theorem isEmpty_eq_false_iff : b.isEmpty = false ↔ b.min ≤ b.max := by
  simp [isEmpty, Vec3.le_iff, and_assoc]

theorem isEmpty_eq_false_of_contains (h : b.Contains p) : b.isEmpty = false :=
  isEmpty_eq_false_iff.mpr (h.1.trans h.2)

theorem lesser_eq_min (x y : α) : lesser x y = Min.min x y := (min_def x y).symm

theorem greater_eq_max (x y : α) : greater x y = Max.max x y := (max_def' x y).symm

/-- The box around two boxes is the least: it is inside of the boxes that both are inside of. -/
theorem hull_inside_iff : (a.hull b).Inside c ↔ a.Inside c ∧ b.Inside c := by
  simp only [Inside, hull, Vec3.zipWith, Vec3.le_iff, lesser_eq_min, greater_eq_max, le_min_iff,
    max_le_iff]
  tauto

theorem foldl_enclose_inside_iff (ps : List (Vec3 α)) (b : Box α) :
    (ps.foldl enclose b).Inside c ↔ b.Inside c ∧ ∀ p ∈ ps, c.Contains p := by
  induction ps generalizing b with
  | nil => simp
  | cons p ps ih =>
    rw [List.foldl_cons, ih, enclose, hull_inside_iff, List.forall_mem_cons, and_assoc]
    rfl

/-- **The least box around points** is inside of the boxes that contain them all. -/
theorem around_inside_iff [Scalar α] {ps : List (Vec3 α)} (hps : ps ≠ []) :
    (around ps).Inside c ↔ ∀ p ∈ ps, c.Contains p := by
  cases ps with
  | nil => exact absurd rfl hps
  | cons p ps =>
    rw [around, foldl_enclose_inside_iff, List.forall_mem_cons]
    rfl

/-- The corners of a box that is not empty are in the box. -/
theorem contains_of_mem_corners (hb : b.isEmpty = false) (hp : p ∈ b.corners) : b.Contains p := by
  obtain ⟨hx, hy, hz⟩ := isEmpty_eq_false_iff.mp hb
  have hends : ∀ {e lo hi : α}, lo ≤ hi → e = lo ∨ e = hi → lo ≤ e ∧ e ≤ hi := by
    rintro e lo hi hle (rfl | rfl)
    · exact ⟨le_rfl, hle⟩
    · exact ⟨hle, le_rfl⟩
  obtain ⟨hpx, hpy, hpz⟩ := mem_corners_iff.mp hp
  have hboundsX := hends hx hpx
  have hboundsY := hends hy hpy
  have hboundsZ := hends hz hpz
  exact ⟨⟨hboundsX.1, hboundsY.1, hboundsZ.1⟩, ⟨hboundsX.2, hboundsY.2, hboundsZ.2⟩⟩

end Order

/-! ### Linear functions on boxes -/

section Field

variable {α : Type} [Field α] [LinearOrder α] [IsStrictOrderedRing α] {b c : Box α} {p : Vec3 α}

/-- A multiple is least at one end, which one is for the sign of the factor to say. -/
theorem exists_end_mul_le (a : α) {lo x hi : α} (hlo : lo ≤ x) (hhi : x ≤ hi) :
    ∃ e, (e = lo ∨ e = hi) ∧ a * e ≤ a * x := by
  rcases le_total 0 a with ha | ha
  · exact ⟨lo, Or.inl rfl, mul_le_mul_of_nonneg_left hlo ha⟩
  · exact ⟨hi, Or.inr rfl, mul_le_mul_of_nonpos_left hhi ha⟩

/-- **A linear function on a box is least at a corner.** -/
theorem exists_corner_dot_le (r : Row α) (hp : b.Contains p) :
    ∃ q ∈ b.corners, r.dot q ≤ r.dot p := by
  obtain ⟨⟨hminX, hminY, hminZ⟩, hmaxX, hmaxY, hmaxZ⟩ := hp
  obtain ⟨x, hx, hlex⟩ := exists_end_mul_le r.x hminX hmaxX
  obtain ⟨y, hy, hley⟩ := exists_end_mul_le r.y hminY hmaxY
  obtain ⟨z, hz, hlez⟩ := exists_end_mul_le r.z hminZ hmaxZ
  exact ⟨⟨x, y, z⟩, mem_corners_iff.mpr ⟨hx, hy, hz⟩, add_le_add (add_le_add hlex hley) hlez⟩

/-- **A linear function on a box is greatest at a corner.** -/
theorem exists_corner_le_dot (r : Row α) (hp : b.Contains p) :
    ∃ q ∈ b.corners, r.dot p ≤ r.dot q := by
  have hneg : ∀ q : Vec3 α, (⟨-r.x, -r.y, -r.z, r.w⟩ : Row α).dot q = -r.dot q := fun q => by
    simp only [Row.dot]
    ring
  obtain ⟨q, hq, hle⟩ := exists_corner_dot_le ⟨-r.x, -r.y, -r.z, r.w⟩ hp
  rw [hneg, hneg, neg_le_neg_iff] at hle
  exact ⟨q, hq, hle⟩

variable [BEq α] [Scalar α] {m : Matrix α}

/-- **What contains the images of the corners contains the whole image.** -/
theorem contains_apply_iff (hm : m.fourth = ⟨0, 0, 0, 1⟩) (hb : b.isEmpty = false) :
    (∀ p, b.Contains p → c.Contains (m.apply p)) ↔ ∀ q ∈ b.corners, c.Contains (m.apply q) := by
  refine ⟨fun h q hq => h q (contains_of_mem_corners hb hq), fun h p hp => ?_⟩
  simp only [Matrix.apply_of_fourth hm, Contains, Vec3.le_iff] at h ⊢
  have hlower : ∀ (r : Row α) (l : α), (∀ q ∈ b.corners, l ≤ r.dot q + r.w) → l ≤ r.dot p + r.w := by
    intro r l hcorners
    obtain ⟨q, hq, hle⟩ := exists_corner_dot_le r hp
    exact (hcorners q hq).trans (add_le_add_left hle r.w)
  have hupper : ∀ (r : Row α) (u : α), (∀ q ∈ b.corners, r.dot q + r.w ≤ u) → r.dot p + r.w ≤ u := by
    intro r u hcorners
    obtain ⟨q, hq, hle⟩ := exists_corner_le_dot r hp
    exact (add_le_add_left hle r.w).trans (hcorners q hq)
  constructor
  · exact ⟨hlower m.first _ fun q hq => (h q hq).1.1, hlower m.second _ fun q hq => (h q hq).1.2.1,
      hlower m.third _ fun q hq => (h q hq).1.2.2⟩
  · exact ⟨hupper m.first _ fun q hq => (h q hq).2.1, hupper m.second _ fun q hq => (h q hq).2.2.1,
      hupper m.third _ fun q hq => (h q hq).2.2.2⟩

/-- The transformed box is inside of the boxes that contain the image. -/
theorem transform_inside_iff (hm : m.fourth = ⟨0, 0, 0, 1⟩) (hb : b.isEmpty = false) :
    (b.transform m).Inside c ↔ ∀ p, b.Contains p → c.Contains (m.apply p) := by
  rw [contains_apply_iff hm hb, transform, if_neg (by simp [hb]), around_inside_iff (by simp [corners]),
    List.forall_mem_map]

/-- **The transformed box is the least around the image**: it contains the image of every point of a box
that is not empty, and is inside of every box that does. An empty box stays as it is. -/
theorem transform_isLeast (b : Box α) (m : Matrix α) :
    (b.isEmpty = true → b.transform m = b) ∧
      (b.isEmpty = false → m.fourth = ⟨0, 0, 0, 1⟩ →
        (∀ p, b.Contains p → (b.transform m).Contains (m.apply p)) ∧
          ∀ c : Box α, (∀ p, b.Contains p → c.Contains (m.apply p)) → (b.transform m).Inside c) := by
  constructor
  · intro hb
    rw [transform, if_pos hb]
  · intro hb hm
    constructor
    · exact (transform_inside_iff hm hb).mp (Inside.refl _)
    · intro c hc
      exact (transform_inside_iff hm hb).mpr hc

end Field

/-! ### A box of real numbers -/

/-- The real numbers as coordinates. There is none above or below all others, so boxes without points
are not to be had from `Box.empty`. -/
noncomputable instance : Scalar ℝ where
  ofNat n := n
  abs := abs
  larger := Max.max
  sqrt := Real.sqrt
  sin := Real.sin
  cos := Real.cos
  tau := 2 * Real.pi
  pi := Real.pi
  tiny := 1 / 2 ^ 52
  top := 0
  bottom := 0

/-- A plank that does not stand around the origin. -/
noncomputable def plank : Box ℝ := ⟨⟨0, 0, 1⟩, ⟨1, 2, 4⟩⟩

/-- Shears along the first axis, stretches the second, turns the third around and moves. -/
noncomputable def shear : Matrix ℝ := ⟨⟨1, -1, 0, 5⟩, ⟨0, 2, 0, 0⟩, ⟨0, 0, -1, 0⟩, ⟨0, 0, 0, 1⟩⟩

/-- The sheared plank is enclosed by a box that is wider than the plank. -/
theorem transform_isLeast_plank :
    plank.isEmpty = false ∧ shear.fourth = ⟨0, 0, 0, 1⟩ ∧
      plank.transform shear = ⟨⟨3, 0, -4⟩, ⟨6, 4, -1⟩⟩ ∧
      (∀ p, plank.Contains p → (plank.transform shear).Contains (shear.apply p)) ∧
      ∀ c : Box ℝ, (∀ p, plank.Contains p → c.Contains (shear.apply p)) →
        (plank.transform shear).Inside c := by
  have hplank : plank.isEmpty = false := by
    norm_num [plank, isEmpty]
  have hlast : shear.fourth = ⟨0, 0, 0, 1⟩ := rfl
  have htransform : plank.transform shear = ⟨⟨3, 0, -4⟩, ⟨6, 4, -1⟩⟩ := by
    rw [transform, if_neg (by simp [hplank])]
    simp only [corners, List.map_cons, List.map_nil, Matrix.apply_of_fourth hlast]
    norm_num [plank, shear, Row.dot, around, enclose, hull, point, Vec3.zipWith, lesser, greater]
  have hleast := (transform_isLeast plank shear).2 hplank hlast
  exact ⟨hplank, hlast, htransform, hleast.1, hleast.2⟩

end Box

end ParametricScene
