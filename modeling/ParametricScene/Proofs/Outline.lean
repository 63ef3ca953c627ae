import ParametricScene.Geometry.Tessellation
import ParametricScene.Proofs.Enclosure

/-!
# Bounds of shapes

The bounds of a shape are told from its dimensions alone, the mesh is made by going around the shape in
steps. Here it is shown that the two agree, for shapes of any dimensions and any number of segments: no
vertex is further from the origin, along any axis, than the bounds reach.

All of it is about exact arithmetic. About sine and cosine nothing is used but that they lie between minus
one and one, so it does not matter where on the way around a vertex stands.

Dimensions may be negative. Radii and tubes are bounded by their magnitude, but widths, heights and depths
are taken as they are, and a negative one turns the corners of the bounds the wrong way round. The bounds
are empty then, although the mesh is the mirrored shape. So the contract has the exact condition,
`Primitive.IsUpright`; and what is left without it is that the box between the two corners of the bounds,
whichever way round they are, contains the mesh.

## Main definitions

* `Scalar.IsExact` — the operations of exact arithmetic
* `Vec3.Within` — no further from the origin than a corner
* `Primitive.IsUpright` — no width, height or depth is negative

## Main results

* `Primitive.within_bounds` — no vertex is further from the origin than the bounds reach
* `Primitive.contains_bounds_iff` — the bounds contain the mesh of upright shapes
* `Primitive.not_contains_bounds_mirrored` — and not that of a box turned inside out
-/

namespace ParametricScene

/-- The operations are those of exact arithmetic. Sine and cosine may be any functions between minus one
and one. -/
class Scalar.IsExact (α : Type) [Field α] [LinearOrder α] [Scalar α] : Prop where
  ofNat_exact (n : Nat) : (Scalar.ofNat n : α) = n
  abs_exact (a : α) : Scalar.abs a = |a|
  larger_exact (a b : α) : Scalar.larger a b = max a b
  abs_sin_le (a : α) : |Scalar.sin a| ≤ 1
  abs_cos_le (a : α) : |Scalar.cos a| ≤ 1

section Naturals

open Scalar.IsExact

variable {α : Type} [Field α] [LinearOrder α] [Scalar α] [Scalar.IsExact α]

theorem Scalar.ofNat_zero : (Scalar.ofNat 0 : α) = 0 := (ofNat_exact 0).trans Nat.cast_zero

theorem Scalar.ofNat_one : (Scalar.ofNat 1 : α) = 1 := (ofNat_exact 1).trans Nat.cast_one

theorem Scalar.ofNat_two : (Scalar.ofNat 2 : α) = 2 := (ofNat_exact 2).trans (Nat.cast_ofNat)

end Naturals

/-- The bounds of a shape lie around the origin. -/
theorem Primitive.min_bounds {α : Type} [Field α] [Scalar α] (p : Primitive α) :
    p.bounds.min = -p.bounds.max := by
  cases p <;> rfl

variable {α : Type} [Field α] [LinearOrder α] [IsStrictOrderedRing α]

/-! ### Boxes around the origin -/

/-- The point is no further from the origin, along any axis, than the corner. -/
def Vec3.Within (p corner : Vec3 α) : Prop :=
  |p.x| ≤ |corner.x| ∧ |p.y| ≤ |corner.y| ∧ |p.z| ≤ |corner.z|

namespace Box

variable {b : Box α} {p : Vec3 α}

theorem contains_iff_abs_le (h : b.min = -b.max) :
    b.Contains p ↔ |p.x| ≤ b.max.x ∧ |p.y| ≤ b.max.y ∧ |p.z| ≤ b.max.z := by
  have hmin : b.min = ⟨-b.max.x, -b.max.y, -b.max.z⟩ := h
  rw [Contains, hmin, Vec3.le_iff, Vec3.le_iff, abs_le, abs_le, abs_le]
  tauto

theorem isEmpty_eq_false_iff_nonneg (h : b.min = -b.max) :
    b.isEmpty = false ↔ 0 ≤ b.max.x ∧ 0 ≤ b.max.y ∧ 0 ≤ b.max.z := by
  have hmin : b.min = ⟨-b.max.x, -b.max.y, -b.max.z⟩ := h
  rw [isEmpty_eq_false_iff, hmin, Vec3.le_iff, neg_le_self_iff, neg_le_self_iff, neg_le_self_iff]

/-- The box between the two corners, whichever way round they are. -/
theorem around_corners_contains_iff [Scalar α] (h : b.min = -b.max) :
    (around [b.min, b.max]).Contains p ↔ p.Within b.max := by
  have hmin : b.min = ⟨-b.max.x, -b.max.y, -b.max.z⟩ := h
  have haround : around [b.min, b.max] =
      ⟨⟨-|b.max.x|, -|b.max.y|, -|b.max.z|⟩, ⟨|b.max.x|, |b.max.y|, |b.max.z|⟩⟩ := by
    simp only [around, List.foldl_cons, List.foldl_nil, enclose, hull, point, Vec3.zipWith,
      lesser_eq_min, greater_eq_max, hmin, abs_eq_max_neg, max_comm, ← min_neg_neg, neg_neg]
  rw [haround, contains_iff_abs_le rfl, Vec3.Within]

end Box

/-! ### How far shapes reach -/

namespace Primitive

/-- How far the bounds reach from the origin along each axis. -/
def reach : Primitive α → Vec3 α
  | box w h d => ⟨w / (2 : ℕ), h / (2 : ℕ), d / (2 : ℕ)⟩
  | cylinder top bottom h _ => ⟨max |top| |bottom|, h / (2 : ℕ), max |top| |bottom|⟩
  | sphere r _ _ => ⟨|r|, |r|, |r|⟩
  | plane w h => ⟨w / (2 : ℕ), h / (2 : ℕ), 0⟩
  | torus r t _ _ => ⟨|r| + |t|, |r| + |t|, |t|⟩
  | cone r h _ => ⟨|r|, h / (2 : ℕ), |r|⟩

/-- No width, height or depth is negative. Radii and tubes may be. -/
def IsUpright : Primitive α → Prop
  | box w h d => 0 ≤ w ∧ 0 ≤ h ∧ 0 ≤ d
  | plane w h => 0 ≤ w ∧ 0 ≤ h
  | cylinder _ _ h _ | cone _ h _ => 0 ≤ h
  | sphere _ _ _ | torus _ _ _ _ => True

theorem nonneg_reach_iff (p : Primitive α) :
    (0 ≤ p.reach.x ∧ 0 ≤ p.reach.y ∧ 0 ≤ p.reach.z) ↔ p.IsUpright := by
  have hhalf : ∀ a : α, 0 ≤ a / 2 ↔ 0 ≤ a := fun a => by
    rw [le_div_iff₀ two_pos, zero_mul]
  have hsum : ∀ a b : α, 0 ≤ |a| + |b| := fun a b => add_nonneg (abs_nonneg a) (abs_nonneg b)
  cases p <;> simp [reach, IsUpright, hhalf, hsum]

end Primitive

/-! ### Vertices -/

/-- What is made of one part of a length by adding or subtracting is at most as long. -/
theorem abs_corner_le {n u v h : α} (hsum : |n| + |u| + |v| = 1) :
    |n * h - u * h - v * h| ≤ |h| ∧ |n * h + u * h - v * h| ≤ |h| ∧
      |n * h + u * h + v * h| ≤ |h| ∧ |n * h - u * h + v * h| ≤ |h| := by
  have hparts : |n * h| + |u * h| + |v * h| = |h| := by
    rw [abs_mul, abs_mul, abs_mul, ← add_mul, ← add_mul, hsum, one_mul]
  have hsigned : ∀ a b : α, |a| = |u * h| → |b| = |v * h| → |n * h + a + b| ≤ |h| := by
    intro a b ha hb
    rw [← hparts, ← ha, ← hb]
    exact abs_add_three _ _ _
  have hnegU := abs_neg (u * h)
  have hnegV := abs_neg (v * h)
  simp only [sub_eq_add_neg]
  exact ⟨hsigned _ _ hnegU hnegV, hsigned _ _ rfl hnegV, hsigned _ _ rfl rfl, hsigned _ _ hnegU rfl⟩

variable [Scalar α] [Scalar.IsExact α]

open Scalar.IsExact

theorem abs_mul_sin_le (r t : α) : |r * Scalar.sin t| ≤ |r| := by
  rw [abs_mul]
  exact mul_le_of_le_one_right (abs_nonneg r) (abs_sin_le t)

theorem abs_mul_cos_le (r t : α) : |r * Scalar.cos t| ≤ |r| := by
  rw [abs_mul]
  exact mul_le_of_le_one_right (abs_nonneg r) (abs_cos_le t)

/-- A vertex in rows is one of the vertices that the rows are made of. -/
theorem Vertex.exists_of_mem_rows {β : Type} {rows columns : Nat} {vertex : Nat → Nat → Vertex β}
    {v : Vertex β} (hv : v ∈ Vertex.rows rows columns vertex) : ∃ j i, v = vertex j i := by
  obtain ⟨j, -, hv⟩ := List.mem_flatMap.mp hv
  obtain ⟨i, -, rfl⟩ := List.mem_map.mp hv
  exact ⟨j, i, rfl⟩

namespace Mesh

/-- On each axis just one of the three directions of a face has a part, which is a unit long. -/
theorem abs_add_abs_add_abs_of_mem_faces {f : Face α} (hf : f ∈ faces) :
    |f.normal.x| + |f.right.x| + |f.upward.x| = 1 ∧ |f.normal.y| + |f.right.y| + |f.upward.y| = 1 ∧
      |f.normal.z| + |f.right.z| + |f.upward.z| = 1 := by
  have hneg : ∀ x y z : α, (-⟨x, y, z⟩ : Vec3 α) = ⟨-x, -y, -z⟩ := fun _ _ _ => rfl
  simp only [faces, List.mem_cons, List.not_mem_nil, or_false] at hf
  rcases hf with rfl | rfl | rfl | rfl | rfl | rfl <;>
    simp [axisX, axisY, axisZ, Scalar.ofNat_zero, Scalar.ofNat_one, hneg]

theorem within_of_mem_box {size : Vec3 α} {v : Vertex α} (hv : v ∈ (box size).vertices) :
    v.position.Within ⟨size.x / 2, size.y / 2, size.z / 2⟩ := by
  rw [box, List.mem_toArray, List.mem_flatMap] at hv
  obtain ⟨f, hf, hv⟩ := hv
  obtain ⟨hx, hy, hz⟩ := abs_add_abs_add_abs_of_mem_faces hf
  have hx := abs_corner_le (h := size.x / 2) hx
  have hy := abs_corner_le (h := size.y / 2) hy
  have hz := abs_corner_le (h := size.z / 2) hz
  have hhalf : size.shrink (Scalar.ofNat 2) = ⟨size.x / 2, size.y / 2, size.z / 2⟩ := by
    rw [Scalar.ofNat_two]
    rfl
  simp only [Face.vertices, hhalf, List.mem_cons, List.not_mem_nil, or_false] at hv
  rcases hv with rfl | rfl | rfl | rfl
  · exact ⟨hx.1, hy.1, hz.1⟩
  · exact ⟨hx.2.1, hy.2.1, hz.2.1⟩
  · exact ⟨hx.2.2.1, hy.2.2.1, hz.2.2.1⟩
  · exact ⟨hx.2.2.2, hy.2.2.2, hz.2.2.2⟩

theorem within_of_mem_plane {width height : α} {v : Vertex α}
    (hv : v ∈ (plane width height).vertices) : v.position.Within ⟨width / 2, height / 2, 0⟩ := by
  simp only [plane, Scalar.ofNat_zero, Scalar.ofNat_two, Array.mem_def, List.mem_cons,
    List.not_mem_nil, or_false] at hv
  rcases hv with rfl | rfl | rfl | rfl <;> simp [Vec3.Within]

theorem within_of_mem_sphere {radius : α} {w h : Nat} {v : Vertex α}
    (hv : v ∈ (sphere radius w h).vertices) :
    v.position.Within ⟨|radius|, |radius|, |radius|⟩ := by
  rw [sphere, List.mem_toArray] at hv
  obtain ⟨j, i, rfl⟩ := Vertex.exists_of_mem_rows hv
  have hunit : ∀ a : α, |a| ≤ 1 → |a * radius| ≤ |radius| := by
    intro a ha
    rw [abs_mul]
    exact mul_le_of_le_one_left (abs_nonneg radius) ha
  have hproduct : ∀ a b : α, |a| ≤ 1 → |b| ≤ 1 → |a * b| ≤ 1 := by
    intro a b ha hb
    rw [abs_mul]
    exact mul_le_one₀ ha (abs_nonneg b) hb
  rw [Vec3.Within, abs_abs]
  refine ⟨hunit _ (hproduct _ _ ?_ (abs_sin_le _)), hunit _ (abs_cos_le _),
    hunit _ (hproduct _ _ (abs_sin_le _) (abs_sin_le _))⟩
  rw [abs_neg]
  exact abs_cos_le _

theorem within_of_mem_torus {radius tube : α} {r t : Nat} {v : Vertex α}
    (hv : v ∈ (torus radius tube r t).vertices) :
    v.position.Within ⟨|radius| + |tube|, |radius| + |tube|, |tube|⟩ := by
  rw [torus, List.mem_toArray] at hv
  obtain ⟨j, i, rfl⟩ := Vertex.exists_of_mem_rows hv
  have hreach : ∀ a : α, |radius + tube * Scalar.cos a| ≤ |radius| + |tube| := fun a =>
    (abs_add_le _ _).trans (add_le_add_right (abs_mul_cos_le tube a) _)
  have hsum : |(|radius| + |tube|)| = |radius| + |tube| :=
    abs_of_nonneg (add_nonneg (abs_nonneg radius) (abs_nonneg tube))
  rw [Vec3.Within, hsum, abs_abs]
  exact ⟨(abs_mul_cos_le _ _).trans (hreach _), (abs_mul_sin_le _ _).trans (hreach _),
    abs_mul_sin_le _ _⟩

/-- A point of a circle is no further away than the radius and the height. -/
theorem within_circlePoint {radius y outer : α} (houter : |radius| ≤ |outer|) (s i : Nat) :
    (circlePoint radius y s i).Within ⟨outer, y, outer⟩ :=
  ⟨(abs_mul_sin_le _ _).trans houter, le_rfl, (abs_mul_cos_le _ _).trans houter⟩

variable [BEq α]

theorem within_of_mem_cylinder {top bottom height outer : α} {s : Nat} (htop : |top| ≤ |outer|)
    (hbottom : |bottom| ≤ |outer|) {v : Vertex α} (hv : v ∈ (cylinder top bottom height s).vertices) :
    v.position.Within ⟨outer, height / 2, outer⟩ := by
  -- the lower half is the upper one mirrored
  have hmirror : ∀ {p : Vec3 α} {y : α}, p.Within ⟨outer, -y, outer⟩ → p.Within ⟨outer, y, outer⟩ := by
    intro p y hp
    rwa [Vec3.Within, abs_neg] at hp
  have hring : ∀ {radius y slope : α}, |radius| ≤ |outer| → v ∈ ring radius y slope s →
      v.position.Within ⟨outer, y, outer⟩ := by
    intro radius y slope houter hmem
    obtain ⟨i, -, rfl⟩ := List.mem_map.mp hmem
    exact within_circlePoint houter s i
  have hend : ∀ {radius y : α} {normal : Vec3 α}, |radius| ≤ |outer| →
      v ∈ endVertices radius y normal s → v.position.Within ⟨outer, y, outer⟩ := by
    intro radius y normal houter hmem
    rcases List.mem_cons.mp hmem with rfl | hmem
    · have hzero : |(Scalar.ofNat 0 : α)| ≤ |outer| := by
        rw [Scalar.ofNat_zero, abs_zero]
        exact abs_nonneg outer
      exact ⟨hzero, le_rfl, hzero⟩
    · obtain ⟨i, -, rfl⟩ := List.mem_map.mp hmem
      exact within_circlePoint houter s i
  rw [cylinder, Scalar.ofNat_two, List.mem_toArray, List.mem_append, List.mem_append,
    List.mem_append] at hv
  rcases hv with ((hv | hv) | hv) | hv
  · exact hring htop hv
  · exact hmirror (hring hbottom hv)
  · split at hv
    · exact hend htop hv
    · exact absurd hv List.not_mem_nil
  · split at hv
    · exact hmirror (hend hbottom hv)
    · exact absurd hv List.not_mem_nil

end Mesh

/-! ### Shapes -/

namespace Primitive

theorem max_bounds (p : Primitive α) : p.bounds.max = p.reach := by
  have htwice : ∀ a : α, twice a / 2 = a := fun a => by
    rw [twice, Scalar.ofNat_two]
    exact mul_div_cancel_left₀ a two_ne_zero
  cases p <;>
    simp [bounds, Box.centered, Vec3.shrink, Vec3.map, Vec3.replicate, reach, Scalar.ofNat_zero,
      Scalar.ofNat_two, htwice, abs_exact, larger_exact]

/-- The bounds of upright shapes are not empty. -/
theorem isEmpty_bounds_iff (p : Primitive α) : p.bounds.isEmpty = false ↔ p.IsUpright := by
  rw [Box.isEmpty_eq_false_iff_nonneg p.min_bounds, p.max_bounds, p.nonneg_reach_iff]

variable [BEq α]

/-- **No vertex is further from the origin, along any axis, than the bounds reach.** -/
theorem within_bounds (p : Primitive α) {v : Vertex α} (hv : v ∈ p.mesh.vertices) :
    v.position.Within p.bounds.max := by
  rw [p.max_bounds]
  cases p with
  | box w h d => exact Mesh.within_of_mem_box hv
  | plane w h => exact Mesh.within_of_mem_plane hv
  | sphere r w h => exact Mesh.within_of_mem_sphere hv
  | torus r t a b => exact Mesh.within_of_mem_torus hv
  | cylinder top bottom h s =>
    exact Mesh.within_of_mem_cylinder ((le_max_left _ _).trans (le_abs_self _))
      ((le_max_right _ _).trans (le_abs_self _)) hv
  | cone r h s =>
    -- the upper end is a point
    refine Mesh.within_of_mem_cylinder ?_ (abs_abs r).ge hv
    rw [Scalar.ofNat_zero, abs_zero]
    exact abs_nonneg _

/-- **The bounds contain the mesh of upright shapes**, and are not empty then. The bounds of other shapes
are empty and contain no vertex; even so, all vertices lie between the corners of the bounds. -/
theorem contains_bounds_iff (p : Primitive α) :
    (p.bounds.isEmpty = false ↔ p.IsUpright) ∧
      ∀ v ∈ p.mesh.vertices, (p.bounds.Contains v.position ↔ p.IsUpright) ∧
        (Box.around [p.bounds.min, p.bounds.max]).Contains v.position := by
  refine ⟨p.isEmpty_bounds_iff, fun v hv => ?_⟩
  have hwithin := p.within_bounds hv
  refine ⟨?_, (Box.around_corners_contains_iff p.min_bounds).mpr hwithin⟩
  rw [← p.isEmpty_bounds_iff]
  constructor
  · exact Box.isEmpty_eq_false_of_contains
  · intro hfull
    obtain ⟨hx, hy, hz⟩ := (Box.isEmpty_eq_false_iff_nonneg p.min_bounds).mp hfull
    rw [Vec3.Within, abs_of_nonneg hx, abs_of_nonneg hy, abs_of_nonneg hz] at hwithin
    exact (Box.contains_iff_abs_le p.min_bounds).mpr hwithin

end Primitive

/-! ### Shapes of real numbers -/

instance : Scalar.IsExact ℝ where
  ofNat_exact _ := rfl
  abs_exact _ := rfl
  larger_exact _ _ := rfl
  abs_sin_le := Real.abs_sin_le_one
  abs_cos_le := Real.abs_cos_le_one

namespace Primitive

/-- A ring turned inside out, whose tube is wider than the ring. -/
noncomputable def wideRing : Primitive ℝ := torus (-1) (2 : ℕ) 0 0

/-- The bounds of the ring contain its mesh. -/
theorem contains_bounds_iff_wideRing :
    Scalar.IsExact ℝ ∧ wideRing.IsUpright ∧ wideRing.bounds.isEmpty = false ∧
      ∀ v ∈ wideRing.mesh.vertices, wideRing.bounds.Contains v.position := by
  obtain ⟨hfull, hcontains⟩ := contains_bounds_iff wideRing
  have hupright : wideRing.IsUpright := trivial
  exact ⟨inferInstance, hupright, hfull.mpr hupright, fun v hv => (hcontains v hv).1.mpr hupright⟩

/-- A box with a negative width. -/
noncomputable def mirroredBox : Primitive ℝ := box (-1) 1 1

/-- The bounds of a box with a negative width are empty and contain no vertex of its mesh, which has
twenty-four. -/
theorem not_contains_bounds_mirrored :
    mirroredBox.bounds.isEmpty = true ∧ mirroredBox.mesh.vertices.size = 24 ∧
      ∀ v ∈ mirroredBox.mesh.vertices, ¬ mirroredBox.bounds.Contains v.position := by
  have hempty : mirroredBox.bounds.isEmpty = true := by
    rw [← Bool.not_eq_false, mirroredBox.isEmpty_bounds_iff]
    norm_num [mirroredBox, IsUpright]
  refine ⟨hempty, rfl, fun v _ hcontains => ?_⟩
  rw [Box.isEmpty_eq_false_of_contains hcontains] at hempty
  exact Bool.false_ne_true hempty

end Primitive

end ParametricScene
