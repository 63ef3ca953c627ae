import Mathlib.Algebra.BigOperators.Group.Finset.Basic
import Mathlib.Algebra.BigOperators.Intervals
import Mathlib.Tactic.Ring
import ParametricScene.Geometry.Tessellation

/-!
# Curved meshes are closed and wound one way

A surface without holes whose triangles are all wound alike runs along each of its edges as often in one
direction as in the other. The meshes of curved shapes are such surfaces once those vertices count as one
that stand in one place: rows repeat their first vertex at the seam, the rows at the poles of a sphere
and at the tip of a cone are single points, a torus repeats its first row, and the ends of a cylinder
have a rim of their own.

## How edges are counted

Counting edges in both directions is awkward, since an edge meets its reverse in another triangle, often
in another row. So an edge counts as one forward and as minus one backward, and what is to be shown is
that the sum over all triangles is zero. Any such *flow* will do, as long as it changes its sign with the
direction and cannot tell glued vertices apart. Around a cell, the diagonal cancels at once; along a row,
what flows down on one side of a cell flows up on the other side of the one before. What is left of a
whole grid is the flow along its rim.

## Main definitions

* `Mesh.edgeCount` — how often a mesh runs along an edge
* `Primitive.Glued` — the vertices of a curved shape that stand in one place
* `Triangle.Flow` — functions of directed edges

## Main results

* `Triangle.flowAll_grid` — only the rim of a grid counts
* `Primitive.edgeCount_comm` — the contract
-/

namespace ParametricScene

variable {α : Type}

/-! ### Edges -/

/-- The directed edges around a triangle. -/
def Triangle.edges (t : Triangle) : List (Nat × Nat) := [(t.a, t.b), (t.b, t.c), (t.c, t.a)]

namespace Mesh

/-- The directed edges around all triangles. -/
def edges (m : Mesh α) : List (Nat × Nat) := m.triangles.toList.flatMap Triangle.edges

/-- How often the mesh runs from a vertex labelled `u` to one labelled `v`. -/
def edgeCount {γ : Type} [DecidableEq γ] (m : Mesh α) (label : Nat → γ) (u v : γ) : Nat :=
  (m.edges.map fun e => (label e.1, label e.2)).count (u, v)

end Mesh

/-! ### Flows -/

namespace Triangle

/-- What flows along the edges around a triangle. -/
def flow (f : Nat → Nat → ℤ) (t : Triangle) : ℤ := f t.a t.b + f t.b t.c + f t.c t.a

/-- What flows around several triangles. -/
def flowAll (f : Nat → Nat → ℤ) (ts : List Triangle) : ℤ := (ts.map (flow f)).sum

theorem flow_rotate (f : Nat → Nat → ℤ) (a b c : Nat) : flow f ⟨a, b, c⟩ = flow f ⟨b, c, a⟩ := by
  simp only [flow]
  omega

/-- The function changes its sign with the direction, and cannot tell glued vertices apart. -/
structure Flow (glued : Nat → Nat → Prop) (f : Nat → Nat → ℤ) : Prop where
  swap : ∀ i j, f j i = -f i j
  congr : ∀ {i i' : Nat}, glued i i' → ∀ j, f i j = f i' j

theorem flowAll_append (f : Nat → Nat → ℤ) (ts us : List Triangle) :
    flowAll f (ts ++ us) = flowAll f ts + flowAll f us := by
  rw [flowAll, List.map_append, List.sum_append, flowAll, flowAll]

/-- A triangle may be left out if nothing flows around it. -/
theorem flowAll_ite {f : Nat → Nat → ℤ} {p : Prop} [Decidable p] {t : Triangle}
    (h : p → flow f t = 0) : flowAll f (if p then [] else [t]) = flow f t := by
  split
  · rename_i hp
    exact (h hp).symm
  · exact List.sum_singleton

theorem flowAll_flatMap_range (f : Nat → Nat → ℤ) (n : Nat) (ts : Nat → List Triangle) :
    flowAll f ((List.range n).flatMap ts) = ∑ i ∈ Finset.range n, flowAll f (ts i) := by
  induction n with
  | zero => rfl
  | succ n ih =>
    rw [List.range_succ, List.flatMap_append, flowAll_append, ih, Finset.sum_range_succ,
      List.flatMap_singleton]

namespace Flow

variable {glued : Nat → Nat → Prop} {f : Nat → Nat → ℤ}

theorem right (h : Flow glued f) {i i' : Nat} (hi : ∀ k, f i k = f i' k) (j : Nat) :
    f j i = f j i' := by
  rw [h.swap, hi, ← h.swap]

theorem congr_right (h : Flow glued f) {i i' : Nat} (hglued : glued i i') (j : Nat) :
    f j i = f j i' :=
  h.right (h.congr hglued) j

theorem self (h : Flow glued f) (i : Nat) : f i i = 0 := by
  have hswap := h.swap i i
  omega

/-- Nothing flows around a triangle with two corners in one place. -/
theorem flow_eq_zero (h : Flow glued f) {a b : Nat} (hab : ∀ k, f a k = f b k) (c : Nat) :
    flow f ⟨a, b, c⟩ = 0 := by
  have hback := h.swap a c
  have hself := h.self b
  have hb := hab b
  have hc := hab c
  simp only [flow]
  omega

/-- Wound the other way, a triangle has the opposite flow. -/
theorem flow_reverse (h : Flow glued f) (a b c : Nat) : flow f ⟨a, c, b⟩ = -flow f ⟨a, b, c⟩ := by
  have hab := h.swap a b
  have hac := h.swap a c
  have hbc := h.swap b c
  simp only [flow]
  omega

/-- The diagonal of a quadrilateral does not count. -/
theorem flowAll_ofQuad (h : Flow glued f) (a b c d : Nat) :
    flowAll f (ofQuad a b c d) = f a b + f b c + f c d + f d a := by
  have hdiagonal := h.swap b d
  simp only [flowAll, ofQuad, flow, List.map_cons, List.map_nil, List.sum_cons, List.sum_nil]
  omega

end Flow

/-- **Only the rim of a row counts.** What flows out of a cell on one side flows into the next. -/
theorem flowAll_row {f : Nat → Nat → ℤ} {columns : Nat} {cell : Nat → List Triangle}
    (down along : Nat → ℤ)
    (hcell : ∀ i < columns, flowAll f (cell i) = down i - down (i + 1) + along i) :
    flowAll f ((List.range columns).flatMap cell) =
      down 0 - down columns + ∑ i ∈ Finset.range columns, along i := by
  rw [flowAll_flatMap_range,
    Finset.sum_congr rfl fun i hi => hcell i (Finset.mem_range.mp hi), Finset.sum_add_distrib,
    Finset.sum_range_sub']

/-- **Only the rim of a grid counts.** -/
theorem flowAll_grid {f : Nat → Nat → ℤ} {rows columns : Nat} {cell : Nat → Nat → List Triangle}
    (down across : Nat → Nat → ℤ)
    (hcell : ∀ j < rows, ∀ i < columns, flowAll f (cell j i) =
      down j i - down j (i + 1) + (across (j + 1) i - across j i)) :
    flowAll f (grid rows columns cell) =
      ∑ j ∈ Finset.range rows, (down j 0 - down j columns) +
        ∑ i ∈ Finset.range columns, (across rows i - across 0 i) := by
  have hcolumn : ∀ i, ∑ j ∈ Finset.range rows, (across (j + 1) i - across j i) =
      across rows i - across 0 i := fun i => Finset.sum_range_sub (fun j => across j i) rows
  calc flowAll f (grid rows columns cell)
      = ∑ j ∈ Finset.range rows, (down j 0 - down j columns +
          ∑ i ∈ Finset.range columns, (across (j + 1) i - across j i)) := by
        rw [grid, flowAll_flatMap_range]
        exact Finset.sum_congr rfl fun j hj =>
          flowAll_row (down j) (fun i => across (j + 1) i - across j i)
            (hcell j (Finset.mem_range.mp hj))
    _ = _ := by
        rw [Finset.sum_add_distrib, Finset.sum_comm]
        simp only [hcolumn]

/-- Nothing flows around a grid whose rows and columns end where they begin. -/
theorem flowAll_grid_eq_zero {f : Nat → Nat → ℤ} {rows columns : Nat}
    {cell : Nat → Nat → List Triangle} (down across : Nat → Nat → ℤ)
    (hcell : ∀ j < rows, ∀ i < columns, flowAll f (cell j i) =
      down j i - down j (i + 1) + (across (j + 1) i - across j i))
    (hrows : ∀ j < rows, down j 0 = down j columns)
    (hcolumns : ∀ i < columns, across rows i = across 0 i) :
    flowAll f (grid rows columns cell) = 0 := by
  have hseam : ∀ j ∈ Finset.range rows, down j 0 - down j columns = 0 := fun j hj =>
    Int.sub_eq_zero.mpr (hrows j (Finset.mem_range.mp hj))
  have hrim : ∀ i ∈ Finset.range columns, across rows i - across 0 i = 0 := fun i hi =>
    Int.sub_eq_zero.mpr (hcolumns i (Finset.mem_range.mp hi))
  rw [flowAll_grid down across hcell, Finset.sum_eq_zero hseam, Finset.sum_eq_zero hrim, Int.add_zero]

/-- **Only the rim of a fan counts**, and the two sides that meet there. -/
theorem Flow.flowAll_fan {glued : Nat → Nat → Prop} {f : Nat → Nat → ℤ} (h : Flow glued f)
    (middle : Nat) (rim : Nat → Nat) (n : Nat) :
    flowAll f ((List.range n).map fun i => ⟨middle, rim i, rim (i + 1)⟩) =
      f middle (rim 0) - f middle (rim n) + ∑ i ∈ Finset.range n, f (rim i) (rim (i + 1)) := by
  rw [List.map_eq_flatMap]
  refine flowAll_row (fun i => f middle (rim i)) (fun i => f (rim i) (rim (i + 1))) fun i _ => ?_
  have hback := h.swap middle (rim (i + 1))
  simp only [flowAll, flow, List.map_cons, List.map_nil, List.sum_cons, List.sum_nil]
  omega

/-! ### Counting by flows -/

/-- An edge counts as one from `u` to `v`, and as minus one from `v` to `u`. -/
def flowBetween {γ : Type} [DecidableEq γ] (label : Nat → γ) (u v : γ) (i j : Nat) : ℤ :=
  (if (label i, label j) = (u, v) then 1 else 0) - (if (label i, label j) = (v, u) then 1 else 0)

theorem flow_flowBetween {γ : Type} [DecidableEq γ] {glued : Nat → Nat → Prop} {label : Nat → γ}
    (hlabel : ∀ i i', glued i i' → label i = label i') (u v : γ) :
    Flow glued (flowBetween label u v) where
  swap i j := by
    simp only [flowBetween, Prod.mk.injEq, and_comm (a := label j = _)]
    omega
  congr hglued j := by rw [flowBetween, flowBetween, hlabel _ _ hglued]

theorem count_edges_sub {γ : Type} [DecidableEq γ] (label : Nat → γ) (u v : γ)
    (es : List (Nat × Nat)) :
    (((es.map fun e => (label e.1, label e.2)).count (u, v) : ℕ) : ℤ) -
        (es.map fun e => (label e.1, label e.2)).count (v, u) =
      (es.map fun e => flowBetween label u v e.1 e.2).sum := by
  induction es with
  | nil => rfl
  | cons e rest ih =>
    simp only [List.map_cons, List.count_cons, List.sum_cons, beq_iff_eq]
    rw [← ih, flowBetween]
    push_cast
    ring

theorem sum_edges (f : Nat → Nat → ℤ) (ts : List Triangle) :
    ((ts.flatMap edges).map fun e => f e.1 e.2).sum = flowAll f ts := by
  induction ts with
  | nil => rfl
  | cons t rest ih =>
    rw [List.flatMap_cons, List.map_append, List.sum_append, ih, flowAll, flowAll, List.map_cons,
      List.sum_cons]
    simp only [edges, flow, List.map_cons, List.map_nil, List.sum_cons, List.sum_nil]
    omega

end Triangle

/-- **An edge is met as often as its reverse** if nothing flows around the triangles. -/
theorem Mesh.edgeCount_comm_of_flow {γ : Type} [DecidableEq γ] {m : Mesh α} {label : Nat → γ} {u v : γ}
    (h : Triangle.flowAll (Triangle.flowBetween label u v) m.triangles.toList = 0) :
    m.edgeCount label u v = m.edgeCount label v u := by
  have hcount := Triangle.count_edges_sub label u v m.edges
  rw [Mesh.edges, Triangle.sum_edges, h] at hcount
  rw [Mesh.edgeCount, Mesh.edgeCount, Mesh.edges]
  omega

/-! ### Glued vertices -/

/-- The position of a vertex among those of rows with `columns + 1` vertices each. -/
def Vertex.rowIndex (columns j i : Nat) : Nat := j * (columns + 1) + i

namespace Mesh

open Vertex

/-- The vertices of a sphere that stand in one place. -/
inductive SphereGlued (w h : Nat) : Nat → Nat → Prop where
  | seam {j : Nat} (hj : j ≤ h) : SphereGlued w h (rowIndex w j w) (rowIndex w j 0)
  | upperPole {i : Nat} (hi : i ≤ w) : SphereGlued w h (rowIndex w 0 i) (rowIndex w 0 0)
  | lowerPole {i : Nat} (hi : i ≤ w) : SphereGlued w h (rowIndex w h i) (rowIndex w h 0)

/-- The vertices of a torus that stand in one place. -/
inductive TorusGlued (r t : Nat) : Nat → Nat → Prop where
  | seam {j : Nat} (hj : j ≤ r) : TorusGlued r t (rowIndex t j t) (rowIndex t j 0)
  | ring {i : Nat} (hi : i ≤ t) : TorusGlued r t (rowIndex t r i) (rowIndex t 0 i)

/-- The vertices of a cylinder with two ends that stand in one place. -/
inductive CylinderGlued (s : Nat) : Nat → Nat → Prop where
  | upperSeam : CylinderGlued s s 0
  | lowerSeam : CylinderGlued s (s + 1 + s) (s + 1)
  | upperRim {i : Nat} (hi : i ≤ s) : CylinderGlued s (2 * (s + 1) + 1 + i) i
  | lowerRim {i : Nat} (hi : i ≤ s) :
      CylinderGlued s (2 * (s + 1) + (s + 2) + 1 + i) (s + 1 + i)

/-- The vertices of a cone that stand in one place. -/
inductive ConeGlued (s : Nat) : Nat → Nat → Prop where
  | tip {i : Nat} (hi : i ≤ s) : ConeGlued s i 0
  | seam : ConeGlued s (s + 1 + s) (s + 1)
  | rim {i : Nat} (hi : i ≤ s) : ConeGlued s (2 * (s + 1) + 1 + i) (s + 1 + i)

open Triangle

variable {f : Nat → Nat → ℤ}

/-! ### Spheres -/

/-- The triangle that a cell next to a pole lacks would not count. -/
theorem flowAll_sphereCell {w h j i : Nat} (hf : Flow (SphereGlued w h) f) (hi : i < w) :
    flowAll f (sphereCell w h j i) =
      flowAll f (ofQuad (rowIndex w j (i + 1)) (rowIndex w j i) (rowIndex w (j + 1) i)
        (rowIndex w (j + 1) (i + 1))) := by
  have hcell : sphereCell w h j i =
      (if j = 0 then [] else
        [⟨rowIndex w j (i + 1), rowIndex w j i, rowIndex w (j + 1) (i + 1)⟩]) ++
      (if j + 1 = h then [] else
        [⟨rowIndex w j i, rowIndex w (j + 1) i, rowIndex w (j + 1) (i + 1)⟩]) := rfl
  have hupper : j = 0 →
      flow f ⟨rowIndex w j (i + 1), rowIndex w j i, rowIndex w (j + 1) (i + 1)⟩ = 0 := by
    rintro rfl
    refine hf.flow_eq_zero (fun k => ?_) _
    rw [hf.congr (.upperPole hi), hf.congr (.upperPole (Nat.le_of_lt hi))]
  have hlower : j + 1 = h →
      flow f ⟨rowIndex w j i, rowIndex w (j + 1) i, rowIndex w (j + 1) (i + 1)⟩ = 0 := by
    rintro rfl
    rw [flow_rotate]
    refine hf.flow_eq_zero (fun k => ?_) _
    rw [hf.congr (.lowerPole (Nat.le_of_lt hi)), hf.congr (.lowerPole hi)]
  rw [hcell, flowAll_append, flowAll_ite hupper, flowAll_ite hlower]
  exact congrArg _ (Int.add_zero _).symm

/-- **A sphere is closed.** The rim of its grid is the seam, taken in both directions, and the two
poles, which have no length. -/
theorem flowAll_sphere {w h : Nat} (hf : Flow (SphereGlued w h) f) :
    flowAll f (grid h w (sphereCell w h)) = 0 := by
  have hcell : ∀ j < h, ∀ i < w, flowAll f (sphereCell w h j i) =
      f (rowIndex w j i) (rowIndex w (j + 1) i) -
        f (rowIndex w j (i + 1)) (rowIndex w (j + 1) (i + 1)) +
      (f (rowIndex w (j + 1) i) (rowIndex w (j + 1) (i + 1)) -
        f (rowIndex w j i) (rowIndex w j (i + 1))) := by
    intro j _ i hi
    rw [flowAll_sphereCell hf hi, hf.flowAll_ofQuad,
      hf.swap (rowIndex w j (i + 1)) (rowIndex w (j + 1) (i + 1)),
      hf.swap (rowIndex w j i) (rowIndex w j (i + 1))]
    ring
  refine flowAll_grid_eq_zero (fun j i => f (rowIndex w j i) (rowIndex w (j + 1) i))
    (fun j i => f (rowIndex w j i) (rowIndex w j (i + 1))) hcell ?_ ?_
  · intro j hj
    show f (rowIndex w j 0) (rowIndex w (j + 1) 0) = f (rowIndex w j w) (rowIndex w (j + 1) w)
    rw [hf.congr (.seam (Nat.le_of_lt hj)), hf.congr_right (.seam hj)]
  · intro i hi
    show f (rowIndex w h i) (rowIndex w h (i + 1)) = f (rowIndex w 0 i) (rowIndex w 0 (i + 1))
    rw [hf.congr (.lowerPole (Nat.le_of_lt hi)), hf.congr_right (.lowerPole hi), hf.self,
      hf.congr (.upperPole (Nat.le_of_lt hi)), hf.congr_right (.upperPole hi), hf.self]

/-! ### Tori -/

/-- **A torus is closed.** Both its rows and its columns end where they begin. -/
theorem flowAll_torus {r t : Nat} (hf : Flow (TorusGlued r t) f) :
    flowAll f (grid r t (torusCell t)) = 0 := by
  have hcell : ∀ j < r, ∀ i < t, flowAll f (torusCell t j i) =
      f (rowIndex t (j + 1) i) (rowIndex t j i) -
        f (rowIndex t (j + 1) (i + 1)) (rowIndex t j (i + 1)) +
      (f (rowIndex t (j + 1) (i + 1)) (rowIndex t (j + 1) i) -
        f (rowIndex t j (i + 1)) (rowIndex t j i)) := by
    intro j _ i _
    have hquad : torusCell t j i = ofQuad (rowIndex t (j + 1) i) (rowIndex t j i)
        (rowIndex t j (i + 1)) (rowIndex t (j + 1) (i + 1)) := by
      simp only [torusCell, rowIndex, Nat.mul_comm (t + 1)]
    rw [hquad, hf.flowAll_ofQuad, hf.swap (rowIndex t (j + 1) (i + 1)) (rowIndex t j (i + 1)),
      hf.swap (rowIndex t j (i + 1)) (rowIndex t j i)]
    ring
  refine flowAll_grid_eq_zero (fun j i => f (rowIndex t (j + 1) i) (rowIndex t j i))
    (fun j i => f (rowIndex t j (i + 1)) (rowIndex t j i)) hcell ?_ ?_
  · intro j hj
    show f (rowIndex t (j + 1) 0) (rowIndex t j 0) = f (rowIndex t (j + 1) t) (rowIndex t j t)
    rw [hf.congr (.seam hj), hf.congr_right (.seam (Nat.le_of_lt hj))]
  · intro i hi
    show f (rowIndex t r (i + 1)) (rowIndex t r i) = f (rowIndex t 0 (i + 1)) (rowIndex t 0 i)
    rw [hf.congr (.ring hi), hf.congr_right (.ring (Nat.le_of_lt hi))]

/-! ### Cylinders and cones -/

/-- What flows around the side of a cylinder flows along the lower circle, and back along the upper
one. -/
theorem flowAll_sideTriangles {glued : Nat → Nat → Prop} (hf : Flow glued f) {s : Nat}
    (hupper : ∀ k, f s k = f 0 k) (hlower : ∀ k, f (s + 1 + s) k = f (s + 1) k) :
    flowAll f (sideTriangles s) =
      ∑ i ∈ Finset.range s, (f (s + 1 + i) (s + 1 + (i + 1)) - f i (i + 1)) := by
  have hcell : ∀ i < s, flowAll f (ofQuad (s + 1 + i) (s + 1 + (i + 1)) (i + 1) i) =
      f i (s + 1 + i) - f (i + 1) (s + 1 + (i + 1)) +
        (f (s + 1 + i) (s + 1 + (i + 1)) - f i (i + 1)) := by
    intro i _
    rw [hf.flowAll_ofQuad, hf.swap (i + 1) (s + 1 + (i + 1)), hf.swap i (i + 1)]
    ring
  rw [sideTriangles, flowAll_row (fun i => f i (s + 1 + i))
    (fun i => f (s + 1 + i) (s + 1 + (i + 1)) - f i (i + 1)) hcell]
  have hseam : f s (s + 1 + s) = f 0 (s + 1 + 0) := by
    rw [hupper, hf.right hlower]
  rw [hseam, Int.sub_self, Int.zero_add]

/-- What flows around the upper end of a cylinder flows along the circle that its rim is glued to. -/
theorem flowAll_upperEnd {glued : Nat → Nat → Prop} (hf : Flow glued f) {s base : Nat}
    (circle : Nat → Nat) (hrim : ∀ i ≤ s, ∀ k, f (base + 1 + i) k = f (circle i) k)
    (hseam : ∀ k, f (circle s) k = f (circle 0) k) :
    flowAll f (upperEnd s base) = ∑ i ∈ Finset.range s, f (circle i) (circle (i + 1)) := by
  have hspokes : f base (base + 1 + 0) = f base (base + 1 + s) := by
    rw [hf.right (hrim 0 (Nat.zero_le s)), hf.right (hrim s (Nat.le_refl s)), hf.right hseam]
  rw [upperEnd, hf.flowAll_fan base (fun i => base + 1 + i), hspokes, Int.sub_self, Int.zero_add]
  refine Finset.sum_congr rfl fun i hi => ?_
  have hlt := Finset.mem_range.mp hi
  rw [hrim i (Nat.le_of_lt hlt), hf.right (hrim (i + 1) hlt)]

/-- The lower end is wound the other way. -/
theorem flowAll_lowerEnd {glued : Nat → Nat → Prop} (hf : Flow glued f) (s base : Nat) :
    flowAll f (lowerEnd s base) = -flowAll f (upperEnd s base) := by
  rw [lowerEnd, upperEnd, List.map_eq_flatMap, List.map_eq_flatMap, flowAll_flatMap_range,
    flowAll_flatMap_range, ← Finset.sum_neg_distrib]
  refine Finset.sum_congr rfl fun i _ => ?_
  have hreverse := hf.flow_reverse base (base + 1 + i) (base + 1 + (i + 1))
  simpa only [flowAll, List.map_cons, List.map_nil, List.sum_singleton] using hreverse

/-- **A cylinder with two ends is closed.** Each end takes up what flows along its circle. -/
theorem flowAll_cylinder {s : Nat} (hf : Flow (CylinderGlued s) f) :
    flowAll f (sideTriangles s ++ upperEnd s (2 * (s + 1)) ++
      lowerEnd s (2 * (s + 1) + (s + 2))) = 0 := by
  have hupper := hf.congr (.upperSeam)
  have hlower := hf.congr (.lowerSeam)
  rw [flowAll_append, flowAll_append, flowAll_lowerEnd hf, flowAll_sideTriangles hf hupper hlower,
    flowAll_upperEnd hf (fun i => i) (fun i hi => hf.congr (.upperRim hi)) hupper,
    flowAll_upperEnd hf (fun i => s + 1 + i) (fun i hi => hf.congr (.lowerRim hi)) hlower,
    Finset.sum_sub_distrib]
  ring

/-- **A cone with an end is closed.** Nothing flows along its upper circle, which is a point. -/
theorem flowAll_cone {s : Nat} (hf : Flow (ConeGlued s) f) :
    flowAll f (sideTriangles s ++ lowerEnd s (2 * (s + 1))) = 0 := by
  have hlower := hf.congr (.seam)
  have htip : ∀ i ∈ Finset.range s, f i (i + 1) = 0 := by
    intro i hi
    have hlt := Finset.mem_range.mp hi
    rw [hf.congr (.tip (Nat.le_of_lt hlt)), hf.congr_right (.tip hlt), hf.self]
  rw [flowAll_append, flowAll_lowerEnd hf,
    flowAll_sideTriangles hf (hf.congr (.tip (Nat.le_refl s))) hlower,
    flowAll_upperEnd hf (fun i => s + 1 + i) (fun i hi => hf.congr (.rim hi)) hlower,
    Finset.sum_sub_distrib, Finset.sum_eq_zero htip]
  ring

end Mesh

/-! ### All curved shapes -/

namespace Primitive

open Mesh Triangle

section Curved

variable [LT α] [Scalar α]

/-- The shape is a sphere, a torus, a cylinder with two ends or a cone with one. -/
def Curved : Primitive α → Prop
  | box _ _ _ | plane _ _ => False
  | sphere _ _ _ | torus _ _ _ _ => True
  | cylinder top bottom _ _ => Scalar.ofNat 0 < top ∧ Scalar.ofNat 0 < bottom
  | cone radius _ _ => Scalar.ofNat 0 < radius

/-- The vertices of the mesh of a curved shape that stand in one place. -/
def Glued : Primitive α → Nat → Nat → Prop
  | box _ _ _ | plane _ _ => fun _ _ => False
  | sphere _ w h => SphereGlued (clampSegments 3 w) (clampSegments 2 h)
  | torus _ _ r t => TorusGlued (clampSegments 2 r) (clampSegments 3 t)
  | cylinder _ _ _ s => CylinderGlued (clampSegments 3 s)
  | cone _ _ s => ConeGlued (clampSegments 3 s)

end Curved

/-- Nothing flows around the triangles of a curved shape. -/
theorem flowAll_mesh {p : Primitive Float} (hp : p.Curved) {f : Nat → Nat → ℤ}
    (hf : Flow p.Glued f) : flowAll f p.mesh.triangles.toList = 0 := by
  cases p with
  | box _ _ _ | plane _ _ => exact hp.elim
  | sphere r w h => exact flowAll_sphere hf
  | torus r t a b => exact flowAll_torus hf
  | cylinder top bottom h s =>
    have htriangles : (mesh (cylinder top bottom h s)).triangles.toList =
        sideTriangles (clampSegments 3 s) ++
          upperEnd (clampSegments 3 s) (2 * (clampSegments 3 s + 1)) ++
          lowerEnd (clampSegments 3 s) (2 * (clampSegments 3 s + 1) + (clampSegments 3 s + 2)) := by
      simp only [mesh, Mesh.cylinder, decide_eq_true hp.1, decide_eq_true hp.2, if_true]
    rw [htriangles]
    exact flowAll_cylinder hf
  | cone r h s =>
    have hradius : (Scalar.ofNat 0 : Float) < r := hp
    have htip : decide ((Scalar.ofNat 0 : Float) < Scalar.ofNat 0) = false := by decide
    have htriangles : (mesh (cone r h s)).triangles.toList =
        sideTriangles (clampSegments 3 s) ++
          lowerEnd (clampSegments 3 s) (2 * (clampSegments 3 s + 1)) := by
      simp only [mesh, Mesh.cylinder, htip, decide_eq_true hradius, Bool.false_eq_true, if_true, if_false,
        List.append_nil]
    rw [htriangles]
    exact flowAll_cone hf

/-- **Curved meshes are closed and wound one way.** Once the vertices of a curved shape that stand in
one place are labelled alike, its mesh runs along every edge as often in one direction as in the
other. -/
theorem edgeCount_comm {p : Primitive Float} (hp : p.Curved) {γ : Type} [DecidableEq γ]
    {label : Nat → γ} (hlabel : ∀ i j, p.Glued i j → label i = label j) (u v : γ) :
    p.mesh.edgeCount label u v = p.mesh.edgeCount label v u :=
  edgeCount_comm_of_flow (flowAll_mesh hp (flow_flowBetween hlabel u v))

/-- The places of the vertices of a cone with three sides: the tip, three around its end, and one in the
middle of it. -/
def conePlace : Nat → Nat
  | 4 | 7 | 9 | 12 => 1
  | 5 | 10 => 2
  | 6 | 11 => 3
  | 8 => 4
  | _ => 0

/-- Each edge around the end of a cone is met once in each direction. -/
theorem edgeCount_comm_cone :
    (cone 1.0 1.0 3 : Primitive Float).Curved ∧
      (∀ i j, (cone 1.0 1.0 3 : Primitive Float).Glued i j → conePlace i = conePlace j) ∧
      (cone 1.0 1.0 3 : Primitive Float).mesh.edgeCount conePlace 1 2 = 1 ∧
      (cone 1.0 1.0 3 : Primitive Float).mesh.edgeCount conePlace 2 1 = 1 := by
  have hcurved : (cone 1.0 1.0 3 : Primitive Float).Curved := by
    show (Scalar.ofNat 0 : Float) < 1.0
    decide
  have hglued : ∀ i j, (cone 1.0 1.0 3 : Primitive Float).Glued i j → conePlace i = conePlace j := by
    intro i j h
    change ConeGlued 3 i j at h
    cases h with
    | tip hi | rim hi => revert hi; decide +revert
    | seam => rfl
  have hcount : (cone 1.0 1.0 3 : Primitive Float).mesh.edgeCount conePlace 1 2 = 1 := by decide
  exact ⟨hcurved, hglued, hcount, edgeCount_comm hcurved hglued 2 1 ▸ hcount⟩

end Primitive

end ParametricScene
