import Mathlib.Algebra.BigOperators.Ring.List
import Mathlib.Tactic.Ring
import ParametricScene.Geometry.Tessellation

/-!
# Meshes name their own vertices

A triangle of a mesh names its corners by their positions among the vertices, and nothing in the type
keeps it from naming a vertex that is not there, or one vertex twice. The meshes of shapes are made of
rows of vertices whose positions are computed, row length by row length, with seams, poles and ends each
counted in their own way. Here it is shown that the computed positions are right: the triangles of every
shape have three different corners, all of them among its vertices, and the numbers of vertices and
triangles are those of closed formulas in the numbers of segments.

The numbers of segments are brought into their range before anything is built, so the formulas bound the
size of every mesh, whatever numbers of segments a shape asks for.

## Main definitions

* `Triangle.Proper` — three different corners among the first so many vertices
* `Primitive.vertexCount`, `Primitive.triangleCount` — the closed formulas
* `Mesh.area?` — the area, where every corner is looked up and may be missing

## Main results

* `Mesh.area?_of_isIndexed` — no corner is missing where triangles name vertices of the mesh
* `Primitive.isIndexed_mesh` — the contract for all shapes
-/

namespace ParametricScene

variable {α : Type}

/-! ### Triangles -/

namespace Triangle

/-- Three different corners among the first `n` vertices. -/
structure Proper (n : Nat) (t : Triangle) : Prop where
  nodup : t.toList.Nodup
  lt : ∀ i ∈ t.toList, i < n

theorem proper_mk_iff {n a b c : Nat} :
    Proper n ⟨a, b, c⟩ ↔ (a ≠ b ∧ a ≠ c ∧ b ≠ c) ∧ a < n ∧ b < n ∧ c < n := by
  constructor
  · rintro ⟨hnodup, hlt⟩
    simpa [toList, and_assoc] using And.intro hnodup hlt
  · rintro ⟨hne, hlt⟩
    constructor
    · simpa [toList, and_assoc] using hne
    · simpa [toList] using hlt

theorem Proper.mono {m n : Nat} {t : Triangle} (h : t.Proper m) (hle : m ≤ n) : t.Proper n :=
  ⟨h.nodup, fun i hi => Nat.lt_of_lt_of_le (h.lt i hi) hle⟩

/-- The triangles of a quadrilateral with four different corners. -/
theorem proper_of_mem_ofQuad {n a b c d : Nat} (hab : a ≠ b) (had : a ≠ d) (hbd : b ≠ d)
    (hbc : b ≠ c) (hcd : c ≠ d) (ha : a < n) (hb : b < n) (hc : c < n) (hd : d < n) {t : Triangle}
    (ht : t ∈ ofQuad a b c d) : t.Proper n := by
  obtain rfl | rfl : t = ⟨a, b, d⟩ ∨ t = ⟨b, c, d⟩ := by simpa [ofQuad] using ht
  · exact proper_mk_iff.mpr ⟨⟨hab, had, hbd⟩, ha, hb, hd⟩
  · exact proper_mk_iff.mpr ⟨⟨hbc, hbd, hcd⟩, hb, hc, hd⟩

/-- The last corner of a cell is among the vertices of all rows. -/
theorem cell_lt {rows columns j i : Nat} (hj : j < rows) (hi : i < columns) :
    j * (columns + 1) + i + (columns + 1) + 1 < (rows + 1) * (columns + 1) :=
  calc j * (columns + 1) + i + (columns + 1) + 1
      < j * (columns + 1) + (columns + 1) + (columns + 1) := by omega
    _ = (j + 1 + 1) * (columns + 1) := by rw [Nat.succ_mul, Nat.succ_mul]
    _ ≤ (rows + 1) * (columns + 1) := Nat.mul_le_mul_right _ (by omega)

theorem mem_grid_iff {rows columns : Nat} {cell : Nat → Nat → List Triangle} {t : Triangle} :
    t ∈ grid rows columns cell ↔ ∃ j < rows, ∃ i < columns, t ∈ cell j i := by
  simp [grid]

/-- A grid in which all cells of a row have the same number of triangles. -/
theorem length_grid {columns : Nat} {cell : Nat → Nat → List Triangle} {size : Nat → Nat}
    (hcell : ∀ j i, (cell j i).length = size j) (rows : Nat) :
    (grid rows columns cell).length = columns * ((List.range rows).map size).sum := by
  have hrow : ∀ j, ((List.range columns).flatMap (cell j)).length = columns * size j := by
    intro j
    simp only [List.length_flatMap, hcell, List.map_const', List.length_range, List.sum_replicate_nat]
  simp only [grid, List.length_flatMap, hrow, List.sum_map_mul_left]

end Triangle

theorem Vertex.length_rows (rows columns : Nat) (vertex : Nat → Nat → Vertex α) :
    (Vertex.rows rows columns vertex).length = (rows + 1) * (columns + 1) := by
  simp only [Vertex.rows, List.length_flatMap, List.length_map, List.length_range, List.map_const',
    List.sum_replicate_nat]

/-! ### Looking corners up -/

namespace Mesh

section Area

variable [Add α] [Sub α] [Mul α] [Div α] [Scalar α]

/-- The area of a triangle, if its corners are vertices of the mesh. -/
def triangleArea? (m : Mesh α) (t : Triangle) : Option α := do
  let a ← m.vertices[t.a]?
  let b ← m.vertices[t.b]?
  let c ← m.vertices[t.c]?
  pure (((b.position - a.position).cross (c.position - a.position)).norm *
    (Scalar.ofNat 1 / Scalar.ofNat 2))

/-- The area of all triangles, if all corners are vertices of the mesh. -/
def area? (m : Mesh α) : Option α :=
  m.triangles.toList.foldlM (fun sum t => (m.triangleArea? t).map (sum + ·)) (Scalar.ofNat 0)

/-- **No corner is missing** where all triangles name vertices of the mesh. -/
theorem area?_of_isIndexed {m : Mesh α} (h : m.IsIndexed) : m.area? = some m.area := by
  have hfold : ∀ (ts : List Triangle) (sum : α), (∀ t ∈ ts, t ∈ m.triangles) →
      ts.foldlM (fun sum t => (m.triangleArea? t).map (sum + ·)) sum =
        some (ts.foldl (fun sum t => sum + m.triangleArea t) sum) := by
    intro ts
    induction ts with
    | nil => exact fun sum _ => rfl
    | cons t rest ih =>
      intro sum hts
      obtain ⟨ht, hrest⟩ := List.forall_mem_cons.mp hts
      obtain ⟨ha, hb, hc⟩ := h t ht
      have harea : m.triangleArea? t = some (m.triangleArea t) := by
        simp [triangleArea?, triangleArea, positionAt, ha, hb, hc]
      rw [List.foldlM_cons, harea, List.foldl_cons]
      exact ih _ hrest
  rw [area?, area, hfold _ _ fun t ht => Array.mem_toList_iff.mp ht, Array.foldl_toList]

end Area

/-! ### Spheres and tori -/

theorem length_sphereCell (w h j i : Nat) :
    (sphereCell w h j i).length = (if j = 0 then 0 else 1) + (if j + 1 = h then 0 else 1) := by
  rw [sphereCell]
  split <;> split <;> rfl

/-- Every row of a sphere has two triangles for each cell but for the two at the poles. -/
theorem sum_sphereCell {h n : Nat} (hn : n < h) :
    ((List.range (n + 1)).map fun j =>
      (if j = 0 then 0 else 1) + (if j + 1 = h then 0 else 1)).sum =
        2 * n + if n + 1 = h then 0 else 1 := by
  induction n with
  | zero => simp
  | succ n ih =>
    rw [List.range_succ, List.map_append, List.sum_append, ih (by omega), if_neg (by omega),
      List.map_singleton, List.sum_singleton, if_neg (Nat.succ_ne_zero n)]
    omega

theorem length_sphere {h : Nat} (hh : 0 < h) (w : Nat) :
    (Triangle.grid h w (sphereCell w h)).length = 2 * w * (h - 1) := by
  obtain ⟨n, rfl⟩ : ∃ n, h = n + 1 := ⟨h - 1, by omega⟩
  rw [Triangle.length_grid (length_sphereCell w (n + 1)), sum_sphereCell (Nat.lt_succ_self n),
    if_pos rfl, Nat.add_sub_cancel]
  ring

theorem length_torus (r t : Nat) : (Triangle.grid r t (torusCell t)).length = 2 * r * t := by
  have hcell : ∀ j i, (torusCell t j i).length = 2 := fun _ _ => rfl
  rw [Triangle.length_grid hcell, List.map_const', List.length_range, List.sum_replicate_nat]
  ring

/-- A cell of a sphere next to a pole lacks a triangle of its quadrilateral. -/
theorem sphereCell_subset (w h j i : Nat) :
    sphereCell w h j i ⊆ Triangle.ofQuad (j * (w + 1) + i + 1) (j * (w + 1) + i)
      ((j + 1) * (w + 1) + i) ((j + 1) * (w + 1) + i + 1) := by
  intro t ht
  rcases List.mem_append.mp ht with ht | ht
  · split at ht
    · exact absurd ht List.not_mem_nil
    · exact List.mem_cons.mpr (Or.inl (List.mem_singleton.mp ht))
  · split at ht
    · exact absurd ht List.not_mem_nil
    · exact List.mem_cons_of_mem _ ht

theorem proper_of_mem_sphereCell {w h j i : Nat} (hj : j < h) (hi : i < w) {t : Triangle}
    (ht : t ∈ sphereCell w h j i) : t.Proper ((h + 1) * (w + 1)) := by
  have hlast := Triangle.cell_lt hj hi
  have hnext : (j + 1) * (w + 1) = j * (w + 1) + (w + 1) := Nat.succ_mul j _
  exact Triangle.proper_of_mem_ofQuad (by omega) (by omega) (by omega) (by omega) (by omega)
    (by omega) (by omega) (by omega) (by omega) (sphereCell_subset w h j i ht)

theorem proper_of_mem_torusCell {r t j i : Nat} (hj : j < r) (hi : i < t) {u : Triangle}
    (hu : u ∈ torusCell t j i) : u.Proper ((r + 1) * (t + 1)) := by
  have hlast := Triangle.cell_lt hj hi
  have hrow : (t + 1) * j = j * (t + 1) := Nat.mul_comm _ j
  have hnext : (t + 1) * (j + 1) = j * (t + 1) + (t + 1) := by rw [Nat.mul_comm, Nat.succ_mul]
  exact Triangle.proper_of_mem_ofQuad (by omega) (by omega) (by omega) (by omega) (by omega)
    (by omega) (by omega) (by omega) (by omega) hu

/-! ### Cylinders -/

theorem length_sideTriangles (s : Nat) : (sideTriangles s).length = 2 * s := by
  have hquad : ∀ i, (Triangle.ofQuad (s + 1 + i) (s + 1 + (i + 1)) (i + 1) i).length = 2 :=
    fun _ => rfl
  rw [sideTriangles, List.length_flatMap]
  simp only [hquad, List.map_const', List.length_range, List.sum_replicate_nat]
  exact Nat.mul_comm s 2

theorem proper_of_mem_sideTriangles {s : Nat} {t : Triangle} (ht : t ∈ sideTriangles s) :
    t.Proper (2 * (s + 1)) := by
  obtain ⟨i, hi, ht⟩ := List.mem_flatMap.mp ht
  have hlt := List.mem_range.mp hi
  exact Triangle.proper_of_mem_ofQuad (by omega) (by omega) (by omega) (by omega) (by omega)
    (by omega) (by omega) (by omega) (by omega) ht

theorem proper_of_mem_upperEnd {s base : Nat} {t : Triangle} (ht : t ∈ upperEnd s base) :
    t.Proper (base + (s + 2)) := by
  obtain ⟨i, hi, rfl⟩ := List.mem_map.mp ht
  have hlt := List.mem_range.mp hi
  exact Triangle.proper_mk_iff.mpr (by omega)

theorem proper_of_mem_lowerEnd {s base : Nat} {t : Triangle} (ht : t ∈ lowerEnd s base) :
    t.Proper (base + (s + 2)) := by
  obtain ⟨i, hi, rfl⟩ := List.mem_map.mp ht
  have hlt := List.mem_range.mp hi
  exact Triangle.proper_mk_iff.mpr (by omega)

section Ends

variable [LT α] [DecidableLT α] [Scalar α]

/-- What the end of a cylinder has `n` of, where its radius is above zero. -/
def endSize (radius : α) (n : Nat) : Nat := if Scalar.ofNat 0 < radius then n else 0

theorem endSize_le (radius : α) (n : Nat) : endSize radius n ≤ n := by
  rw [endSize]
  split
  · exact Nat.le_refl n
  · exact Nat.zero_le n

/-- A part that is there where the radius is above zero. -/
theorem length_ite_endSize {β : Type} (radius : α) (l : List β) :
    (if decide (Scalar.ofNat 0 < radius) then l else []).length = endSize radius l.length := by
  rw [endSize]
  by_cases h : Scalar.ofNat 0 < radius
  · simp [h]
  · simp [h]

end Ends

section Cylinder

variable [Add α] [Sub α] [Neg α] [Mul α] [Div α] [BEq α] [LT α] [DecidableLT α] [Scalar α]

theorem size_vertices_cylinder (top bottom height : α) (s : Nat) :
    (cylinder top bottom height s).vertices.size =
      2 * (s + 1) + endSize top (s + 2) + endSize bottom (s + 2) := by
  have hring : ∀ radius y slope : α, (ring radius y slope s).length = s + 1 := fun _ _ _ => by
    rw [ring, List.length_map, List.length_range]
  have hend : ∀ (radius y : α) (normal : Vec3 α), (endVertices radius y normal s).length = s + 2 :=
    fun _ _ _ => by rw [endVertices, List.length_cons, List.length_map, List.length_range]
  simp only [cylinder, List.size_toArray, List.length_append, length_ite_endSize, hring, hend]
  omega

theorem size_triangles_cylinder (top bottom height : α) (s : Nat) :
    (cylinder top bottom height s).triangles.size = 2 * s + endSize top s + endSize bottom s := by
  simp only [cylinder, List.size_toArray, List.length_append, length_ite_endSize,
    length_sideTriangles, upperEnd, lowerEnd, List.length_map, List.length_range]

theorem proper_of_mem_cylinder {top bottom height : α} {s : Nat} {t : Triangle}
    (ht : t ∈ (cylinder top bottom height s).triangles) :
    t.Proper (cylinder top bottom height s).vertices.size := by
  rw [size_vertices_cylinder]
  simp only [cylinder, List.mem_toArray, List.mem_append] at ht
  rcases ht with (ht | ht) | ht
  · exact (proper_of_mem_sideTriangles ht).mono (by omega)
  · split at ht
    · rename_i htop
      refine (proper_of_mem_upperEnd ht).mono ?_
      rw [endSize, if_pos (of_decide_eq_true htop)]
      omega
    · exact absurd ht List.not_mem_nil
  · split at ht
    · rename_i hbottom
      refine (proper_of_mem_lowerEnd ht).mono ?_
      rw [endSize, endSize, if_pos (of_decide_eq_true hbottom)]
      by_cases htop : Scalar.ofNat 0 < top
      · simp [htop]
      · simp [htop]
    · exact absurd ht List.not_mem_nil

end Cylinder

end Mesh

/-! ### All shapes -/

namespace Primitive

open Mesh

section Sizes

variable [LT α] [DecidableLT α] [Scalar α]

/-- The number of vertices of the mesh of a shape. -/
def vertexCount : Primitive α → Nat
  | box _ _ _ => 24
  | cylinder top bottom _ s =>
    2 * (clampSegments 3 s + 1) + endSize top (clampSegments 3 s + 2) +
      endSize bottom (clampSegments 3 s + 2)
  | sphere _ w h => (clampSegments 3 w + 1) * (clampSegments 2 h + 1)
  | plane _ _ => 4
  | torus _ _ r t => (clampSegments 2 r + 1) * (clampSegments 3 t + 1)
  | cone radius _ s => 2 * (clampSegments 3 s + 1) + endSize radius (clampSegments 3 s + 2)

/-- The number of triangles of the mesh of a shape. -/
def triangleCount : Primitive α → Nat
  | box _ _ _ => 12
  | cylinder top bottom _ s =>
    2 * clampSegments 3 s + endSize top (clampSegments 3 s) + endSize bottom (clampSegments 3 s)
  | sphere _ w h => 2 * clampSegments 3 w * (clampSegments 2 h - 1)
  | plane _ _ => 2
  | torus _ _ r t => 2 * clampSegments 2 r * clampSegments 3 t
  | cone radius _ s => 2 * clampSegments 3 s + endSize radius (clampSegments 3 s)

theorem clampSegments_le {low : Nat} (hlow : low ≤ 512) (n : Nat) : clampSegments low n ≤ 512 :=
  Nat.max_le.mpr ⟨hlow, Nat.min_le_right n _⟩

theorem le_clampSegments (low n : Nat) : low ≤ clampSegments low n := Nat.le_max_left low _

/-- **No mesh has more vertices than a sphere or torus with all segments there may be.** -/
theorem vertexCount_le (p : Primitive α) : p.vertexCount ≤ 513 ^ 2 := by
  have hgrid : ∀ {l m a b : Nat}, l ≤ 512 → m ≤ 512 →
      (clampSegments l a + 1) * (clampSegments m b + 1) ≤ 513 ^ 2 := fun {l m a b} hl hm =>
    calc (clampSegments l a + 1) * (clampSegments m b + 1) ≤ 513 * 513 :=
          Nat.mul_le_mul (Nat.succ_le_succ (clampSegments_le hl a))
            (Nat.succ_le_succ (clampSegments_le hm b))
      _ = 513 ^ 2 := rfl
  cases p with
  | box _ _ _ | plane _ _ =>
    rw [vertexCount]
    decide
  | sphere _ w h => exact hgrid (by decide) (by decide)
  | torus _ _ r t => exact hgrid (by decide) (by decide)
  | cylinder top bottom _ s =>
    have hs : clampSegments 3 s ≤ 512 := clampSegments_le (by decide) s
    have htop := endSize_le top (clampSegments 3 s + 2)
    have hbottom := endSize_le bottom (clampSegments 3 s + 2)
    rw [vertexCount]
    omega
  | cone radius _ s =>
    have hs : clampSegments 3 s ≤ 512 := clampSegments_le (by decide) s
    have hend := endSize_le radius (clampSegments 3 s + 2)
    rw [vertexCount]
    omega

/-- **No mesh has more triangles than a torus with all segments there may be.** -/
theorem triangleCount_le (p : Primitive α) : p.triangleCount ≤ 2 * 512 ^ 2 := by
  have hgrid : ∀ {a b : Nat}, a ≤ 512 → b ≤ 512 → 2 * a * b ≤ 2 * 512 ^ 2 := fun {a b} ha hb =>
    calc 2 * a * b ≤ 2 * 512 * 512 := Nat.mul_le_mul (Nat.mul_le_mul_left 2 ha) hb
      _ = 2 * 512 ^ 2 := rfl
  cases p with
  | box _ _ _ | plane _ _ =>
    rw [triangleCount]
    decide
  | sphere _ w h =>
    have hh : clampSegments 2 h ≤ 512 := clampSegments_le (by decide) h
    exact hgrid (clampSegments_le (by decide) w) (by omega)
  | torus _ _ r t => exact hgrid (clampSegments_le (by decide) r) (clampSegments_le (by decide) t)
  | cylinder top bottom _ s =>
    have hs : clampSegments 3 s ≤ 512 := clampSegments_le (by decide) s
    have htop := endSize_le top (clampSegments 3 s)
    have hbottom := endSize_le bottom (clampSegments 3 s)
    rw [triangleCount]
    omega
  | cone radius _ s =>
    have hs : clampSegments 3 s ≤ 512 := clampSegments_le (by decide) s
    have hend := endSize_le radius (clampSegments 3 s)
    rw [triangleCount]
    omega

end Sizes

/-- The upper end of a cone is a point, and nothing closes it. -/
theorem endSize_apex (n : Nat) : endSize (Scalar.ofNat 0 : Float) n = 0 :=
  if_neg (by decide)

theorem size_vertices_mesh (p : Primitive Float) : p.mesh.vertices.size = p.vertexCount := by
  cases p with
  | box w h d =>
    simp [mesh, Mesh.box, vertexCount, faces, Face.vertices]
  | plane w h => rfl
  | sphere r w h =>
    rw [mesh, vertexCount, Mesh.sphere, List.size_toArray, Vertex.length_rows, Nat.mul_comm]
  | torus r t a b => rw [mesh, vertexCount, Mesh.torus, List.size_toArray, Vertex.length_rows]
  | cylinder top bottom h s => rw [mesh, vertexCount, size_vertices_cylinder]
  | cone r h s => rw [mesh, vertexCount, size_vertices_cylinder, endSize_apex, Nat.add_zero]

theorem size_triangles_mesh (p : Primitive Float) : p.mesh.triangles.size = p.triangleCount := by
  cases p with
  | box w h d => rfl
  | plane w h => rfl
  | sphere r w h =>
    rw [mesh, triangleCount, Mesh.sphere, List.size_toArray, length_sphere]
    exact Nat.lt_of_lt_of_le (by decide) (le_clampSegments 2 h)
  | torus r t a b => rw [mesh, triangleCount, Mesh.torus, List.size_toArray, length_torus]
  | cylinder top bottom h s => rw [mesh, triangleCount, size_triangles_cylinder]
  | cone r h s => rw [mesh, triangleCount, size_triangles_cylinder, endSize_apex, Nat.add_zero]

theorem proper_of_mem_mesh (p : Primitive Float) {t : Triangle} (ht : t ∈ p.mesh.triangles) :
    t.Proper p.mesh.vertices.size := by
  cases p with
  | box w h d =>
    rw [size_vertices_mesh, vertexCount]
    obtain ⟨i, hi, ht⟩ := List.mem_flatMap.mp (List.mem_toArray.mp ht)
    have hlt := List.mem_range.mp hi
    exact Triangle.proper_of_mem_ofQuad (by omega) (by omega) (by omega) (by omega) (by omega)
      (by omega) (by omega) (by omega) (by omega) ht
  | plane w h =>
    rw [size_vertices_mesh, vertexCount]
    exact Triangle.proper_of_mem_ofQuad (by decide) (by decide) (by decide) (by decide) (by decide)
      (by decide) (by decide) (by decide) (by decide) (List.mem_toArray.mp ht)
  | sphere r w h =>
    rw [size_vertices_mesh, vertexCount, Nat.mul_comm]
    obtain ⟨j, hj, i, hi, ht⟩ := Triangle.mem_grid_iff.mp (List.mem_toArray.mp ht)
    exact proper_of_mem_sphereCell hj hi ht
  | torus r t a b =>
    rw [size_vertices_mesh]
    obtain ⟨j, hj, i, hi, ht⟩ := Triangle.mem_grid_iff.mp (List.mem_toArray.mp ht)
    exact proper_of_mem_torusCell hj hi ht
  | cylinder top bottom h s => exact proper_of_mem_cylinder ht
  | cone r h s => exact proper_of_mem_cylinder ht

/-- **Meshes are well indexed and of known size.** The triangles of the mesh of a shape have three
different corners, all of them among its vertices, and there are as many vertices and triangles as the
closed formulas say. So the size of a mesh is bounded, and its area looks up no corner that is not
there. -/
theorem isIndexed_mesh (p : Primitive Float) :
    p.mesh.IsIndexed ∧ (∀ t ∈ p.mesh.triangles, t.toList.Nodup) ∧
      p.mesh.vertices.size = p.vertexCount ∧ p.mesh.triangles.size = p.triangleCount ∧
      p.mesh.vertices.size ≤ 513 ^ 2 ∧ p.mesh.triangles.size ≤ 2 * 512 ^ 2 ∧
      p.mesh.area? = some p.mesh.area := by
  have hindexed : p.mesh.IsIndexed := fun t ht =>
    (Triangle.proper_mk_iff.mp (proper_of_mem_mesh p ht)).2
  refine ⟨hindexed, fun t ht => (proper_of_mem_mesh p ht).nodup, size_vertices_mesh p,
    size_triangles_mesh p, ?_, ?_, area?_of_isIndexed hindexed⟩
  · rw [size_vertices_mesh]
    exact p.vertexCount_le
  · rw [size_triangles_mesh]
    exact p.triangleCount_le

end Primitive

end ParametricScene
