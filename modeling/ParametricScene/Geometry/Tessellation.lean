import ParametricScene.Geometry.Mesh
import ParametricScene.Geometry.Primitive

/-!
# Shapes as meshes

Every shape is cut into triangles that are wound counter-clockwise when seen from outside. Round
shapes are swept: their vertices stand in rows, and each row repeats its first vertex at its end, so
that the seam has vertices of its own on both sides.

## Main definitions

* `Vertex.rows`, `Triangle.grid` — vertices in rows, and the triangles between the rows
* `Mesh.box`, `Mesh.plane`, `Mesh.sphere`, `Mesh.cylinder`, `Mesh.torus` — the shapes
* `Primitive.mesh` — the mesh of a shape
-/

namespace ParametricScene

variable {α : Type}

/-- The vertices of `rows + 1` rows with `columns + 1` vertices each. -/
def Vertex.rows (rows columns : Nat) (vertex : Nat → Nat → Vertex α) : List (Vertex α) :=
  (List.range (rows + 1)).flatMap fun j => (List.range (columns + 1)).map fun i => vertex j i

/-- The triangles of all cells between rows. -/
def Triangle.grid (rows columns : Nat) (cell : Nat → Nat → List Triangle) : List Triangle :=
  (List.range rows).flatMap fun j => (List.range columns).flatMap fun i => cell j i

namespace Mesh

/-! ### Flat shapes -/

section Flat

variable [Add α] [Sub α] [Neg α] [Mul α] [Div α] [Scalar α]

/-- The unit vectors along the axes. -/
def axisX : Vec3 α := ⟨Scalar.ofNat 1, Scalar.ofNat 0, Scalar.ofNat 0⟩

/-- The unit vector upward. -/
def axisY : Vec3 α := ⟨Scalar.ofNat 0, Scalar.ofNat 1, Scalar.ofNat 0⟩

/-- The unit vector across planes and tori. -/
def axisZ : Vec3 α := ⟨Scalar.ofNat 0, Scalar.ofNat 0, Scalar.ofNat 1⟩

/-- A face of a box: where it faces, and the directions along it to the right and upward. -/
structure Face (α : Type) where
  normal : Vec3 α
  right : Vec3 α
  upward : Vec3 α

/-- The six faces. To the right, upward and outward is a right-handed frame on each. -/
def faces : List (Face α) :=
  [⟨axisX, -axisZ, axisY⟩, ⟨-axisX, axisZ, axisY⟩,
    ⟨axisY, axisX, -axisZ⟩, ⟨-axisY, axisX, axisZ⟩,
    ⟨axisZ, axisX, axisY⟩, ⟨-axisZ, -axisX, axisY⟩]

/-- The corners of a face of the box with the given half extents. -/
def Face.vertices (half : Vec3 α) (f : Face α) : List (Vertex α) :=
  let center := f.normal.times half
  let u := f.right.times half
  let v := f.upward.times half
  [⟨center - u - v, f.normal⟩, ⟨center + u - v, f.normal⟩,
    ⟨center + u + v, f.normal⟩, ⟨center - u + v, f.normal⟩]

/-- A box with the given extents. -/
def box (size : Vec3 α) : Mesh α where
  vertices := (faces.flatMap (Face.vertices (size.shrink (Scalar.ofNat 2)))).toArray
  triangles :=
    ((List.range 6).flatMap fun i =>
      Triangle.ofQuad (4 * i) (4 * i + 1) (4 * i + 2) (4 * i + 3)).toArray

/-- A rectangle across the third axis. -/
def plane (width height : α) : Mesh α :=
  let w := width / Scalar.ofNat 2
  let h := height / Scalar.ofNat 2
  let corner : α → α → Vertex α := fun x y => ⟨⟨x, y, Scalar.ofNat 0⟩, axisZ⟩
  ⟨#[corner (-w) (-h), corner w (-h), corner w h, corner (-w) h],
    (Triangle.ofQuad 0 1 2 3).toArray⟩

end Flat

/-! ### Spheres -/

section Sphere

variable [Neg α] [Mul α] [Div α] [Scalar α]

/-- The vertex of a sphere in row `j` from the top, `i` steps around. -/
def sphereVertex (radius : α) (w h j i : Nat) : Vertex α :=
  let down := Scalar.pi * Scalar.ofNat j / Scalar.ofNat h
  let turn := Scalar.tau * Scalar.ofNat i / Scalar.ofNat w
  let normal : Vec3 α :=
    ⟨-(Scalar.cos turn) * Scalar.sin down, Scalar.cos down, Scalar.sin turn * Scalar.sin down⟩
  ⟨normal.scale radius, normal⟩

/-- The triangles of a cell of a sphere; those next to a pole have one only. -/
def sphereCell (w h j i : Nat) : List Triangle :=
  let row := w + 1
  let a := j * row + i + 1
  let b := j * row + i
  let c := (j + 1) * row + i
  let d := (j + 1) * row + i + 1
  (if j = 0 then [] else [⟨a, b, d⟩]) ++ (if j + 1 = h then [] else [⟨b, c, d⟩])

/-- A sphere with `w` segments around and `h` from pole to pole. -/
def sphere (radius : α) (w h : Nat) : Mesh α where
  vertices := (Vertex.rows h w (sphereVertex radius w h)).toArray
  triangles := (Triangle.grid h w (sphereCell w h)).toArray

end Sphere

/-! ### Tori -/

section Torus

variable [Add α] [Sub α] [Mul α] [Div α] [LE α] [DecidableLE α] [Scalar α]

/-- The vertex of a torus `j` steps around the tube and `i` around the ring. Its normal points away
from the middle of the tube, and across the ring where the tube has no width. -/
def torusVertex (radius tube : α) (r t j i : Nat) : Vertex α :=
  let v := Scalar.tau * Scalar.ofNat j / Scalar.ofNat r
  let u := Scalar.tau * Scalar.ofNat i / Scalar.ofNat t
  let middle : Vec3 α := ⟨radius * Scalar.cos u, radius * Scalar.sin u, Scalar.ofNat 0⟩
  let reach := radius + tube * Scalar.cos v
  let position : Vec3 α := ⟨reach * Scalar.cos u, reach * Scalar.sin u, tube * Scalar.sin v⟩
  ⟨position, ((position - middle).direction?).getD axisZ⟩

/-- The triangles of a cell of a torus. -/
def torusCell (t j i : Nat) : List Triangle :=
  let row := t + 1
  Triangle.ofQuad (row * (j + 1) + i) (row * j + i) (row * j + (i + 1)) (row * (j + 1) + (i + 1))

/-- A torus with `r` segments around the tube and `t` around the ring. -/
def torus (radius tube : α) (r t : Nat) : Mesh α where
  vertices := (Vertex.rows r t (torusVertex radius tube r t)).toArray
  triangles := (Triangle.grid r t (torusCell t)).toArray

end Torus

/-! ### Cylinders -/

section Cylinder

variable [Add α] [Sub α] [Neg α] [Mul α] [Div α] [BEq α] [LT α] [DecidableLT α] [Scalar α]

/-- The point of a circle across the second axis, `i` of `s` steps around. -/
def circlePoint (radius y : α) (s i : Nat) : Vec3 α :=
  let turn := Scalar.tau * Scalar.ofNat i / Scalar.ofNat s
  ⟨radius * Scalar.sin turn, y, radius * Scalar.cos turn⟩

/-- A circle of the side of a cylinder. The normals lean with the slope of the side. -/
def ring (radius y slope : α) (s : Nat) : List (Vertex α) :=
  (List.range (s + 1)).map fun i =>
    let turn := Scalar.tau * Scalar.ofNat i / Scalar.ofNat s
    let normal : Vec3 α := ⟨Scalar.sin turn, slope, Scalar.cos turn⟩
    ⟨circlePoint radius y s i, normal.normalize⟩

/-- The vertices of an end of a cylinder: its middle, then its rim. -/
def endVertices (radius y : α) (normal : Vec3 α) (s : Nat) : List (Vertex α) :=
  ⟨⟨Scalar.ofNat 0, y, Scalar.ofNat 0⟩, normal⟩ ::
    (List.range (s + 1)).map fun i => ⟨circlePoint radius y s i, normal⟩

/-- The triangles of the side of a cylinder, whose upper circle comes first. -/
def sideTriangles (s : Nat) : List Triangle :=
  (List.range s).flatMap fun i =>
    Triangle.ofQuad (s + 1 + i) (s + 1 + (i + 1)) (i + 1) i

/-- The triangles of the upper end, whose vertices start at `base`. -/
def upperEnd (s base : Nat) : List Triangle :=
  (List.range s).map fun i => ⟨base, base + 1 + i, base + 1 + (i + 1)⟩

/-- The triangles of the lower end, whose vertices start at `base`. -/
def lowerEnd (s base : Nat) : List Triangle :=
  (List.range s).map fun i => ⟨base, base + 1 + (i + 1), base + 1 + i⟩

/-- A cylinder with `s` segments. An end is closed where its radius is above zero. -/
def cylinder (top bottom height : α) (s : Nat) : Mesh α :=
  let zero : α := Scalar.ofNat 0
  let half := height / Scalar.ofNat 2
  let slope := if height == zero then zero else (bottom - top) / height
  let hasTop := decide (zero < top)
  let hasBottom := decide (zero < bottom)
  let sides := ring top half slope s ++ ring bottom (-half) slope s
  let base := 2 * (s + 1)
  let lowerBase := if hasTop then base + (s + 2) else base
  { vertices :=
      (sides ++ (if hasTop then endVertices top half axisY s else []) ++
        (if hasBottom then endVertices bottom (-half) (-axisY) s else [])).toArray
    triangles :=
      (sideTriangles s ++ (if hasTop then upperEnd s base else []) ++
        (if hasBottom then lowerEnd s lowerBase else [])).toArray }

end Cylinder

end Mesh

/-! ### Every shape -/

/-- The mesh of a shape. Numbers of segments outside their range are brought into it. A cone is a
cylinder whose upper end is a point. -/
def Primitive.mesh [Add α] [Sub α] [Neg α] [Mul α] [Div α] [BEq α] [LT α] [DecidableLT α] [LE α]
    [DecidableLE α] [Scalar α] : Primitive α → Mesh α
  | box w h d => Mesh.box ⟨w, h, d⟩
  | cylinder top bottom h s => Mesh.cylinder top bottom h (clampSegments 3 s)
  | sphere r w h => Mesh.sphere r (clampSegments 3 w) (clampSegments 2 h)
  | plane w h => Mesh.plane w h
  | torus r t a b => Mesh.torus r t (clampSegments 2 a) (clampSegments 3 b)
  | cone r h s => Mesh.cylinder (Scalar.ofNat 0) r h (clampSegments 3 s)

end ParametricScene
