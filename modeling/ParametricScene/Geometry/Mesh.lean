import ParametricScene.Geometry.Box

/-!
# Triangle meshes

Vertices with normals, and triangles that name their corners by position among the vertices.

## Main definitions

* `Vertex`, `Triangle`, `Mesh` — the parts
* `Triangle.ofQuad` — the two triangles of a quadrilateral
* `Mesh.bounds`, `Mesh.area` — measures
-/

namespace ParametricScene

/-- A point of a surface with the direction away from it. -/
structure Vertex (α : Type) where
  position : Vec3 α
  normal : Vec3 α
deriving DecidableEq, Repr

/-- Three vertices, by their positions in a mesh. -/
structure Triangle where
  a : Nat
  b : Nat
  c : Nat
deriving DecidableEq, Repr

namespace Triangle

/-- The corners in order. -/
def toList (t : Triangle) : List Nat := [t.a, t.b, t.c]

/-- The two triangles of the quadrilateral with corners `a b c d`, both wound like it. -/
def ofQuad (a b c d : Nat) : List Triangle := [⟨a, b, d⟩, ⟨b, c, d⟩]

end Triangle

/-- A mesh of triangles. -/
structure Mesh (α : Type) where
  vertices : Array (Vertex α)
  triangles : Array Triangle

namespace Mesh

variable {α : Type}

/-- No vertices and no triangles. -/
def empty : Mesh α := ⟨#[], #[]⟩

/-- A vertex more, at the end. -/
def addVertex (m : Mesh α) (v : Vertex α) : Mesh α := { m with vertices := m.vertices.push v }

/-- A triangle more, at the end. -/
def addTriangle (m : Mesh α) (t : Triangle) : Mesh α := { m with triangles := m.triangles.push t }

/-- The two triangles of a quadrilateral more, at the end. -/
def addQuad (m : Mesh α) (a b c d : Nat) : Mesh α :=
  { m with triangles := m.triangles ++ Triangle.ofQuad a b c d }

/-- A mesh without triangles shows nothing. -/
def isEmpty (m : Mesh α) : Bool := m.triangles.isEmpty

/-- Every triangle names vertices of the mesh. -/
def IsIndexed (m : Mesh α) : Prop :=
  ∀ t ∈ m.triangles, t.a < m.vertices.size ∧ t.b < m.vertices.size ∧ t.c < m.vertices.size

/-- The least box around the vertices. -/
def bounds [LT α] [DecidableLT α] [LE α] [DecidableLE α] [Scalar α] (m : Mesh α) : Box α :=
  Box.around (m.vertices.toList.map Vertex.position)

section Area

variable [Add α] [Sub α] [Mul α] [Div α] [Scalar α]

/-- The place of a vertex; the origin where there is none. -/
def positionAt (m : Mesh α) (i : Nat) : Vec3 α :=
  match m.vertices[i]? with
  | some v => v.position
  | none => Vec3.zero

/-- The area of a triangle. -/
def triangleArea (m : Mesh α) (t : Triangle) : α :=
  let a := m.positionAt t.a
  ((m.positionAt t.b - a).cross (m.positionAt t.c - a)).norm * (Scalar.ofNat 1 / Scalar.ofNat 2)

/-- The area of all triangles. -/
def area (m : Mesh α) : α :=
  m.triangles.foldl (fun sum t => sum + m.triangleArea t) (Scalar.ofNat 0)

end Area

end Mesh

end ParametricScene
