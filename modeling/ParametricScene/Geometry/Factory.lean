import ParametricScene.Geometry.Tessellation

/-!
# Factories of geometry

A scene asks a factory for the geometry of its leaves and gives back what it no longer needs. Geometry
is known by a handle, a number. The factory of this library builds meshes.

## Main definitions

* `GeometryFactory` — what a scene asks of a factory
* `MeshFactory` — the factory that builds meshes
-/

namespace ParametricScene

/-- What a scene asks of the factory of its geometry. -/
class GeometryFactory (G : Type) where
  /-- New geometry of a kind, if the factory knows the kind. -/
  create : GeometryKind → List Float → G → Option Nat × G
  /-- Gives geometry back. -/
  release : Nat → G → G
  /-- The bounds of geometry, if the factory measures. -/
  bounds? : Nat → G → Option (Box Float)

/-- The meshes built so far, at the place of their handle. What was given back leaves its place
empty, so no handle is used twice. -/
structure MeshFactory where
  meshes : Array (Option (Mesh Float))

namespace MeshFactory

/-- Nothing built. -/
def empty : MeshFactory := ⟨#[]⟩

/-- The number of meshes ever built. -/
def created (f : MeshFactory) : Nat := f.meshes.size

/-- The mesh of a handle that was not given back. -/
def mesh? (f : MeshFactory) (handle : Nat) : Option (Mesh Float) := f.meshes[handle]?.join

/-- The number of meshes not given back. -/
def live (f : MeshFactory) : Nat := f.meshes.countP Option.isSome

/-- The number of triangles of all meshes not given back. -/
def triangles (f : MeshFactory) : Nat :=
  f.meshes.foldl (fun n m => n + (m.map fun m => m.triangles.size).getD 0) 0

/-- Builds the mesh of a kind with the given dimensions. -/
def create (kind : GeometryKind) (dimensions : List Float) (f : MeshFactory) :
    Option Nat × MeshFactory :=
  match Primitive.ofDimensions? kind dimensions with
  | some p => (some f.meshes.size, ⟨f.meshes.push (some p.mesh)⟩)
  | none => (none, f)

/-- Gives a mesh back; a handle that is not in use changes nothing. -/
def release (handle : Nat) (f : MeshFactory) : MeshFactory :=
  ⟨f.meshes.setIfInBounds handle none⟩

/-- The bounds of a mesh not given back. -/
def bounds? (handle : Nat) (f : MeshFactory) : Option (Box Float) :=
  (f.mesh? handle).map Mesh.bounds

/-- A mesh that was given back is gone, and the others are as before. -/
theorem mesh?_release (f : MeshFactory) (h k : Nat) :
    (f.release h).mesh? k = if h = k then none else f.mesh? k := by
  by_cases hk : h = k
  · subst hk
    simp only [release, mesh?, if_true, Array.getElem?_setIfInBounds]
    split <;> rfl
  · simp [release, mesh?, hk]

instance : GeometryFactory MeshFactory := ⟨create, release, bounds?⟩

end MeshFactory

end ParametricScene
