import ParametricScene.Geometry.Matrix

/-!
# Boxes along the axes

A box is given by its least and its greatest corner. It is empty if on some axis they are the wrong
way round. The union with an empty box is the other box, and an empty box stays as it is under every
matrix; the image of any other box is the least box around the images of its eight corners.

## Main definitions

* `Box` — two corners
* `Box.isEmpty`, `Box.union`, `Box.enclose` — emptiness and growth
* `Box.around` — the least box around points
* `Box.transform` — the image under a matrix
-/

namespace ParametricScene

/-- A box along the axes, by its least and its greatest corner. -/
@[ext] structure Box (α : Type) where
  min : Vec3 α
  max : Vec3 α
deriving DecidableEq, Repr

namespace Box

variable {α : Type}

/-- The box without points, which holds for growing: its corners lie beyond every point. -/
def empty [Scalar α] : Box α := ⟨Vec3.replicate Scalar.top, Vec3.replicate Scalar.bottom⟩

/-- The box around the origin with the given extent along each axis. -/
def centered [Neg α] [Div α] [Scalar α] (size : Vec3 α) : Box α :=
  let half := size.shrink (Scalar.ofNat 2)
  ⟨-half, half⟩

/-- The box of one point. -/
def point (p : Vec3 α) : Box α := ⟨p, p⟩

/-! ### Measures -/

section Measures

variable [Add α] [Sub α] [Mul α] [Div α] [Scalar α]

/-- The point in the middle. -/
def center (b : Box α) : Vec3 α :=
  (b.min + b.max).scale (Scalar.ofNat 1 / Scalar.ofNat 2)

/-- The extent along each axis. -/
def size (b : Box α) : Vec3 α := b.max - b.min

/-- The product of the extents. -/
def volume (b : Box α) : α := b.size.x * b.size.y * b.size.z

end Measures

/-! ### Growth -/

section Order

variable [LT α] [DecidableLT α] [LE α] [DecidableLE α]

/-- On some axis the corners are the wrong way round. -/
def isEmpty (b : Box α) : Bool :=
  decide (b.max.x < b.min.x) || decide (b.max.y < b.min.y) || decide (b.max.z < b.min.z)

/-- The lesser of two coordinates. -/
def lesser (a b : α) : α := if a ≤ b then a else b

/-- The greater of two coordinates. -/
def greater (a b : α) : α := if b ≤ a then a else b

/-- The least box around two boxes, both taken as not empty. -/
def hull (a b : Box α) : Box α :=
  ⟨Vec3.zipWith lesser a.min b.min, Vec3.zipWith greater a.max b.max⟩

/-- Grows the box so that it holds a point. -/
def enclose (b : Box α) (p : Vec3 α) : Box α := b.hull (point p)

/-- The union; empty boxes add nothing. -/
def union (a b : Box α) : Box α :=
  if a.isEmpty then b else if b.isEmpty then a else a.hull b

/-- The least box around points. -/
def around [Scalar α] : List (Vec3 α) → Box α
  | [] => empty
  | p :: ps => ps.foldl enclose (point p)

/-- The eight corners; the first coordinate changes fastest. -/
def corners (b : Box α) : List (Vec3 α) :=
  [⟨b.min.x, b.min.y, b.min.z⟩, ⟨b.max.x, b.min.y, b.min.z⟩,
    ⟨b.min.x, b.max.y, b.min.z⟩, ⟨b.max.x, b.max.y, b.min.z⟩,
    ⟨b.min.x, b.min.y, b.max.z⟩, ⟨b.max.x, b.min.y, b.max.z⟩,
    ⟨b.min.x, b.max.y, b.max.z⟩, ⟨b.max.x, b.max.y, b.max.z⟩]

/-- The box around the image of the box. -/
def transform [Add α] [Mul α] [Div α] [BEq α] [Scalar α] (b : Box α) (m : Matrix α) : Box α :=
  if b.isEmpty then b else around (b.corners.map m.apply)

end Order

end Box

end ParametricScene
