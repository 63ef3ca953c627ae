import ParametricScene.Geometry.Scalar

/-!
# Vectors

Triples of coordinates. Points and directions are both vectors.

## Main definitions

* `Vec3` — the triple
* `Vec3.dot`, `cross`, `norm`, `direction` — products and lengths
-/

namespace ParametricScene

/-- Three coordinates. -/
@[ext] structure Vec3 (α : Type) where
  x : α
  y : α
  z : α
deriving DecidableEq, Repr

namespace Vec3

variable {α β : Type}

/-- The same coordinate three times. -/
def replicate (a : α) : Vec3 α := ⟨a, a, a⟩

/-- A function applied to each coordinate. -/
def map (f : α → β) (v : Vec3 α) : Vec3 β := ⟨f v.x, f v.y, f v.z⟩

/-- A function applied to the coordinates of two vectors place by place. -/
def zipWith (f : α → α → β) (v w : Vec3 α) : Vec3 β := ⟨f v.x w.x, f v.y w.y, f v.z w.z⟩

/-- The coordinates in order. -/
def toList (v : Vec3 α) : List α := [v.x, v.y, v.z]

instance [Add α] : Add (Vec3 α) := ⟨zipWith (· + ·)⟩

instance [Sub α] : Sub (Vec3 α) := ⟨zipWith (· - ·)⟩

instance [Neg α] : Neg (Vec3 α) := ⟨map (- ·)⟩

/-- Each coordinate multiplied by a number. -/
def scale [Mul α] (v : Vec3 α) (a : α) : Vec3 α := v.map (· * a)

/-- Each coordinate divided by a number. -/
def shrink [Div α] (v : Vec3 α) (a : α) : Vec3 α := v.map (· / a)

/-- Coordinates multiplied place by place. -/
def times [Mul α] (v w : Vec3 α) : Vec3 α := zipWith (· * ·) v w

/-- The sum of the products of the coordinates. -/
def dot [Add α] [Mul α] (v w : Vec3 α) : α := v.x * w.x + v.y * w.y + v.z * w.z

/-- The vector at right angles to both, as long as the area they span. -/
def cross [Sub α] [Mul α] (v w : Vec3 α) : Vec3 α :=
  ⟨v.y * w.z - v.z * w.y, v.z * w.x - v.x * w.z, v.x * w.y - v.y * w.x⟩

/-- The length. -/
def norm [Add α] [Mul α] [Scalar α] (v : Vec3 α) : α := Scalar.sqrt (v.dot v)

/-- The vector of length one in the same direction. -/
def normalize [Add α] [Mul α] [Div α] [Scalar α] (v : Vec3 α) : Vec3 α := v.shrink v.norm

/-- The vector of length one in the same direction, if the vector is long enough to have one. -/
def direction? [Add α] [Mul α] [Div α] [LE α] [DecidableLE α] [Scalar α] (v : Vec3 α) :
    Option (Vec3 α) :=
  if v.norm ≤ Scalar.tiny then none else some (v.shrink v.norm)

/-- The origin. -/
def zero [Scalar α] : Vec3 α := replicate (Scalar.ofNat 0)

end Vec3

end ParametricScene
