import ParametricScene.Geometry.Vector

/-!
# Matrices of placements

Four rows of four entries, acting on points from the left. The last column moves, the last row is
`0 0 0 1` for every placement.

## Main definitions

* `Matrix` — the entries by rows
* `Matrix.mul`, `Matrix.apply` — the product, and the image of a point
* `Matrix.translation`, `scaling`, `turn` — the matrices placements are made of
-/

namespace ParametricScene

/-- One row of a matrix. -/
@[ext] structure Row (α : Type) where
  x : α
  y : α
  z : α
  w : α
deriving DecidableEq, Repr

/-- A matrix by rows. -/
@[ext] structure Matrix (α : Type) where
  first : Row α
  second : Row α
  third : Row α
  fourth : Row α
deriving DecidableEq, Repr

namespace Row

variable {α : Type}

/-- The entries in order. -/
def toList (r : Row α) : List α := [r.x, r.y, r.z, r.w]

/-- The row of the product of `r`, as a matrix of one row, with `m`. -/
def mul [Add α] [Mul α] (r : Row α) (m : Matrix α) : Row α where
  x := r.x * m.first.x + r.y * m.second.x + r.z * m.third.x + r.w * m.fourth.x
  y := r.x * m.first.y + r.y * m.second.y + r.z * m.third.y + r.w * m.fourth.y
  z := r.x * m.first.z + r.y * m.second.z + r.z * m.third.z + r.w * m.fourth.z
  w := r.x * m.first.w + r.y * m.second.w + r.z * m.third.w + r.w * m.fourth.w

/-- The part of the row that meets the coordinates of a point. -/
def dot [Add α] [Mul α] (r : Row α) (p : Vec3 α) : α := r.x * p.x + r.y * p.y + r.z * p.z

end Row

namespace Matrix

variable {α : Type}

/-- The rows in order. -/
def toList (m : Matrix α) : List (Row α) := [m.first, m.second, m.third, m.fourth]

/-- The product. -/
def mul [Add α] [Mul α] (a b : Matrix α) : Matrix α :=
  ⟨a.first.mul b, a.second.mul b, a.third.mul b, a.fourth.mul b⟩

instance [Add α] [Mul α] : Mul (Matrix α) := ⟨mul⟩

/-- The image of a point. The last row gives a divisor, which counts unless it is zero. -/
def apply [Add α] [Mul α] [Div α] [BEq α] [Scalar α] (m : Matrix α) (p : Vec3 α) : Vec3 α :=
  let image : Vec3 α :=
    ⟨m.first.dot p + m.first.w, m.second.dot p + m.second.w, m.third.dot p + m.third.w⟩
  let divisor := m.fourth.dot p + m.fourth.w
  if divisor == Scalar.ofNat 0 then image else image.shrink divisor

section Makers

variable [Scalar α]

/-- The last row of every placement. -/
def lastRow : Row α := ⟨Scalar.ofNat 0, Scalar.ofNat 0, Scalar.ofNat 0, Scalar.ofNat 1⟩

/-- Everything stays where it is. -/
def identity : Matrix α :=
  ⟨⟨Scalar.ofNat 1, Scalar.ofNat 0, Scalar.ofNat 0, Scalar.ofNat 0⟩,
    ⟨Scalar.ofNat 0, Scalar.ofNat 1, Scalar.ofNat 0, Scalar.ofNat 0⟩,
    ⟨Scalar.ofNat 0, Scalar.ofNat 0, Scalar.ofNat 1, Scalar.ofNat 0⟩, lastRow⟩

/-- Moves by a vector. -/
def translation (v : Vec3 α) : Matrix α :=
  ⟨⟨Scalar.ofNat 1, Scalar.ofNat 0, Scalar.ofNat 0, v.x⟩,
    ⟨Scalar.ofNat 0, Scalar.ofNat 1, Scalar.ofNat 0, v.y⟩,
    ⟨Scalar.ofNat 0, Scalar.ofNat 0, Scalar.ofNat 1, v.z⟩, lastRow⟩

/-- Stretches along the axes. -/
def scaling (v : Vec3 α) : Matrix α :=
  ⟨⟨v.x, Scalar.ofNat 0, Scalar.ofNat 0, Scalar.ofNat 0⟩,
    ⟨Scalar.ofNat 0, v.y, Scalar.ofNat 0, Scalar.ofNat 0⟩,
    ⟨Scalar.ofNat 0, Scalar.ofNat 0, v.z, Scalar.ofNat 0⟩, lastRow⟩

/-- Turns around an axis of length one by an angle in radians. -/
def turn [Add α] [Sub α] [Mul α] [BEq α] (axis : Vec3 α) (angle : α) : Matrix α :=
  if angle == Scalar.ofNat 0 then identity
  else
    let one : α := Scalar.ofNat 1
    let sin := Scalar.sin angle
    let cos := Scalar.cos angle
    let rest := one - cos
    let diagonal : α → α := fun u => u * u + (one - u * u) * cos
    let xy := axis.x * axis.y * rest
    let xz := axis.x * axis.z * rest
    let yz := axis.y * axis.z * rest
    ⟨⟨diagonal axis.x, xy - axis.z * sin, xz + axis.y * sin, Scalar.ofNat 0⟩,
      ⟨xy + axis.z * sin, diagonal axis.y, yz - axis.x * sin, Scalar.ofNat 0⟩,
      ⟨xz - axis.y * sin, yz + axis.x * sin, diagonal axis.z, Scalar.ofNat 0⟩, lastRow⟩

end Makers

end Matrix

end ParametricScene
