import ParametricScene.Arithmetic

/-!
# Scalars

Coordinates are doubles when the library runs. The geometry is written over any type with the same
operations, so that its laws can be stated where arithmetic is exact.

The arithmetic operators and the order come from the usual classes; `Scalar` holds the operations
that have no class of their own.

## Main definitions

* `Scalar` — the further operations on coordinates
-/

namespace ParametricScene

/-- Operations on coordinates besides arithmetic and order. -/
class Scalar (α : Type) where
  ofNat : Nat → α
  abs : α → α
  /-- The larger of two numbers. -/
  larger : α → α → α
  sqrt : α → α
  sin : α → α
  cos : α → α
  /-- One full turn. -/
  tau : α
  /-- Half a turn. -/
  pi : α
  /-- The distance below which a vector has no direction. -/
  tiny : α
  /-- Above every coordinate. -/
  top : α
  /-- Below every coordinate. -/
  bottom : α

instance : Scalar Float where
  ofNat := Float.ofNat
  abs := Float.abs
  larger := Double.larger
  sqrt := Float.sqrt
  sin := Float.sin
  cos := Float.cos
  tau := Double.tau
  pi := Double.pi
  tiny := Float.ofBits 0x3CB0000000000000
  top := 1.0 / 0.0
  bottom := -1.0 / 0.0

end ParametricScene
