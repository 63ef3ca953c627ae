import ParametricScene.Geometry.Box
import ParametricScene.Template.Basic

/-!
# Primitive shapes

The shapes a piece of geometry may have, around the origin with the second axis upward. Planes and
tori lie across the third axis. A list of dimensions gives lengths first and then numbers of segments;
what is missing takes a default.

## Main definitions

* `Primitive` — the shapes
* `Primitive.ofDimensions?` — the shape of a kind and a list of dimensions
* `Primitive.bounds` — a box around the shape, from its dimensions alone
-/

namespace ParametricScene

/-- A shape. Lengths may have any sign. -/
inductive Primitive (α : Type) where
  | box (width height depth : α)
  | cylinder (top bottom height : α) (segments : Nat)
  | sphere (radius : α) (around upward : Nat)
  | plane (width height : α)
  | torus (radius tube : α) (radial tubular : Nat)
  | cone (radius height : α) (segments : Nat)
deriving DecidableEq, Repr

namespace Primitive

/-- No shape has more segments than this one way. -/
def segmentLimit : Nat := 512

/-- A number of segments: at least `low` and at most the limit. -/
def clampSegments (low n : Nat) : Nat := max low (min n segmentLimit)

/-! ### Shapes of dimension lists -/

/-- A length of a list of dimensions. -/
def length (dimensions : List Float) (i : Nat) (default : Float) : Float :=
  dimensions.getD i default

/-- The number of segments that a dimension asks for: the nearest natural number, at least `low`
and at most the limit. What is not finite asks for none. -/
def segmentsOf (x : Float) (low : Nat) : Nat :=
  let rounded := if x.isFinite then Double.larger (Double.roundHalfAway x) 0.0 else 0.0
  if 512.0 < rounded then segmentLimit else max low (Double.toNat segmentLimit rounded)

/-- A number of segments of a list of dimensions. -/
def segments (dimensions : List Float) (i : Nat) (default low : Nat) : Nat :=
  match dimensions[i]? with
  | some x => segmentsOf x low
  | none => default

/-- The shape of a kind with the given dimensions; none for kinds that are not known. -/
def ofDimensions? (kind : GeometryKind) (ds : List Float) : Option (Primitive Float) :=
  match kind with
  | .box => some (box (length ds 0 1.0) (length ds 1 1.0) (length ds 2 1.0))
  | .cylinder => some (cylinder (length ds 0 1.0) (length ds 1 1.0) (length ds 2 1.0) 16)
  | .sphere => some (sphere (length ds 0 1.0) 16 12)
  | .plane => some (plane (length ds 0 1.0) (length ds 1 1.0))
  | .torus =>
    some (torus (length ds 0 1.0) (length ds 1 0.4) (segments ds 2 8 2) (segments ds 3 24 3))
  | .cone => some (cone (length ds 0 1.0) (length ds 1 1.0) (segments ds 2 8 3))
  | .unknown _ => none

/-- There is a shape exactly for the kinds that are known. -/
theorem isSome_ofDimensions? (kind : GeometryKind) (ds : List Float) :
    (ofDimensions? kind ds).isSome = kind.isKnown := by
  cases kind <;> rfl

/-! ### Bounds -/

section Bounds

variable {α : Type} [Add α] [Neg α] [Mul α] [Div α] [Scalar α]

/-- Twice a length. -/
def twice (a : α) : α := Scalar.ofNat 2 * a

/-- A box around the shape, however finely it is cut into triangles. -/
def bounds : Primitive α → Box α
  | box w h d => Box.centered ⟨w, h, d⟩
  | cylinder top bottom h _ =>
    let r := Scalar.larger (Scalar.abs top) (Scalar.abs bottom)
    Box.centered ⟨twice r, h, twice r⟩
  | sphere r _ _ => Box.centered (Vec3.replicate (twice (Scalar.abs r)))
  | plane w h => Box.centered ⟨w, h, Scalar.ofNat 0⟩
  | torus r t _ _ =>
    let outer := twice (Scalar.abs r + Scalar.abs t)
    Box.centered ⟨outer, outer, twice (Scalar.abs t)⟩
  | cone r h _ => Box.centered ⟨twice (Scalar.abs r), h, twice (Scalar.abs r)⟩

end Bounds

end Primitive

end ParametricScene
