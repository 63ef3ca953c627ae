import ParametricScene.Geometry.PlacementSpec

/-!
# Distributions

How the instances of a repeated node are placed: in a line along an axis, at given positions, or on a
circle around the vertical axis.

## Main definitions

* `Axis`, `Distribution` — as a document gives them
* `Axis.index` — the axis of a line
* `Distribution.positions?` — the positions of the instances
-/

namespace ParametricScene

/-- The axis of a line: by number, by name or by direction. -/
inductive Axis where
  | index (n : Nat)
  | name (s : String)
  | vector (components : List Float)

/-- How instances are placed. -/
inductive Distribution where
  | linear (axis : Option Axis) (start step : Option Source)
  | grid (positions : List (List Source))
  | radial (radius startAngle height : Option Source)
  /-- A kind of placement this library does not know. -/
  | unknown

/-- One of the three axes. -/
inductive Direction where
  | x | y | z
deriving DecidableEq, Repr

namespace Direction

/-- The axis of a number. -/
def ofNat? : Nat → Option Direction
  | 0 => some x
  | 1 => some y
  | 2 => some z
  | _ => none

/-- The axis of a name, in either case. -/
def ofName? (s : String) : Option Direction :=
  match s.toList.map Char.toLower with
  | ['x'] => some x
  | ['y'] => some y
  | ['z'] => some z
  | _ => none

/-- The vector along the axis with the given coordinate. -/
def vector : Direction → Float → Vec3 Float
  | x, a => ⟨a, 0.0, 0.0⟩
  | y, a => ⟨0.0, a, 0.0⟩
  | z, a => ⟨0.0, 0.0, a⟩

end Direction

namespace Axis

/-- The place of the largest magnitude that is not zero, the last of several equal ones. -/
def dominant? (components : List Float) : Option Nat :=
  let step : Option (Nat × Float) → Nat × Float → Option (Nat × Float) := fun best c =>
    if c.2 == 0.0 then best
    else
      match best with
      | some b => if b.2.abs ≤ c.2.abs then some c else some b
      | none => some c
  (((List.range 3).zip components).foldl step none).map Prod.fst

/-- The axis meant; the vertical one where the document does not say or what it says is no axis. -/
def direction : Option Axis → Direction
  | none => .y
  | some (.index n) => (Direction.ofNat? n).getD .y
  | some (.name s) => (Direction.ofName? s).getD .y
  | some (.vector components) => ((dominant? components).bind Direction.ofNat?).getD .y

end Axis

namespace Distribution

/-- The number of a source, or a default if there is none. -/
def numberOr (source : Option Source) (default : Float) (ctx : Context) : StateM Evaluator Float :=
  Evaluator.coordinate source default ctx

/-- The positions of `count` instances, of which there may be fewer; none for a kind that is not
known. -/
def positions? (d : Distribution) (count : Nat) (ctx : Context) :
    StateM Evaluator (Option (List (Vec3 Float))) :=
  match d with
  | linear axis start step => do
    let start ← numberOr start 0.0 ctx
    let step ← numberOr step 1.0 ctx
    let place : Nat → Vec3 Float := fun i =>
      (Axis.direction axis).vector (start + Float.ofNat i * step)
    pure (some ((List.range count).map place))
  | grid positions => do
    let placed ← (positions.take count).mapM fun p => Evaluator.vector p 0.0 ctx
    pure (some placed)
  | radial radius startAngle height =>
    if count = 0 then pure (some [])
    else do
      let radius ← numberOr radius 0.0 ctx
      let start ← numberOr startAngle 0.0 ctx
      let height ← numberOr height 0.0 ctx
      let step := Double.tau / Float.ofNat count
      let place : Nat → Vec3 Float := fun i =>
        let angle := start + Float.ofNat i * step
        ⟨angle.cos * radius, height, angle.sin * radius⟩
      pure (some ((List.range count).map place))
  | unknown => pure none

end Distribution

end ParametricScene
