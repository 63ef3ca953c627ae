import ParametricScene.Evaluator
import ParametricScene.Geometry.Placement

/-!
# Placements given by sources

A document gives the parts of a placement as lists of sources. Missing coordinates are filled up and
surplus ones ignored; every coordinate is finite.

## Main definitions

* `PlacementSpec` — the parts as written
* `Evaluator.vector` — the vector of a list of sources
* `Evaluator.placement` — the placement of a specification
-/

namespace ParametricScene

/-- The parts of a placement as a document gives them. -/
structure PlacementSpec where
  position : Option (List Source)
  rotation : Option (List Source)
  scale : Option (List Source)

namespace Evaluator

/-- The coordinate of a source, or the filling if there is none. -/
def coordinate (source : Option Source) (fill : Float) (ctx : Context) : StateM Evaluator Float :=
  match source with
  | some s => evaluateNumber s ctx
  | none => pure fill

/-- The first three sources as coordinates, evaluated in order; `fill` stands in for missing ones. -/
def vector (components : List Source) (fill : Float) (ctx : Context) :
    StateM Evaluator (Vec3 Float) := do
  let x ← coordinate components[0]? fill ctx
  let y ← coordinate components[1]? fill ctx
  let z ← coordinate components[2]? fill ctx
  pure ⟨x, y, z⟩

/-- A part of a placement, if it is given. -/
def part (components : Option (List Source)) (fill : Float) (ctx : Context) :
    StateM Evaluator (Option (Vec3 Float)) :=
  match components with
  | some cs => do pure (some (← vector cs fill ctx))
  | none => pure none

/-- The placement of a specification. Positions and angles fill up with zero, stretches with one. -/
def placement (spec : PlacementSpec) (ctx : Context) : StateM Evaluator PartialPlacement := do
  let position ← part spec.position 0.0 ctx
  let rotation ← part spec.rotation 0.0 ctx
  let scale ← part spec.scale 1.0 ctx
  pure ⟨position, rotation, scale⟩

end Evaluator

end ParametricScene
