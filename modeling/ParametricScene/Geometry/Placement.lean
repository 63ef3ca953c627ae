import ParametricScene.Geometry.Matrix

/-!
# Placements

Where an object stands: it is stretched along its axes, turned around the third, the second and the
first axis, and moved, in this order.

## Main definitions

* `Placement` — position, angles and stretch
* `PartialPlacement` — the same with parts left open
* `Placement.matrix` — the placement as a matrix
-/

namespace ParametricScene

/-- Position, angles around the three axes, and stretch along them. -/
structure Placement where
  position : Vec3 Float
  rotation : Vec3 Float
  scale : Vec3 Float

/-- A placement whose parts may be left open. -/
structure PartialPlacement where
  position : Option (Vec3 Float)
  rotation : Option (Vec3 Float)
  scale : Option (Vec3 Float)

namespace Placement

/-- At the origin, not turned, not stretched. -/
def default : Placement := ⟨Vec3.replicate 0.0, Vec3.replicate 0.0, Vec3.replicate 1.0⟩

instance : Inhabited Placement := ⟨default⟩

/-- The placement as a matrix. -/
def matrix (p : Placement) : Matrix Float :=
  let rotation :=
    Matrix.turn ⟨1.0, 0.0, 0.0⟩ p.rotation.x * Matrix.turn ⟨0.0, 1.0, 0.0⟩ p.rotation.y *
      Matrix.turn ⟨0.0, 0.0, 1.0⟩ p.rotation.z
  Matrix.translation p.position * rotation * Matrix.scaling p.scale

end Placement

namespace PartialPlacement

/-- Only the position given. -/
def atPosition (position : Vec3 Float) : PartialPlacement := ⟨some position, none, none⟩

/-- The parts left open take their default. -/
def complete (p : PartialPlacement) : Placement where
  position := p.position.getD Placement.default.position
  rotation := p.rotation.getD Placement.default.rotation
  scale := p.scale.getD Placement.default.scale

end PartialPlacement

end ParametricScene
