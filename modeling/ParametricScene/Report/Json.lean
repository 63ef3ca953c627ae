import ParametricScene.Json.Printer
import ParametricScene.Scene.Basic

/-!
# Reports as documents

What commands report in the form of a document: the nodes of expanded templates, and the summary of a
scene.

## Main definitions

* `PlacedNode.toJson` — a placed node
* `Scene.summary` — what a scene holds
-/

namespace ParametricScene

/-- A number. -/
def Json.ofFloat (x : Float) : Json := .number (.double x)

/-- A natural number. -/
def Json.ofNat (n : Nat) : Json := .number (.natural n)

/-- Three coordinates. -/
def Vec3.toJson (v : Vec3 Float) : Json := .array (v.toList.map Json.ofFloat)

namespace Value

mutual

/-- A value. -/
def toJson : Value → Json
  | .number n => Json.ofFloat n
  | .boolean b => .boolean b
  | .text s => .text s
  | .list items => .array (toJsonAll items)

/-- Several values. -/
def toJsonAll : List Value → List Json
  | [] => []
  | item :: rest => toJson item :: toJsonAll rest

end

end Value

/-- The member for something that may be missing. -/
def optionalMember {α : Type} (name : String) (f : α → Json) : Option α → List (String × Json)
  | some a => [(name, f a)]
  | none => []

/-- The members for the parts of a placement that are given. -/
def PartialPlacement.members (p : PartialPlacement) : List (String × Json) :=
  optionalMember "position" Vec3.toJson p.position ++
    optionalMember "rotation" Vec3.toJson p.rotation ++ optionalMember "scale" Vec3.toJson p.scale

namespace PlacedNode

mutual

/-- A placed node. -/
def toJson : PlacedNode → Json
  | .group id name transform children =>
    .object (("type", .text "group") :: optionalMember "id" .text id ++
      optionalMember "name" .text name ++ transform.members ++
      [("children", .array (toJsonAll children))])
  | .geometry piece =>
    .object (("type", .text "geometry") :: optionalMember "id" .text piece.id ++
      optionalMember "name" .text piece.name ++
      [("geometry", .text piece.kind.word),
        ("dimensions", .array (piece.dimensions.map Json.ofFloat))] ++
      piece.transform.members ++ optionalMember "material" .text piece.material)
  | .template t ctx =>
    .object [("type", .text "parametric_template"), ("id", .text t.id),
      ("context", .object (ctx.entries.map fun e => (e.1, e.2.toJson)))]

/-- Several placed nodes. -/
def toJsonAll : List PlacedNode → List Json
  | [] => []
  | node :: rest => toJson node :: toJsonAll rest

end

end PlacedNode

/-- A rule that does not hold. -/
def Violation.toJson (v : Violation) : Json :=
  .object [("rule", .text v.rule), ("category", .text v.category), ("message", .text v.message),
    ("severity", .text v.severity.name)]

/-- The corners of a box; nothing for an empty box. -/
def Box.toJson (b : Box Float) : Json :=
  if b.isEmpty then .null else .object [("min", b.min.toJson), ("max", b.max.toJson)]

/-- What a scene holds. -/
def Scene.summary {G M : Type} [GeometryFactory G] (s : Scene G M) : Json :=
  .object [("templates", .array (s.templates.keys.map Json.text)),
    ("leaves", .array (s.leaves.keys.map Json.text)), ("objects", Json.ofNat s.objectCount),
    ("bounds", s.bounds.toJson),
    ("violations", .array (s.allViolations.map fun e =>
      .object [("template", .text e.1), ("violations", .array (e.2.map Violation.toJson))]))]

end ParametricScene
