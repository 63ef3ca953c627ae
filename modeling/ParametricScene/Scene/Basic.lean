import ParametricScene.Document.Basic
import ParametricScene.Geometry.Factory
import ParametricScene.Material.Library
import ParametricScene.Scene.Graph
import ParametricScene.Settings.Basic
import ParametricScene.Template.Constraint

/-!
# Scenes

A scene is the graph built from a document, together with everything needed to build parts of it
again. Templates and leaves are registered under the paths of their objects. Where two have one path,
the later one is registered.

The factory of geometry and the keeper of materials may be any, so scenes are over both.

## Main definitions

* `TemplateEntry` — a registered template
* `Scene` — the scene
* `joinPath` — the path of an object below another
-/

namespace ParametricScene

/-- A registered template. -/
structure TemplateEntry where
  /-- The slot of the object that holds everything built for the template. -/
  container : Nat
  /-- The template with its parameters as they are now. -/
  template : Template
  /-- The context the template stands in. -/
  surroundings : Context

/-- A scene with all that was used to build it. -/
structure Scene (G M : Type) where
  evaluator : Evaluator
  geometry : G
  materials : M
  definitions : OrderedMap MaterialDefinition
  settings : Settings
  graph : SceneGraph
  templates : OrderedMap TemplateEntry
  /-- The slots of the leaves by path. -/
  leaves : OrderedMap Nat
  /-- The violated rules of each template by path. -/
  violations : OrderedMap (List Violation)
  /-- The values given to parameters by edits, by path and name. They count again whenever the
  template is built again from what surrounds it. -/
  edits : OrderedMap (OrderedMap Value)

/-- The path of an object with the given identifier below the object with the given path. -/
def joinPath (path id : String) : String :=
  if path.isEmpty then id else path ++ "." ++ id

/-- The name of the material that stands in for undefined ones. -/
def fallbackName : String := "default"

namespace Scene

variable {G M : Type}

/-- A scene without objects. -/
def initial (geometry : G) (materials : M) (evaluator : Evaluator) (settings : Settings)
    (definitions : OrderedMap MaterialDefinition) : Scene G M where
  evaluator := evaluator
  geometry := geometry
  materials := materials
  definitions := definitions
  settings := settings
  graph := SceneGraph.new
  templates := ∅
  leaves := ∅
  violations := ∅
  edits := ∅

/-! ### Questions -/

/-- The violated rules of the template at a path. -/
def violationsAt (s : Scene G M) (path : String) : List Violation :=
  (s.violations.get? path).getD []

/-- The paths with violated rules, and the rules. -/
def allViolations (s : Scene G M) : List (String × List Violation) :=
  s.violations.entries.filter fun e => !e.2.isEmpty

/-- The value of a parameter that is no formula. -/
def parameter? (s : Scene G M) (path name : String) : Option Value := do
  let entry ← s.templates.get? path
  let p ← entry.template.parameters.get? name
  p.literal?

/-- The object of the leaf at a path. -/
def leaf? (s : Scene G M) (path : String) : Option SceneObject :=
  (s.leaves.get? path).bind s.graph.get?

/-- The number of registered leaves. -/
def leafCount (s : Scene G M) : Nat := s.leaves.size

/-- The number of objects, the root not counted. -/
def objectCount (s : Scene G M) : Nat := s.graph.size - 1

/-- The matrix of the leaf at a path, or else of the template there. -/
def world? (s : Scene G M) (path : String) : Option (Matrix Float) := do
  let slot ← (s.leaves.get? path) <|> ((s.templates.get? path).map TemplateEntry.container)
  s.graph.world? slot

/-- The bounds of the leaf in a slot, in the world. -/
def leafBounds? [GeometryFactory G] (s : Scene G M) (slot : Nat) : Option (Box Float) := do
  let leaf ← (s.graph.get? slot).bind SceneObject.leaf?
  let bounds ← GeometryFactory.bounds? leaf.geometryHandle s.geometry
  let world ← s.graph.world? slot
  pure (bounds.transform world)

/-- The bounds of all leaves that the factory measures, in the world. -/
def bounds [GeometryFactory G] (s : Scene G M) : Box Float :=
  (s.leaves.entries.filterMap fun e => s.leafBounds? e.2).foldl Box.union Box.empty

end Scene

end ParametricScene
