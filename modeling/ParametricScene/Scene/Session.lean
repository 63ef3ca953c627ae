import ParametricScene.Scene.Build
import Std.Data.HashSet

/-!
# Edits of scenes

A registered template can be built again, and a parameter of it can be given another value, which
builds it again. Everything below its container is given back first; the container itself stays.

## Main definitions

* `Scene.releaseChildren` — gives back everything below a container
* `Scene.regenerate` — builds a template again
* `Scene.setParameter` — edits a parameter
-/

namespace ParametricScene

namespace Scene

variable {G M : Type} [GeometryFactory G] [MaterialCache M]

/-- Gives back the handles of an object that is a leaf. -/
def releaseObject (o : SceneObject) (s : Scene G M) : Scene G M :=
  match o.leaf? with
  | some leaf =>
    { s with
      geometry := GeometryFactory.release leaf.geometryHandle s.geometry
      materials := MaterialCache.release leaf.materialHandle s.materials }
  | none => s

/-- Drops from the registries what stood in the given slots. -/
def forget (slots : List Nat) (s : Scene G M) : Scene G M :=
  let gone := Std.HashSet.ofList slots
  let templates := s.templates.filter fun _ entry => !gone.contains entry.container
  { s with
    leaves := s.leaves.filter fun _ slot => !gone.contains slot
    templates := templates
    violations := s.violations.filter fun path _ => templates.contains path }

/-- Gives back everything below a container, and drops it from the registries. -/
def releaseChildren (container : Nat) (s : Scene G M) : Scene G M :=
  let (removed, graph) := s.graph.clearChildren container
  let s := removed.foldl (fun s r => s.releaseObject r.2) { s with graph := graph }
  s.forget (removed.map Prod.fst)

/-- Builds the template registered at a path again, from its parameters as they are now. Tells
whether there is one. -/
def regenerate (path : String) (s : Scene G M) : Bool × Scene G M :=
  match s.templates.get? path with
  | none => (false, s)
  | some entry =>
    let s := { s with evaluator := s.evaluator.clearCache }
    let s := s.releaseChildren entry.container
    (true, ((expandTemplate path).run s).2)

/-- The scene with the outcome of an edit written down, but nothing built again. -/
def recordEdit (path name : String) (entry : TemplateEntry) (p : Parameter) (stored : Value)
    (s : Scene G M) : Scene G M :=
  let parameters := entry.template.parameters.insert name p
  let entry := { entry with template := { entry.template with parameters := parameters } }
  let edits := ((s.edits.get? path).getD ∅).insert name stored
  { s with
    templates := s.templates.insert path entry
    edits := s.edits.insert path edits }

/-- Gives a parameter another value and builds its template again. The answer is the violated rules
of the template, or why the edit is refused, in which case nothing changes. -/
def setParameter (path name : String) (v : Value) (s : Scene G M) :
    Except SchemaError (List Violation) × Scene G M :=
  match s.templates.get? path with
  | none => (.error (.unknownTemplate path), s)
  | some entry =>
    match entry.template.parameters.get? name with
    | none => (.error (.unknownParameter path name), s)
    | some p =>
      match p.set v with
      | .error cause => (.error (.invalidParameterValue name cause), s)
      | .ok (p', stored) =>
        let s := (regenerate path (s.recordEdit path name entry p' stored)).2
        (.ok (s.violationsAt path), s)

end Scene

end ParametricScene
