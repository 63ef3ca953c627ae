import ParametricScene.Scene.Basic

/-!
# Building scenes

A template is built into a container: its rules are checked, it is expanded, and an object is made for
every placed node. A template inside the template is built in turn where it stands, so building recurs
as deep as templates nest.

Building is an action on the scene, since the evaluator remembers, and the factory of geometry and
the keeper of materials hand out handles.

## Main definitions

* `Scene.buildLeaf`, `Scene.buildNode` — the objects of placed nodes
* `Scene.buildTemplate` — the objects of a template
* `Scene.expandTemplate` — everything inside the container of a registered template
* `Scene.build` — the scene of a document
-/

namespace ParametricScene

namespace Scene

variable {G M : Type}

/-- Lets the evaluator of the scene work. -/
def evaluating {α : Type} (action : StateM Evaluator α) : StateM (Scene G M) α := fun s =>
  let (a, evaluator) := action s.evaluator
  (a, { s with evaluator := evaluator })

/-- Inserts an object into the graph. -/
def insertObject (parent : Nat) (path : String) (placement : Placement) (kind : ObjectKind) :
    StateM (Scene G M) Nat := fun s =>
  let (slot, graph) := s.graph.insert parent path placement kind
  (slot, { s with graph := graph })

/-! ### Leaves -/

/-- The name and the definition of a material that a leaf refers to. Without a reference to a defined
material the fallback counts: the document's definition of it, or else that of the settings. -/
def resolveMaterial (s : Scene G M) (name : Option String) : String × MaterialDefinition :=
  match name.bind fun n => (s.definitions.get? n).map fun d => (n, d) with
  | some named => named
  | none => (fallbackName, (s.definitions.get? fallbackName).getD s.settings.fallbackMaterial)

/-- The identifier of a piece of geometry in its path. -/
def leafId (piece : PlacedGeometry) : String := (piece.id <|> piece.name).getD piece.kind.word

section Building

variable [GeometryFactory G] [MaterialCache M]

/-- New geometry from the factory. -/
def createGeometry (kind : GeometryKind) (dimensions : List Float) :
    StateM (Scene G M) (Option Nat) := fun s =>
  let (handle, geometry) := GeometryFactory.create kind dimensions s.geometry
  (handle, { s with geometry := geometry })

/-- The material for a reference, by name and handle. -/
def acquireMaterial (name : Option String) : StateM (Scene G M) (String × Nat) := fun s =>
  let (material, definition) := s.resolveMaterial name
  let (handle, materials) := MaterialCache.acquire material definition s.materials
  ((material, handle), { s with materials := materials })

/-- Builds a piece of geometry below an object. Nothing is built for kinds that are not known and
where the factory has no geometry. -/
def buildLeaf (piece : PlacedGeometry) (parent : Nat) (path : String) :
    StateM (Scene G M) Unit := do
  if piece.kind.isKnown then
    match ← createGeometry piece.kind piece.dimensions with
    | none => pure ()
    | some geometryHandle =>
      let (material, materialHandle) ← acquireMaterial piece.material
      let leafPath := joinPath path (leafId piece)
      let leaf : Leaf := ⟨piece.kind, piece.dimensions, geometryHandle, material, materialHandle⟩
      let slot ← insertObject parent leafPath piece.transform.complete (.leaf leaf)
      modify fun s => { s with leaves := s.leaves.insert leafPath slot }

/-! ### Nodes and templates -/

/-- The action that builds a template below an object with a path, in a context. -/
abbrev TemplateBuilder (G M : Type) : Type :=
  Template → Nat → String → Context → StateM (Scene G M) Unit

/-- The identifier of a group in its path. -/
def groupId (id name : Option String) : String := (id <|> name).getD "group"

mutual

/-- Builds a placed node below an object; templates are left to `nested`. -/
def buildNode (nested : TemplateBuilder G M) :
    PlacedNode → Nat → String → StateM (Scene G M) Unit
  | .group id name transform children, parent, path => do
    let groupPath := joinPath path (groupId id name)
    let slot ← insertObject parent groupPath transform.complete .group
    buildNodes nested children slot groupPath
  | .geometry piece, parent, path => buildLeaf piece parent path
  | .template template context, parent, path => nested template parent path context

/-- Builds several placed nodes below an object, in order. -/
def buildNodes (nested : TemplateBuilder G M) :
    List PlacedNode → Nat → String → StateM (Scene G M) Unit
  | [], _, _ => pure ()
  | node :: rest, parent, path => do
    buildNode nested node parent path
    buildNodes nested rest parent path

end

/-- Checks, expands and builds the template registered at a path, inside its container. -/
def expandWith (nested : TemplateBuilder G M) (path : String) : StateM (Scene G M) Unit := do
  match (← get).templates.get? path with
  | none => pure ()
  | some entry =>
    let violations ← evaluating (Evaluator.violations entry.template.toTemplateHeader)
    let cap := (← get).settings.repeatCap
    let nodes ← evaluating (entry.template.expand cap entry.surroundings)
    modify fun s => { s with violations := s.violations.insert path violations }
    buildNodes nested nodes entry.container path

/-- A template with the parameters that were edited at its path; edits that are refused are passed
over. -/
def withEdits (edits : OrderedMap Value) (t : Template) : Template :=
  let parameters := edits.entries.foldl (fun (ps : OrderedMap Parameter) e =>
    match ps.get? e.1 with
    | some p =>
      match p.set e.2 with
      | .ok (p', _) => ps.insert e.1 p'
      | .error _ => ps
    | none => ps) t.parameters
  { t with parameters := parameters }

/-- Builds a template below an object, with templates nested at most as deep as the first argument
says. -/
def buildWithin : Nat → TemplateBuilder G M
  | 0, _, _, _, _ => pure ()
  | depth + 1, template, parent, path, surroundings => do
    let templatePath := joinPath path template.id
    let placement ← evaluating (Evaluator.placement template.transform surroundings)
    let edits := ((← get).edits.get? templatePath).getD ∅
    let container ← insertObject parent templatePath placement.complete .container
    modify fun s =>
      let entry : TemplateEntry := ⟨container, withEdits edits template, surroundings⟩
      { s with templates := s.templates.insert templatePath entry }
    expandWith (buildWithin depth) templatePath

/-- Builds a template below an object with a path, in a context. -/
def buildTemplate : TemplateBuilder G M := fun template => buildWithin template.depth template

/-- Checks, expands and builds the template registered at a path, inside its container. -/
def expandTemplate (path : String) : StateM (Scene G M) Unit := expandWith buildTemplate path

/-- Builds all templates of a document below the root. -/
def populate : List Template → StateM (Scene G M) Unit
  | [] => pure ()
  | template :: rest => do
    buildTemplate template SceneGraph.rootSlot "" ∅
    populate rest

/-- The scene of a document, with the given factory, keeper of materials and evaluator. The settings
say whether the evaluator remembers results. -/
def buildWith (geometry : G) (materials : M) (evaluator : Evaluator) (settings : Settings)
    (d : SceneDocument) : Scene G M :=
  let start := initial geometry materials (evaluator.setMemoize settings.memoize) settings
    d.materials
  ((populate d.templates).run start).2

end Building

end Scene

/-- The scene of a document with meshes and a library of materials. -/
def Scene.build (settings : Settings) (d : SceneDocument) : Scene MeshFactory MaterialLibrary :=
  Scene.buildWith MeshFactory.empty MaterialLibrary.empty settings.evaluator settings d

end ParametricScene
