import ParametricScene.Label
import ParametricScene.Template.Basic

/-!
# Expanding templates

A template in a context becomes a tree of placed nodes. Its context is that of its surroundings with
its parameters written on top, then its expressions, each seeing those before it. Formulas are
evaluated, and a repetition becomes one group for each instance. Templates inside the template stay
closed and keep the context they stand in.

## Main definitions

* `PlacedNode` — the tree
* `Evaluator.parameterBindings`, `Evaluator.templateContext` — the contexts of a template
* `RepeatHeader.instanceCount` — how many instances a repetition has
* `BuildNode.expand`, `Template.expand` — the expansion
-/

namespace ParametricScene

/-- A piece of geometry with everything evaluated. -/
structure PlacedGeometry where
  id : Option String
  name : Option String
  kind : GeometryKind
  dimensions : List Float
  transform : PartialPlacement
  material : Option String

/-- A part of an expanded template. -/
inductive PlacedNode where
  | group (id name : Option String) (transform : PartialPlacement) (children : List PlacedNode)
  | geometry (piece : PlacedGeometry)
  /-- A template that is not expanded yet, with the context it stands in. -/
  | template (template : Template) (context : Context)

namespace PlacedNode

mutual

/-- The number of pieces of geometry, those of closed templates not counted. -/
def geometryCount : PlacedNode → Nat
  | .group _ _ _ children => geometryCountAll children
  | .geometry _ => 1
  | .template _ _ => 0

/-- The number of pieces of geometry in several nodes. -/
def geometryCountAll : List PlacedNode → Nat
  | [] => 0
  | node :: rest => geometryCount node + geometryCountAll rest

end

end PlacedNode

/-! ### Contexts -/

namespace Evaluator

/-- Binds each name to the value of its source, which sees the bindings before it. -/
def bindSources : List (String × Source) → Context → StateM Evaluator Context
  | [], ctx => pure ctx
  | (name, source) :: rest, ctx => do
    let v ← evaluate source ctx
    bindSources rest (ctx.insert name v)

/-- The value of a parameter: that of a definition as it stands, that of a bare source in the
context. -/
def parameterValue (p : Parameter) (ctx : Context) : StateM Evaluator Value :=
  match p with
  | .defined d => pure d.value
  | .bare source => evaluate source ctx

/-- Binds each parameter to its value; a bare one sees the bindings before it. -/
def bindParameters : List (String × Parameter) → Context → StateM Evaluator Context
  | [], ctx => pure ctx
  | (name, p) :: rest, ctx => do
    let v ← parameterValue p ctx
    bindParameters rest (ctx.insert name v)

/-- The context of a template: its surroundings, its parameters, its expressions. -/
def templateContext (t : TemplateHeader) (surroundings : Context) : StateM Evaluator Context := do
  let ctx ← bindParameters t.parameters.entries surroundings
  bindSources t.expressions.entries ctx

end Evaluator

/-! ### Repetitions -/

namespace RepeatHeader

/-- The largest number of instances this library counts. -/
def countLimit : Nat := 0xffffffffffffffff

/-- How many instances a repetition has: the natural part of its count, at most `cap`. -/
def instanceCount (r : RepeatHeader) (cap : Nat) (ctx : Context) : StateM Evaluator Nat := do
  let count ← Evaluator.evaluateNumber r.count ctx
  pure (if count ≤ 0.0 then 0 else min cap (Double.toNat countLimit count))

/-- The positions of all instances; the origin where the distribution gives none. -/
def positions (r : RepeatHeader) (count : Nat) (ctx : Context) :
    StateM Evaluator (List (Vec3 Float)) := do
  let given ← match r.distribution with
    | some d => do pure ((← d.positions? count ctx).getD [])
    | none => pure []
  pure (given.take count ++ List.replicate (count - given.length) Vec3.zero)

/-- The context of an instance: its index, then its bindings. -/
def instanceContext (r : RepeatHeader) (index : Nat) (ctx : Context) : StateM Evaluator Context :=
  Evaluator.bindSources r.instanceParameters.entries
    (ctx.insert "index" (.number (Float.ofNat index)))

/-- The identifier of an instance. -/
def instanceId (r : RepeatHeader) (index : Nat) : String :=
  r.id.getD "repeat" ++ "_" ++ toString index

/-- One group for each position, with the instances counted from `first`. -/
def instances (r : RepeatHeader) (body : Context → StateM Evaluator (List PlacedNode))
    (ctx : Context) : Nat → List (Vec3 Float) → StateM Evaluator (List PlacedNode)
  | _, [] => pure []
  | first, position :: rest => do
    let inner ← r.instanceContext first ctx
    let children ← body inner
    let others ← instances r body ctx (first + 1) rest
    pure (.group (some (r.instanceId first)) none (.atPosition position) children :: others)

end RepeatHeader

/-! ### Nodes -/

/-- A piece of geometry in a context. -/
def GeometryNode.expand (g : GeometryNode) (ctx : Context) : StateM Evaluator PlacedGeometry := do
  let id ← Evaluator.label g.id ctx
  let name ← Evaluator.label g.name ctx
  let dimensions ← g.dimensions.mapM fun d => Evaluator.evaluateNumber d ctx
  let transform ← Evaluator.placement g.transform ctx
  let material ← Evaluator.label g.material ctx
  pure ⟨id, name, g.kind, dimensions, transform, material⟩

namespace BuildNode

mutual

/-- The placed nodes of a node. The number of instances of each repetition is at most `cap`. -/
def expand (cap : Nat) : BuildNode → Context → StateM Evaluator (List PlacedNode)
  | .geometry node, ctx => do
    let piece ← node.expand ctx
    pure [.geometry piece]
  | .group header children, ctx => do
    let id ← Evaluator.label header.id ctx
    let name ← Evaluator.label header.name ctx
    let transform ← Evaluator.placement header.transform ctx
    let placed ← expandAll cap children ctx
    pure [.group id name transform placed]
  | .repetition header body, ctx => do
    let count ← header.instanceCount cap ctx
    let positions ← header.positions count ctx
    header.instances (expandAll cap body) ctx 0 positions
  | .template header nodes, ctx => pure [.template ⟨header, nodes⟩ ctx]

/-- The placed nodes of several nodes, in order. -/
def expandAll (cap : Nat) : List BuildNode → Context → StateM Evaluator (List PlacedNode)
  | [], _ => pure []
  | node :: rest, ctx => do
    let placed ← expand cap node ctx
    let others ← expandAll cap rest ctx
    pure (placed ++ others)

end

end BuildNode

/-- The placed nodes of a template in its surroundings. -/
def Template.expand (t : Template) (cap : Nat) (surroundings : Context) :
    StateM Evaluator (List PlacedNode) := do
  let ctx ← Evaluator.templateContext t.toTemplateHeader surroundings
  BuildNode.expandAll cap t.nodes ctx

end ParametricScene
