import ParametricScene.Distribution
import ParametricScene.Parameter
import ParametricScene.Severity

/-!
# Templates

A template describes an object: its parameters, expressions over them, constraints, and the nodes it
is built from. Nodes are single pieces of geometry, groups, repeated nodes and templates inside the
template.

## Main definitions

* `GeometryKind` — the kinds of geometry
* `ConstraintRule` — a condition on the parameters
* `TemplateHeader` — everything about a template but its nodes
* `BuildNode`, `Template` — nodes, and templates with them
* `BuildNode.depth` — how deep templates nest below a node
-/

namespace ParametricScene

/-- The kinds of geometry. A document may use other words, for which nothing is built. -/
inductive GeometryKind where
  | box | cylinder | sphere | plane | torus | cone
  | unknown (word : String)
deriving DecidableEq, Repr

namespace GeometryKind

/-- The kind of a word. -/
def ofWord (word : String) : GeometryKind :=
  match word with
  | "box" => box
  | "cylinder" => cylinder
  | "sphere" => sphere
  | "plane" => plane
  | "torus" => torus
  | "cone" => cone
  | _ => unknown word

/-- The word of a kind. -/
def word : GeometryKind → String
  | box => "box"
  | cylinder => "cylinder"
  | sphere => "sphere"
  | plane => "plane"
  | torus => "torus"
  | cone => "cone"
  | unknown w => w

/-- Something can be built for the kind. -/
def isKnown : GeometryKind → Bool
  | unknown _ => false
  | _ => true

end GeometryKind

/-- A condition on the parameters of a template, with what to say when it does not hold. -/
structure ConstraintRule where
  expression : Source
  message : Option String
  severity : Option Severity

/-- A template without its nodes. -/
structure TemplateHeader where
  id : String
  generator : Option String
  transform : PlacementSpec
  parameters : OrderedMap Parameter
  expressions : OrderedMap Source
  /-- Rules by category and name. -/
  constraints : OrderedMap (OrderedMap ConstraintRule)

/-- One piece of geometry. -/
structure GeometryNode where
  kind : GeometryKind
  id : Option String
  name : Option String
  dimensions : List Source
  transform : PlacementSpec
  material : Option String

/-- What is said about a group besides its children. -/
structure GroupHeader where
  id : Option String
  name : Option String
  transform : PlacementSpec

/-- What is said about a repetition besides what is repeated. -/
structure RepeatHeader where
  id : Option String
  count : Source
  distribution : Option Distribution
  /-- Bindings of each instance besides its index. -/
  instanceParameters : OrderedMap Source

/-- A part of a template. -/
inductive BuildNode where
  | geometry (node : GeometryNode)
  | group (header : GroupHeader) (children : List BuildNode)
  | repetition (header : RepeatHeader) (body : List BuildNode)
  | template (header : TemplateHeader) (nodes : List BuildNode)

/-- A template. -/
structure Template extends TemplateHeader where
  nodes : List BuildNode

namespace BuildNode

mutual

/-- How deep templates nest below the node, the node included. -/
def depth : BuildNode → Nat
  | .geometry _ => 0
  | .group _ children => depthAll children
  | .repetition _ body => depthAll body
  | .template _ nodes => depthAll nodes + 1

/-- How deep templates nest below several nodes. -/
def depthAll : List BuildNode → Nat
  | [] => 0
  | node :: rest => max (depth node) (depthAll rest)

end

end BuildNode

/-- How deep templates nest, this one included. -/
def Template.depth (t : Template) : Nat := BuildNode.depthAll t.nodes + 1

end ParametricScene
