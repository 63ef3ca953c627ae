import ParametricScene.Document.Basic
import ParametricScene.Json.Reader

/-!
# From document trees to scene documents

Every part of a scene document is decoded from the tree of its text. An object may not name one of its
fields twice, nor by two of its names; fields that are not known are passed over. Inside build nodes
the last of several equal names counts. `null` stands for a missing field where a field may be
missing without having a default. Parts other than templates and their nodes may also be written as
the array of their fields in order.

What stands for nothing is refused, except in fields that are passed over. Parameters, distributions,
build nodes and the further fields of templates count as a whole, so there it is refused everywhere.

## Main definitions

* `Decoder` — readers of trees
* `Decoder.field` and its kin — fields of objects
* `Decoder.buildNode`, `template`, `sceneDocument` — the parts
* `SceneDocument.parse` — the scene document of a text
-/

namespace ParametricScene

/-- Reads a tree, or refuses it. -/
abbrev Decoder (α : Type) : Type := Json → Option α

namespace Decoder

variable {α : Type}

/-! ### Scalars and lists -/

/-- A text. -/
def text : Decoder String
  | .text s => some s
  | _ => none

/-- A number. -/
def number : Decoder Float
  | .number n => some n.toFloat
  | _ => none

/-- A whole number from zero up. -/
def natural : Decoder Nat
  | .number (.natural n) => some n
  | _ => none

/-- Reads a part that counts as a whole: nothing in it may stand for nothing. -/
def whole (part : Decoder α) : Decoder α := fun j => if j.isReadable then part j else none

/-- Any tree, with each name once. -/
def tree : Decoder Json := whole fun j => some j.normalize

/-- An array of equal parts. -/
def list (item : Decoder α) : Decoder (List α)
  | .array items => items.mapM item
  | _ => none

/-- An object whose names are free, with equal parts as values. -/
def map (item : Decoder α) : Decoder (OrderedMap α)
  | .object members =>
    (members.mapM fun m => (item m.2).map fun a => (m.1, a)).map OrderedMap.ofList
  | _ => none

/-- The members of an object. -/
def members : Decoder (List (String × Json))
  | .object ms => some ms
  | _ => none

/-- The fields of a part whose fields have these names: those of an object, or an array of values in
the order of the names. -/
def fields (names : List String) : Decoder (List (String × Json))
  | .object ms => some ms
  | .array items => if items.length ≤ names.length then some (names.zip items) else none
  | _ => none

/-! ### Fields -/

/-- The value of the field that has one of the names, if there is one; refused if there are
several. -/
def find (names : List String) (ms : List (String × Json)) : Option (Option Json) :=
  match ms.filter fun m => names.contains m.1 with
  | [] => some none
  | [m] => some (some m.2)
  | _ => none

/-- A field that has to be there. -/
def field (name : String) (item : Decoder α) (ms : List (String × Json)) : Option α := do
  match ← find [name] ms with
  | some j => item j
  | none => none

/-- A field that may be missing or `null`. -/
def optional (names : List String) (item : Decoder α) (ms : List (String × Json)) :
    Option (Option α) := do
  match ← find names ms with
  | none | some .null => pure none
  | some j => (item j).map some

/-- A field with a default for when it is missing. -/
def defaulted (names : List String) (item : Decoder α) (default : α)
    (ms : List (String × Json)) : Option α := do
  match ← find names ms with
  | none => pure default
  | some j => item j

/-! ### Values and sources -/

mutual

/-- A value. -/
def value : Decoder Value
  | .number n => some (.number n.toFloat)
  | .boolean b => some (.boolean b)
  | .text s => some (.text s)
  | .array items => (values items).map .list
  | .null | .object _ | .unreadable => none

/-- Several values. -/
def values : List Json → Option (List Value)
  | [] => some []
  | item :: rest => do
    let v ← value item
    let vs ← values rest
    pure (v :: vs)

end

/-- A source. -/
def source : Decoder Source
  | .number n => some (.number n.toFloat)
  | .boolean b => some (.boolean b)
  | .text s => some (.formula s)
  | _ => none

/-- The parts of a placement among the fields of an object. -/
def placementSpec (ms : List (String × Json)) : Option PlacementSpec := do
  let position ← optional ["position"] (list source) ms
  let rotation ← optional ["rotation"] (list source) ms
  let scale ← optional ["scale"] (list source) ms
  pure ⟨position, rotation, scale⟩

/-! ### Parameters, rules and distributions -/

/-- A definition of a parameter. -/
def parameterDefinition : Decoder ParameterDefinition := fun j => do
  let ms ← fields
    ["value", "type", "min", "max", "step", "options", "unit", "label", "group"] j
  let value ← field "value" value ms
  let kind ← defaulted ["type"] (fun j => (text j).map ParameterKind.ofWord) .number ms
  let min ← optional ["min"] number ms
  let max ← optional ["max"] number ms
  let step ← optional ["step"] number ms
  let options ← defaulted ["options"] (list text) [] ms
  let unit ← optional ["unit"] text ms
  let label ← optional ["label"] text ms
  let group ← optional ["group"] text ms
  pure ⟨value, kind, min, max, step, options, unit, label, group⟩

/-- A parameter: a scalar is a bare source, all else a definition. -/
def parameter : Decoder Parameter := whole fun j =>
  match source j with
  | some s => some (.bare s)
  | none => (parameterDefinition j).map .defined

/-- A rule. -/
def constraintRule : Decoder ConstraintRule := fun j => do
  let ms ← fields ["expression", "message", "severity"] j
  let expression ← field "expression" source ms
  let message ← optional ["message"] text ms
  let severity ← optional ["severity"] (fun j => (text j).map Severity.ofWord) ms
  pure ⟨expression, message, severity⟩

/-- The axis of a line. -/
def axis : Decoder Axis := fun j =>
  match j with
  | .number (.natural n) => some (.index n)
  | .text s => some (.name s)
  | .array _ => (list number j).map .vector
  | _ => none

/-- The kind of a distribution with what is said about it. -/
def kindAndRest : Json → Option (String × Json)
  | .array (kind :: rest) => (text kind).map fun k => (k, .array rest)
  | .object ms => (field "type" text ms).map fun k => (k, .object ms)
  | _ => none

/-- A distribution, by its kind. -/
def distribution : Decoder Distribution := whole fun j => do
  match ← kindAndRest j with
  | ("linear", rest) => do
    let ms ← fields ["axis", "start", "step"] rest
    let axis ← optional ["axis"] axis ms
    let start ← optional ["start"] source ms
    let step ← optional ["step"] source ms
    pure (.linear axis start step)
  | ("grid", rest) => do
    let ms ← fields ["positions"] rest
    let positions ← defaulted ["positions"] (list (list source)) [] ms
    pure (.grid positions)
  | ("radial", rest) => do
    let ms ← fields ["radius", "startAngle", "y"] rest
    let radius ← optional ["radius"] source ms
    let start ← optional ["startAngle", "start_angle"] source ms
    let height ← optional ["y"] source ms
    pure (.radial radius start height)
  | _ => pure .unknown

/-! ### Templates -/

/-- A template without its nodes. -/
def templateHeader (ms : List (String × Json)) : Option TemplateHeader := do
  let id ← field "id" text ms
  let generator ← optional ["generator"] text ms
  let transform ← placementSpec ms
  let parameters ← defaulted ["parameters"] (map parameter) ∅ ms
  let expressions ← defaulted ["expressions"] (map source) ∅ ms
  let constraints ← defaulted ["constraints"] (map (map constraintRule)) ∅ ms
  pure ⟨id, generator, transform, parameters, expressions, constraints⟩

/-- One piece of geometry. -/
def geometryNode (ms : List (String × Json)) : Option GeometryNode := do
  let kind ← field "type" text ms
  let id ← optional ["id"] text ms
  let name ← optional ["name"] text ms
  let dimensions ← defaulted ["dimensions"] (list source) [] ms
  let transform ← placementSpec ms
  let material ← optional ["material"] text ms
  pure ⟨GeometryKind.ofWord kind, id, name, dimensions, transform, material⟩

/-- A group. -/
def groupNode (node : Decoder BuildNode) (ms : List (String × Json)) : Option BuildNode := do
  let id ← optional ["id"] text ms
  let name ← optional ["name"] text ms
  let transform ← placementSpec ms
  let children ← defaulted ["children"] (list node) [] ms
  pure (.group ⟨id, name, transform⟩ children)

/-- A repetition. -/
def repeatNode (node : Decoder BuildNode) (ms : List (String × Json)) : Option BuildNode := do
  let id ← optional ["id"] text ms
  let count ← defaulted ["count"] source (.number 0.0) ms
  let distribution ← optional ["distribution"] distribution ms
  let bindings ← defaulted ["instance_parameters"] (map source) ∅ ms
  let body ← defaulted ["template", "children"] (list node) [] ms
  pure (.repetition ⟨id, count, distribution, bindings⟩ body)

/-- A template inside a template. -/
def nestedTemplate (node : Decoder BuildNode) (ms : List (String × Json)) : Option BuildNode := do
  let header ← templateHeader ms
  let nodes ← defaulted ["template"] (list node) [] ms
  pure (.template header nodes)

/-- A node in which nodes nest at most as deep as the first argument says. The field `type` tells the
kind; words that are not known mean geometry. -/
def nodeWithin : Nat → Decoder BuildNode
  | 0, _ => none
  | depth + 1, j => do
    let ms ← members j
    match ← field "type" text ms with
    | "group" => groupNode (nodeWithin depth) ms
    | "repeat" => repeatNode (nodeWithin depth) ms
    | "parametric_template" => nestedTemplate (nodeWithin depth) ms
    | _ => (geometryNode ms).map .geometry

end Decoder

/-! ### Height of trees -/

namespace Json

mutual

/-- How deep arrays and objects nest. -/
def height : Json → Nat
  | .array items => heightAll items + 1
  | .object members => heightMembers members + 1
  | .null | .boolean _ | .number _ | .text _ | .unreadable => 0

/-- The largest height of several trees. -/
def heightAll : List Json → Nat
  | [] => 0
  | item :: rest => max (height item) (heightAll rest)

/-- The largest height of the values of members. -/
def heightMembers : List (String × Json) → Nat
  | [] => 0
  | (_, value) :: rest => max (height value) (heightMembers rest)

end

end Json

namespace Decoder

/-- A node of a template. Inside it, the last of several equal names counts. -/
def buildNode : Decoder BuildNode := whole fun j =>
  let j := j.normalize
  nodeWithin (j.height + 1) j

/-- The fields of a template in which parts may be passed over. -/
def templateFields : List String :=
  ["id", "generator", "parameters", "expressions", "constraints", "template"]

/-- A template that is not inside a template. Its other fields count as a whole. -/
def template : Decoder Template := fun j => do
  let ms ← members j
  let others := ms.filter fun m => !templateFields.contains m.1
  let _ ← tree (.object others)
  let header ← templateHeader ms
  let nodes ← defaulted ["template"] (list buildNode) [] ms
  pure ⟨header, nodes⟩

/-! ### Documents -/

/-- A colour: a whole number of 32 bits, or a text. -/
def colorSpec : Decoder ColorSpec := fun j =>
  match j with
  | .number (.natural n) => if n < 0x100000000 then some (.packed n) else none
  | .text s => some (.text s)
  | _ => none

/-- A definition of a material. -/
def materialDefinition : Decoder MaterialDefinition := fun j => do
  let ms ← fields ["type", "color", "roughness", "metalness", "opacity"] j
  let kind ← optional ["type"] text ms
  let color ← optional ["color"] colorSpec ms
  let roughness ← optional ["roughness"] number ms
  let metalness ← optional ["metalness"] number ms
  let opacity ← optional ["opacity"] number ms
  pure ⟨kind, color, roughness, metalness, opacity⟩

/-- A scene document. -/
def sceneDocument : Decoder SceneDocument := fun j => do
  let ms ← fields ["version", "type", "metadata", "children", "materials", "ui_controls"] j
  let version ← defaulted ["version"] text "" ms
  let kind ← optional ["type"] text ms
  let metadata ← optional ["metadata"] tree ms
  let templates ← defaulted ["children", "templates"] (list template) [] ms
  let materials ← defaulted ["materials"] (map materialDefinition) ∅ ms
  let controls ← optional ["ui_controls"] tree ms
  pure ⟨version, kind, metadata, templates, materials, controls⟩

end Decoder

namespace SceneDocument

/-- The scene document of a text. -/
def parse (source : String) : Except SchemaError SceneDocument :=
  match (Json.parse? source).bind Decoder.sceneDocument with
  | some d => .ok d
  | none => .error .malformed

/-- Refuses a document of another version than the expected one, where versions are strict. -/
def checkVersion (expected : String) (strict : Bool) (d : SceneDocument) :
    Except SchemaError SceneDocument :=
  if strict ∧ d.version ≠ expected then .error (.unsupportedVersion d.version expected)
  else .ok d

/-- The scene document of a text, with its version checked. -/
def parseVersion (expected : String) (strict : Bool) (source : String) :
    Except SchemaError SceneDocument :=
  (parse source).bind (checkVersion expected strict)

end SceneDocument

end ParametricScene
