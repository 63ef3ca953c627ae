import ParametricScene.OrderedMap
import ParametricScene.Source
import ParametricScene.Text.Quoted
import ParametricScene.Value

/-!
# Parameters

A parameter of a template is a bare source, or a definition: a value with a kind, bounds and a list of
options. An edit offers a value. A definition checks it against its kind, rounds and clamps numbers,
and stores the result; a bare parameter becomes a source whose value is the one offered.

## Main definitions

* `ParameterKind`, `ParameterDefinition`, `Parameter` — as a document gives them
* `Parameter.literal?` — the value of a parameter that is no formula
* `Parameter.set` — an edit
* `EditError` — why an edit is refused
-/

namespace ParametricScene

/-- What values a parameter takes. -/
inductive ParameterKind where
  | number
  | integer
  /-- One of a list of options. -/
  | choice
  | boolean
  /-- Any value. -/
  | other
deriving DecidableEq, Repr

/-- The kind of a word, in either case. Words that are not known mean any value. -/
def ParameterKind.ofWord (word : String) : ParameterKind :=
  match String.ofList (word.toList.map Char.toLower) with
  | "number" | "float" => .number
  | "integer" | "int" => .integer
  | "enum" => .choice
  | "boolean" | "bool" => .boolean
  | _ => .other

/-- The word of a kind. -/
def ParameterKind.word : ParameterKind → String
  | .number => "number"
  | .integer => "integer"
  | .choice => "enum"
  | .boolean => "boolean"
  | .other => "other"

/-- A value with what is said about it. -/
structure ParameterDefinition where
  value : Value
  kind : ParameterKind
  min : Option Float
  max : Option Float
  step : Option Float
  options : List String
  unit : Option String
  label : Option String
  group : Option String

/-- A definition, or a bare source. -/
inductive Parameter where
  | defined (definition : ParameterDefinition)
  | bare (source : Source)

/-- Why an edit of a parameter is refused. -/
inductive EditError where
  | notANumber (given : String)
  | notFinite
  | notAnOptionName (given : String)
  | notAnOption (given : String) (options : List String)
  | notABoolean (given : String)
deriving DecidableEq, Repr

/-- The reason in words. -/
def EditError.reason : EditError → String
  | notANumber given => "expected a number, got " ++ given
  | notFinite => "value is not finite"
  | notAnOptionName given => "expected an option name, got " ++ given
  | notAnOption given options =>
    "'" ++ given ++ "' is not one of [" ++ String.intercalate ", " options ++ "]"
  | notABoolean given => "expected a boolean, got " ++ given

namespace ParameterDefinition

/-- A number held inside the bounds; the upper bound comes last. -/
def clampNumber (d : ParameterDefinition) (n : Float) : Float :=
  let raised := match d.min with
    | some low => Double.larger n low
    | none => n
  match d.max with
  | some high => Double.smaller raised high
  | none => raised

/-- The value that is stored when `v` is offered, or why none is. -/
def accept (d : ParameterDefinition) (v : Value) : Except EditError Value :=
  match d.kind, v with
  | .number, .number n =>
    if n.isFinite then .ok (.number (d.clampNumber n)) else .error .notFinite
  | .integer, .number n =>
    if n.isFinite then .ok (.number (d.clampNumber (Double.roundHalfAway n)))
    else .error .notFinite
  | .number, v | .integer, v => .error (.notANumber v.typeName)
  | .choice, .text s =>
    if d.options.isEmpty || d.options.contains s then .ok (.text s)
    else .error (.notAnOption s d.options)
  | .choice, v => .error (.notAnOptionName v.typeName)
  | .boolean, .boolean b => .ok (.boolean b)
  | .boolean, v => .error (.notABoolean v.typeName)
  | .other, v => .ok v

end ParameterDefinition

namespace Parameter

/-- The source whose value is `v`. Texts and lists become a quoted text. -/
def sourceOf : Value → Source
  | .number n => .number n
  | .boolean b => .boolean b
  | v => .formula (quoted v.display)

/-- The value of a parameter that is no formula. -/
def literal? : Parameter → Option Value
  | .defined d => some d.value
  | .bare (.number n) => some (.number n)
  | .bare (.boolean b) => some (.boolean b)
  | .bare (.formula _) => none

/-- Offers a value: the parameter afterwards and the value stored, or why the edit is refused. -/
def set (p : Parameter) (v : Value) : Except EditError (Parameter × Value) :=
  match p with
  | .bare _ => .ok (.bare (sourceOf v), v)
  | .defined d =>
    match d.accept v with
    | .ok stored => .ok (.defined { d with value := stored }, stored)
    | .error e => .error e

end Parameter

end ParametricScene
