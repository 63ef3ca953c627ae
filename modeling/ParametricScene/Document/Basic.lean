import ParametricScene.Json.Basic
import ParametricScene.Material.Definition
import ParametricScene.Template.Basic

/-!
# Scene documents

A scene document holds templates and materials, and two parts that this library passes on unread.

## Main definitions

* `SceneDocument` — the document
* `SchemaError` — why a document is refused or a scene cannot be edited
-/

namespace ParametricScene

/-- A scene document. -/
structure SceneDocument where
  version : String
  kind : Option String
  metadata : Option Json
  templates : List Template
  materials : OrderedMap MaterialDefinition
  controls : Option Json

/-- The first template with the given identifier. -/
def SceneDocument.template? (d : SceneDocument) (id : String) : Option Template :=
  d.templates.find? fun t => t.id == id

/-- Why a document is refused, or an edit of a scene. -/
inductive SchemaError where
  /-- The text is no document, or no scene document. -/
  | malformed
  | unsupportedVersion (found expected : String)
  | unknownTemplate (path : String)
  | unknownParameter (path name : String)
  | invalidParameterValue (name : String) (cause : EditError)
deriving DecidableEq, Repr

/-- The message of a cause. -/
def SchemaError.message : SchemaError → String
  | malformed => "invalid schema document"
  | unsupportedVersion found expected =>
    "unsupported schema version '" ++ found ++ "' (expected '" ++ expected ++ "')"
  | unknownTemplate path => "no parametric template registered at '" ++ path ++ "'"
  | unknownParameter path name => "template '" ++ path ++ "' has no parameter '" ++ name ++ "'"
  | invalidParameterValue name cause =>
    "invalid value for parameter '" ++ name ++ "': " ++ cause.reason

end ParametricScene
