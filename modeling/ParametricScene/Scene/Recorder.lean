import ParametricScene.Geometry.Factory
import ParametricScene.Material.Library

/-!
# Recorders

A factory and a keeper of materials that make nothing and write down what they are asked for. A host
uses them to see what a scene needs.

## Main definitions

* `GeometryRecorder` — hands out handles from one upward, except for kinds it rejects
* `MaterialRecorder` — hands out the number of requests as the handle
-/

namespace ParametricScene

/-- A request to a factory of geometry. -/
inductive GeometryRequest where
  | create (kind : GeometryKind) (dimensionCount : Nat)
  | release (handle : Nat)
deriving DecidableEq, Repr

/-- A request in words. -/
def GeometryRequest.text : GeometryRequest → String
  | .create kind count => "create " ++ kind.word ++ " " ++ toString count
  | .release handle => "release " ++ toString handle

/-- A factory that writes requests down. -/
structure GeometryRecorder where
  /-- The kinds it has no geometry for. -/
  rejected : List GeometryKind
  requests : Array GeometryRequest
  /-- The number of handles handed out. -/
  issued : Nat

namespace GeometryRecorder

/-- Nothing asked for yet. -/
def rejecting (rejected : List GeometryKind) : GeometryRecorder := ⟨rejected, #[], 0⟩

/-- Writes a request for geometry down, and hands out the next handle unless the kind is
rejected. -/
def create (kind : GeometryKind) (dimensions : List Float) (r : GeometryRecorder) :
    Option Nat × GeometryRecorder :=
  let requests := r.requests.push (.create kind dimensions.length)
  if r.rejected.contains kind then (none, { r with requests := requests })
  else (some (r.issued + 1), { r with requests := requests, issued := r.issued + 1 })

/-- Writes down that geometry was given back. -/
def release (handle : Nat) (r : GeometryRecorder) : GeometryRecorder :=
  { r with requests := r.requests.push (.release handle) }

instance : GeometryFactory GeometryRecorder := ⟨create, release, fun _ _ => none⟩

end GeometryRecorder

/-- A request to a keeper of materials. -/
inductive MaterialRequest where
  | acquire (name : String)
  | release (handle : Nat)
deriving DecidableEq, Repr

/-- A request in words. -/
def MaterialRequest.text : MaterialRequest → String
  | .acquire name => "use " ++ name
  | .release handle => "release " ++ toString handle

/-- A keeper of materials that writes requests down. -/
structure MaterialRecorder where
  requests : Array MaterialRequest

namespace MaterialRecorder

/-- Nothing asked for yet. -/
def empty : MaterialRecorder := ⟨#[]⟩

/-- Writes a request for a material down; its handle is the number of requests so far. -/
def acquire (name : String) (_definition : MaterialDefinition) (r : MaterialRecorder) :
    Nat × MaterialRecorder :=
  (r.requests.size + 1, ⟨r.requests.push (.acquire name)⟩)

/-- Writes down that a material was given back. -/
def release (handle : Nat) (r : MaterialRecorder) : MaterialRecorder :=
  ⟨r.requests.push (.release handle)⟩

instance : MaterialCache MaterialRecorder := ⟨acquire, release⟩

end MaterialRecorder

end ParametricScene
