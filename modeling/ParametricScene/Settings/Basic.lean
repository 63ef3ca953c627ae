import ParametricScene.Evaluator
import ParametricScene.Material.Definition

/-!
# Settings

What a session may be told besides its document.

## Main definitions

* `Settings` — the settings
* `Settings.default` — the settings where nothing is said
* `Settings.evaluator` — a new evaluator that follows them
-/

namespace ParametricScene

/-- What a session may be told besides its document. -/
structure Settings where
  /-- Results of formulas are remembered. -/
  memoize : Bool
  /-- The largest number of instances of one repetition. -/
  repeatCap : Nat
  /-- The version a document should have. -/
  expectedVersion : String
  /-- Documents of other versions are refused. -/
  strictVersion : Bool
  /-- The material that stands in for undefined ones. -/
  fallbackMaterial : MaterialDefinition

namespace Settings

/-- The version of documents this library is made for. -/
def currentVersion : String := "3.1"

/-- The settings where nothing is said. -/
def default : Settings where
  memoize := true
  repeatCap := 10000
  expectedVersion := currentVersion
  strictVersion := false
  fallbackMaterial := ⟨some "standard", some (.text "#ffffff"), some 0.5, some 0.0, none⟩

instance : Inhabited Settings := ⟨default⟩

/-- A new evaluator with the standard functions. -/
def evaluator (s : Settings) : Evaluator := Evaluator.new.setMemoize s.memoize

end Settings

end ParametricScene
