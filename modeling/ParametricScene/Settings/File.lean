import ParametricScene.Document.Decoder
import ParametricScene.Settings.Basic
import ParametricScene.Toml.Reader

/-!
# Settings from files and from the environment

A settings file may leave settings out, which then have their default, and may hold others, which do
not count. Variables of the environment come last; one with a text that is no value of its setting
changes nothing.

## Main definitions

* `Settings.parse?`, `Settings.render?` — settings as a file, read and written
* `Settings.withEnvironment` — settings after the environment
-/

namespace ParametricScene

namespace Decoder

/-- A boolean. -/
def boolean : Decoder Bool
  | .boolean b => some b
  | _ => none

/-- Settings. -/
def settings : Decoder Settings := fun j => do
  let ms ← members j
  let d := Settings.default
  let memoize ← defaulted ["memoize"] boolean d.memoize ms
  let repeatCap ← defaulted ["max_repeat_count"] natural d.repeatCap ms
  let expectedVersion ← defaulted ["expected_version"] text d.expectedVersion ms
  let strictVersion ← defaulted ["strict_version"] boolean d.strictVersion ms
  let fallback ← defaulted ["default_material"] materialDefinition d.fallbackMaterial ms
  pure ⟨memoize, repeatCap, expectedVersion, strictVersion, fallback⟩

end Decoder

namespace Settings

/-- The settings of a file. -/
def parse? (text : String) : Option Settings := (Toml.parse? text).bind Decoder.settings

/-! ### Writing -/

/-- A truth value as it is written. -/
def booleanText (b : Bool) : String := if b then "true" else "false"

/-- A line that gives a name a value. -/
def line (name value : String) : String := name ++ " = " ++ value ++ "\n"

/-- A line for what is given, nothing for what is not. -/
def optionalLine {α : Type} (name : String) (text : α → String) : Option α → String
  | some a => line name (text a)
  | none => ""

/-- A colour as it is written. -/
def colorText : ColorSpec → String
  | .packed n => toString n
  | .text s => Toml.quote s

/-- A number as it is written; NaN has no sign. -/
def numberText (x : Float) : String := NumberFormat.setting.render x

/-- The lines of a material. -/
def materialText (d : MaterialDefinition) : String :=
  optionalLine "type" Toml.quote d.kind ++ optionalLine "color" colorText d.color ++
    optionalLine "roughness" numberText d.roughness ++
    optionalLine "metalness" numberText d.metalness ++ optionalLine "opacity" numberText d.opacity

/-- The settings as a file. Whole numbers of files end below `2 ^ 63`. -/
def render? (s : Settings) : Option String :=
  if s.repeatCap < JsonNumber.signedLimit then
    some (line "memoize" (booleanText s.memoize) ++
      line "max_repeat_count" (toString s.repeatCap) ++
      line "expected_version" (Toml.quote s.expectedVersion) ++
      line "strict_version" (booleanText s.strictVersion) ++
      "\n[default_material]\n" ++ materialText s.fallbackMaterial)
  else none

/-! ### The environment -/

/-- A truth value as the environment gives it. -/
def readBoolean? (text : String) : Option Bool :=
  if text = "true" then some true else if text = "false" then some false else none

/-- A natural number below `2 ^ 64`, with an optional plus. -/
def readCount? (text : String) : Option Nat :=
  let digits := match text.toList with
    | '+' :: rest => rest
    | cs => cs
  let n := digitsValue digits
  if ¬ digits.isEmpty ∧ digits.all isDigit ∧ n < JsonNumber.wordLimit then some n else none

/-- The settings after the environment, which is given by its variables. -/
def withEnvironment (lookup : String → Option String) (s : Settings) : Settings where
  memoize := ((lookup "PARAMSCENE_MEMOIZE").bind readBoolean?).getD s.memoize
  repeatCap := ((lookup "PARAMSCENE_MAX_REPEAT").bind readCount?).getD s.repeatCap
  expectedVersion := s.expectedVersion
  strictVersion := ((lookup "PARAMSCENE_STRICT_VERSION").bind readBoolean?).getD s.strictVersion
  fallbackMaterial := s.fallbackMaterial

end Settings

end ParametricScene
