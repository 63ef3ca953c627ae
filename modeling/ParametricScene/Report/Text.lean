import ParametricScene.Decimal.Fixed
import ParametricScene.Scene.Basic

/-!
# Reports for readers

What commands report in lines for a reader.

## Main definitions

* `durationText` — a span of time
* `violationLines` — the violated rules of a template
* `Scene.reportLines` — what a scene holds
-/

namespace ParametricScene

/-- A span of time in its natural unit. Parts of a microsecond do not count. -/
def durationText (nanoseconds : Nat) : String :=
  let micros := nanoseconds / 1000
  if micros < 1000 then toString micros ++ "µs"
  else if micros < 1000000 then fixedPlaces 2 (Float.ofNat micros / 1000.0) ++ "ms"
  else fixedPlaces 2 (Float.ofNat micros / 1000000.0) ++ "s"

/-- A line across the page. -/
def ruleLine : String := String.ofList (List.replicate 80 '━')

/-- The line for a violated rule. -/
def Violation.line (v : Violation) : String :=
  "  " ++ v.severity.name ++ " " ++ v.category ++ "." ++ v.rule ++ ": " ++ v.message

/-- The lines for the rules of the template at a path. -/
def violationLines (path : String) (vs : List Violation) : List String :=
  if vs.isEmpty then ["✅ " ++ path ++ " all constraints hold"]
  else ["", "Constraints: " ++ path] ++ vs.map Violation.line

/-- The lines of a warning. -/
def warningLines (message : String) : List String := ["", "⚠️  Warning: " ++ message]

/-- The line for something that went well. -/
def successLine (message : String) : String := "✅ " ++ message

/-- The path lies below another. -/
def isBelow (path below : String) : Bool := (path.toList ++ ['.']).isPrefixOf below.toList

namespace Scene

variable {G M : Type}

/-- The line for a template, with the number of leaves below its path. -/
def templateLine (s : Scene G M) (path : String) : String :=
  let count := (s.leaves.keys.filter (isBelow path)).length
  "  ▸ " ++ path ++ " (" ++ toString count ++ " leaves)"

/-- The line for the extent of a scene, if it has one. -/
def extentLines [GeometryFactory G] (s : Scene G M) : List String :=
  let bounds := s.bounds
  if bounds.isEmpty then []
  else ["  Extent: " ++ String.intercalate " x " (bounds.size.toList.map (fixedPlaces 3))]

/-- The line for the memory of the evaluator. -/
def cacheLine (s : Scene G M) : String :=
  let stats := s.evaluator.stats
  "  Cache: " ++ toString stats.parsedFormulas ++ " formulas, " ++
    fixedPlaces 1 stats.hitRate.toFloat ++ "% hit rate"

/-- The lines on a scene built from a file in a span of time. -/
def reportLines [GeometryFactory G] (s : Scene G M) (file : String) (nanoseconds : Nat) :
    List String :=
  ["", ruleLine, "Built: " ++ file, ruleLine] ++ s.templates.keys.map s.templateLine ++
    ["  Objects: " ++ toString s.objectCount, "  Leaves: " ++ toString s.leafCount] ++
    s.extentLines ++ [s.cacheLine, "  Time: " ++ durationText nanoseconds] ++
    s.allViolations.flatMap (fun e => violationLines e.1 e.2) ++ [ruleLine]

end Scene

end ParametricScene
