/-!
# Severities

How much a violated constraint matters.
-/

namespace ParametricScene

/-- How much a violated constraint matters. -/
inductive Severity where
  | info
  | warning
  | error
deriving DecidableEq, Repr

namespace Severity

/-- The severity of a word, in either case. Words that are not known mean a warning. -/
def ofWord (word : String) : Severity :=
  match String.ofList (word.toList.map Char.toLower) with
  | "info" | "hint" | "notice" => info
  | "error" | "critical" | "fatal" => error
  | _ => warning

/-- The severity in words. -/
def name : Severity → String
  | info => "info"
  | warning => "warning"
  | error => "error"

/-- The place of a severity, the mildest first. -/
def rank : Severity → Nat
  | info => 0
  | warning => 1
  | error => 2

/-- The graver of two severities. -/
def max (a b : Severity) : Severity := if a.rank ≤ b.rank then b else a

end Severity

end ParametricScene
