import ParametricScene.Template.Expansion

/-!
# Constraints

The rules of a template are evaluated on its parameters alone, without its surroundings or its
expressions. A rule whose expression is false is violated; so is one whose expression fails, which is
always an error.

## Main definitions

* `Violation` — a rule that does not hold
* `Evaluator.violations` — the violated rules of a template
* `worstSeverity` — the gravest of several violations
-/

namespace ParametricScene

/-- A rule that does not hold. -/
structure Violation where
  rule : String
  category : String
  message : String
  severity : Severity
deriving DecidableEq, Repr

namespace Violation

/-- The violation counts as an error. -/
def isError (v : Violation) : Bool := v.severity == .error

/-- The violation in one line. -/
def text (v : Violation) : String :=
  "[" ++ v.severity.name ++ "] " ++ v.category ++ "." ++ v.rule ++ ": " ++ v.message

end Violation

/-- The violation of a rule whose expression has this answer, if it is one. -/
def ConstraintRule.violation? (r : ConstraintRule) (category name : String) (answer : Answer) :
    Option Violation :=
  match answer with
  | .ok v =>
    if v.isTruthy then none
    else some ⟨name, category, r.message.getD name, r.severity.getD .warning⟩
  | .error e => some ⟨name, category, e.message, .error⟩

namespace Evaluator

/-- The answer to the expression of a rule. -/
def ruleAnswer (r : ConstraintRule) (ctx : Context) : StateM Evaluator Answer :=
  match r.expression with
  | .formula text => tryEvaluate text ctx
  | source => do pure (.ok (← evaluate source ctx))

/-- The violated rules of one category. -/
def categoryViolations (category : String) (ctx : Context) :
    List (String × ConstraintRule) → StateM Evaluator (List Violation)
  | [] => pure []
  | (name, rule) :: rest => do
    let answer ← ruleAnswer rule ctx
    let others ← categoryViolations category ctx rest
    pure ((rule.violation? category name answer).toList ++ others)

/-- The violated rules of several categories. -/
def allViolations (ctx : Context) :
    List (String × OrderedMap ConstraintRule) → StateM Evaluator (List Violation)
  | [] => pure []
  | (category, rules) :: rest => do
    let here ← categoryViolations category ctx rules.entries
    let others ← allViolations ctx rest
    pure (here ++ others)

/-- The violated rules of a template, in the order of the document. Without rules nothing is
evaluated. -/
def violations (t : TemplateHeader) : StateM Evaluator (List Violation) :=
  if t.constraints.entries.isEmpty then pure []
  else do
    let ctx ← bindParameters t.parameters.entries OrderedMap.empty
    allViolations ctx t.constraints.entries

end Evaluator

/-- The gravest of several violations. -/
def worstSeverity (vs : List Violation) : Option Severity :=
  vs.foldl (fun worst v => some ((worst.map (Severity.max · v.severity)).getD v.severity)) none

end ParametricScene
