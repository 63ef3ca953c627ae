import ParametricScene.Text.Quoted

/-!
# Why a formula has no value

The causes, and the message of each. Formulas inside documents never fail openly: they count as zero
there. The causes are seen by callers that ask for them, such as the constraint checks.
-/

namespace ParametricScene

/-- The causes for which a formula has no value. -/
inductive EvalError where
  /-- The text holds a character outside the alphabet of formulas. -/
  | unsafeCharacters (text : String)
  /-- The text is no formula, for the reason that its reader gives. -/
  | malformed {reason : String}
  | unknownFunction (name : String)
  /-- A bare name that is neither a constant nor bound to a number. -/
  | unknownIdentifier (name : String)
  /-- A function was given the wrong number of arguments. -/
  | arity (name : String) (expected : String) (given : Nat)
  /-- An operation does not apply to the kind of its operands. -/
  | type (reason : String)
deriving DecidableEq, Repr, Inhabited

namespace EvalError

/-- The message of a cause. -/
def message : EvalError → String
  | unsafeCharacters text => "unsafe characters in expression: " ++ quoted text
  | @malformed reason => "syntax error: " ++ reason
  | unknownFunction name => "unknown function '" ++ name ++ "'"
  | unknownIdentifier name => "unknown identifier '" ++ name ++ "'"
  | arity name expected given =>
    name ++ "() expects " ++ expected ++ " argument(s), got " ++ toString given
  | type reason => "type error: " ++ reason

end EvalError

end ParametricScene
