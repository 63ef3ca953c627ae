import ParametricScene.Context
import ParametricScene.Formula.Basic
import ParametricScene.Function.Builtin

/-!
# The value of a formula

Operands are evaluated from left to right and an error ends the evaluation at once. A conditional and
the two logical operators evaluate only what they need; the logical operators answer one of their
operands as it is. Calling a function may count the call, so evaluation acts on the registry.

## Main definitions

* `BinaryOp.apply`, `UnaryOp.apply` — operators on values
* `Formula.evaluate` — the value of a formula in a context
-/

namespace ParametricScene

namespace Value

/-- Equality as formulas see it: texts and lists among themselves, numbers and booleans by their
numeric view, and unequal across these kinds. -/
def looseEqual : Value → Value → Bool
  | .text a, .text b => a == b
  | .list as, .list bs => sameAll as bs
  | a, b => a.isNumeric && b.isNumeric && a.toNumber == b.toNumber

end Value

/-- The four comparisons. -/
inductive Comparison where
  | less | lessEqual | greater | greaterEqual
deriving DecidableEq, Repr

namespace Comparison

/-- Numbers compared; nothing holds of a NaN. -/
def ofNumbers : Comparison → Float → Float → Bool
  | less, a, b => a < b
  | lessEqual, a, b => a ≤ b
  | greater, a, b => b < a
  | greaterEqual, a, b => b ≤ a

/-- Texts compared by code points. -/
def ofTexts : Comparison → String → String → Bool
  | less, a, b => a < b
  | lessEqual, a, b => a ≤ b
  | greater, a, b => b < a
  | greaterEqual, a, b => b ≤ a

/-- Two texts compare as texts, lists do not compare, and all else compares by numeric views. -/
def apply (c : Comparison) : Value → Value → Except EvalError Value
  | .text a, .text b => .ok (.boolean (c.ofTexts a b))
  | .list _, _ => .error (.type "cannot order lists")
  | _, .list _ => .error (.type "cannot order lists")
  | a, b => .ok (.boolean (c.ofNumbers a.toNumber b.toNumber))

end Comparison

/-- The sum of two values: texts joined where one of them is a text, else the sum of the numeric
views. -/
def Value.add : Value → Value → Value
  | .text a, b => .text (a ++ b.display)
  | a, .text b => .text (a.display ++ b)
  | a, b => .number (a.toNumber + b.toNumber)

/-- An operator applied to the values of its operands. -/
def BinaryOp.apply (op : BinaryOp) (a b : Value) : Except EvalError Value :=
  match op with
  | .add => .ok (a.add b)
  | .subtract => .ok (.number (a.toNumber - b.toNumber))
  | .multiply => .ok (.number (a.toNumber * b.toNumber))
  | .divide => .ok (.number (a.toNumber / b.toNumber))
  | .remainder => .ok (.number (Double.remainder a.toNumber b.toNumber))
  | .equal => .ok (.boolean (a.looseEqual b))
  | .unequal => .ok (.boolean !(a.looseEqual b))
  | .less => Comparison.less.apply a b
  | .lessEqual => Comparison.lessEqual.apply a b
  | .greater => Comparison.greater.apply a b
  | .greaterEqual => Comparison.greaterEqual.apply a b

/-- An operator applied to the value of its operand. -/
def UnaryOp.apply : UnaryOp → Value → Value
  | .not, v => .boolean !v.isTruthy
  | .negate, v => .number (-v.toNumber)
  | .plus, v => .number v.toNumber

/-- The first operand decides the logical operator: false for "and", true for "or". -/
def LogicalOp.decidedBy : LogicalOp → Value → Bool
  | .and, v => !v.isTruthy
  | .or, v => v.isTruthy

namespace Formula

/-- An evaluation: a value or an error, and the registry afterwards. -/
abbrev Evaluation (α : Type) : Type := ExceptT EvalError (StateM Registry) α

/-- The value of a bare name. -/
def identifierValue (ctx : Context) (name : String) : Except EvalError Value :=
  match constant? name, ctx.get? name with
  | some c, _ => .ok (.number c)
  | none, some (.number n) => .ok (.number n)
  | none, _ => .error (.unknownIdentifier name)

/-- An answer that does not touch the registry. -/
def answer (e : Except EvalError Value) : Evaluation Value := ExceptT.mk (pure e)

mutual

/-- The value of a formula in a context. -/
def evaluate (ctx : Context) : Formula → Evaluation Value
  | .number x => pure (.number x)
  | .boolean b => pure (.boolean b)
  | .text s => pure (.text s)
  | .reference name => pure ((ctx.get? name).getD Value.zero)
  | .identifier name => answer (identifierValue ctx name)
  | .list items => do
    let values ← evaluateAll ctx items
    pure (.list values)
  | .unary op operand => do
    let v ← evaluate ctx operand
    pure (op.apply v)
  | .binary op left right => do
    let a ← evaluate ctx left
    let b ← evaluate ctx right
    answer (op.apply a b)
  | .logical op left right => do
    let a ← evaluate ctx left
    if op.decidedBy a then pure a else evaluate ctx right
  | .conditional condition yes no => do
    let c ← evaluate ctx condition
    if c.isTruthy then evaluate ctx yes else evaluate ctx no
  | .call function arguments => do
    let values ← evaluateAll ctx arguments
    ExceptT.mk (Registry.call function values)

/-- The values of several formulas, from left to right. -/
def evaluateAll (ctx : Context) : List Formula → Evaluation (List Value)
  | [] => pure []
  | item :: rest => do
    let v ← evaluate ctx item
    let vs ← evaluateAll ctx rest
    pure (v :: vs)

end

end Formula

end ParametricScene
