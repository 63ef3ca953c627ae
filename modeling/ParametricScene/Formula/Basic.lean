/-!
# Formulas

The tree of a formula. Two spellings of the choice between two values exist, `c ? a : b` and
`if(c, a, b)`; both become a `conditional` node, the second by the rewriting in
`ParametricScene.Formula.Lowering`.

## Main definitions

* `Formula` — the tree
* `Formula.conditionalCount` — the number of conditional nodes
* `Formula.Mentions` — the names a formula reads from its context
-/

namespace ParametricScene

/-- Operators in front of one operand. -/
inductive UnaryOp where
  | not | negate | plus
deriving DecidableEq, Repr

/-- Operators between two operands that are both evaluated. -/
inductive BinaryOp where
  | add | subtract | multiply | divide | remainder
  | equal | unequal | less | lessEqual | greater | greaterEqual
deriving DecidableEq, Repr

/-- Operators whose second operand is evaluated only if the first does not decide. -/
inductive LogicalOp where
  | and | or
deriving DecidableEq, Repr

/-- The tree of a formula. -/
inductive Formula where
  | number (x : Float)
  | boolean (b : Bool)
  | text (s : String)
  /-- A name behind a dollar sign: its binding, or zero. -/
  | reference (name : String)
  /-- A bare name: a constant, or a number bound to it. -/
  | identifier (name : String)
  | list (items : List Formula)
  | unary (op : UnaryOp) (operand : Formula)
  | binary (op : BinaryOp) (left right : Formula)
  | logical (op : LogicalOp) (left right : Formula)
  | conditional (condition yes no : Formula)
  | call (function : String) (arguments : List Formula)
deriving Inhabited

namespace Formula

mutual

/-- The number of conditional nodes. -/
def conditionalCount : Formula → Nat
  | .number _ | .boolean _ | .text _ | .reference _ | .identifier _ => 0
  | .list items => conditionalCountAll items
  | .unary _ operand => conditionalCount operand
  | .binary _ left right => conditionalCount left + conditionalCount right
  | .logical _ left right => conditionalCount left + conditionalCount right
  | .conditional condition yes no =>
    1 + conditionalCount condition + conditionalCount yes + conditionalCount no
  | .call _ arguments => conditionalCountAll arguments

/-- The number of conditional nodes in several formulas. -/
def conditionalCountAll : List Formula → Nat
  | [] => 0
  | item :: rest => conditionalCount item + conditionalCountAll rest

end

mutual

/-- The formula reads the name from its context, as a variable or as a bare name. -/
def Mentions (name : String) : Formula → Prop
  | .number _ | .boolean _ | .text _ => False
  | .reference n | .identifier n => n = name
  | .list items => MentionsAny name items
  | .unary _ operand => Mentions name operand
  | .binary _ left right => Mentions name left ∨ Mentions name right
  | .logical _ left right => Mentions name left ∨ Mentions name right
  | .conditional condition yes no =>
    Mentions name condition ∨ Mentions name yes ∨ Mentions name no
  | .call _ arguments => MentionsAny name arguments

/-- Some formula of the list reads the name. -/
def MentionsAny (name : String) : List Formula → Prop
  | [] => False
  | item :: rest => Mentions name item ∨ MentionsAny name rest

end

end Formula

end ParametricScene
