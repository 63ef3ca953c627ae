import ParametricScene.EvalError
import ParametricScene.Formula.Lowering
import ParametricScene.Formula.Token

/-!
# Reading formulas

The grammar, loosest first: the choice `c ? a : b`, which groups to the right, then six levels of
operators that group to the left, then operators in front of an operand, then single operands.

The reader is built level by level from readers of the level below. Each takes the words that are
left and answers a tree and the words it did not use. What stands in brackets is a whole formula
again; that recursion is on a bound for the depth of brackets, which the number of words is.

## Main definitions

* `Formula.Reader` — readers of words
* `Formula.levels` — the operators of each level
* `Formula.expression` — the reader of whole formulas
* `Formula.parseUnlowered`, `Formula.parse` — the formula a text spells, before and after the
  rewriting of `if`
* `Formula.checkAlphabet` — the characters that may occur at all
-/

namespace ParametricScene

namespace Formula

/-- Answers a result and the words behind it. -/
abbrev Reader (α : Type) : Type := List Token → Option (α × List Token)

/-! ### Operators between operands -/

/-- How an operator joins its operands. -/
inductive Joint where
  | binary (op : BinaryOp)
  | logical (op : LogicalOp)
deriving DecidableEq, Repr

/-- The formula that joins two operands. -/
def Joint.apply : Joint → Formula → Formula → Formula
  | .binary op, l, r => .binary op l r
  | .logical op, l, r => .logical op l r

/-- The level of a mark, zero binding loosest, and the operator it stands for between operands. -/
def joint? : Mark → Option (Nat × Joint)
  | .or => some (0, .logical .or)
  | .and => some (1, .logical .and)
  | .equal => some (2, .binary .equal)
  | .unequal => some (2, .binary .unequal)
  | .less => some (3, .binary .less)
  | .lessEqual => some (3, .binary .lessEqual)
  | .greater => some (3, .binary .greater)
  | .greaterEqual => some (3, .binary .greaterEqual)
  | .plus => some (4, .binary .add)
  | .minus => some (4, .binary .subtract)
  | .times => some (5, .binary .multiply)
  | .divide => some (5, .binary .divide)
  | .modulo => some (5, .binary .remainder)
  | _ => none

/-- The number of levels of operators between operands. -/
def levelCount : Nat := 6

/-- The operator a word stands for at a level. -/
def jointAt? (level : Nat) : Token → Option Joint
  | .mark m => (joint? m).bind fun j => if j.1 = level then some j.2 else none
  | _ => none

/-- Further operands of a level, joined from the left to what was read so far. The first argument
bounds their number. -/
def chainRest (level : Nat) (operand : Reader Formula) : Nat → Formula → Reader Formula
  | 0, _, _ => none
  | _ + 1, left, [] => some (left, [])
  | fuel + 1, left, t :: ts =>
    match jointAt? level t with
    | none => some (left, t :: ts)
    | some j =>
      (operand ts).bind fun r => chainRest level operand fuel (j.apply left r.1) r.2

/-- One or more operands joined by the operators of a level. -/
def chain (level : Nat) (operand : Reader Formula) : Reader Formula := fun ts =>
  (operand ts).bind fun r => chainRest level operand (r.2.length + 1) r.1 r.2

/-- The levels from `level` on, above a reader for what binds tighter than all of them. -/
def chains (operand : Reader Formula) : Nat → Nat → Reader Formula
  | _, 0 => operand
  | level, count + 1 => chain level (chains operand (level + 1) count)

/-! ### Operators in front of an operand -/

/-- The operator a word stands for in front of an operand. -/
def unary? : Token → Option UnaryOp
  | .mark .bang => some .not
  | .mark .minus => some .negate
  | .mark .plus => some .plus
  | _ => none

/-- Any number of operators in front of an operand. -/
def unaries (operand : Reader Formula) : Reader Formula
  | [] => operand []
  | t :: ts =>
    match unary? t with
    | some op => (unaries operand ts).map fun r => (.unary op r.1, r.2)
    | none => operand (t :: ts)

/-! ### Single operands -/

/-- Further items behind the first, each after a comma, up to the closing mark. The first argument
bounds their number. -/
def itemsRest (item : Reader Formula) (close : Mark) : Nat → Reader (List Formula)
  | 0, _ => none
  | _ + 1, [] => none
  | fuel + 1, .mark m :: ts =>
    if m = close then some ([], ts)
    else if m = .comma then
      (item ts).bind fun r => (itemsRest item close fuel r.2).map fun s => (r.1 :: s.1, s.2)
    else none
  | _ + 1, _ :: _ => none

/-- One or more items between commas, up to the closing mark. -/
def itemsOne (item : Reader Formula) (close : Mark) : Reader (List Formula) := fun ts =>
  (item ts).bind fun r =>
    (itemsRest item close (r.2.length + 1) r.2).map fun s => (r.1 :: s.1, s.2)

/-- Items between commas up to the closing mark; there may be none. -/
def items (item : Reader Formula) (close : Mark) : Reader (List Formula)
  | .mark m :: ts => if m = close then some ([], ts) else itemsOne item close (.mark m :: ts)
  | ts => itemsOne item close ts

/-- A literal, a name, a call, a list, or a formula in parentheses. The words `true` and `false` are
never names. -/
def operand (inner : Reader Formula) : Reader Formula
  | .number x :: ts => some (.number x, ts)
  | .text s :: ts => some (.text s, ts)
  | .reference n :: ts => some (.reference n, ts)
  | .name n :: ts =>
    if n = "true" then some (.boolean true, ts)
    else if n = "false" then some (.boolean false, ts)
    else
      match ts with
      | .mark .openParen :: rest =>
        (items inner .closeParen rest).map fun r => (.call n r.1, r.2)
      | _ => some (.identifier n, ts)
  | .mark .openBracket :: ts =>
    (items inner .closeBracket ts).map fun r => (.list r.1, r.2)
  | .mark .openParen :: ts =>
    (inner ts).bind fun r =>
      match r.2 with
      | .mark .closeParen :: rest => some (r.1, rest)
      | _ => none
  | _ => none

/-! ### Whole formulas -/

/-- A condition, and the two branches if a question mark follows. -/
def choice (condition branch : Reader Formula) : Reader Formula := fun ts =>
  (condition ts).bind fun c =>
    match c.2 with
    | .mark .question :: rest =>
      (branch rest).bind fun y =>
        match y.2 with
        | .mark .colon :: rest => (branch rest).map fun n => (.conditional c.1 y.1 n.1, n.2)
        | _ => none
    | _ => some c

/-- A whole formula in which brackets and branches nest less deep than the bound. -/
def expression : Nat → Reader Formula
  | 0 => fun _ => none
  | depth + 1 =>
    choice (chains (unaries (operand (expression depth))) 0 levelCount) (expression depth)

/-- The formula that words spell, with calls of `if` as calls. -/
def ofTokens? (ts : List Token) : Option Formula :=
  match expression (ts.length + 1) ts with
  | some (f, []) => some f
  | _ => none

/-- What is said of a text that is no formula. The words are for people, and the definition is sealed:
whatever is proved of formulas holds for any words that are chosen by the text. -/
@[irreducible]
def diagnosis (text : String) : String := quoted text ++ " is no formula"

/-- The formula a text spells, with calls of `if` as calls. -/
def parseUnlowered (text : String) : Except EvalError Formula :=
  match (Token.readAll? text.toList).bind ofTokens? with
  | some f => .ok f
  | none => .error (@EvalError.malformed (diagnosis text))

/-- The formula a text spells. -/
def parse (text : String) : Except EvalError Formula := (parseUnlowered text).map lower

/-! ### The alphabet -/

/-- The characters other than letters, digits and blanks that may occur in a formula. -/
def alphabetMarks : List Char := "_+-*/%.()<>!=&|,'\"?:#$[]".toList

/-- A character that may occur in a formula. -/
def inAlphabet (c : Char) : Bool := c.isAlphanum || isBlank c || alphabetMarks.contains c

/-- Refuses a text with a character outside the alphabet, before it is read. -/
def checkAlphabet (text : String) : Except EvalError Unit :=
  if text.toList.all inAlphabet then .ok () else .error (.unsafeCharacters text)

/-- The formula of a text that keeps to the alphabet. -/
def compile (text : String) : Except EvalError Formula :=
  (checkAlphabet text).bind fun _ => parse text

end Formula

end ParametricScene
