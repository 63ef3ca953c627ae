import ParametricScene.Decimal.Format
import ParametricScene.Decimal.Reader
import ParametricScene.Text.Blank

/-!
# Values

What a formula evaluates to, and how a value of one kind is seen as another. Every value has a
numeric view, a truth value and a text; none of them fails.

## Main definitions

* `Value` — numbers, booleans, texts and lists of values
* `Value.toNumber`, `Value.toFinite` — the numeric views
* `Value.isTruthy`, `Value.isNumeric`, `Value.typeName` — kind and truth
* `Value.display` — the text of a value
* `Value.same` — equality inside lists, where a NaN differs from itself
-/

namespace ParametricScene

/-- A number, a boolean, a text or a list of values. -/
inductive Value where
  | number (n : Float)
  | boolean (b : Bool)
  | text (s : String)
  | list (items : List Value)
deriving Inhabited

namespace Value

/-- The number zero, which stands in for what is missing. -/
def zero : Value := .number 0.0

/-- The number a text stands for: blanks around it do not count, nothing but blanks is zero, and
what is no number is NaN. -/
def numberOfText (s : String) : Float :=
  let cs := trim s.toList
  if cs.isEmpty then 0.0 else (readNumber? cs).getD (0.0 / 0.0)

mutual

/-- The numeric view: booleans count as one and zero, texts as the number they spell, and a list of
one value as that value. -/
def toNumber : Value → Float
  | .number n => n
  | .boolean b => if b then 1.0 else 0.0
  | .text s => numberOfText s
  | .list items => soleNumber items

/-- The numeric view of a list: that of its value if it has exactly one. -/
def soleNumber : List Value → Float
  | [item] => toNumber item
  | _ => 0.0 / 0.0

end

/-- The numeric view, with zero for NaN and the infinities. -/
def toFinite (v : Value) : Float := Double.orZero v.toNumber

/-- Zero, NaN, false and the empty text are false; all else, every list included, is true. -/
def isTruthy : Value → Bool
  | .number n => n != 0.0 && !n.isNaN
  | .boolean b => b
  | .text s => !s.isEmpty
  | .list _ => true

/-- Numbers and booleans compare numerically. -/
def isNumeric : Value → Bool
  | .number _ | .boolean _ => true
  | .text _ | .list _ => false

/-- The text of a text value. -/
def asText? : Value → Option String
  | .text s => some s
  | _ => none

/-- The kind of a value, as messages name it. -/
def typeName : Value → String
  | .number _ => "number"
  | .boolean _ => "boolean"
  | .text _ => "string"
  | .list _ => "list"

/-- The text of a number: whole numbers below a thousand million million without a point or a sign
on zero, others in the plain format. -/
def displayNumber (n : Float) : String :=
  match Binary.ofFloat? n with
  | some b => if b.isWhole && decide (n.abs < 1e15) then toString b.toInt else NumberFormat.plain.render n
  | none => NumberFormat.plain.render n

mutual

/-- The text of a value; the values of a list are joined by commas, without brackets. -/
def display : Value → String
  | .number n => displayNumber n
  | .boolean b => if b then "true" else "false"
  | .text s => s
  | .list items => String.intercalate "," (displayAll items)

/-- The texts of several values. -/
def displayAll : List Value → List String
  | [] => []
  | item :: rest => display item :: displayAll rest

end

mutual

/-- The same kind with the same contents; numbers compare as numbers, so that zero equals its
negative and NaN equals nothing. -/
def same : Value → Value → Bool
  | .number a, .number b => a == b
  | .boolean a, .boolean b => a == b
  | .text a, .text b => a == b
  | .list as, .list bs => sameAll as bs
  | _, _ => false

/-- Lists of one length whose values are the same place by place. -/
def sameAll : List Value → List Value → Bool
  | [], [] => true
  | a :: as, b :: bs => same a b && sameAll as bs
  | _, _ => false

end

end Value

end ParametricScene
