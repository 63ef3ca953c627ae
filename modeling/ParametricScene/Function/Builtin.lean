import ParametricScene.Arithmetic
import ParametricScene.Function.Registry

/-!
# The standard functions

The functions every evaluator starts with, and the two named constants. Arguments are taken by their
numeric view; a wrong number of arguments is an error that names the function.

## Main definitions

* `constant?` — the named constants
* `Registry.builtin` — the standard functions
* `HostFunction` — further functions that a host may register
-/

namespace ParametricScene

/-- The named constants, which come before bindings of the same name. -/
def constant? (name : String) : Option Float :=
  if name = "pi" then some Double.pi
  else if name = "e" then some Double.euler
  else none

namespace Function

/-- A function of one number. -/
def unary (name : String) (f : Float → Float) : Function :=
  .pure fun
    | [x] => .ok (.number (f x.toNumber))
    | arguments => .error (.arity name "1" arguments.length)

/-- A function of two numbers. -/
def binary (name : String) (f : Float → Float → Float) : Function :=
  .pure fun
    | [x, y] => .ok (.number (f x.toNumber y.toNumber))
    | arguments => .error (.arity name "2" arguments.length)

/-- A function of three numbers. -/
def ternary (name : String) (f : Float → Float → Float → Value) : Function :=
  .pure fun
    | [x, y, z] => .ok (f x.toNumber y.toNumber z.toNumber)
    | arguments => .error (.arity name "3" arguments.length)

/-- A number folded over any number of arguments. -/
def folded (start : Float) (f : Float → Float → Float) : Function :=
  .pure fun arguments => .ok (.number (arguments.foldl (fun acc v => f acc v.toNumber) start))

/-- The item of a list at an index that wraps around; a value that is no list stands for itself, and
the empty list has zero everywhere. -/
def nth : List Value → Except EvalError Value
  | [.list items, index] => .ok (items.getD (wrapIndex index.toNumber items.length) Value.zero)
  | [other, _] => .ok other
  | arguments => .error (.arity "nth" "2" arguments.length)

/-- The argument at the index that the first argument gives, counting from the second argument and
wrapping around. -/
def alternating : List Value → Except EvalError Value
  | index :: first :: rest =>
    let values := first :: rest
    .ok (values.getD (wrapIndex index.toNumber values.length) Value.zero)
  | arguments => .error (.arity "alternating" "at least 2" arguments.length)

end Function

namespace Registry

/-- The standard functions. -/
def builtin : Registry :=
  [("sin", Function.unary "sin" Float.sin),
    ("cos", Function.unary "cos" Float.cos),
    ("tan", Function.unary "tan" Float.tan),
    ("asin", Function.unary "asin" Float.asin),
    ("acos", Function.unary "acos" Float.acos),
    ("atan", Function.unary "atan" Float.atan),
    ("abs", Function.unary "abs" Float.abs),
    ("sqrt", Function.unary "sqrt" Float.sqrt),
    ("floor", Function.unary "floor" Double.floor),
    ("ceil", Function.unary "ceil" Double.ceiling),
    ("round", Function.unary "round" Double.roundHalfUp),
    ("pow", Function.binary "pow" Float.pow),
    ("atan2", Function.binary "atan2" Float.atan2),
    ("mod", Function.binary "mod" Double.positiveMod),
    ("min", Function.folded (1.0 / 0.0) Double.smaller),
    ("max", Function.folded (-1.0 / 0.0) Double.larger),
    ("clamp", Function.ternary "clamp" fun v low high => .number (Double.clamp v low high)),
    ("lerp", Function.ternary "lerp" fun a b t => .number (Double.lerp a b t)),
    ("hsv_to_hex", Function.ternary "hsv_to_hex" fun h s v => .text (hsvToHex h s v)),
    ("alternating", .pure Function.alternating),
    ("nth", .pure Function.nth)].foldl (fun r f => r.register f.1 f.2) empty

end Registry

/-- Functions that a host offers besides the standard ones. -/
inductive HostFunction where
  /-- The sum of the arguments' numeric views. -/
  | sum
  /-- The number of arguments. -/
  | count
  /-- The first argument, or zero. -/
  | first
  /-- Always an error. -/
  | fail
  /-- The number of calls so far, this one included. -/
  | tick
deriving DecidableEq, Repr

/-- The host function of a word. -/
def HostFunction.ofWord? (word : String) : Option HostFunction :=
  match word with
  | "sum" => some .sum
  | "count" => some .count
  | "first" => some .first
  | "fail" => some .fail
  | "tick" => some .tick
  | _ => none

/-- What a host function does. -/
def HostFunction.toFunction : HostFunction → Function
  | .sum => Function.folded 0.0 (· + ·)
  | .count => .pure fun arguments => .ok (.number (Float.ofNat arguments.length))
  | .first => .pure fun arguments => .ok (arguments.headD Value.zero)
  | .fail => .pure fun _ => .error (.type "boom")
  | .tick => .counted 0 fun calls _ => .ok (.number (Float.ofNat (calls + 1)))

end ParametricScene
