import ParametricScene.OrderedMap
import ParametricScene.Text.Quoted
import ParametricScene.Value

/-!
# Contexts

The bindings a formula sees. A later binding of a name replaces the value and keeps the place, so a
scope inside another is the outer context with more bindings written to it.

The fingerprint of a context is a text that names its bindings sorted by name, each value with a
letter for its kind. It does not depend on the order of the bindings and serves as a key for results
that were computed before.

## Main definitions

* `Context` — names bound to values
* `Context.fingerprint` — the key text
-/

namespace ParametricScene

/-- Names bound to values. -/
abbrev Context : Type := OrderedMap Value

namespace Value

mutual

/-- The text of a value with a letter for its kind: numbers in the format that tells all numbers
apart, texts in quotes, and list items each followed by a comma. -/
def tagged : Value → String
  | .number n => "n" ++ NumberFormat.canonical.render n
  | .boolean b => if b then "btrue" else "bfalse"
  | .text s => "s" ++ quoted s
  | .list items => "[" ++ taggedAll items ++ "]"

/-- The texts of several values, each followed by a comma. -/
def taggedAll : List Value → String
  | [] => ""
  | item :: rest => tagged item ++ "," ++ taggedAll rest

end

end Value

namespace Context

/-- The order of names: by code points. -/
def nameLE (a b : String × Value) : Bool := decide (a.1 ≤ b.1)

/-- The text of one binding. -/
def entryText (e : String × Value) : String := e.1 ++ "=" ++ e.2.tagged ++ ";"

/-- The bindings sorted by name, as one text. -/
def fingerprint (ctx : Context) : String :=
  String.join ((ctx.entries.mergeSort nameLE).map entryText)

end Context

end ParametricScene
