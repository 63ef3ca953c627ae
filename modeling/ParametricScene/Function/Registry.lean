import Std.Data.HashMap
import ParametricScene.EvalError
import ParametricScene.Value

/-!
# Functions of formulas

The functions a formula may call, by name. A function receives the values of its arguments. Most are
functions in the strict sense; a host may also register one that sees how often it was called before,
so calling is an action on the registry.

## Main definitions

* `Function` — what a name may be bound to
* `Registry` — functions by name
* `Registry.call` — calls a function
-/

namespace ParametricScene

/-- A function of argument values. -/
inductive Function where
  /-- Answers depend on the arguments only. -/
  | pure (apply : List Value → Except EvalError Value)
  /-- Answers depend also on the number of earlier calls. -/
  | counted (calls : Nat) (apply : Nat → List Value → Except EvalError Value)

/-- Functions by name. -/
structure Registry where
  functions : Std.HashMap String Function

namespace Registry

/-- No functions. -/
def empty : Registry := ⟨∅⟩

/-- The function of a name. -/
def get? (r : Registry) (name : String) : Option Function := r.functions[name]?

/-- Binds a name, in place of what it was bound to before. -/
def register (r : Registry) (name : String) (f : Function) : Registry :=
  ⟨r.functions.insert name f⟩

/-- Every function of the registry depends on its arguments only. -/
def IsPure (r : Registry) : Prop := ∀ name f, r.get? name = some f → ∃ apply, f = .pure apply

/-- Calls the function of a name, and counts the call where calls are counted. -/
def call (name : String) (arguments : List Value) (r : Registry) :
    Except EvalError Value × Registry :=
  match r.get? name with
  | none => (.error (.unknownFunction name), r)
  | some (.pure apply) => (apply arguments, r)
  | some (.counted calls apply) =>
    (apply calls arguments, r.register name (.counted (calls + 1) apply))

end Registry

end ParametricScene
