import ParametricScene.Evaluation
import ParametricScene.Formula.Parser
import ParametricScene.Source

/-!
# Evaluators

An evaluator holds the functions and remembers its work. Formulas are read once and kept for good.
Results are kept by formula text and fingerprint of the context while memoizing is on; they are
dropped in bulk, when asked for, when a function is registered and when memoizing is turned off.
Errors are remembered like values.

## Main definitions

* `Evaluator` — functions, memory and counters
* `Evaluator.compute` — the answer to a formula text, without memory
* `Evaluator.tryEvaluate` — the answer, remembered
* `Evaluator.evaluate`, `evaluateNumber` — sources as values, where failing formulas are zero
* `CacheStats` — the counters as shown
-/

namespace ParametricScene

/-- A value, or why there is none. -/
abbrev Answer : Type := Except EvalError Value

/-- Functions, what was read and computed before, and how often that helped. -/
structure Evaluator where
  functions : Registry
  parsed : Std.HashMap String (Except EvalError Formula)
  results : Std.HashMap (String × String) Answer
  memoize : Bool
  /-- How many answers came from memory. This is a natural number, which does not start again at
  zero as a counter in a machine word does after `2 ^ 64` hits. -/
  hits : Nat
  /-- How many answers were looked for in memory and not found; again a natural number. -/
  misses : Nat

/-- The counters of an evaluator. -/
structure CacheStats where
  cachedResults : Nat
  parsedFormulas : Nat
  hits : Nat
  misses : Nat
deriving DecidableEq, Repr

/-- The share of hits in percent, in single precision; zero before the first evaluation. -/
def CacheStats.hitRate (s : CacheStats) : Float32 :=
  if s.hits + s.misses = 0 then 0.0
  else Float32.ofNat s.hits / Float32.ofNat (s.hits + s.misses) * 100.0

namespace Evaluator

/-- An evaluator that has done nothing yet. -/
def ofRegistry (functions : Registry) : Evaluator where
  functions := functions
  parsed := ∅
  results := ∅
  memoize := true
  hits := 0
  misses := 0

/-- A new evaluator with the standard functions. -/
def new : Evaluator := ofRegistry Registry.builtin

/-- Forgets all results; what was read stays. -/
def clearCache (ev : Evaluator) : Evaluator := { ev with results := ∅ }

/-- Turns the memory for results on or off; off also forgets them. -/
def setMemoize (on : Bool) (ev : Evaluator) : Evaluator :=
  { ev with memoize := on, results := if on then ev.results else ∅ }

/-- Adds a function and forgets all results. -/
def register (name : String) (f : Function) (ev : Evaluator) : Evaluator :=
  { ev with functions := ev.functions.register name f, results := ∅ }

/-- The counters. -/
def stats (ev : Evaluator) : CacheStats where
  cachedResults := ev.results.size
  parsedFormulas := ev.parsed.size
  hits := ev.hits
  misses := ev.misses

/-! ### Formula texts -/

/-- The formula of a text, read at most once. -/
def compile (text : String) : StateM Evaluator (Except EvalError Formula) := fun ev =>
  match ev.parsed[text]? with
  | some f => (f, ev)
  | none =>
    let f := Formula.compile text
    (f, { ev with parsed := ev.parsed.insert text f })

/-- The answer to a formula, with the calls it makes counted. -/
def run (f : Formula) (ctx : Context) : StateM Evaluator Answer := fun ev =>
  let r := (f.evaluate ctx).run ev.functions
  (r.1, { ev with functions := r.2 })

/-- The answer to a formula text, whether it was computed before or not. -/
def compute (text : String) (ctx : Context) : StateM Evaluator Answer := do
  match ← compile text with
  | .ok f => run f ctx
  | .error e => pure (.error e)

/-- The answer to a formula text, from memory where memoizing is on and the answer is there. -/
def tryEvaluate (text : String) (ctx : Context) : StateM Evaluator Answer := do
  if (← get).memoize then
    let key := (text, ctx.fingerprint)
    match (← get).results[key]? with
    | some answer =>
      modify fun ev => { ev with hits := ev.hits + 1 }
      pure answer
    | none =>
      modify fun ev => { ev with misses := ev.misses + 1 }
      let answer ← compute text ctx
      modify fun ev => { ev with results := ev.results.insert key answer }
      pure answer
  else compute text ctx

/-! ### Sources -/

/-- The value of a formula text; zero if it has none. -/
def evaluateText (text : String) (ctx : Context) : StateM Evaluator Value := do
  match ← tryEvaluate text ctx with
  | .ok v => pure v
  | .error _ => pure Value.zero

/-- The value of a source. -/
def evaluate (source : Source) (ctx : Context) : StateM Evaluator Value :=
  match source with
  | .number n => pure (.number n)
  | .boolean b => pure (.boolean b)
  | .formula text => evaluateText text ctx

/-- The finite numeric view of a source's value. -/
def evaluateNumber (source : Source) (ctx : Context) : StateM Evaluator Float := do
  pure (← evaluate source ctx).toFinite

end Evaluator

end ParametricScene
