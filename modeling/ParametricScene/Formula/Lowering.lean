import ParametricScene.Formula.Basic

/-!
# Calls of `if` as conditionals

A call of `if` with three arguments evaluates only the branch it needs, so it is rewritten to a
conditional. Only the first ten of a formula are; the order is that of the text, an outer call before
those inside its arguments. Later ones, and calls of `if` with another number of arguments, stay
calls.

## Main definitions

* `Formula.loweringLimit` — how many calls are rewritten
* `Formula.lower` — the rewriting, with the number of calls that may still be rewritten
-/

namespace ParametricScene

namespace Formula

/-- The number of calls of `if` that become conditionals. -/
def loweringLimit : Nat := 10

/-- The call is one that may become a conditional. -/
def isChoice (function : String) (arguments : List Formula) : Bool :=
  function == "if" && arguments.length == 3

mutual

/-- Replaces at most `left` calls of `if`; answers the formula and how many may still be
replaced. -/
def lowerWith (left : Nat) : Formula → Formula × Nat
  | .number x => (.number x, left)
  | .boolean b => (.boolean b, left)
  | .text s => (.text s, left)
  | .reference n => (.reference n, left)
  | .identifier n => (.identifier n, left)
  | .list items =>
    let r := lowerAllWith left items
    (.list r.1, r.2)
  | .unary op operand =>
    let r := lowerWith left operand
    (.unary op r.1, r.2)
  | .binary op l r =>
    let l' := lowerWith left l
    let r' := lowerWith l'.2 r
    (.binary op l'.1 r'.1, r'.2)
  | .logical op l r =>
    let l' := lowerWith left l
    let r' := lowerWith l'.2 r
    (.logical op l'.1 r'.1, r'.2)
  | .conditional c y n =>
    let c' := lowerWith left c
    let y' := lowerWith c'.2 y
    let n' := lowerWith y'.2 n
    (.conditional c'.1 y'.1 n'.1, n'.2)
  | .call function arguments =>
    if isChoice function arguments ∧ 0 < left then
      let r := lowerAllWith (left - 1) arguments
      match r.1 with
      | [c, y, n] => (.conditional c y n, r.2)
      | others => (.call function others, r.2)
    else
      let r := lowerAllWith left arguments
      (.call function r.1, r.2)

/-- Lowers several formulas from left to right. -/
def lowerAllWith (left : Nat) : List Formula → List Formula × Nat
  | [] => ([], left)
  | item :: rest =>
    let i := lowerWith left item
    let r := lowerAllWith i.2 rest
    (i.1 :: r.1, r.2)

end

/-- The formula with its first calls of `if` as conditionals. -/
def lower (f : Formula) : Formula := (lowerWith loweringLimit f).1

end Formula

end ParametricScene
