import ParametricScene.Evaluator

/-!
# Labels

Names, identifiers and material references are plain text unless they look like a formula: they start
with a dollar sign, or are a single call of a function. What looks like a formula is evaluated, and
the text of its value is the label.

## Main definitions

* `isFormulaText` — the text looks like a formula
* `Evaluator.label` — the label a text stands for
-/

namespace ParametricScene

/-- The text starts with a dollar sign, or with a name and a parenthesis that is closed by its last
character. Blanks around it do not count. -/
def isFormulaText (text : String) : Bool :=
  let cs := trim text.toList
  match cs with
  | '$' :: _ => true
  | _ =>
    let name := cs.takeWhile (· != '(')
    decide (0 < name.length) && decide (name.length < cs.length) && cs.getLast? == some ')' &&
      name.all Token.isNameChar

/-- The label a text stands for. -/
def Evaluator.label (text : Option String) (ctx : Context) : StateM Evaluator (Option String) :=
  match text with
  | none => pure none
  | some s =>
    if isFormulaText s then do
      pure (some (← evaluateText s ctx).display)
    else pure (some s)

end ParametricScene
