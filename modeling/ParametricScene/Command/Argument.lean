import ParametricScene.Decimal.Reader
import ParametricScene.Text.Blank
import ParametricScene.Value

/-!
# Bindings on the command line

A binding is a name, an equals sign and a literal. An assignment is a binding whose name is the path of
a template, a dot and a parameter. The first equals sign and the last dot before it divide the text, so
names hold no equals sign, parameters no dot, and the literal may hold both.

## Main definitions

* `readLiteral` — the value of a literal
* `readBinding`, `readAssignment` — the two forms
* `ArgumentError` — why a text is neither

## Main results

* `splitFirst?_eq_some_iff`, `splitLast?_eq_some_iff` — where a text is divided
-/

namespace ParametricScene

/-- A value for a parameter of a template. -/
structure Assignment where
  template : String
  parameter : String
  value : Value

/-- Why a text is no binding or no assignment. -/
inductive ArgumentError where
  | notABinding (text : String)
  | noName (text : String)
  | notAnAssignment (text : String)
deriving DecidableEq, Repr

/-- The error in words. -/
def ArgumentError.message : ArgumentError → String
  | notABinding text => "expected NAME=VALUE, got '" ++ text ++ "'"
  | noName text => "missing name in '" ++ text ++ "'"
  | notAnAssignment text => "expected TEMPLATE.PARAM=VALUE, got '" ++ text ++ "'"

/-- The text before the first `c` and the text behind it. -/
def splitFirst? (c : Char) : List Char → Option (List Char × List Char)
  | [] => none
  | d :: rest =>
    if d = c then some ([], rest)
    else (splitFirst? c rest).map fun r => (d :: r.1, r.2)

/-- The text is divided at the first `c`. -/
theorem splitFirst?_eq_some_iff {c : Char} {cs before after : List Char} :
    splitFirst? c cs = some (before, after) ↔ cs = before ++ c :: after ∧ c ∉ before := by
  induction cs generalizing before with
  | nil => simp [splitFirst?]
  | cons d rest ih =>
    rw [splitFirst?]
    by_cases hd : d = c
    · subst hd
      rw [if_pos rfl, Option.some.injEq, Prod.mk.injEq]
      cases before with
      | nil => simp [eq_comm]
      | cons b before =>
        refine ⟨fun h => absurd h.1 nofun, fun ⟨h, hnot⟩ => ?_⟩
        rw [List.cons_append, List.cons.injEq] at h
        exact absurd (List.mem_cons.mpr (Or.inl h.1)) hnot
    · rw [if_neg hd, Option.map_eq_some_iff]
      cases before with
      | nil => simp [hd]
      | cons b before =>
        simp only [Prod.exists, Prod.mk.injEq, List.cons.injEq, List.cons_append, List.mem_cons, not_or]
        constructor
        · rintro ⟨front, back, h, ⟨rfl, rfl⟩, rfl⟩
          exact ⟨⟨rfl, (ih.mp h).1⟩, fun heq => hd heq.symm, (ih.mp h).2⟩
        · rintro ⟨⟨rfl, h⟩, -, hnot⟩
          exact ⟨before, after, ih.mpr ⟨h, hnot⟩, ⟨rfl, rfl⟩, rfl⟩

theorem splitFirst?_eq_none_iff {c : Char} {cs : List Char} :
    splitFirst? c cs = none ↔ c ∉ cs := by
  induction cs with
  | nil => simp [splitFirst?]
  | cons d rest ih =>
    rw [splitFirst?, List.mem_cons, not_or]
    split
    · rename_i hd
      exact ⟨nofun, fun h => absurd hd.symm h.1⟩
    · rename_i hd
      rw [Option.map_eq_none_iff, ih]
      exact ⟨fun h => ⟨fun heq => hd heq.symm, h⟩, fun h => h.2⟩

/-- The text before the last `c` and the text behind it. -/
def splitLast? (c : Char) (cs : List Char) : Option (List Char × List Char) :=
  (splitFirst? c cs.reverse).map fun r => (r.2.reverse, r.1.reverse)

/-- The text is divided at the last `c`. -/
theorem splitLast?_eq_some_iff {c : Char} {cs before after : List Char} :
    splitLast? c cs = some (before, after) ↔ cs = before ++ c :: after ∧ c ∉ after := by
  have hreversed : splitLast? c cs = some (before, after) ↔
      splitFirst? c cs.reverse = some (after.reverse, before.reverse) := by
    rw [splitLast?, Option.map_eq_some_iff]
    constructor
    · rintro ⟨⟨front, back⟩, h, heq⟩
      cases heq
      rwa [List.reverse_reverse, List.reverse_reverse]
    · intro h
      exact ⟨_, h, by rw [List.reverse_reverse, List.reverse_reverse]⟩
  have hback : cs = before ++ c :: after ↔ cs.reverse = after.reverse ++ c :: before.reverse := by
    rw [← List.reverse_inj, List.reverse_append, List.reverse_cons, List.append_assoc]
    rfl
  rw [hreversed, splitFirst?_eq_some_iff, hback, List.mem_reverse]

/-- The value of a literal: a truth value, a number, or else the text itself. -/
def readLiteral (cs : List Char) : Value :=
  if cs = "true".toList then .boolean true
  else if cs = "false".toList then .boolean false
  else
    match readNumber? cs with
    | some x => .number x
    | none => .text (String.ofList cs)

/-- The name and the value of a binding; blanks around both do not count. -/
def splitBinding (text : String) : Except ArgumentError (List Char × Value) :=
  match splitFirst? '=' text.toList with
  | none => .error (.notABinding text)
  | some (name, literal) =>
    let name := trim name
    if name.isEmpty then .error (.noName text)
    else .ok (name, readLiteral (trim literal))

/-- A binding. -/
def readBinding (text : String) : Except ArgumentError (String × Value) :=
  match splitBinding text with
  | .ok (name, v) => .ok (String.ofList name, v)
  | .error e => .error e

/-- An assignment. -/
def readAssignment (text : String) : Except ArgumentError Assignment :=
  match splitBinding text with
  | .error e => .error e
  | .ok (target, v) =>
    match splitLast? '.' target with
    | some (template, parameter) =>
      if template.isEmpty ∨ parameter.isEmpty then .error (.notAnAssignment text)
      else .ok ⟨String.ofList template, String.ofList parameter, v⟩
    | none => .error (.notAnAssignment text)

end ParametricScene
