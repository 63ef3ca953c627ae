import Mathlib.Data.List.Basic
import Mathlib.Logic.ExistsUnique
import ParametricScene.Command.Argument

/-!
# Assignments as texts

An assignment is read from a text by dividing it at the first equals sign, taking blanks away, and
dividing what stands before the sign once more, at its last dot. Here the texts of assignments are
described from the side of the writer: the path of a template, a dot, the name of a parameter, an equals
sign and a literal, with blanks around the first three or without. Nothing is asked of the literal. The
path must not hold the equals sign, but may hold dots, and the name neither of the two.

Both descriptions agree. What is written is read back, and what is read was written in one way only: the
first equals sign and the last dot before it are the two of the writer. All other texts are refused, and
why is told by the text as well.

## Main definitions

* `AssignmentText` — the three parts of an assignment, as they are written
* `AssignmentText.IsProper` — parts that can be told apart in a text
* `AssignmentText.SpelledBy` — the text has these parts
* `Misspells` — the texts of no assignment, with what is missing in them

## Main results

* `AssignmentText.SpelledBy.read` — what is written is read back
* `AssignmentText.SpelledBy.unique` — a text has its parts in one way only
* `Misspells.refused`, `spelled_or_misspelled` — all other texts are refused, and for what reason
* `assignments_read_by_grammar` — what is read, and what is not
-/

namespace ParametricScene

theorem equals_notMem_of_blank {cs : List Char} (h : ∀ c ∈ cs, isBlank c = true) : '=' ∉ cs :=
  fun hmem => absurd (h '=' hmem) (by decide)

/-- What stands before the first equals sign decides, where it is not blank. -/
theorem readAssignment_of_split {text : String} {name literal : List Char}
    (hsplit : splitFirst? '=' text.toList = some (name, literal)) (hname : trim name ≠ []) :
    readAssignment text =
      match splitLast? '.' (trim name) with
      | some (template, parameter) =>
        if template.isEmpty ∨ parameter.isEmpty then .error (.notAnAssignment text)
        else .ok ⟨String.ofList template, String.ofList parameter, readLiteral (trim literal)⟩
      | none => .error (.notAnAssignment text) := by
  have hbinding : splitBinding text = .ok (trim name, readLiteral (trim literal)) := by
    rw [splitBinding, hsplit]
    exact if_neg (mt List.isEmpty_iff.mp hname)
  rw [readAssignment]
  exact hbinding ▸ rfl

/-! ### Parts of assignments -/

/-- The parts of an assignment, as they are written. -/
structure AssignmentText where
  template : String
  parameter : String
  literal : String

namespace AssignmentText

/-- The parameter and the template it belongs to. -/
def target (a : AssignmentText) : String := a.template ++ "." ++ a.parameter

/-- The parts in one text, without blanks of their own around them. -/
def text (a : AssignmentText) : String := a.target ++ "=" ++ a.literal

/-- What is assigned: the literal without the blanks around it is a truth value, a number or a text. -/
def meaning (a : AssignmentText) : Assignment :=
  ⟨a.template, a.parameter, readLiteral (trim a.literal.toList)⟩

/-- The dot and the equals sign that are written between the parts can be told from those inside, and
the blanks that are written around them from those of the names. -/
structure IsProper (a : AssignmentText) : Prop where
  template_ne : a.template ≠ ""
  parameter_ne : a.parameter ≠ ""
  equals_notMem_template : '=' ∉ a.template.toList
  equals_notMem_parameter : '=' ∉ a.parameter.toList
  dot_notMem_parameter : '.' ∉ a.parameter.toList
  template_start : ∀ c ∈ a.template.toList.head?, isBlank c = false
  parameter_end : ∀ c ∈ a.parameter.toList.getLast?, isBlank c = false

/-- The text consists of the parts, with blanks around the target or without. -/
def SpelledBy (a : AssignmentText) (text : String) : Prop :=
  a.IsProper ∧ ∃ left right : String, (∀ c ∈ left.toList, isBlank c = true) ∧
    (∀ c ∈ right.toList, isBlank c = true) ∧ text = left ++ a.target ++ right ++ "=" ++ a.literal

variable {a b : AssignmentText} {text : String}

theorem toList_target (a : AssignmentText) :
    a.target.toList = a.template.toList ++ '.' :: a.parameter.toList := by
  simp [target]

/-! ### What is written is read back -/

theorem IsProper.spelledBy_text (h : a.IsProper) : a.SpelledBy a.text :=
  ⟨h, "", "", nofun, nofun, by simp [AssignmentText.text]⟩

/-- The target has no equals sign and no blanks at its ends. -/
theorem IsProper.target_ends (h : a.IsProper) : '=' ∉ a.target.toList ∧
    (∀ c ∈ a.target.toList.head?, isBlank c = false) ∧
      ∀ c ∈ a.target.toList.getLast?, isBlank c = false := by
  have htemplate : a.template.toList ≠ [] := fun heq => h.template_ne (String.toList_eq_nil_iff.mp heq)
  have hparameter : a.parameter.toList ≠ [] := fun heq =>
    h.parameter_ne (String.toList_eq_nil_iff.mp heq)
  rw [toList_target]
  refine ⟨?_, ?_, ?_⟩
  · simp [h.equals_notMem_template, h.equals_notMem_parameter]
  · rw [List.head?_append_of_ne_nil _ htemplate]
    exact h.template_start
  · rw [List.getLast?_append_of_ne_nil _ (List.cons_ne_nil _ _), List.getLast?_cons_of_ne_nil hparameter]
    exact h.parameter_end

/-- The target ends at the first equals sign, up to blanks. -/
theorem SpelledBy.splits (h : a.SpelledBy text) : ∃ name,
    splitFirst? '=' text.toList = some (name, a.literal.toList) ∧ trim name = a.target.toList := by
  obtain ⟨hproper, left, right, hleft, hright, rfl⟩ := h
  obtain ⟨hequals, hhead, hlast⟩ := hproper.target_ends
  refine ⟨left.toList ++ (a.target.toList ++ right.toList), splitFirst?_eq_some_iff.mpr ⟨?_, ?_⟩,
    trim_append_append hleft hright hhead hlast⟩
  · simp
  · rw [List.mem_append, List.mem_append, not_or, not_or]
    exact ⟨equals_notMem_of_blank hleft, hequals, equals_notMem_of_blank hright⟩

/-- **What is written is read back.** -/
theorem SpelledBy.read (h : a.SpelledBy text) : readAssignment text = .ok a.meaning := by
  obtain ⟨name, hsplit, htrim⟩ := h.splits
  have hne : a.target.toList ≠ [] := by
    rw [toList_target]
    exact List.append_ne_nil_of_right_ne_nil _ (List.cons_ne_nil _ _)
  have hdot : splitLast? '.' a.target.toList = some (a.template.toList, a.parameter.toList) :=
    splitLast?_eq_some_iff.mpr ⟨toList_target a, h.1.dot_notMem_parameter⟩
  rw [readAssignment_of_split hsplit (htrim ▸ hne), htrim, hdot]
  simp only [List.isEmpty_iff, String.toList_eq_nil_iff]
  rw [if_neg (not_or.mpr ⟨h.1.template_ne, h.1.parameter_ne⟩), String.ofList_toList,
    String.ofList_toList, meaning]

/-- Where a text can be divided twice, the parts are those of an assignment. -/
theorem exists_spelledBy {name literal template parameter : List Char}
    (hsplit : splitFirst? '=' text.toList = some (name, literal))
    (hdot : splitLast? '.' (trim name) = some (template, parameter)) (htemplate : template ≠ [])
    (hparameter : parameter ≠ []) : ∃ a : AssignmentText, a.SpelledBy text := by
  obtain ⟨htext, hequals⟩ := splitFirst?_eq_some_iff.mp hsplit
  obtain ⟨htarget, hnodot⟩ := splitLast?_eq_some_iff.mp hdot
  obtain ⟨left, right, hname, hleft, hright⟩ := exists_eq_append_trim name
  obtain ⟨hhead, hlast⟩ := isBlank_ends_trim name
  -- what trimming says of the ends of the target is said of those of the two names
  rw [htarget] at hname hhead hlast
  rw [hname] at hequals htext
  simp only [List.mem_append, List.mem_cons, not_or] at hequals
  rw [List.head?_append_of_ne_nil _ htemplate] at hhead
  rw [List.getLast?_append_of_ne_nil _ (List.cons_ne_nil _ _),
    List.getLast?_cons_of_ne_nil hparameter] at hlast
  have hproper :
      IsProper ⟨String.ofList template, String.ofList parameter, String.ofList literal⟩ :=
    { template_ne := by simpa using htemplate
      parameter_ne := by simpa using hparameter
      equals_notMem_template := by simpa using hequals.2.1.1
      equals_notMem_parameter := by simpa using hequals.2.1.2.2
      dot_notMem_parameter := by simpa using hnodot
      template_start := by simpa using hhead
      parameter_end := by simpa using hlast }
  refine ⟨_, hproper, String.ofList left, String.ofList right, by simpa using hleft,
    by simpa using hright, String.toList_inj.mp ?_⟩
  rw [htext]
  simp [target]

/-- **A text has its parts in one way only.** -/
theorem SpelledBy.unique (ha : a.SpelledBy text) (hb : b.SpelledBy text) : a = b := by
  obtain ⟨_, hsplit, _⟩ := ha.splits
  obtain ⟨_, hsplit', _⟩ := hb.splits
  -- different literals may have one value, so they are not told apart by what is read
  have hliteral : a.literal = b.literal := by
    rw [hsplit, Option.some.injEq, Prod.mk.injEq] at hsplit'
    exact String.toList_inj.mp hsplit'.2
  have hmeaning : a.meaning = b.meaning := Except.ok.inj (ha.read.symm.trans hb.read)
  obtain ⟨template, parameter, literal⟩ := a
  obtain ⟨template', parameter', literal'⟩ := b
  rw [meaning, meaning, Assignment.mk.injEq] at hmeaning
  rw [mk.injEq]
  exact ⟨hmeaning.1, hmeaning.2.1, hliteral⟩

end AssignmentText

/-! ### All other texts are refused -/

/-- The text is none of an assignment, and this is why: nothing divides it, nothing stands before what
divides it, or no dot divides what stands there into two names. -/
inductive Misspells (text : String) : ArgumentError → Prop
  | notABinding (h : '=' ∉ text.toList) : Misspells text (.notABinding text)
  | noName {name literal : List Char} (h : text.toList = name ++ '=' :: literal)
      (hname : ∀ c ∈ name, isBlank c = true) : Misspells text (.noName text)
  | notAnAssignment {name literal : List Char} (h : text.toList = name ++ '=' :: literal)
      (hequals : '=' ∉ name) (hname : ∃ c ∈ name, isBlank c = false)
      (hdots : ∀ template parameter : List Char, trim name = template ++ '.' :: parameter →
        '.' ∉ parameter → template = [] ∨ parameter = []) : Misspells text (.notAnAssignment text)

/-- **A text with something missing in it is refused for that.** -/
theorem Misspells.refused {text : String} {e : ArgumentError} (h : Misspells text e) :
    readAssignment text = .error e := by
  cases h with
  | notABinding h => rw [readAssignment, splitBinding, splitFirst?_eq_none_iff.mpr h]
  | noName h hname =>
    rw [readAssignment, splitBinding,
      splitFirst?_eq_some_iff.mpr ⟨h, equals_notMem_of_blank hname⟩]
    simp only [trim_eq_nil_iff.mpr hname]
    rfl
  | @notAnAssignment name _ h hequals hname hdots =>
    have hne : trim name ≠ [] := fun hnil => by
      obtain ⟨c, hc, hblank⟩ := hname
      rw [trim_eq_nil_iff.mp hnil c hc] at hblank
      cases hblank
    rw [readAssignment_of_split (splitFirst?_eq_some_iff.mpr ⟨h, hequals⟩) hne]
    cases hdot : splitLast? '.' (trim name) with
    | none => rfl
    | some target =>
      -- there is a dot, but a name is missing on one side of it
      obtain ⟨htarget, hnodot⟩ := splitLast?_eq_some_iff.mp hdot
      have hempty := hdots _ _ htarget hnodot
      rw [← List.isEmpty_iff, ← List.isEmpty_iff] at hempty
      exact if_pos hempty

/-- Every text has the parts of an assignment, or something is missing in it. -/
theorem spelled_or_misspelled (text : String) :
    (∃ a : AssignmentText, a.SpelledBy text) ∨ ∃ e, Misspells text e := by
  cases hsplit : splitFirst? '=' text.toList with
  | none => exact Or.inr ⟨_, .notABinding (splitFirst?_eq_none_iff.mp hsplit)⟩
  | some parts =>
    obtain ⟨name, literal⟩ := parts
    obtain ⟨htext, hequals⟩ := splitFirst?_eq_some_iff.mp hsplit
    by_cases hblank : ∀ c ∈ name, isBlank c = true
    · exact Or.inr ⟨_, .noName htext hblank⟩
    · by_cases hspelled : ∃ a : AssignmentText, a.SpelledBy text
      · exact Or.inl hspelled
      · refine Or.inr ⟨_, .notAnAssignment htext hequals (by simpa using hblank) ?_⟩
        intro template parameter htarget hnodot
        by_contra hparts
        rw [not_or] at hparts
        exact hspelled (AssignmentText.exists_spelledBy hsplit
          (splitLast?_eq_some_iff.mpr ⟨htarget, hnodot⟩) hparts.1 hparts.2)

/-- **Assignments are read by their grammar.** The path of a template, a dot, the name of a parameter, an
equals sign and a literal are read as the value of the literal, assigned to the parameter of the
template. The texts that are read are those with such parts, up to blanks around the target, and they have
them in one way only. All other texts are refused, each for what is missing in it. -/
theorem assignments_read_by_grammar :
    (∀ a : AssignmentText, a.IsProper → readAssignment a.text = .ok a.meaning) ∧
      (∀ (text : String) (m : Assignment), readAssignment text = .ok m ↔
        (∃! a : AssignmentText, a.SpelledBy text) ∧
          ∀ a : AssignmentText, a.SpelledBy text → a.meaning = m) ∧
      ∀ text : String, (∀ a : AssignmentText, ¬ a.SpelledBy text) →
        ∃ e, Misspells text e ∧ readAssignment text = .error e := by
  refine ⟨fun a ha => ha.spelledBy_text.read, ?_, ?_⟩
  · intro text m
    constructor
    · intro hm
      rcases spelled_or_misspelled text with ⟨a, ha⟩ | ⟨e, he⟩
      · refine ⟨⟨a, ha, fun b hb => hb.unique ha⟩, fun b hb => ?_⟩
        exact Except.ok.inj (hb.read.symm.trans hm)
      · rw [he.refused] at hm
        cases hm
    · rintro ⟨⟨a, ha, -⟩, hm⟩
      rw [ha.read, hm a ha]
  · intro text hnone
    obtain ⟨e, he⟩ := (spelled_or_misspelled text).resolve_left (not_exists.mpr hnone)
    exact ⟨e, he, he.refused⟩

/-- A width, with a literal that holds a dot, an equals sign and blanks. -/
def tableWidth : AssignmentText := ⟨"room.table", "width", " 1.5 = 3 "⟩

/-- The last dot before the first equals sign belongs to the assignment, those around it to the path and
to the literal. Where there is only a dot, it has no template and no parameter. -/
theorem assignments_read_by_grammar_tableWidth :
    tableWidth.IsProper ∧ tableWidth.text = "room.table.width= 1.5 = 3 " ∧
      readAssignment tableWidth.text = .ok ⟨"room.table", "width", .text "1.5 = 3"⟩ ∧
      (∃! a : AssignmentText, a.SpelledBy tableWidth.text) ∧
      (∀ a : AssignmentText, ¬ a.SpelledBy " . =1") ∧
      ∃ e, Misspells " . =1" e ∧ readAssignment " . =1" = .error e := by
  obtain ⟨hread, honly, hrefused⟩ := assignments_read_by_grammar
  have hproper : tableWidth.IsProper :=
    ⟨by decide, by decide, by decide, by decide, by decide, by rintro _ ⟨⟩; decide,
      by rintro _ ⟨⟩; decide⟩
  have hmeaning : tableWidth.meaning = ⟨"room.table", "width", .text "1.5 = 3"⟩ := rfl
  have hnone : ∀ a : AssignmentText, ¬ a.SpelledBy " . =1" := fun a ha => by
    have hrefuses : readAssignment " . =1" = .error (.notAnAssignment " . =1") := rfl
    rw [ha.read] at hrefuses
    cases hrefuses
  have hok := hmeaning ▸ hread tableWidth hproper
  exact ⟨hproper, by decide, hok, ((honly _ _).mp hok).1, hnone, hrefused _ hnone⟩

end ParametricScene
