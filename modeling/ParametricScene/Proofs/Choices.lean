import Mathlib.Data.List.Basic
import ParametricScene.Proofs.Grammar

/-!
# The first ten calls of `if`

The rewriting of `if` goes through a formula with a number that says how many calls may still become
conditionals, and hands it on from each part to the next. Here the same is said without the number. Every
part of a formula has an address, and the rewriting converts the calls at ten addresses: those that come
first among the addresses of all calls of `if` with three arguments.

An address lists which part to take at each step, the parts of a formula being counted in the order in
which they are written. So the order of addresses, in which an address comes before its extensions and
otherwise the first difference decides, is the order of the text: a call comes before those inside its
arguments, and these are in order from left to right.

## Counting choices

A choice is written `c ? a : b` or as a call. The first kind shows in the text by its question mark, which
stands for nothing else, so there are as many question marks among the words that spell a formula as
there are conditionals in it. What the rewriting adds is counted by the addresses.

## Main definitions

* `Formula.part?` — the part of a formula at an address
* `Formula.choices` — the addresses of the calls of `if` with three arguments, in order
* `Formula.convert` — a formula with the calls at some addresses as conditionals
* `Formula.questions` — the number of question marks among words

## Main results

* `Formula.mem_choices_iff`, `Formula.pairwise_choices` — all addresses of calls of `if` are listed, in
  order
* `Formula.lowerWith_eq` — the rewriting converts the calls at the first addresses
* `Formula.Spells.questions_eq` — question marks and conditionals
* `Formula.parse_eq_convert` — the first ten calls of `if` become conditionals
-/

namespace ParametricScene

namespace Formula

/-! ### Addresses -/

/-- The parts of a formula, as they are written from left to right. -/
def parts : Formula → List Formula
  | .number _ | .boolean _ | .text _ | .reference _ | .identifier _ => []
  | .list items => items
  | .unary _ operand => [operand]
  | .binary _ left right | .logical _ left right => [left, right]
  | .conditional condition yes no => [condition, yes, no]
  | .call _ arguments => arguments

/-- The part of a formula at an address, which says which part to take at each step. -/
def part? (f : Formula) : List Nat → Option Formula
  | [] => some f
  | i :: address => f.parts[i]?.bind fun g => g.part? address

mutual

/-- What holds of a formula if it holds of its parts holds of all formulas. -/
theorem induction_parts {P : Formula → Prop} (h : ∀ f, (∀ g ∈ f.parts, P g) → P f) : ∀ f, P f
  | .number _ | .boolean _ | .text _ | .reference _ | .identifier _ => h _ (List.forall_mem_nil _)
  | .list items => h _ (induction_parts_all h items)
  | .unary _ operand => h _ (List.forall_mem_singleton.mpr (induction_parts h operand))
  | .binary _ left right | .logical _ left right =>
    h _ (List.forall_mem_cons.mpr ⟨induction_parts h left,
      List.forall_mem_singleton.mpr (induction_parts h right)⟩)
  | .conditional condition yes no =>
    h _ (List.forall_mem_cons.mpr ⟨induction_parts h condition,
      List.forall_mem_cons.mpr ⟨induction_parts h yes,
        List.forall_mem_singleton.mpr (induction_parts h no)⟩⟩)
  | .call _ arguments => h _ (induction_parts_all h arguments)

theorem induction_parts_all {P : Formula → Prop} (h : ∀ f, (∀ g ∈ f.parts, P g) → P f) :
    ∀ fs : List Formula, ∀ f ∈ fs, P f
  | [] => List.forall_mem_nil _
  | f :: rest => List.forall_mem_cons.mpr ⟨induction_parts h f, induction_parts_all h rest⟩

end

/-! ### Where calls of `if` stand -/

mutual

/-- The addresses of the calls of `if` with three arguments, in the order of the text. -/
def choices : Formula → List (List Nat)
  | .number _ | .boolean _ | .text _ | .reference _ | .identifier _ => []
  | .list items => choicesFrom 0 items
  | .unary _ operand => (choices operand).map (0 :: ·)
  | .binary _ left right => (choices left).map (0 :: ·) ++ (choices right).map (1 :: ·)
  | .logical _ left right => (choices left).map (0 :: ·) ++ (choices right).map (1 :: ·)
  | .conditional condition yes no =>
    (choices condition).map (0 :: ·) ++ ((choices yes).map (1 :: ·) ++ (choices no).map (2 :: ·))
  | .call function arguments =>
    if isChoice function arguments then [] :: choicesFrom 0 arguments else choicesFrom 0 arguments

/-- The addresses of the calls of `if` in several formulas, which are counted from `first`. -/
def choicesFrom (first : Nat) : List Formula → List (List Nat)
  | [] => []
  | f :: rest => (choices f).map (first :: ·) ++ choicesFrom (first + 1) rest

end

/-- The formula is a call of `if` with three arguments. -/
def IsChoice (f : Formula) : Prop := ∃ condition yes no, f = .call "if" [condition, yes, no]

theorem isChoice_call_iff {function : String} {arguments : List Formula} :
    (call function arguments).IsChoice ↔ isChoice function arguments = true := by
  simp only [IsChoice, call.injEq, isChoice, Bool.and_eq_true, beq_iff_eq, List.length_eq_three]
  exact ⟨fun ⟨c, y, n, hif, harguments⟩ => ⟨hif, c, y, n, harguments⟩,
    fun ⟨hif, c, y, n, harguments⟩ => ⟨c, y, n, hif, harguments⟩⟩

/-- The addresses of a formula are its own, if it is a call of `if`, and those of its parts. -/
theorem mem_choices_parts {f : Formula} {address : List Nat} :
    address ∈ f.choices ↔ (address = [] ∧ f.IsChoice) ∨ address ∈ choicesFrom 0 f.parts := by
  cases f with
  | call function arguments =>
    rw [choices, parts, isChoice_call_iff]
    split <;> simp [*]
  | _ => simp [choices, choicesFrom, parts, IsChoice]

theorem mem_choicesFrom {fs : List Formula} {first : Nat} {address : List Nat} :
    address ∈ choicesFrom first fs ↔
      ∃ i g rest, fs[i]? = some g ∧ rest ∈ g.choices ∧ address = (first + i) :: rest := by
  induction fs generalizing first with
  | nil => simp [choicesFrom]
  | cons f fs ih =>
    rw [choicesFrom, List.mem_append, List.mem_map, ih]
    constructor
    · rintro (⟨rest, hrest, rfl⟩ | ⟨i, g, rest, hg, hrest, rfl⟩)
      · exact ⟨0, f, rest, rfl, hrest, rfl⟩
      · exact ⟨i + 1, g, rest, hg, hrest, by rw [Nat.add_right_comm, Nat.add_assoc]⟩
    · rintro ⟨i, g, rest, hg, hrest, rfl⟩
      cases i with
      | zero =>
        obtain rfl := Option.some.inj hg
        exact Or.inl ⟨rest, hrest, rfl⟩
      | succ i => exact Or.inr ⟨i, g, rest, hg, hrest, by rw [Nat.add_right_comm, Nat.add_assoc]⟩

/-- **All calls of `if` with three arguments are listed**, and nothing else is. -/
theorem mem_choices_iff {f : Formula} {address : List Nat} :
    address ∈ f.choices ↔ ∃ g, f.part? address = some g ∧ g.IsChoice := by
  induction f using induction_parts generalizing address with
  | h f ih =>
    rw [mem_choices_parts, mem_choicesFrom]
    cases address with
    | nil => simp [part?]
    | cons i rest =>
      simp only [List.cons_ne_nil, false_and, false_or, Nat.zero_add, part?,
        Option.bind_eq_some_iff]
      constructor
      · rintro ⟨j, g, rest', hg, hrest, heq⟩
        obtain ⟨rfl, rfl⟩ := List.cons.inj heq
        obtain ⟨g', hg', hchoice⟩ := (ih g (List.mem_of_getElem? hg)).mp hrest
        exact ⟨g', ⟨g, hg, hg'⟩, hchoice⟩
      · rintro ⟨g', ⟨g, hg, hg'⟩, hchoice⟩
        exact ⟨i, g, rest, hg, (ih g (List.mem_of_getElem? hg)).mpr ⟨g', hg', hchoice⟩, rfl⟩

/-- The addresses in several formulas are in order if those in each of them are. -/
theorem pairwise_choicesFrom {fs : List Formula} (h : ∀ f ∈ fs, f.choices.Pairwise (· < ·))
    (first : Nat) : (choicesFrom first fs).Pairwise (· < ·) := by
  induction fs generalizing first with
  | nil => exact List.Pairwise.nil
  | cons f fs ih =>
    obtain ⟨hf, hfs⟩ := List.forall_mem_cons.mp h
    rw [choicesFrom, List.pairwise_append, List.pairwise_map]
    refine ⟨hf.imp fun hlt => List.cons_lt_cons_iff.mpr (Or.inr ⟨rfl, hlt⟩), ih hfs _, ?_⟩
    intro address haddress later hlater
    obtain ⟨rest, -, rfl⟩ := List.mem_map.mp haddress
    obtain ⟨i, _, rest', -, -, rfl⟩ := mem_choicesFrom.mp hlater
    exact List.cons_lt_cons_iff.mpr (Or.inl (by omega))

/-- **The addresses are in the order of the text**: each before its extensions, and otherwise as their
first difference says. -/
theorem pairwise_choices (f : Formula) : f.choices.Pairwise (· < ·) := by
  induction f using induction_parts with
  | h f ih =>
    have hparts := pairwise_choicesFrom ih 0
    cases f with
    | call function arguments =>
      rw [choices]
      split
      · refine List.pairwise_cons.mpr ⟨fun address haddress => ?_, hparts⟩
        obtain ⟨i, _, rest, -, -, rfl⟩ := mem_choicesFrom.mp haddress
        exact List.nil_lt_cons _ _
      · exact hparts
    | number | boolean | text | reference | identifier => exact List.Pairwise.nil
    | list items => exact hparts
    | unary | binary | logical | conditional => simpa [choices, choicesFrom, parts] using hparts

/-! ### Converting calls -/

/-- The addresses that lead into the part with the given number, as they are from there on. -/
def within (i : Nat) (addresses : List (List Nat)) : List (List Nat) :=
  addresses.filterMap fun
    | j :: rest => if j = i then some rest else none
    | [] => none

mutual

/-- The formula with the calls at the chosen addresses as conditionals. -/
def convert (chosen : List (List Nat)) : Formula → Formula
  | .number x => .number x
  | .boolean b => .boolean b
  | .text s => .text s
  | .reference name => .reference name
  | .identifier name => .identifier name
  | .list items => .list (convertFrom chosen 0 items)
  | .unary op operand => .unary op (convert (within 0 chosen) operand)
  | .binary op left right =>
    .binary op (convert (within 0 chosen) left) (convert (within 1 chosen) right)
  | .logical op left right =>
    .logical op (convert (within 0 chosen) left) (convert (within 1 chosen) right)
  | .conditional condition yes no =>
    .conditional (convert (within 0 chosen) condition) (convert (within 1 chosen) yes)
      (convert (within 2 chosen) no)
  | .call function arguments =>
    match convertFrom chosen 0 arguments with
    | [c, y, n] => if [] ∈ chosen then .conditional c y n else .call function [c, y, n]
    | others => .call function others

/-- Several formulas, counted from `first`, with the calls at the chosen addresses as conditionals. -/
def convertFrom (chosen : List (List Nat)) (first : Nat) : List Formula → List Formula
  | [] => []
  | f :: rest => convert (within first chosen) f :: convertFrom chosen (first + 1) rest

end

@[simp] theorem within_append (i : Nat) (l m : List (List Nat)) :
    within i (l ++ m) = within i l ++ within i m :=
  List.filterMap_append

@[simp] theorem within_map_self (i : Nat) (l : List (List Nat)) : within i (l.map (i :: ·)) = l := by
  simp [within, List.filterMap_map]

theorem within_map_of_ne {i j : Nat} (h : j ≠ i) (l : List (List Nat)) :
    within i (l.map (j :: ·)) = [] := by
  simp [within, List.filterMap_map, h]

@[simp] theorem within_nil_cons (i : Nat) (l : List (List Nat)) : within i ([] :: l) = within i l := rfl

/-- No address among several formulas leads to what stands before them. -/
theorem within_take_choicesFrom {i first : Nat} (h : i < first) (left : Nat) (fs : List Formula) :
    within i ((choicesFrom first fs).take left) = [] := by
  rw [within, List.filterMap_eq_nil_iff]
  intro address haddress
  obtain ⟨j, _, rest, -, -, rfl⟩ := mem_choicesFrom.mp (List.mem_of_mem_take haddress)
  exact if_neg (by omega)

/-- Only the addresses that lead into the formulas matter. -/
theorem convertFrom_congr {chosen chosen' : List (List Nat)} {first : Nat} (fs : List Formula)
    (h : ∀ i, first ≤ i → within i chosen = within i chosen') :
    convertFrom chosen first fs = convertFrom chosen' first fs := by
  induction fs generalizing first with
  | nil => rfl
  | cons f fs ih =>
    rw [convertFrom, convertFrom, h first (Nat.le_refl _), ih fun i hi => h i (by omega)]

/-- A call that was not chosen stays a call. -/
theorem convert_call_of_not_mem {chosen : List (List Nat)} (h : [] ∉ chosen) (function : String)
    (arguments : List Formula) :
    convert chosen (.call function arguments) = .call function (convertFrom chosen 0 arguments) := by
  rw [convert]
  split
  · rename_i heq
    rw [if_neg h, heq]
  · rfl

/-! ### The rewriting -/

mutual

/-- **The rewriting converts the calls at the first addresses**, and as many fewer may be converted
later. -/
theorem lowerWith_eq : ∀ (f : Formula) (left : Nat),
    lowerWith left f = (f.convert (f.choices.take left), left - f.choices.length)
  | .number _, _ | .boolean _, _ | .text _, _ | .reference _, _ | .identifier _, _ => by
    simp [lowerWith, convert, choices]
  | .list items, left => by
    rw [lowerWith, lowerAllWith_eq items left 0, convert, choices]
  | .unary op operand, left => by
    rw [lowerWith, lowerWith_eq operand left, convert, choices]
    simp [← List.map_take]
  | .binary op l r, left => by
    rw [lowerWith, lowerWith_eq l, lowerWith_eq r, convert, choices]
    simp [List.take_append, ← List.map_take, within_map_of_ne, Nat.sub_sub]
  | .logical op l r, left => by
    rw [lowerWith, lowerWith_eq l, lowerWith_eq r, convert, choices]
    simp [List.take_append, ← List.map_take, within_map_of_ne, Nat.sub_sub]
  | .conditional c y n, left => by
    rw [lowerWith, lowerWith_eq c, lowerWith_eq y, lowerWith_eq n, convert, choices]
    simp [List.take_append, ← List.map_take, within_map_of_ne, Nat.sub_sub, Nat.add_assoc]
  | .call function arguments, left => by
    have hinside : [] ∉ (choicesFrom 0 arguments).take left := fun hmem => by
      obtain ⟨i, _, rest, -, -, heq⟩ := mem_choicesFrom.mp (List.mem_of_mem_take hmem)
      cases heq
    by_cases hchoice : isChoice function arguments = true
    · cases left with
      | zero =>
        rw [lowerWith, if_neg (by simp), lowerAllWith_eq arguments 0 0,
          List.take_zero, List.take_zero, convert_call_of_not_mem List.not_mem_nil]
        simp
      | succ left =>
        obtain ⟨c, y, n, heq⟩ := isChoice_call_iff.mpr hchoice
        obtain ⟨rfl, rfl⟩ := call.inj heq
        have hfrom : convertFrom ([] :: (choicesFrom 0 [c, y, n]).take left) 0 [c, y, n] =
            convertFrom ((choicesFrom 0 [c, y, n]).take left) 0 [c, y, n] :=
          convertFrom_congr _ fun i _ => within_nil_cons i _
        rw [lowerWith, if_pos ⟨hchoice, Nat.succ_pos left⟩, Nat.add_sub_cancel,
          lowerAllWith_eq [c, y, n] left 0, choices, if_pos hchoice, List.take_succ_cons, convert,
          hfrom]
        simp [convertFrom]
    · rw [lowerWith, if_neg fun h => hchoice h.1, lowerAllWith_eq arguments left 0, choices,
        if_neg hchoice, convert_call_of_not_mem hinside]

theorem lowerAllWith_eq : ∀ (fs : List Formula) (left first : Nat),
    lowerAllWith left fs =
      (convertFrom ((choicesFrom first fs).take left) first fs, left - (choicesFrom first fs).length)
  | [], left, first => by simp [lowerAllWith, convertFrom, choicesFrom]
  | f :: rest, left, first => by
    have hlater : ∀ i, first + 1 ≤ i →
        within i ((choicesFrom first (f :: rest)).take left) =
          within i ((choicesFrom (first + 1) rest).take (left - f.choices.length)) := fun i hi => by
      rw [choicesFrom, List.take_append, within_append, ← List.map_take,
        within_map_of_ne (by omega), List.nil_append, List.length_map]
    have hfirst : within first ((choicesFrom first (f :: rest)).take left) = f.choices.take left := by
      rw [choicesFrom, List.take_append, within_append, ← List.map_take, within_map_self,
        within_take_choicesFrom (Nat.lt_succ_self first), List.append_nil]
    rw [lowerAllWith, lowerWith_eq f, lowerAllWith_eq rest _ (first + 1), convertFrom, hfirst,
      convertFrom_congr rest hlater]
    simp [choicesFrom, Nat.sub_sub]

end

/-! ### Counting conditionals -/

mutual

/-- Each call that becomes a conditional leaves one fewer that may. -/
theorem conditionalCount_lowerWith : ∀ (f : Formula) (left : Nat),
    (lowerWith left f).1.conditionalCount + (lowerWith left f).2 = f.conditionalCount + left
  | .number _, _ | .boolean _, _ | .text _, _ | .reference _, _ | .identifier _, _ => by
    simp [lowerWith, conditionalCount]
  | .list items, left => by
    have hitems := conditionalCountAll_lowerAllWith items left
    simpa [lowerWith, conditionalCount] using hitems
  | .unary _ operand, left => by
    have hoperand := conditionalCount_lowerWith operand left
    simpa [lowerWith, conditionalCount] using hoperand
  | .binary _ l r, left => by
    have hl := conditionalCount_lowerWith l left
    have hr := conditionalCount_lowerWith r (lowerWith left l).2
    simp only [lowerWith, conditionalCount]
    omega
  | .logical _ l r, left => by
    have hl := conditionalCount_lowerWith l left
    have hr := conditionalCount_lowerWith r (lowerWith left l).2
    simp only [lowerWith, conditionalCount]
    omega
  | .conditional c y n, left => by
    have hc := conditionalCount_lowerWith c left
    have hy := conditionalCount_lowerWith y (lowerWith left c).2
    have hn := conditionalCount_lowerWith n (lowerWith (lowerWith left c).2 y).2
    simp only [lowerWith, conditionalCount]
    omega
  | .call function arguments, left => by
    rw [lowerWith, conditionalCount]
    split
    · rename_i h
      have harguments := conditionalCountAll_lowerAllWith arguments (left - 1)
      -- the rewriting keeps the number of arguments
      obtain ⟨c, y, n, heq⟩ := isChoice_call_iff.mpr h.1
      obtain ⟨rfl, rfl⟩ := call.inj heq
      simp only [lowerAllWith, conditionalCountAll] at harguments ⊢
      simp only [conditionalCount]
      omega
    · exact conditionalCountAll_lowerAllWith arguments left

theorem conditionalCountAll_lowerAllWith : ∀ (fs : List Formula) (left : Nat),
    conditionalCountAll (lowerAllWith left fs).1 + (lowerAllWith left fs).2 =
      conditionalCountAll fs + left
  | [], left => by simp [lowerAllWith, conditionalCountAll]
  | f :: rest, left => by
    have hf := conditionalCount_lowerWith f left
    have hrest := conditionalCountAll_lowerAllWith rest (lowerWith left f).2
    simp only [lowerAllWith, conditionalCountAll]
    omega

end

/-- The word is a question mark. -/
def isQuestion : Token → Bool
  | .mark .question => true
  | _ => false

/-- The number of question marks among words. -/
def questions (ts : List Token) : Nat := ts.countP isQuestion

@[simp] theorem questions_nil : questions [] = 0 := rfl

@[simp] theorem questions_append (ts us : List Token) :
    questions (ts ++ us) = questions ts + questions us :=
  List.countP_append

@[simp] theorem questions_cons (t : Token) (ts : List Token) :
    questions (t :: ts) = questions ts + if isQuestion t then 1 else 0 :=
  List.countP_cons

/-- An operator between operands is no question mark. -/
theorem isQuestion_of_mem_infixes {spelling : List Char} {level : Nat} {j : Joint}
    (h : (spelling, level, j) ∈ infixes) : isQuestion (Word.mark spelling).token = false := by
  have hall : ∀ e ∈ infixes, isQuestion (Word.mark e.1).token = false := by decide
  exact hall _ h

theorem conditionalCount_apply (j : Joint) (l r : Formula) :
    (j.apply l r).conditionalCount = l.conditionalCount + r.conditionalCount := by
  cases j <;> rfl

/-- The number of conditionals in a phrase. -/
def Phrase.conditionalCount : Phrase → Nat
  | .formula _ f => f.conditionalCount
  | .items fs => conditionalCountAll fs

/-- **As many question marks as conditionals** stand in what spells a phrase. -/
theorem Spells.questions_eq {p : Phrase} {ws : List Word} (h : Spells p ws) :
    questions (ws.map Word.token) = p.conditionalCount := by
  have hother : ∀ spelling ∈ [['['], [']'], ['('], [')'], [':'], [',']],
      isQuestion (Word.mark spelling).token = false := by decide
  have hquestion : isQuestion (Word.mark ['?']).token = true := by decide
  have hname : ∀ n, isQuestion (Word.name n).token = false := fun _ => rfl
  induction h with
  | number | text | boolean | reference | identifier | empty => rfl
  | list _ ih | call _ ih | parens _ ih =>
    simpa [hother, hname, Phrase.conditionalCount, Formula.conditionalCount] using ih
  | @unary op _ _ _ ih =>
    have hsign : isQuestion (Word.mark (prefixSpelling op)).token = false := by cases op <;> rfl
    simpa [hsign, Phrase.conditionalCount, Formula.conditionalCount] using ih
  | joint hj _ _ ihl ihr =>
    simp [isQuestion_of_mem_infixes hj, Phrase.conditionalCount, conditionalCount_apply, ihl, ihr]
  | choice _ _ _ ihc ihy ihn =>
    simp only [Phrase.conditionalCount] at ihc ihy ihn ⊢
    simp only [List.map_append, List.map_cons, questions_append, questions_cons, hquestion,
      hother [':'] (by simp), ihc, ihy, ihn, Formula.conditionalCount, if_true, Bool.false_eq_true,
      if_false]
    omega
  | loosen _ ih => exact ih
  | single _ ih => simpa [Phrase.conditionalCount, conditionalCountAll] using ih
  | more _ _ ih ihrest =>
    simp only [Phrase.conditionalCount] at ih ihrest ⊢
    rw [List.map_append, List.map_cons, questions_append, questions_cons, hother [','] (by simp), ih,
      ihrest]
    rfl

/-- The words of a text that spells a formula, with a question mark for each of its conditionals. -/
theorem exists_readAll?_of_parseUnlowered {text : String} {u : Formula}
    (h : parseUnlowered text = .ok u) :
    ∃ ts, Token.readAll? text.toList = some ts ∧ questions ts = u.conditionalCount := by
  obtain ⟨ws, -, hread, -, hspells⟩ := exists_spells_of_parseUnlowered h
  exact ⟨ws.map Word.token, hread, hspells.questions_eq⟩

/-! ### The contract -/

/-- **The first ten calls of `if` become conditionals.** The formula of a text is the one that the text
spells with calls of `if` as calls, converted at the first ten of all addresses at which calls of `if`
with three arguments stand. So it has a conditional for each question mark of the text, and one for
each of these calls but no more than ten. -/
theorem parse_eq_convert {text : String} {f : Formula} (h : parse text = .ok f) :
    ∃ ts u, Token.readAll? text.toList = some ts ∧ parseUnlowered text = .ok u ∧
      (∀ address, address ∈ u.choices ↔ ∃ g, u.part? address = some g ∧ g.IsChoice) ∧
      u.choices.Pairwise (· < ·) ∧
      f = u.convert (u.choices.take 10) ∧
      f.conditionalCount = questions ts + min 10 u.choices.length := by
  rw [parse] at h
  cases hu : parseUnlowered text with
  | error e =>
    rw [hu] at h
    cases h
  | ok u =>
    rw [hu] at h
    obtain rfl : lower u = f := Except.ok.inj h
    obtain ⟨ts, hts, hquestions⟩ := exists_readAll?_of_parseUnlowered hu
    have hlower := lowerWith_eq u loweringLimit
    have hcount := conditionalCount_lowerWith u loweringLimit
    refine ⟨ts, u, hts, rfl, fun address => mem_choices_iff, pairwise_choices u,
      congrArg Prod.fst hlower, ?_⟩
    rw [lower, hquestions]
    rw [congrArg Prod.snd hlower, loweringLimit] at hcount
    rw [loweringLimit]
    omega

/-- A formula with calls of `if` inside lists, operators, branches, conditions and other calls. Eleven
have three arguments and one has a single argument; a further choice is written with a question mark. -/
def nestedChoices : String :=
  "[if($a,if($b,$c,$d),if($e,-if($f,1,2),[if($g,3,4)])),"
    ++ "if($h)?if($i,5,6)+if($j,7,8):max(if($k,0,1),if($l,if($m,2,3),4)),if($n,5,6)]"

/-- The eleventh call of `if` with three arguments, the last one, stays a call. -/
theorem parse_eq_convert_nestedChoices :
    ∃ f, parse nestedChoices = .ok f ∧
      ∃ ts u, Token.readAll? nestedChoices.toList = some ts ∧ parseUnlowered nestedChoices = .ok u ∧
        f = u.convert (u.choices.take 10) ∧
        f.conditionalCount = questions ts + min 10 u.choices.length := by
  have hok : (parse nestedChoices).toBool = true := by decide +kernel
  cases h : parse nestedChoices with
  | error e =>
    rw [h] at hok
    cases hok
  | ok f =>
    obtain ⟨ts, u, hts, hu, -, -, hf, hcount⟩ := parse_eq_convert h
    exact ⟨f, rfl, ts, u, hts, hu, hf, hcount⟩

end Formula

end ParametricScene
