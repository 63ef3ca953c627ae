import ParametricScene.Proofs.Grammar

/-!
# The alphabet leaves out no formula

Two checks decide whether a text is evaluated: it has to keep to an alphabet, and it has to be a formula.
The first is made before the second and knows nothing of it. Still no formula is refused for the sake of
how it is built: the characters of a formula that are not in the alphabet all stand in its literals,
between quotes, where any character may stand.

The proof accounts for every character. A text that is read consists of space and of the words that spell
the formula, and all words but quoted texts keep to the alphabet, kind by kind.

## Main definitions

* `Formula.literals` — the texts in a formula, in order
* `Formula.strangers` — the characters that are not in the alphabet

## Main results

* `Formula.Word.Proper.strangers_chars` — only in quoted texts there are characters outside the alphabet
* `Formula.Spells.literals_eq` — the quoted texts of a spelling are the literals of what is spelled
* `Formula.literals_lower` — the rewriting of `if` keeps the literals
* `Formula.checkAlphabet_of_parse` — what the alphabet refuses of a formula
-/

namespace ParametricScene

/-- The text that is read as such, if one is. -/
def Token.literals : Token → List String
  | .text s => [s]
  | _ => []

namespace Formula

/-! ### Literals -/

mutual

/-- The texts in a formula, in the order in which they are written. -/
def literals : Formula → List String
  | .number _ | .boolean _ | .reference _ | .identifier _ => []
  | .text s => [s]
  | .list items => literalsAll items
  | .unary _ operand => literals operand
  | .binary _ left right => literals left ++ literals right
  | .logical _ left right => literals left ++ literals right
  | .conditional condition yes no => literals condition ++ (literals yes ++ literals no)
  | .call _ arguments => literalsAll arguments

/-- The texts in several formulas. -/
def literalsAll : List Formula → List String
  | [] => []
  | item :: rest => literals item ++ literalsAll rest

end

theorem literals_apply (j : Joint) (l r : Formula) :
    (j.apply l r).literals = l.literals ++ r.literals := by
  cases j <;> rw [Joint.apply, literals]

mutual

/-- A call of `if` has the literals of the conditional that it becomes. -/
theorem literals_lowerWith : ∀ (f : Formula) (left : Nat), (lowerWith left f).1.literals = f.literals
  | .number _, _ | .boolean _, _ | .text _, _ | .reference _, _ | .identifier _, _ => by
    simp [lowerWith, literals]
  | .list items, left => by
    simp only [lowerWith, literals, literalsAll_lowerAllWith items]
  | .unary _ operand, left => by
    simp only [lowerWith, literals, literals_lowerWith operand]
  | .binary _ l r, left => by
    simp only [lowerWith, literals, literals_lowerWith l, literals_lowerWith r]
  | .logical _ l r, left => by
    simp only [lowerWith, literals, literals_lowerWith l, literals_lowerWith r]
  | .conditional c y n, left => by
    simp only [lowerWith, literals, literals_lowerWith c, literals_lowerWith y, literals_lowerWith n]
  | .call function arguments, left => by
    rw [lowerWith, literals]
    split
    · have harguments := literalsAll_lowerAllWith arguments (left - 1)
      simp only
      split
      · rename_i c y n heq
        rw [heq] at harguments
        simpa [literals, literalsAll] using harguments
      · exact harguments
    · exact literalsAll_lowerAllWith arguments left

theorem literalsAll_lowerAllWith : ∀ (fs : List Formula) (left : Nat),
    literalsAll (lowerAllWith left fs).1 = literalsAll fs
  | [], _ => rfl
  | f :: rest, left => by
    simp only [lowerAllWith, literalsAll, literals_lowerWith f, literalsAll_lowerAllWith rest]

end

/-- The rewriting of `if` keeps the literals. -/
theorem literals_lower (f : Formula) : f.lower.literals = f.literals :=
  literals_lowerWith f loweringLimit

/-! ### Quoted texts -/

/-- The text that a word quotes, if it does. -/
def Word.literals : Word → List String
  | .quoted _ s => [s]
  | _ => []

theorem literals_token (w : Word) : w.token.literals = w.literals := by
  cases w <;> rfl

/-- The literals of a phrase. -/
def Phrase.literals : Phrase → List String
  | .formula _ f => f.literals
  | .items fs => literalsAll fs

/-- **The quoted texts of a spelling are the literals** of what is spelled. -/
theorem Spells.literals_eq {p : Phrase} {ws : List Word} (h : Spells p ws) :
    ws.flatMap Word.literals = p.literals := by
  have hmark : ∀ spelling, (Word.mark spelling).literals = [] := fun _ => rfl
  have hname : ∀ n, (Word.name n).literals = [] := fun _ => rfl
  induction h with
  | number | text | boolean | reference | identifier | empty => rfl
  | list _ ih | call _ ih | parens _ ih =>
    simpa [hmark, hname, Phrase.literals, Formula.literals] using ih
  | unary _ ih | loosen _ ih => exact ih
  | joint _ _ _ ihl ihr => simp [hmark, Phrase.literals, literals_apply, ihl, ihr]
  | choice _ _ _ ihc ihy ihn => simp [hmark, Phrase.literals, Formula.literals, ihc, ihy, ihn]
  | single _ ih => simp [Phrase.literals, literalsAll, ih]
  | more _ _ ih ihrest =>
    simp only [Phrase.literals] at ih ihrest ⊢
    rw [List.flatMap_append, List.flatMap_cons, hmark, List.nil_append, ih, ihrest]
    rfl

/-! ### Characters outside the alphabet -/

/-- The characters that are not in the alphabet. -/
def strangers (cs : List Char) : List Char := cs.filter fun c => !inAlphabet c

@[simp] theorem strangers_append (cs ds : List Char) :
    strangers (cs ++ ds) = strangers cs ++ strangers ds :=
  List.filter_append ..

theorem strangers_eq_nil_iff {cs : List Char} :
    strangers cs = [] ↔ ∀ c ∈ cs, inAlphabet c = true := by
  simp [strangers, List.filter_eq_nil_iff]

theorem inAlphabet_of_isAlphanum {c : Char} (h : c.isAlphanum = true) : inAlphabet c = true := by
  rw [inAlphabet, h]
  rfl

theorem inAlphabet_of_isDigit {c : Char} (h : isDigit c = true) : inAlphabet c = true := by
  refine inAlphabet_of_isAlphanum ?_
  have hdigit : c.isDigit = true := by
    rw [isDigit, Bool.and_eq_true, decide_eq_true_eq, decide_eq_true_eq] at h
    rw [Char.isDigit, Bool.and_eq_true, decide_eq_true_eq, decide_eq_true_eq]
    exact h
  rw [Char.isAlphanum, hdigit, Bool.or_true]

theorem inAlphabet_of_isNameChar {c : Char} (h : Token.isNameChar c = true) :
    inAlphabet c = true := by
  rw [Token.isNameChar, Bool.or_eq_true, beq_iff_eq] at h
  rcases h with h | rfl
  · exact inAlphabet_of_isAlphanum h
  · decide

theorem isNameChar_of_isNameStart {c : Char} (h : Token.isNameStart c = true) :
    Token.isNameChar c = true := by
  rw [Token.isNameStart] at h
  rw [Token.isNameChar, Char.isAlphanum, Bool.or_right_comm, h, Bool.true_or]

/-- Numerals keep to the alphabet. -/
theorem IsNumeral.inAlphabet {cs : List Char} (h : IsNumeral cs) :
    ∀ c ∈ cs, Formula.inAlphabet c = true := by
  have hothers : ∀ c ∈ ['.', 'e', 'E', '+', '-'], Formula.inAlphabet c = true :=
    strangers_eq_nil_iff.mp (by decide)
  have hdigits : ∀ {ds : List Char}, (∀ c ∈ ds, isDigit c = true) →
      ∀ c ∈ ds, Formula.inAlphabet c = true := fun hds c hc => inAlphabet_of_isDigit (hds c hc)
  obtain ⟨mantissa, exponent, hmantissa, hexponent, rfl⟩ := h
  refine List.forall_mem_append.mpr ⟨?_, ?_⟩
  · cases hmantissa with
    | whole _ hfront => exact hdigits hfront
    | point _ hfront hback =>
      exact List.forall_mem_append.mpr ⟨hdigits hfront,
        List.forall_mem_cons.mpr ⟨hothers _ (by simp), hdigits hback⟩⟩
  · cases hexponent with
    | missing => exact List.forall_mem_nil _
    | written hletter hsign _ hds =>
      refine List.forall_mem_cons.mpr ⟨?_, List.forall_mem_append.mpr ⟨?_, hdigits hds⟩⟩
      · rcases hletter with rfl | rfl <;> exact hothers _ (by simp)
      · rcases hsign with rfl | rfl | rfl <;> simp [hothers]

/-- Names keep to the alphabet. -/
theorem IsName.inAlphabet {s : String} (h : IsName s) :
    ∀ c ∈ s.toList, Formula.inAlphabet c = true := by
  obtain ⟨c, cs, hs, hstart, hcs⟩ := h
  rw [hs]
  exact List.forall_mem_cons.mpr ⟨inAlphabet_of_isNameChar (isNameChar_of_isNameStart hstart),
    fun d hd => inAlphabet_of_isNameChar (hcs d hd)⟩

/-- **Only in quoted texts there are characters outside the alphabet.** -/
theorem Word.Proper.strangers_chars {w : Word} (hw : w.Proper) :
    strangers w.chars = w.literals.flatMap fun s => strangers s.toList := by
  cases w with
  | digits cs => exact strangers_eq_nil_iff.mpr (IsNumeral.inAlphabet hw)
  | quoted quote s =>
    have hquotes : strangers quotes = [] := by decide
    have hquote : strangers [quote] = [] := strangers_eq_nil_iff.mpr
      (List.forall_mem_singleton.mpr (strangers_eq_nil_iff.mp hquotes quote hw.1))
    have hsplit : (Word.quoted quote s).chars = [quote] ++ (s.toList ++ [quote]) := rfl
    rw [hsplit, strangers_append, strangers_append, hquote, List.nil_append, List.append_nil,
      Word.literals, List.flatMap_singleton]
  | name s => exact strangers_eq_nil_iff.mpr (IsName.inAlphabet hw)
  | reference s =>
    have hdollar : Formula.inAlphabet '$' = true := by decide
    exact strangers_eq_nil_iff.mpr (List.forall_mem_cons.mpr ⟨hdollar, IsName.inAlphabet hw⟩)
  | mark spelling =>
    have hmarks : ∀ e ∈ Mark.spellings, strangers e.1 = [] := by decide
    obtain ⟨e, he, rfl⟩ := List.mem_map.mp hw
    exact hmarks e he

/-- **All characters outside the alphabet stand in quoted texts**, wherever the words are laid out. -/
theorem Lays.strangers_eq {ws : List Word} {cs : List Char} (h : Lays ws cs)
    (hproper : ∀ w ∈ ws, w.Proper) :
    strangers cs = (ws.flatMap Word.literals).flatMap fun s => strangers s.toList := by
  have hspacing : ∀ c ∈ spacing, Formula.inAlphabet c = true :=
    strangers_eq_nil_iff.mp (by decide)
  have hspace : ∀ {space : List Char}, (∀ c ∈ space, c ∈ spacing) → strangers space = [] := fun h =>
    strangers_eq_nil_iff.mpr fun c hc => hspacing c (h c hc)
  induction h with
  | done hs => exact hspace hs
  | word hs _ ih =>
    obtain ⟨hw, hws⟩ := List.forall_mem_cons.mp hproper
    simp [hspace hs, hw.strangers_chars, ih hws]

/-! ### The contract -/

/-- A text that is read keeps to the alphabet and compiles, or it has strangers and is refused. -/
theorem compile_eq_of_parse {text : String} {f : Formula} (h : parse text = .ok f) :
    compile text =
      if strangers text.toList = [] then .ok f else .error (.unsafeCharacters text) := by
  rw [compile, checkAlphabet, h]
  by_cases hall : text.toList.all inAlphabet = true
  · have hnone : strangers text.toList = [] := strangers_eq_nil_iff.mpr (List.all_eq_true.mp hall)
    rw [if_pos hall, if_pos hnone]
    rfl
  · have hsome : strangers text.toList ≠ [] := fun hnone =>
      hall (List.all_eq_true.mpr (strangers_eq_nil_iff.mp hnone))
    rw [if_neg hall, if_neg hsome]
    rfl

theorem checkAlphabet_eq_ok_iff {text : String} :
    checkAlphabet text = .ok () ↔ strangers text.toList = [] := by
  rw [strangers_eq_nil_iff, checkAlphabet, ← List.all_eq_true]
  split <;> simp [*]

/-- **The alphabet leaves out no formula.** The literals of a formula are the texts among its words, and
the characters of its text that are not in the alphabet are those in the literals, in this order. So the
text keeps to the alphabet just if its literals do. It compiles to the formula if it does, and if not, it
is refused for its characters. -/
theorem checkAlphabet_of_parse {text : String} {f : Formula} (h : parse text = .ok f) :
    ∃ ts, Token.readAll? text.toList = some ts ∧ f.literals = ts.flatMap Token.literals ∧
      strangers text.toList = (f.literals.flatMap fun s => strangers s.toList) ∧
      (checkAlphabet text = .ok () ↔ ∀ s ∈ f.literals, ∀ c ∈ s.toList, inAlphabet c = true) ∧
      compile text =
        if strangers text.toList = [] then .ok f else .error (.unsafeCharacters text) := by
  have hcompile := compile_eq_of_parse h
  rw [parse] at h
  cases hu : parseUnlowered text with
  | error e =>
    rw [hu] at h
    cases h
  | ok u =>
    rw [hu] at h
    obtain rfl : lower u = f := Except.ok.inj h
    obtain ⟨ws, hws, hts, hlays, hspells⟩ := exists_spells_of_parseUnlowered hu
    have hliterals : ws.flatMap Word.literals = u.lower.literals :=
      hspells.literals_eq.trans (literals_lower u).symm
    have hstrangers := hlays.strangers_eq hws
    rw [hliterals] at hstrangers
    refine ⟨ws.map Word.token, hts, ?_, hstrangers, ?_, hcompile⟩
    · rw [← hliterals, List.flatMap_map]
      simp only [literals_token]
    · simp only [checkAlphabet_eq_ok_iff, hstrangers, List.flatMap_eq_nil_iff, strangers_eq_nil_iff]

/-- A formula with two literals, of which one has a letter that is not in the alphabet, and the other a
quote of the other kind. -/
def quotedFormula : String := "if($kind === 'café', \"it's\", [-.5e+3, !$a_1 || max(1, 2)])"

/-- The formula is read, but its text is refused for the letter in its literal, and for nothing else. -/
theorem checkAlphabet_of_parse_quotedFormula :
    ∃ f, parse quotedFormula = .ok f ∧ f.literals = ["café", "it's"] ∧
      strangers quotedFormula.toList = ['é'] ∧
      compile quotedFormula = .error (.unsafeCharacters quotedFormula) := by
  have hread : (parse quotedFormula).toOption.map literals = some ["café", "it's"] := by
    decide +kernel
  have hletter : (["café", "it's"].flatMap fun s => strangers s.toList) = ['é'] := by decide
  cases h : parse quotedFormula with
  | error e =>
    rw [h] at hread
    cases hread
  | ok f =>
    rw [h] at hread
    have hf : f.literals = ["café", "it's"] := Option.some.inj hread
    obtain ⟨-, -, -, hstrangers, -, hcompile⟩ := checkAlphabet_of_parse h
    rw [hf, hletter] at hstrangers
    rw [hstrangers] at hcompile
    exact ⟨f, rfl, hf, hstrangers, hcompile⟩

end Formula

end ParametricScene
