import ParametricScene.Proofs.NumberText
import ParametricScene.Proofs.Spelling

/-!
# Spelled words are read

A text that lays out the words of a spelling is taken apart into just these words. Words are read as
long as they can be, so this needs that no word is continued by what follows it, even where no space is
left between the two. It is so because operands and marks take turns: what is behind an operand never
continues a name or a number, and what is in front of an operand never gets longer by it.

## Implementation notes

Whether a word ends is a question about the next character only (`Word.EndsAt`). Neighbours in a
spelling are compared by `List.IsChain`, and what else is known of a spelling, how it begins and how it
ends, is kept along with the chain in `Lined`, because chains are put together at both ends.

## Main definitions

* `Formula.Word.token` — the word as it is read
* `Formula.Word.EndsAt` — the word is not continued by the character
* `Formula.Lined` — words that do not continue one another

## Main results

* `Formula.IsNumeral.exists_readNumber?` — every numeral stands for a number, and is read to its end
* `Formula.Word.Proper.read?` — a word is read to its end
* `Formula.Spells.lined` — the words of a spelling do not continue one another
* `Formula.Lays.readAll?` — all words are read, in order
-/

namespace ParametricScene

namespace Formula

/-! ### Numerals -/

/-- The character continues no number and no name. -/
def EndsOperand (c : Char) : Prop := Token.isNameChar c = false ∧ c ≠ '.'

theorem EndsOperand.isDigit_eq_false {c : Char} (h : EndsOperand c) : isDigit c = false := by
  obtain ⟨hname, -⟩ := h
  rw [Token.isNameChar, Char.isAlphanum, Char.isDigit] at hname
  rw [isDigit]
  simp only [Bool.or_eq_false_iff] at hname
  exact hname.1.2

theorem EndsOperand.ne_letter {c : Char} (h : EndsOperand c) : ¬(c = 'e' ∨ c = 'E') := by
  rintro (rfl | rfl)
  · exact absurd h.1 (by decide)
  · exact absurd h.1 (by decide)

/-- Where a digit or a point stands there is no sign. -/
theorem readSign_cons {c : Char} (h : isDigit c = true ∨ c = '.') (r : List Char) :
    readSign (c :: r) = (false, c :: r) := by
  have hsigns : ∀ d ∈ ['-', '+'], ¬(isDigit d = true ∨ d = '.') := by
    simp [isDigit]
  unfold readSign
  split
  · rename_i heq
    obtain ⟨rfl, -⟩ := List.cons.inj heq
    exact absurd h (hsigns _ (by simp))
  · rename_i heq
    obtain ⟨rfl, -⟩ := List.cons.inj heq
    exact absurd h (hsigns _ (by simp))
  · rfl

/-- An exponent is read to its end, and it does not go on with what stands in front of it. -/
theorem IsExponent.exists_readExponent {cs : List Char} (h : IsExponent cs) :
    ∃ e, ∀ rest : List Char, (∀ c ∈ rest.head?, EndsOperand c) →
      readExponent (cs ++ rest) = (e, rest) ∧
        ∀ c r, cs ++ rest = c :: r → isDigit c = false ∧ c ≠ '.' := by
  cases h with
  | missing =>
    refine ⟨0, fun rest hrest => ?_⟩
    cases rest with
    | nil => exact ⟨rfl, fun _ _ h => by simp at h⟩
    | cons c r =>
      have hc := hrest c rfl
      refine ⟨?_, fun c' r' heq => ?_⟩
      · rw [List.nil_append, readExponent, if_neg fun hand => hc.ne_letter hand.1]
      · obtain ⟨rfl, -⟩ := List.cons.inj heq
        exact ⟨hc.isDigit_eq_false, hc.2⟩
  | @written letter sign digits hletter hsign hne hdigits =>
    refine ⟨if sign = ['-'] then -(digitsValue digits : Int) else digitsValue digits,
      fun rest hrest => ⟨?_, fun c r heq => ?_⟩⟩
    · have hread : readSign (sign ++ digits ++ rest) = (decide (sign = ['-']), digits ++ rest) := by
        rcases hsign with rfl | rfl | rfl
        · cases digits with
          | nil => exact absurd rfl hne
          | cons d ds => exact readSign_cons (Or.inl (hdigits d (List.mem_cons_self ..))) _
        · rfl
        · rfl
      obtain ⟨htake, hdrop⟩ := span_append rest hdigits fun c r heq =>
        (hrest c (by rw [heq]; rfl)).isDigit_eq_false
      simp only [List.cons_append, readExponent, hread, htake, hdrop, hletter, ne_eq, hne,
        not_false_eq_true, and_self, if_true, decide_eq_true_eq]
    · obtain ⟨rfl, -⟩ := List.cons.inj heq
      rcases hletter with rfl | rfl <;> decide

/-- **A numeral is read to its end.** -/
theorem IsNumeral.exists_readUnsigned? {cs : List Char} (h : IsNumeral cs) :
    ∃ d, ∀ rest : List Char, (∀ c ∈ rest.head?, EndsOperand c) →
      readUnsigned? (cs ++ rest) = some (d, rest) := by
  obtain ⟨mantissa, exponent, hmantissa, hexponent, rfl⟩ := h
  obtain ⟨e, he⟩ := hexponent.exists_readExponent
  cases hmantissa with
  | whole hne hfront =>
    refine ⟨⟨digitsValue mantissa, e⟩, fun rest hrest => ?_⟩
    obtain ⟨hread, hstop⟩ := he rest hrest
    rw [List.append_assoc]
    exact readUnsigned?_whole _ hne hfront hstop hread
  | @point front back hne hfront hback =>
    refine ⟨⟨digitsValue (front ++ back), e - (back.length : Int)⟩, fun rest hrest => ?_⟩
    obtain ⟨hread, hstop⟩ := he rest hrest
    rw [List.append_assoc, List.append_assoc, List.cons_append]
    exact readUnsigned?_point front back _ hne hfront hback (fun c r heq => (hstop c r heq).1) hread

/-- A numeral starts with a digit or a point. -/
theorem IsNumeral.exists_cons {cs : List Char} (h : IsNumeral cs) :
    ∃ c r, cs = c :: r ∧ (isDigit c = true ∨ c = '.') := by
  obtain ⟨mantissa, exponent, hmantissa, -, rfl⟩ := h
  cases hmantissa with
  | whole hne hfront =>
    obtain ⟨c, r, rfl⟩ := List.exists_cons_of_ne_nil hne
    exact ⟨c, _, rfl, Or.inl (hfront c (List.mem_cons_self ..))⟩
  | @point front _ _ hfront _ =>
    cases front with
    | nil => exact ⟨'.', _, rfl, Or.inr rfl⟩
    | cons c r => exact ⟨c, _, rfl, Or.inl (hfront c (List.mem_cons_self ..))⟩

/-- **Every numeral stands for a number**, which is what is read where it stands in a text. -/
theorem IsNumeral.exists_readNumber? {cs : List Char} (h : IsNumeral cs) :
    ∃ d : Decimal, readNumber? cs = some d.toFloat ∧
      ∀ rest : List Char, (∀ c ∈ rest.head?, EndsOperand c) →
        readUnsigned? (cs ++ rest) = some (d, rest) := by
  obtain ⟨d, hd⟩ := h.exists_readUnsigned?
  refine ⟨d, ?_, hd⟩
  have hsign : readSign cs = (false, cs) := by
    obtain ⟨c, r, rfl, hc⟩ := h.exists_cons
    exact readSign_cons hc r
  have hread := hd [] (by simp)
  rw [List.append_nil] at hread
  simp [readNumber?, hsign, hread]

/-! ### Words -/

/-- The marks that may end a formula. -/
def closers : List (List Char) := [[')'], [']']]

/-- The marks that may begin a formula. -/
def openers : List (List Char) := [['!'], ['-'], ['+'], ['('], ['[']]

namespace Word

/-- The word as it is read. -/
def token : Word → Token
  | .digits cs => .number ((readNumber? cs).getD 0)
  | .quoted _ s => .text s
  | .name s => .name s
  | .reference s => .reference s
  | .mark spelling => .mark ((Mark.spellings.lookup spelling).getD .comma)

/-- The word is one of those that there are. -/
def Proper : Word → Prop
  | .digits cs => IsNumeral cs
  | .quoted quote s => quote ∈ quotes ∧ quote ∉ s.toList
  | .name s | .reference s => IsName s
  | .mark spelling => spelling ∈ Mark.spellings.map Prod.fst

/-- The character does not continue the word. -/
def EndsAt : Word → Char → Prop
  | .mark spelling, c => spelling ∈ closers ∨ '=' ≠ c
  | .quoted _ _, _ => True
  | _, c => EndsOperand c

/-- The word is not continued by the text behind it. -/
def Ends (w : Word) (rest : List Char) : Prop := ∀ c ∈ rest.head?, w.EndsAt c

/-- The word may begin a formula. -/
def Opens : Word → Prop
  | .mark spelling => spelling ∈ openers
  | _ => True

/-- The word may end a formula. -/
def Closes : Word → Prop
  | .mark spelling => spelling ∈ closers
  | _ => True

@[simp] theorem chars_mark (spelling : List Char) : (mark spelling).chars = spelling := rfl

@[simp] theorem opens_mark {spelling : List Char} :
    (mark spelling).Opens ↔ spelling ∈ openers := Iff.rfl

@[simp] theorem closes_mark {spelling : List Char} :
    (mark spelling).Closes ↔ spelling ∈ closers := Iff.rfl

/-- No word is continued by space. -/
theorem endsAt_of_mem_spacing {c : Char} (h : c ∈ spacing) (w : Word) : w.EndsAt c := by
  have hoperand : ∀ c ∈ spacing, EndsOperand c ∧ '=' ≠ c := by
    simp [spacing, EndsOperand, Token.isNameChar]
  cases w with
  | mark => exact Or.inr (hoperand c h).2
  | quoted => trivial
  | digits => exact (hoperand c h).1
  | name => exact (hoperand c h).1
  | reference => exact (hoperand c h).1

/-! ### Reading a word -/

theorem token_mark {spelling : List Char} {m : Mark} (h : (spelling, m) ∈ Mark.spellings) :
    (mark spelling).token = .mark m := by
  have hlookup : ∀ e ∈ Mark.spellings, Mark.spellings.lookup e.1 = some e.2 := by decide
  rw [token, hlookup _ h]
  rfl

/-- A mark is read to its end. -/
theorem readMark?_append {e : List Char × Mark} (he : e ∈ Mark.spellings) {rest : List Char}
    (hrest : ∀ c ∈ rest.head?, e.1 ∈ closers ∨ '=' ≠ c) :
    Token.readMark? (e.1 ++ rest) = some (.mark e.2, rest) := by
  cases rest with
  | nil =>
    have hnil : ∀ e ∈ Mark.spellings, Token.readMark? e.1 = some (.mark e.2, []) := by
      simp [Mark.spellings, Token.readMark?, Token.behind?]
    rw [List.append_nil]
    exact hnil e he
  | cons c r =>
    -- a spelling is tried after those that extend it, and these go on with an equals sign
    have hcons : ∀ e ∈ Mark.spellings, (e.1 ∈ closers ∨ '=' ≠ c) →
        Token.readMark? (e.1 ++ c :: r) = some (.mark e.2, c :: r) := by
      simp +contextual [Mark.spellings, Token.readMark?, Token.behind?, closers]
    exact hcons e he (hrest c rfl)

/-- What starts a name starts nothing else. -/
theorem isDigit_of_isNameStart {c : Char} (h : Token.isNameStart c = true) :
    (isDigit c || c == '.') = false ∧ Token.isQuote c = false := by
  have hmarks : ∀ d ∈ ['.', '"', '\x27'], Token.isNameStart d = false := by
    simp [Token.isNameStart]
  have hne : ∀ d ∈ ['.', '"', '\x27'], c ≠ d := by
    rintro d hd rfl
    rw [hmarks c hd] at h
    exact Bool.false_ne_true h
  have hdigit : isDigit c = false := by
    by_contra hdigit
    have hcode : ((decide (c.val ≥ 'A'.val ∧ c.val ≤ 'Z'.val) ||
        (decide (c.val ≥ 'a'.val) && decide (c.val ≤ 'z'.val))) || c == '_') = true := h
    simp only [isDigit, Char.le_def, UInt32.le_iff_toNat_le, Bool.or_eq_true, Bool.and_eq_true,
      decide_eq_true_eq, beq_iff_eq, Bool.not_eq_false, ge_iff_le, Char.reduceVal,
      UInt32.reduceToNat] at hcode hdigit
    rcases hcode with (hcode | hcode) | rfl
    · omega
    · omega
    · exact absurd hdigit (by decide)
  obtain ⟨hpoint, hdouble, hsingle⟩ : c ≠ '.' ∧ c ≠ '"' ∧ c ≠ '\x27' := by simpa using hne
  simp [hdigit, Token.isQuote, hpoint, hdouble, hsingle]

/-- **A word is read to its end.** -/
theorem Proper.read? {w : Word} (hw : w.Proper) {rest : List Char} (hrest : w.Ends rest) :
    Token.read? (w.chars ++ rest) = some (w.token, rest) := by
  cases w with
  | digits cs =>
    obtain ⟨d, hnumber, hread⟩ := IsNumeral.exists_readNumber? hw
    obtain ⟨c, r, rfl, hc⟩ := IsNumeral.exists_cons hw
    have hstart : (isDigit c || c == '.') = true := by simpa using hc
    have hread' := hread rest hrest
    rw [List.cons_append] at hread'
    simp only [chars, token, List.cons_append, Token.read?, hstart, if_true, hread', hnumber,
      Option.map_some, Option.getD_some]
  | quoted quote s =>
    obtain ⟨hquote, hs⟩ := hw
    have hstart : ∀ c ∈ quotes, (isDigit c || c == '.') = false ∧ Token.isQuote c = true := by
      simp [quotes, isDigit, Token.isQuote]
    obtain ⟨hdigit, hisQuote⟩ := hstart quote hquote
    obtain ⟨htake, hdrop⟩ := span_append (p := (· != quote)) (quote :: rest)
      (fun c hc => bne_iff_ne.mpr fun heq => hs (heq ▸ hc))
      (fun c r heq => by rw [← (List.cons.inj heq).1, bne_self_eq_false])
    simp only [chars, token, List.cons_append, List.append_assoc, List.nil_append, Token.read?,
      hdigit, hisQuote, Bool.false_eq_true, if_false, if_true, htake, hdrop, String.ofList_toList]
  | name s =>
    obtain ⟨c, cs, hs, hstart, hcs⟩ := hw
    obtain ⟨hdigit, hquote⟩ := isDigit_of_isNameStart hstart
    obtain ⟨htake, hdrop⟩ := span_append rest hcs fun c r heq => (hrest c (by rw [heq]; rfl)).1
    have hname : String.ofList (c :: cs) = s := by rw [← hs, String.ofList_toList]
    simp only [chars, token, hs, List.cons_append, Token.read?, hdigit, hquote, hstart, htake, hdrop,
      hname, Bool.false_eq_true, if_false, if_true]
  | reference s =>
    obtain ⟨c, cs, hs, hstart, hcs⟩ := hw
    obtain ⟨htake, hdrop⟩ := span_append rest hcs fun c r heq => (hrest c (by rw [heq]; rfl)).1
    have hname : String.ofList (c :: cs) = s := by rw [← hs, String.ofList_toList]
    have hdollar : (isDigit '$' || '$' == '.') = false ∧ Token.isQuote '$' = false ∧
        Token.isNameStart '$' = false := by decide
    simp only [chars, token, hs, List.cons_append, Token.read?, hdollar, hstart, htake, hdrop, hname,
      Bool.false_eq_true, if_false, if_true, beq_self_eq_true]
  | mark spelling =>
    obtain ⟨e, he, rfl⟩ := List.mem_map.mp hw
    have hstart : ∀ e ∈ Mark.spellings, ∃ c r, e.1 = c :: r ∧ (isDigit c || c == '.') = false ∧
        Token.isQuote c = false ∧ Token.isNameStart c = false ∧ (c == '$') = false := by
      simp [Mark.spellings, isDigit, Token.isQuote, Token.isNameStart]
    obtain ⟨c, r, hspelling, hdigit, hquote, hname, hdollar⟩ := hstart e he
    have hread := readMark?_append he hrest
    rw [hspelling, List.cons_append] at hread
    rw [token_mark (m := e.2) he, chars, hspelling]
    simp only [List.cons_append, Token.read?, hdigit, hquote, hname, hdollar, Bool.false_eq_true,
      if_false, hread]

/-! ### How words begin -/

/-- A word begins with a character that is no space, and if it begins a formula, then that character
goes on with no mark. -/
theorem Proper.exists_cons {w : Word} (hw : w.Proper) :
    ∃ c r, w.chars = c :: r ∧ c ∉ spacing ∧ (w.Opens → '=' ≠ c) := by
  cases w with
  | digits cs =>
    obtain ⟨c, r, hcs, hc⟩ := IsNumeral.exists_cons hw
    have hnone : ∀ d ∈ '=' :: spacing, ¬(isDigit d = true ∨ d = '.') := by
      simp [spacing, isDigit]
    have hnot : c ∉ '=' :: spacing := fun hmem => hnone c hmem hc
    rw [List.mem_cons, not_or] at hnot
    exact ⟨c, r, hcs, hnot.2, fun _ => Ne.symm hnot.1⟩
  | quoted quote s =>
    have hquotes : ∀ c ∈ quotes, c ∉ spacing ∧ '=' ≠ c := by simp [quotes, spacing]
    obtain ⟨hspace, hne⟩ := hquotes quote hw.1
    exact ⟨quote, _, rfl, hspace, fun _ => hne⟩
  | name s =>
    obtain ⟨c, cs, hs, hstart, -⟩ := hw
    have hnone : ∀ d ∈ '=' :: spacing, Token.isNameStart d = false := by
      simp [spacing, Token.isNameStart]
    have hnot : c ∉ '=' :: spacing := fun hmem => by simp [hnone c hmem] at hstart
    rw [List.mem_cons, not_or] at hnot
    exact ⟨c, cs, hs, hnot.2, fun _ => Ne.symm hnot.1⟩
  | reference s => exact ⟨'$', _, rfl, by decide, fun _ => by decide⟩
  | mark spelling =>
    obtain ⟨e, he, rfl⟩ := List.mem_map.mp hw
    have hstart : ∀ e ∈ Mark.spellings, ∃ c r, e.1 = c :: r ∧ c ∉ spacing ∧
        (e.1 ∈ openers → '=' ≠ c) := by
      simp [Mark.spellings, spacing, openers]
    exact hstart e he

end Word

/-! ### Words in a row -/

/-- The marks that stand between operands, none of which continues an operand. -/
def separators : List (List Char) := ['?'] :: [':'] :: [','] :: infixes.map Prod.fst

/-- Words that do not continue one another, from one that may begin a formula to one that may end
it. -/
structure Lined (ws : List Word) : Prop where
  proper : ∀ w ∈ ws, w.Proper
  chain : ws.IsChain fun w w' => w.Ends w'.chars
  first : ∀ w ∈ ws.head?, w.Opens
  last : ∀ w ∈ ws.getLast?, w.Closes

namespace Lined

theorem nil : Lined [] := ⟨by simp, .nil, by simp, by simp⟩

theorem single {w : Word} (hw : w.Proper) (hopens : w.Opens) (hcloses : w.Closes) : Lined [w] :=
  ⟨by simpa using hw, .singleton w, by simpa using hopens, by simpa using hcloses⟩

/-- What may end a formula ends before a mark that is not the beginning of another. -/
theorem ends_of_closes {w : Word} (hw : w.Closes) {spelling : List Char}
    (hspelling : spelling ∈ separators ++ closers ++ [['(']]) : w.Ends spelling := by
  have hoperand : ∀ s ∈ separators ++ closers ++ [['(']], ∀ c ∈ s.head?, EndsOperand c := by
    simp [separators, infixes, closers, EndsOperand, Token.isNameChar]
  cases w with
  | mark => exact fun c _ => Or.inl hw
  | quoted => exact fun c _ => trivial
  | digits => exact hoperand spelling hspelling
  | name => exact hoperand spelling hspelling
  | reference => exact hoperand spelling hspelling

/-- A mark ends before what may begin a formula. -/
theorem ends_of_opens {w : Word} (hproper : w.Proper) (hw : w.Opens) (spelling : List Char) :
    (Word.mark spelling).Ends w.chars := by
  obtain ⟨c, r, hchars, -, hne⟩ := hproper.exists_cons
  rw [hchars]
  intro c' hc'
  obtain rfl := Option.some.inj hc'
  exact Or.inr (hne hw)

/-- A mark in front. -/
theorem cons {ws : List Word} (h : Lined ws) (hne : ws ≠ []) {spelling : List Char}
    (hopens : spelling ∈ openers) : Lined (.mark spelling :: ws) := by
  have hproper : ∀ s ∈ openers, (Word.mark s).Proper := by
    unfold Word.Proper
    decide
  refine ⟨List.forall_mem_cons.mpr ⟨hproper spelling hopens, h.proper⟩, ?_, by simpa using hopens, ?_⟩
  · refine List.isChain_cons.mpr ⟨fun w hw => ?_, h.chain⟩
    exact ends_of_opens (h.proper w (List.mem_of_mem_head? hw)) (h.first w hw) spelling
  · rw [List.getLast?_cons_of_ne_nil hne]
    exact h.last

/-- Two formulas with a mark between them. -/
theorem join {ws ws' : List Word} (h : Lined ws) (h' : Lined ws') (hne : ws ≠ []) (hne' : ws' ≠ [])
    {spelling : List Char} (hspelling : spelling ∈ separators) :
    Lined (ws ++ .mark spelling :: ws') := by
  have hproper : ∀ s ∈ separators, (Word.mark s).Proper := by
    unfold Word.Proper
    decide
  refine ⟨fun w hw => ?_, ?_, ?_, ?_⟩
  · rcases List.mem_append.mp hw with hw | hw
    · exact h.proper w hw
    · exact List.forall_mem_cons.mpr ⟨hproper spelling hspelling, h'.proper⟩ w hw
  · refine List.isChain_append.mpr ⟨h.chain, List.isChain_cons.mpr ⟨fun w hw => ?_, h'.chain⟩, ?_⟩
    · exact ends_of_opens (h'.proper w (List.mem_of_mem_head? hw)) (h'.first w hw) spelling
    · intro w hw m hm
      obtain rfl := Option.some.inj hm
      exact ends_of_closes (h.last w hw) (by simp [hspelling])
  · rw [List.head?_append_of_ne_nil _ hne]
    exact h.first
  · rw [List.getLast?_append_of_ne_nil _ (List.cons_ne_nil _ _), List.getLast?_cons_of_ne_nil hne']
    exact h'.last

/-- Words between brackets. -/
theorem bracket {ws : List Word} (h : Lined ws) {opening closing : List Char}
    (hopening : opening ∈ [['('], ['[']]) (hclosing : closing ∈ closers) :
    Lined (.mark opening :: (ws ++ [.mark closing])) := by
  have hproper : ∀ s ∈ ['('] :: ['['] :: closers, (Word.mark s).Proper := by
    unfold Word.Proper
    decide
  have hnext : ∀ s ∈ closers, ∀ c ∈ s.head?, '=' ≠ c := by simp [closers]
  have hopeners : ∀ s ∈ [['('], ['[']], s ∈ openers := by decide
  refine ⟨List.forall_mem_cons.mpr ⟨hproper opening ?_, fun w hw => ?_⟩, ?_, ?_, ?_⟩
  · rcases List.mem_pair.mp hopening with rfl | rfl <;> simp
  · rcases List.mem_append.mp hw with hw | hw
    · exact h.proper w hw
    · rw [List.mem_singleton.mp hw]
      exact hproper closing (by simp [hclosing])
  · refine List.isChain_cons.mpr ⟨fun w hw => ?_, List.isChain_append.mpr
      ⟨h.chain, .singleton _, fun w hw m hm => ?_⟩⟩
    · -- the first word behind the opening bracket is one of those inside, or the closing bracket
      rcases hws : ws.head? with _ | first
      · rw [List.head?_append, hws] at hw
        obtain rfl := Option.some.inj hw
        exact fun c hc => Or.inr (hnext closing hclosing c hc)
      · rw [List.head?_append, hws] at hw
        obtain rfl := Option.some.inj hw
        exact ends_of_opens (h.proper first (List.mem_of_mem_head? hws)) (h.first first hws) opening
    · obtain rfl := Option.some.inj hm
      exact ends_of_closes (h.last w hw) (by simp [hclosing])
  · simpa using hopeners opening hopening
  · rw [List.getLast?_cons_of_ne_nil (by simp), List.getLast?_concat]
    simpa using hclosing

/-- A name in front of an opening parenthesis. -/
theorem call {ws : List Word} {n : String} (hn : IsName n) (h : Lined (.mark ['('] :: ws)) :
    Lined (.name n :: .mark ['('] :: ws) := by
  refine ⟨List.forall_mem_cons.mpr ⟨hn, h.proper⟩, List.isChain_cons.mpr ⟨fun w hw => ?_, h.chain⟩,
    fun w hw => ?_, ?_⟩
  · obtain rfl := Option.some.inj hw
    exact ends_of_closes (w := .name n) trivial (by simp)
  · obtain rfl := Option.some.inj hw
    trivial
  · rw [List.getLast?_cons_of_ne_nil (List.cons_ne_nil _ _)]
    exact h.last

end Lined

/-- What is spelled is expressible. -/
def Phrase.Expressible : Phrase → Prop
  | .formula _ f => f.Expressible
  | .items fs => ExpressibleAll fs

/-- There is no formula without words. -/
theorem Spells.ne_nil {p : Phrase} {ws : List Word} (h : Spells p ws) (hp : p ≠ .items []) :
    ws ≠ [] := by
  induction h with
  | loosen _ ih => exact ih (by simp)
  | single _ ih => exact ih (by simp)
  | empty => exact absurd rfl hp
  | _ => simp

/-- **The words of a spelling do not continue one another.** -/
theorem Spells.lined {p : Phrase} {ws : List Word} (h : Spells p ws) (hp : p.Expressible) :
    Lined ws := by
  have hinfixes : ∀ e ∈ infixes, e.1 ∈ separators := by decide
  have hothers : ['?'] ∈ separators ∧ [':'] ∈ separators ∧ [','] ∈ separators := by
    simp [separators]
  induction h with
  | number hdigits _ => exact .single hdigits trivial trivial
  | text hquote hs => exact .single ⟨hquote, hs⟩ trivial trivial
  | @boolean b =>
    refine .single ?_ trivial trivial
    cases b with
    | true => exact ⟨'t', ['r', 'u', 'e'], rfl, by decide, by simp [Token.isNameChar]⟩
    | false => exact ⟨'f', ['a', 'l', 's', 'e'], rfl, by decide, by simp [Token.isNameChar]⟩
  | reference => exact .single hp trivial trivial
  | identifier => exact .single hp.1 trivial trivial
  | list _ ih => exact (ih hp).bracket (by simp) (by simp [closers])
  | call _ ih => exact .call hp.1 ((ih hp.2.2.2.2).bracket (by simp) (by simp [closers]))
  | parens _ ih => exact (ih hp).bracket (by simp) (by simp [closers])
  | @unary op _ _ h ih =>
    have hopener : ∀ op, prefixSpelling op ∈ openers := fun op => by cases op <;> decide
    exact (ih hp).cons (h.ne_nil (by simp)) (hopener op)
  | joint hj hl hr ihl ihr =>
    obtain ⟨hpl, hpr⟩ := expressible_apply.mp hp
    exact (ihl hpl).join (ihr hpr) (hl.ne_nil (by simp)) (hr.ne_nil (by simp)) (hinfixes _ hj)
  | choice hc hy hn ihc ihy ihn =>
    obtain ⟨hpc, hpy, hpn⟩ := hp
    have hbranches := (ihy hpy).join (ihn hpn) (hy.ne_nil (by simp)) (hn.ne_nil (by simp)) hothers.2.1
    exact (ihc hpc).join hbranches (hc.ne_nil (by simp)) (by simp) hothers.1
  | loosen _ ih => exact ih hp
  | empty => exact .nil
  | single _ ih => exact ih hp.1
  | more h hrest ih ihrest =>
    exact (ih hp.1).join (ihrest hp.2) (h.ne_nil (by simp)) (hrest.ne_nil (by simp)) hothers.2.2

/-! ### Reading all words -/

theorem readAll?_of_dropWhile_nil {cs : List Char} (h : cs.dropWhile Token.isSpace = []) :
    Token.readAll? cs = some [] := by
  rw [Token.readAll?]
  split
  · rfl
  · rename_i heq
    rw [h] at heq
    cases heq

theorem readAll?_of_read? {cs tail : List Char} {c : Char} {rest : List Char} {t : Token}
    (h : cs.dropWhile Token.isSpace = c :: rest) (hread : Token.read? (c :: rest) = some (t, tail)) :
    Token.readAll? cs = (Token.readAll? tail).map (t :: ·) := by
  rw [Token.readAll?]
  split
  · rename_i heq
    rw [h] at heq
    cases heq
  · rename_i heq
    rw [h] at heq
    obtain ⟨rfl, rfl⟩ := List.cons.inj heq
    split
    · rename_i hnone
      rw [hread] at hnone
      cases hnone
    · rename_i hsome
      rw [hread] at hsome
      obtain ⟨rfl, rfl⟩ := Prod.mk.inj (Option.some.inj hsome)
      rfl

/-- A text that keeps to the alphabet compiles to the formula that its words spell, with the first
calls of `if` as conditionals. -/
theorem compile_of_readAll? {text : String} {ts : List Token} {f : Formula}
    (halphabet : text.toList.all inAlphabet = true) (hwords : Token.readAll? text.toList = some ts)
    (hf : ofTokens? ts = some f) : compile text = .ok f.lower := by
  rw [compile, checkAlphabet, if_pos halphabet, parse, parseUnlowered, hwords, Option.bind_some, hf]
  rfl

theorem isSpace_iff {c : Char} : Token.isSpace c = true ↔ c ∈ spacing := by
  simp [Token.isSpace, spacing, or_assoc]

/-- A word is not continued by the words laid out behind it if it is not continued by the first of
them. -/
theorem Lays.ends {ws : List Word} {cs : List Char} (h : Lays ws cs)
    (hproper : ∀ w ∈ ws, w.Proper) {w : Word} (hnext : ∀ w' ∈ ws.head?, w.Ends w'.chars) :
    w.Ends cs := by
  cases h with
  | done hspace =>
    exact fun c hc => w.endsAt_of_mem_spacing (hspace c (List.mem_of_mem_head? hc))
  | @word space cs w' ws hspace _ =>
    intro c hc
    cases space with
    | nil =>
      obtain ⟨c', r, hchars, -⟩ := (hproper w' (List.mem_cons_self ..)).exists_cons
      rw [hchars] at hc
      refine hnext w' rfl c ?_
      rw [hchars]
      exact hc
    | cons c' space =>
      obtain rfl := Option.some.inj hc
      exact w.endsAt_of_mem_spacing (hspace c' (List.mem_cons_self ..))

/-- **All words are read, in order.** -/
theorem Lays.readAll? {ws : List Word} {cs : List Char} (h : Lays ws cs)
    (hproper : ∀ w ∈ ws, w.Proper) (hchain : ws.IsChain fun w w' => w.Ends w'.chars) :
    Token.readAll? cs = some (ws.map Word.token) := by
  induction h with
  | @done space hspace =>
    obtain ⟨-, hdrop⟩ := span_append [] (fun c hc => isSpace_iff.mpr (hspace c hc)) (by simp)
    rw [List.append_nil] at hdrop
    exact readAll?_of_dropWhile_nil hdrop
  | @word space cs w ws hspace hrest ih =>
    obtain ⟨hw, hws⟩ := List.forall_mem_cons.mp hproper
    obtain ⟨hnext, hchain'⟩ := List.isChain_cons.mp hchain
    obtain ⟨c, r, hchars, hc, -⟩ := hw.exists_cons
    obtain ⟨-, hdrop⟩ := span_append (c :: (r ++ cs)) (fun c hc => isSpace_iff.mpr (hspace c hc))
      (fun c' _ heq => by
        rw [← (List.cons.inj heq).1, ← Bool.not_eq_true, isSpace_iff]
        exact hc)
    have hread := hw.read? (hrest.ends hws hnext)
    rw [hchars, List.cons_append] at hread ⊢
    rw [readAll?_of_read? hdrop hread, ih hws hchain']
    rfl

end Formula

end ParametricScene
