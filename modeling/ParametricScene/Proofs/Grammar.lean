import Mathlib.Data.List.TakeWhile
import ParametricScene.Proofs.Scanning

/-!
# What is read is spelled

A text that spells a formula is read as that formula. This file is about the other direction: a text is read
as nothing but what it spells. So no character of a text that is read goes unaccounted for. It is space
between words, or it belongs to one of the words, and the words spell the formula by the rules of the
writer.

It is shown in two steps, as reading goes. The words of a text are words of a spelling, each with its
characters at the front of what is left of the text. And each reader of words takes some of them, from the
front, that spell its answer at its level.

## Implementation notes

Readers go on with the words that another has left, so what a reader does is said of the words from which
the tokens come and not of the tokens (`Reader.Finds`): the words are the same however far reading has
got, and what has been used of them is spelled.

## Main definitions

* `Formula.Taken` — an answer is spelled by the first of some words, and the others are left
* `Formula.Reader.Finds` — whatever the reader answers is spelled by the words it takes

## Main results

* `Formula.exists_lays_of_readAll?` — a text whose words are read is laid out from words of a spelling
* `Formula.finds_expression` — what is read as a formula spells it
* `Formula.exists_spells_of_parseUnlowered` — every text that is read is spelled
-/

namespace ParametricScene

namespace Formula

/-! ### Numerals -/

/-- What is taken for a sign is one, and it would be in front of any other digit. -/
theorem exists_sign (cs : List Char) :
    ∃ sign, (sign = [] ∨ sign = ['+'] ∨ sign = ['-']) ∧ cs = sign ++ (readSign cs).2 ∧
      ∀ d ds, isDigit d = true → readSign (sign ++ d :: ds) = ((readSign cs).1, d :: ds) := by
  fun_cases readSign cs with
  | case1 rest => exact ⟨['-'], by simp, rfl, fun _ _ _ => rfl⟩
  | case2 rest => exact ⟨['+'], by simp, rfl, fun _ _ _ => rfl⟩
  | case3 => exact ⟨[], by simp, rfl, fun d ds hd => readSign_cons (Or.inl hd) ds⟩

/-- What is taken for an exponent is one, which may be missing. -/
theorem exists_exponent (cs : List Char) :
    ∃ front, IsExponent front ∧ cs = front ++ (readExponent cs).2 ∧
      readExponent front = ((readExponent cs).1, []) := by
  cases cs with
  | nil => exact ⟨[], .missing, rfl, rfl⟩
  | cons letter rest =>
    obtain ⟨sign, hsign, hrest, hread⟩ := exists_sign rest
    have hdigits : ∀ c ∈ (readSign rest).2.takeWhile isDigit, isDigit c = true := fun _ =>
      List.mem_takeWhile_imp
    have hspan := List.takeWhile_append_dropWhile (p := isDigit) (l := (readSign rest).2)
    by_cases h : (letter = 'e' ∨ letter = 'E') ∧ (readSign rest).2.takeWhile isDigit ≠ []
    · obtain ⟨d, ds, hcons⟩ := List.exists_cons_of_ne_nil h.2
      have hd : isDigit d = true := hdigits d (by rw [hcons]; exact List.mem_cons_self ..)
      have hsigned := hread d ds hd
      obtain ⟨htake, hdrop⟩ := span_append [] hdigits (by simp)
      rw [← hcons] at hsigned
      rw [List.append_nil] at htake hdrop
      refine ⟨letter :: (sign ++ (readSign rest).2.takeWhile isDigit), .written h.1 hsign h.2 hdigits,
        ?_, ?_⟩
      · rw [readExponent, if_pos h, List.cons_append, List.append_assoc, hspan, ← hrest]
      · rw [readExponent, readExponent, if_pos h, hsigned, htake, hdrop, if_pos h]
    · refine ⟨[], .missing, ?_, ?_⟩
      · rw [readExponent, if_neg h, List.nil_append]
      · rw [readExponent, readExponent, if_neg h]

/-- What is taken for a number is a numeral. -/
theorem exists_numeral {cs rest : List Char} {d : Decimal}
    (h : readUnsigned? cs = some (d, rest)) :
    ∃ digits, IsNumeral digits ∧ cs = digits ++ rest ∧ readUnsigned? digits = some (d, []) := by
  have hfront : ∀ c ∈ cs.takeWhile isDigit, isDigit c = true := fun _ => List.mem_takeWhile_imp
  have hspan := List.takeWhile_append_dropWhile (p := isDigit) (l := cs)
  simp only [readUnsigned?] at h
  split at h
  · cases h
  · rename_i hne
    obtain ⟨rfl, rfl⟩ := Prod.mk.inj (Option.some.inj h)
    obtain ⟨exponent, hexponent, hsplit, hread⟩ :=
      exists_exponent (readFraction (cs.dropWhile isDigit)).2
    -- an exponent does not go on with the digits in front of it
    obtain ⟨_, hends⟩ := hexponent.exists_readExponent
    have hstop := (hends [] (by simp)).2
    rw [List.append_nil] at hstop
    generalize cs.takeWhile isDigit = front at *
    generalize cs.dropWhile isDigit = behind at *
    have hfraction : readFraction behind = ([], behind) ∨ ∃ back, behind = '.' :: back := by
      fun_cases readFraction behind <;> simp
    rcases hfraction with hnone | ⟨back, rfl⟩
    · rw [hnone] at hsplit hread hne ⊢
      have hone : front ≠ [] := fun heq => hne ⟨heq, rfl⟩
      refine ⟨front ++ exponent, ⟨_, _, .whole hone hfront, hexponent, rfl⟩, ?_, ?_⟩
      · rw [← hspan, List.append_assoc, ← hsplit]
      · rw [List.append_nil, List.length_nil, Nat.cast_zero, sub_zero]
        exact readUnsigned?_whole exponent hone hfront hstop hread
    · have hback : ∀ c ∈ back.takeWhile isDigit, isDigit c = true := fun _ => List.mem_takeWhile_imp
      have hspan' := List.takeWhile_append_dropWhile (p := isDigit) (l := back)
      have hone : front ≠ [] ∨ back.takeWhile isDigit ≠ [] := not_and_or.mp hne
      simp only [readFraction] at hsplit hread ⊢
      refine ⟨(front ++ '.' :: back.takeWhile isDigit) ++ exponent,
        ⟨_, _, .point hone hfront hback, hexponent, rfl⟩, ?_, ?_⟩
      · rw [← hspan, List.append_assoc, List.append_assoc, List.cons_append, ← hsplit, hspan']
      · rw [List.append_assoc, List.cons_append]
        exact readUnsigned?_point front _ _ hone hfront hback (fun c r heq => (hstop c r heq).1) hread

/-! ### Words that are read -/

/-- A number that is read is a word of digits. -/
theorem exists_digits {cs rest : List Char} {d : Decimal} (h : readUnsigned? cs = some (d, rest)) :
    ∃ digits, (Word.digits digits).Proper ∧ (Word.digits digits).token = .number d.toFloat ∧
      cs = digits ++ rest := by
  obtain ⟨digits, hdigits, hcs, hself⟩ := exists_numeral h
  obtain ⟨d', hnumber, hread⟩ := hdigits.exists_readNumber?
  have hd := hread [] (by simp)
  rw [List.append_nil, hself] at hd
  obtain ⟨rfl, -⟩ := Prod.mk.inj (Option.some.inj hd)
  exact ⟨digits, hdigits, by rw [Word.token, hnumber, Option.getD_some], hcs⟩

/-- A quote and all up to the next quote of its kind are a quoted text. -/
theorem exists_quoted {quote close : Char} {cs behind : List Char}
    (hquote : Token.isQuote quote = true) (hdrop : cs.dropWhile (· != quote) = close :: behind) :
    (Word.quoted quote (String.ofList (cs.takeWhile (· != quote)))).Proper ∧
      quote :: cs =
        (Word.quoted quote (String.ofList (cs.takeWhile (· != quote)))).chars ++ behind := by
  have hclose : close = quote := by
    have hstop := List.head_dropWhile_not (· != quote) (l := cs) (by rw [hdrop]; simp)
    simpa [hdrop] using hstop
  have hinner : quote ∉ cs.takeWhile (· != quote) := fun hmem => by
    simpa using List.mem_takeWhile_imp hmem
  have hspan := List.takeWhile_append_dropWhile (p := (· != quote)) (l := cs)
  refine ⟨⟨by simpa [Token.isQuote, quotes] using hquote, by rwa [String.toList_ofList]⟩, ?_⟩
  rw [Word.chars, String.toList_ofList, List.cons_append, List.append_assoc, List.singleton_append,
    ← hclose, ← hdrop, hclose, hspan]

/-- A first character of a name and the name characters behind it are a name. -/
theorem isName_takeWhile {c : Char} (hc : Token.isNameStart c = true) (cs : List Char) :
    IsName (String.ofList (c :: cs.takeWhile Token.isNameChar)) :=
  ⟨c, _, String.toList_ofList, hc, fun _ => List.mem_takeWhile_imp⟩

/-- A text that goes on behind a spelling starts with the spelling. -/
theorem eq_append_of_behind? {spelling cs rest : List Char}
    (h : Token.behind? spelling cs = some rest) : cs = spelling ++ rest := by
  induction spelling generalizing cs with
  | nil => exact Option.some.inj h
  | cons s spelling ih =>
    cases cs with
    | nil => cases h
    | cons c cs =>
      rw [Token.behind?] at h
      split at h
      · rename_i heq
        rw [heq, ih h, List.cons_append]
      · cases h

/-- A mark that is read is spelled in one of its ways. -/
theorem exists_spelling {cs rest : List Char} {t : Token} (h : Token.readMark? cs = some (t, rest)) :
    ∃ e ∈ Mark.spellings, t = .mark e.2 ∧ cs = e.1 ++ rest := by
  obtain ⟨e, he, hbehind⟩ := List.exists_of_findSome?_eq_some h
  obtain ⟨rest', hrest', heq⟩ := Option.map_eq_some_iff.mp hbehind
  obtain ⟨rfl, rfl⟩ := Prod.mk.inj heq
  exact ⟨e, he, rfl, eq_append_of_behind? hrest'⟩

/-- **Every word that is read is a word of a spelling**, and stands at the front of the text. -/
theorem exists_word {cs rest : List Char} {t : Token} (h : Token.read? cs = some (t, rest)) :
    ∃ w : Word, w.Proper ∧ w.token = t ∧ cs = w.chars ++ rest := by
  fun_cases Token.read? cs with
  | case1 => cases h
  | case2 c tail hstart =>
    simp only [Token.read?.eq_def, hstart, if_true] at h
    obtain ⟨⟨d, behind⟩, hread, heq⟩ := Option.map_eq_some_iff.mp h
    obtain ⟨rfl, rfl⟩ := Prod.mk.inj heq
    obtain ⟨digits, hdigits⟩ := exists_digits hread
    exact ⟨.digits digits, hdigits⟩
  | case3 c tail hdigit hquote hdrop =>
    simp only [Token.read?.eq_def, hdigit, hquote, hdrop, if_true, Bool.false_eq_true, if_false] at h
    cases h
  | case4 c tail hdigit hquote close behind hdrop =>
    simp only [Token.read?.eq_def, hdigit, hquote, hdrop, if_true, Bool.false_eq_true, if_false] at h
    obtain ⟨rfl, rfl⟩ := Prod.mk.inj (Option.some.inj h)
    obtain ⟨hproper, hchars⟩ := exists_quoted hquote hdrop
    exact ⟨_, hproper, rfl, hchars⟩
  | case5 c tail hdigit hquote hstart =>
    simp only [Token.read?.eq_def, hdigit, hquote, hstart, if_true, Bool.false_eq_true, if_false] at h
    obtain ⟨rfl, rfl⟩ := Prod.mk.inj (Option.some.inj h)
    refine ⟨.name _, isName_takeWhile hstart tail, rfl, ?_⟩
    rw [Word.chars, String.toList_ofList, List.cons_append, List.takeWhile_append_dropWhile]
  | case6 c hdigit hquote hstart hdollar first more hfirst =>
    simp only [Token.read?.eq_def, hdigit, hquote, hstart, hdollar, hfirst, if_true,
      Bool.false_eq_true, if_false] at h
    obtain ⟨rfl, rfl⟩ := Prod.mk.inj (Option.some.inj h)
    refine ⟨.reference _, isName_takeWhile hfirst more, rfl, ?_⟩
    rw [Word.chars, String.toList_ofList, List.cons_append, List.cons_append,
      List.takeWhile_append_dropWhile, eq_of_beq hdollar]
  | case7 c hdigit hquote hstart hdollar first more hfirst =>
    simp only [Token.read?.eq_def, hdigit, hquote, hstart, hdollar, hfirst, if_true,
      Bool.false_eq_true, if_false] at h
    cases h
  | case8 c hdigit hquote hstart hdollar =>
    simp only [Token.read?.eq_def, hdigit, hquote, hstart, hdollar, if_true, Bool.false_eq_true,
      if_false] at h
    cases h
  | case9 c tail hdigit hquote hstart hdollar =>
    simp only [Token.read?.eq_def, hdigit, hquote, hstart, hdollar, Bool.false_eq_true, if_false] at h
    obtain ⟨e, he, rfl, hcs⟩ := exists_spelling h
    exact ⟨.mark e.1, List.mem_map.mpr ⟨e, he, rfl⟩, Word.token_mark he, hcs⟩

/-- **A text whose words are read is laid out** from words of a spelling. -/
theorem exists_lays_of_readAll? {cs : List Char} {ts : List Token}
    (h : Token.readAll? cs = some ts) :
    ∃ ws : List Word, (∀ w ∈ ws, w.Proper) ∧ ws.map Word.token = ts ∧ Lays ws cs := by
  fun_induction Token.readAll? cs generalizing ts with
  | case1 cs hdrop =>
    obtain rfl := Option.some.inj h
    refine ⟨[], List.forall_mem_nil _, rfl, .done fun c hc => ?_⟩
    exact isSpace_iff.mp (List.dropWhile_eq_nil_iff.mp hdrop c hc)
  | case2 => cases h
  | case3 cs c rest hdrop t tail hread ih =>
    obtain ⟨ts', hts', rfl⟩ := Option.map_eq_some_iff.mp h
    obtain ⟨w, hw, rfl, hchars⟩ := exists_word hread
    obtain ⟨ws, hws, rfl, hlays⟩ := ih hts'
    have hspan := List.takeWhile_append_dropWhile (p := Token.isSpace) (l := cs)
    refine ⟨w :: ws, List.forall_mem_cons.mpr ⟨hw, hws⟩, rfl, ?_⟩
    rw [← hspan, hdrop, hchars]
    exact .word (fun c hc => isSpace_iff.mp (List.mem_takeWhile_imp hc)) hlays

/-! ### Words that stand for marks -/

namespace Word.Proper

variable {w : Word}

/-- A word that is read as a mark is a spelling of the mark. -/
theorem exists_eq_mark (hw : w.Proper) {m : Mark} (h : w.token = .mark m) :
    ∃ spelling, (spelling, m) ∈ Mark.spellings ∧ w = .mark spelling := by
  cases w with
  | mark spelling =>
    obtain ⟨e, he, rfl⟩ := List.mem_map.mp hw
    obtain rfl := Token.mark.inj ((token_mark he).symm.trans h)
    exact ⟨e.1, he, rfl⟩
  | digits | quoted | name | reference => cases h

/-- A word that is read as a mark with only one spelling is that spelling. -/
theorem eq_mark (hw : w.Proper) {m : Mark} (spelling : List Char)
    (honly : ∀ e ∈ Mark.spellings, e.2 = m → e.1 = spelling) (h : w.token = .mark m) :
    w = .mark spelling := by
  obtain ⟨spelling', hmem, rfl⟩ := hw.exists_eq_mark h
  exact congrArg Word.mark (honly _ hmem rfl)

/-- A word that stands for an operator between operands is one of its spellings. -/
theorem exists_mem_infixes (hw : w.Proper) {level : Nat} {j : Joint}
    (h : jointAt? level w.token = some j) :
    ∃ spelling, w = .mark spelling ∧ (spelling, level + 1, j) ∈ infixes := by
  have hall : ∀ e ∈ Mark.spellings, ∀ k ∈ joint? e.2, (e.1, k.1 + 1, k.2) ∈ infixes := by decide
  cases ht : w.token with
  | mark m =>
    obtain ⟨spelling, hmem, rfl⟩ := hw.exists_eq_mark ht
    rw [ht, jointAt?] at h
    obtain ⟨⟨level', j'⟩, hjoint, hlevel⟩ := Option.bind_eq_some_iff.mp h
    split at hlevel
    · rename_i heq
      obtain rfl : level' = level := heq
      obtain rfl : j' = j := Option.some.inj hlevel
      exact ⟨spelling, rfl, hall _ hmem _ hjoint⟩
    · cases hlevel
  | number | text | name | reference =>
    rw [ht] at h
    cases h

/-- A word that stands for an operator in front of an operand is the spelling of it. -/
theorem eq_prefixSpelling (hw : w.Proper) {op : UnaryOp} (h : unary? w.token = some op) :
    w = .mark (prefixSpelling op) := by
  have hall : ∀ e ∈ Mark.spellings, ∀ op ∈ unary? (.mark e.2), e.1 = prefixSpelling op := by decide
  cases ht : w.token with
  | mark m =>
    obtain ⟨spelling, hmem, rfl⟩ := hw.exists_eq_mark ht
    rw [ht] at h
    exact congrArg Word.mark (hall _ hmem op h)
  | number | text | name | reference =>
    rw [ht] at h
    cases h

end Word.Proper

/-! ### What readers take -/

/-- The answer is spelled by the first of the words, and the others are left. -/
def Taken {α : Type} (Spelled : α → List Word → Prop) (ws : List Word) (r : α × List Token) : Prop :=
  ∃ used left, ws = used ++ left ∧ r.2 = left.map Word.token ∧ Spelled r.1 used

/-- Whatever the reader answers is spelled by the words that it takes. -/
def Reader.Finds {α : Type} (read : Reader α) (Spelled : α → List Word → Prop) : Prop :=
  ∀ ws r, (∀ w ∈ ws, w.Proper) → read (ws.map Word.token) = some r → Taken Spelled ws r

section Taken

variable {α β : Type} {Spelled : α → List Word → Prop} {ws : List Word} {w : Word} {a : α}

/-- No words are taken. -/
theorem taken_nil (ws : List Word) (h : Spelled a []) : Taken Spelled ws (a, ws.map Word.token) :=
  ⟨[], ws, rfl, rfl, h⟩

/-- One word is taken. -/
theorem taken_single (h : Spelled a [w]) : Taken Spelled (w :: ws) (a, ws.map Word.token) :=
  ⟨[w], ws, rfl, rfl, h⟩

/-- One word more is taken, at the front. -/
theorem Taken.cons {r : α × List Token} (h : Taken (fun a used => Spelled a (w :: used)) ws r) :
    Taken Spelled (w :: ws) r := by
  obtain ⟨used, left, rfl, hleft, hspelled⟩ := h
  exact ⟨w :: used, left, rfl, hleft, hspelled⟩

/-- Some words are taken, and then some of those that are left. -/
theorem Taken.andThen {ts : List Token} (h : Taken Spelled ws (a, ts)) (hws : ∀ w ∈ ws, w.Proper)
    {Spelled' : β → List Word → Prop} {r : β × List Token}
    (hnext : ∀ used left, (∀ w ∈ left, w.Proper) → ts = left.map Word.token → Spelled a used →
      Taken (fun b more => Spelled' b (used ++ more)) left r) : Taken Spelled' ws r := by
  obtain ⟨used, left, rfl, hts, hspelled⟩ := h
  obtain ⟨more, left', rfl, hleft, hspelled'⟩ :=
    hnext used left (fun w hw => hws w (List.mem_append_right _ hw)) hts hspelled
  exact ⟨used ++ more, left', (List.append_assoc ..).symm, hleft, hspelled'⟩

/-- What is spelled in one way is spelled in another. -/
theorem Taken.imp {r : α × List Token} (h : Taken Spelled ws r) {Spelled' : α → List Word → Prop}
    (himp : ∀ a used, Spelled a used → Spelled' a used) : Taken Spelled' ws r := by
  obtain ⟨used, left, hws, hleft, hspelled⟩ := h
  exact ⟨used, left, hws, hleft, himp _ _ hspelled⟩

end Taken

/-- The words spell the formula at the level. -/
def SpellsAt (level : Nat) (f : Formula) (ws : List Word) : Prop := Spells (.formula level f) ws

section Readers

variable {read branch : Reader Formula} {level : Nat}

/-! #### Operators -/

/-- Operands that follow are joined to what was spelled before them. -/
theorem taken_chainRest (hread : read.Finds (SpellsAt (level + 2))) (fuel : Nat)
    {before ws : List Word} {f : Formula} {r : Formula × List Token} (hws : ∀ w ∈ ws, w.Proper)
    (hf : SpellsAt (level + 1) f before)
    (h : chainRest level read fuel f (ws.map Word.token) = some r) :
    Taken (fun g more => SpellsAt (level + 1) g (before ++ more)) ws r := by
  induction fuel generalizing before ws f with
  | zero => cases h
  | succ fuel ih =>
    rw [← List.append_nil before] at hf
    cases ws with
    | nil =>
      obtain rfl := Option.some.inj h
      exact taken_nil [] hf
    | cons w ws =>
      obtain ⟨hw, hws'⟩ := List.forall_mem_cons.mp hws
      rw [List.map_cons, chainRest] at h
      cases hj : jointAt? level w.token with
      | none =>
        rw [hj] at h
        obtain rfl := Option.some.inj h
        exact taken_nil (w :: ws) hf
      | some j =>
        rw [hj] at h
        obtain ⟨⟨g, ts⟩, hg, hrest⟩ := Option.bind_eq_some_iff.mp h
        obtain ⟨spelling, rfl, hinfix⟩ := hw.exists_mem_infixes hj
        refine Taken.cons ((hread ws _ hws' hg).andThen hws' fun used left hleft hts hused => ?_)
        have hmore := ih hleft (.joint hinfix hf hused) (hts ▸ hrest)
        simpa using hmore

theorem finds_chain (hread : read.Finds (SpellsAt (level + 2))) :
    (chain level read).Finds (SpellsAt (level + 1)) := by
  intro ws r hws h
  obtain ⟨⟨f, ts⟩, hf, hrest⟩ := Option.bind_eq_some_iff.mp h
  exact (hread ws _ hws hf).andThen hws fun used left hleft hts hused =>
    taken_chainRest hread _ hleft hused.loosen (hts ▸ hrest)

theorem finds_chains (level count : Nat) (hread : read.Finds (SpellsAt (level + count + 1))) :
    (chains read level count).Finds (SpellsAt (level + 1)) := by
  induction count generalizing level with
  | zero => exact hread
  | succ count ih => exact finds_chain (ih (level + 1) (by rwa [Nat.add_right_comm level 1 count]))

theorem finds_unaries (hread : read.Finds (SpellsAt 8)) : (unaries read).Finds (SpellsAt 7) := by
  have hoperand : read.Finds (SpellsAt 7) := fun ws r hws h =>
    (hread ws r hws h).imp fun _ _ => Spells.loosen
  intro ws
  induction ws with
  | nil => exact hoperand []
  | cons w ws ih =>
    intro r hws h
    obtain ⟨hw, hws'⟩ := List.forall_mem_cons.mp hws
    rw [List.map_cons, unaries] at h
    cases hop : unary? w.token with
    | none =>
      rw [hop] at h
      exact hoperand (w :: ws) r hws h
    | some op =>
      rw [hop] at h
      obtain ⟨⟨f, ts⟩, hf, rfl⟩ := Option.map_eq_some_iff.mp h
      obtain ⟨used, left, rfl, hleft, hspells⟩ := ih _ hws' hf
      rw [hw.eq_prefixSpelling hop]
      exact ⟨.mark (prefixSpelling op) :: used, left, rfl, hleft, .unary hspells⟩

/-! #### Items -/

/-- The words go on with the formulas behind any first one, and end with the closing mark. -/
def ContinuesItems (closing : List Char) (fs : List Formula) (ws : List Word) : Prop :=
  ∃ more, ws = more ++ [.mark closing] ∧
    ∀ f first, SpellsAt 0 f first → Spells (.items (f :: fs)) (first ++ more)

/-- The words are the formulas with commas between them, and end with the closing mark. -/
def ClosesItems (closing : List Char) (fs : List Formula) (ws : List Word) : Prop :=
  ∃ inner, ws = inner ++ [.mark closing] ∧ Spells (.items fs) inner

section Items

variable {close : Mark} {closing : List Char}

theorem finds_itemsRest (hread : read.Finds (SpellsAt 0))
    (hclose : ∀ e ∈ Mark.spellings, e.2 = close → e.1 = closing) (fuel : Nat) :
    (itemsRest read close fuel).Finds (ContinuesItems closing) := by
  induction fuel with
  | zero => exact fun ws r _ h => by cases h
  | succ fuel ih =>
    intro ws r hws h
    cases ws with
    | nil => cases h
    | cons w ws =>
      obtain ⟨hw, hws'⟩ := List.forall_mem_cons.mp hws
      rw [List.map_cons] at h
      cases ht : w.token with
      | mark m =>
        rw [ht, itemsRest] at h
        split at h
        · rename_i hm
          obtain rfl := Option.some.inj h
          obtain rfl := hw.eq_mark closing hclose (hm ▸ ht)
          refine taken_single ⟨[], rfl, fun f first hf => ?_⟩
          rw [List.append_nil]
          exact .single hf
        split at h
        · rename_i hm
          obtain ⟨⟨g, ts⟩, hg, hrest⟩ := Option.bind_eq_some_iff.mp h
          obtain ⟨⟨fs, ts'⟩, hfs, rfl⟩ := Option.map_eq_some_iff.mp hrest
          obtain rfl := hw.eq_mark [','] (by decide) (hm ▸ ht)
          refine Taken.cons ((hread ws _ hws' hg).andThen hws' fun used left hleft hts hused => ?_)
          obtain ⟨_, left', rfl, hleft', more, rfl, hmore⟩ := ih left _ hleft (hts ▸ hfs)
          exact ⟨more ++ [.mark closing], left', rfl, hleft', .mark [','] :: (used ++ more), by simp,
            fun f first hf => .more hf (hmore g used hused)⟩
        · cases h
      | number | text | name | reference =>
        rw [ht] at h
        cases h

theorem finds_itemsOne (hread : read.Finds (SpellsAt 0))
    (hclose : ∀ e ∈ Mark.spellings, e.2 = close → e.1 = closing) :
    (itemsOne read close).Finds (ClosesItems closing) := by
  intro ws r hws h
  obtain ⟨⟨f, ts⟩, hf, hrest⟩ := Option.bind_eq_some_iff.mp h
  obtain ⟨⟨fs, ts'⟩, hfs, rfl⟩ := Option.map_eq_some_iff.mp hrest
  refine (hread ws _ hws hf).andThen hws fun used left hleft hts hused => ?_
  obtain ⟨_, left', rfl, hleft', more, rfl, hmore⟩ :=
    finds_itemsRest hread hclose _ left _ hleft (hts ▸ hfs)
  exact ⟨more ++ [.mark closing], left', rfl, hleft', used ++ more, by simp, hmore f used hused⟩

theorem finds_items (hread : read.Finds (SpellsAt 0)) (closing : List Char)
    (hclose : ∀ e ∈ Mark.spellings, e.2 = close → e.1 = closing) :
    (items read close).Finds (ClosesItems closing) := by
  intro ws r hws h
  cases ws with
  | nil => exact finds_itemsOne hread hclose [] r hws h
  | cons w ws =>
    obtain ⟨hw, -⟩ := List.forall_mem_cons.mp hws
    rw [List.map_cons, items.eq_def] at h
    split at h
    · rename_i m ts heq
      obtain ⟨ht, rfl⟩ := List.cons.inj heq
      split at h
      · rename_i hm
        obtain rfl := Option.some.inj h
        obtain rfl := hw.eq_mark closing hclose (hm ▸ ht)
        exact taken_single ⟨[], rfl, .empty⟩
      · rw [← ht] at h
        exact finds_itemsOne hread hclose (w :: ws) r hws h
    · exact finds_itemsOne hread hclose (w :: ws) r hws h

end Items

/-! #### Operands and whole formulas -/

section Operands

variable {ws : List Word} {r : Formula × List Token}

/-- A name alone, one of the two words that are no names, or a call. -/
theorem taken_operand_name (hread : read.Finds (SpellsAt 0)) {n : String}
    (hws : ∀ w ∈ ws, w.Proper) (h : operand read (.name n :: ws.map Word.token) = some r) :
    Taken (SpellsAt 8) (.name n :: ws) r := by
  rw [operand.eq_def] at h
  simp only at h
  split at h
  · rename_i htrue
    obtain rfl := Option.some.inj h
    exact taken_single (htrue ▸ .boolean (b := true))
  split at h
  · rename_i hfalse
    obtain rfl := Option.some.inj h
    exact taken_single (hfalse ▸ .boolean (b := false))
  split at h
  · rename_i rest hrest
    obtain ⟨⟨fs, ts⟩, hfs, rfl⟩ := Option.map_eq_some_iff.mp h
    obtain ⟨w, ws, rfl, ht, rfl⟩ := List.map_eq_cons_iff.mp hrest
    obtain ⟨hw, hws'⟩ := List.forall_mem_cons.mp hws
    obtain rfl := hw.eq_mark ['('] (by decide) ht
    obtain ⟨_, left, rfl, hleft, inner, rfl, hinner⟩ :=
      finds_items hread [')'] (by decide) ws _ hws' hfs
    exact ⟨_, left, by simp, hleft, .call hinner⟩
  · obtain rfl := Option.some.inj h
    exact taken_single .identifier

/-- A list. -/
theorem taken_operand_list (hread : read.Finds (SpellsAt 0)) (hws : ∀ w ∈ ws, w.Proper)
    (h : operand read (.mark .openBracket :: ws.map Word.token) = some r) :
    Taken (SpellsAt 8) (.mark ['['] :: ws) r := by
  obtain ⟨⟨fs, ts⟩, hfs, rfl⟩ := Option.map_eq_some_iff.mp h
  obtain ⟨_, left, rfl, hleft, inner, rfl, hinner⟩ :=
    finds_items hread [']'] (by decide) ws _ hws hfs
  exact ⟨_, left, by simp, hleft, .list hinner⟩

/-- A formula in parentheses. -/
theorem taken_operand_parens (hread : read.Finds (SpellsAt 0)) (hws : ∀ w ∈ ws, w.Proper)
    (h : operand read (.mark .openParen :: ws.map Word.token) = some r) :
    Taken (SpellsAt 8) (.mark ['('] :: ws) r := by
  obtain ⟨⟨f, ts⟩, hf, hclose⟩ := Option.bind_eq_some_iff.mp h
  refine Taken.cons ((hread ws _ hws hf).andThen hws fun used left hleft hts hspells => ?_)
  simp only [hts] at hclose
  split at hclose
  · rename_i rest heq
    obtain rfl := Option.some.inj hclose
    obtain ⟨w, left, rfl, ht, rfl⟩ := List.map_eq_cons_iff.mp heq
    obtain rfl := (hleft w (List.mem_cons_self ..)).eq_mark [')'] (by decide) ht
    exact taken_single (.parens hspells)
  · cases hclose

theorem finds_operand (hread : read.Finds (SpellsAt 0)) : (operand read).Finds (SpellsAt 8) := by
  intro ws r hws h
  cases ws with
  | nil => cases h
  | cons w ws =>
    obtain ⟨hw, hws'⟩ := List.forall_mem_cons.mp hws
    rw [List.map_cons] at h
    cases w with
    | digits cs =>
      obtain ⟨d, hnumber, -⟩ := IsNumeral.exists_readNumber? hw
      obtain rfl := Option.some.inj h
      exact taken_single (.number hw (by rw [hnumber, Option.getD_some]))
    | quoted quote s =>
      obtain rfl := Option.some.inj h
      exact taken_single (.text hw.1 hw.2)
    | reference n =>
      obtain rfl := Option.some.inj h
      exact taken_single .reference
    | name n => exact taken_operand_name hread hws' h
    | mark spelling =>
      obtain ⟨m, hm⟩ : ∃ m, (Word.mark spelling).token = .mark m := ⟨_, rfl⟩
      rw [hm] at h
      cases m with
      | openBracket =>
        rw [hw.eq_mark ['['] (by decide) hm]
        exact taken_operand_list hread hws' h
      | openParen =>
        rw [hw.eq_mark ['('] (by decide) hm]
        exact taken_operand_parens hread hws' h
      | _ => cases h

end Operands

theorem finds_choice (hread : read.Finds (SpellsAt 1)) (hbranch : branch.Finds (SpellsAt 0)) :
    (choice read branch).Finds (SpellsAt 0) := by
  intro ws r hws h
  obtain ⟨⟨c, ts⟩, hc, hquestion⟩ := Option.bind_eq_some_iff.mp h
  refine (hread ws _ hws hc).andThen hws fun used left hleft hts hcondition => ?_
  simp only [hts] at hquestion
  split at hquestion
  · rename_i rest heq
    obtain ⟨w, ws, rfl, ht, rfl⟩ := List.map_eq_cons_iff.mp heq
    obtain ⟨hw, hws'⟩ := List.forall_mem_cons.mp hleft
    obtain rfl := hw.eq_mark ['?'] (by decide) ht
    obtain ⟨⟨y, ts⟩, hy, hcolon⟩ := Option.bind_eq_some_iff.mp hquestion
    refine Taken.cons ((hbranch ws _ hws' hy).andThen hws' fun used' left' hleft' hts' hyes => ?_)
    simp only [hts'] at hcolon
    split at hcolon
    · rename_i rest heq'
      obtain ⟨w', ws', rfl, ht', rfl⟩ := List.map_eq_cons_iff.mp heq'
      obtain ⟨hw', hws''⟩ := List.forall_mem_cons.mp hleft'
      obtain rfl := hw'.eq_mark [':'] (by decide) ht'
      obtain ⟨⟨n, ts⟩, hn, rfl⟩ := Option.map_eq_some_iff.mp hcolon
      obtain ⟨used'', left'', rfl, hrest, hno⟩ := hbranch ws' _ hws'' hn
      exact ⟨.mark [':'] :: used'', left'', rfl, hrest, .choice hcondition hyes hno⟩
    · cases hcolon
  · obtain rfl := Option.some.inj hquestion
    exact taken_nil left (by rw [List.append_nil]; exact hcondition.loosen)

/-- **What is read as a formula spells it.** -/
theorem finds_expression (depth : Nat) : (expression depth).Finds (SpellsAt 0) := by
  induction depth with
  | zero => exact fun ws r _ h => by cases h
  | succ depth ih =>
    have hlevels := finds_chains 0 levelCount (finds_unaries (finds_operand ih))
    exact finds_choice hlevels ih

end Readers

/-- **Every text that is read is spelled** by the formula that it is read as, in the words that are read.
With them every character of the text is accounted for. -/
theorem exists_spells_of_parseUnlowered {text : String} {f : Formula}
    (h : parseUnlowered text = .ok f) :
    ∃ ws, (∀ w ∈ ws, w.Proper) ∧ Token.readAll? text.toList = some (ws.map Word.token) ∧
      Lays ws text.toList ∧ Spells (.formula 0 f) ws := by
  rw [parseUnlowered] at h
  split at h
  · rename_i g hg
    obtain rfl := Except.ok.inj h
    obtain ⟨ts, hts, hread⟩ := Option.bind_eq_some_iff.mp hg
    obtain ⟨ws, hws, rfl, hlays⟩ := exists_lays_of_readAll? hts
    rw [ofTokens?] at hread
    split at hread
    · rename_i f hexpression
      obtain rfl := Option.some.inj hread
      obtain ⟨used, left, rfl, hleft, hspells⟩ := finds_expression _ ws _ hws hexpression
      obtain rfl := List.map_eq_nil_iff.mp hleft.symm
      rw [List.append_nil] at hws hts hlays
      exact ⟨used, hws, hts, hlays, hspells⟩
    · cases hread
  · cases h

end Formula

end ParametricScene
