import ParametricScene.Decimal.Reader

/-!
# The words of a formula

A formula is a sequence of words: numbers, quoted texts, names, names behind a dollar sign, and the
marks for operators and brackets. Spaces, tabs and line ends between words have no meaning. Each
word is as long as it can be.

Quoted texts end at the next quote of the kind that opened them and know no escapes. A dollar sign
and its name are one word, so nothing stands between them.

## Main definitions

* `Mark` — operators, brackets and separators
* `Token` — the words
* `Token.read?` — the first word of a text that starts with one
* `Token.readAll?` — all words of a text

## Main results

* `Token.length_lt_of_read?` — a word uses up text, which is why reading ends
-/

namespace ParametricScene

/-- Operators, brackets and separators. -/
inductive Mark where
  | or | and | equal | unequal | lessEqual | greaterEqual | less | greater
  | plus | minus | times | divide | modulo | bang
  | question | colon | comma | openParen | closeParen | openBracket | closeBracket
deriving DecidableEq, Repr

namespace Mark

/-- The spellings of the marks. A spelling stands before any other that it extends. -/
def spellings : List (List Char × Mark) :=
  [(['=', '=', '='], equal), (['!', '=', '='], unequal), (['=', '='], equal),
    (['!', '='], unequal), (['<', '='], lessEqual), (['>', '='], greaterEqual),
    (['|', '|'], or), (['&', '&'], and), (['<'], less), (['>'], greater), (['+'], plus),
    (['-'], minus), (['*'], times), (['/'], divide), (['%'], modulo), (['!'], bang),
    (['?'], question), ([':'], colon), ([','], comma), (['('], openParen), ([')'], closeParen),
    (['['], openBracket), ([']'], closeBracket)]

theorem spellings_ne_nil : ∀ s ∈ spellings, 0 < s.1.length := by decide

end Mark

/-- The words of a formula. -/
inductive Token where
  | number (x : Float)
  | text (s : String)
  | name (s : String)
  | reference (name : String)
  | mark (m : Mark)

namespace Token

/-- The characters that may stand between words. -/
def isSpace (c : Char) : Bool := c == ' ' || c == '\t' || c == '\r' || c == '\n'

/-- ASCII letters and the underscore start a name. -/
def isNameStart (c : Char) : Bool := c.isAlpha || c == '_'

/-- ASCII letters, digits and the underscore continue a name. -/
def isNameChar (c : Char) : Bool := c.isAlphanum || c == '_'

/-- Both kinds of quote open a text. -/
def isQuote (c : Char) : Bool := c == '"' || c == '\x27'

/-- What stands behind a spelling, if the text starts with it. -/
def behind? : List Char → List Char → Option (List Char)
  | [], cs => some cs
  | _ :: _, [] => none
  | s :: ss, c :: cs => if s = c then behind? ss cs else none

/-- The mark a text starts with, and what follows. -/
def readMark? (cs : List Char) : Option (Token × List Char) :=
  Mark.spellings.findSome? fun s => (behind? s.1 cs).map fun rest => (mark s.2, rest)

/-- The word a text starts with, and what follows. -/
def read? : List Char → Option (Token × List Char)
  | [] => none
  | c :: rest =>
    if isDigit c || c == '.' then
      (readUnsigned? (c :: rest)).map fun r => (number r.1.toFloat, r.2)
    else if isQuote c then
      match rest.dropWhile (· != c) with
      | [] => none
      | _ :: tail => some (text (String.ofList (rest.takeWhile (· != c))), tail)
    else if isNameStart c then
      some (name (String.ofList (c :: rest.takeWhile isNameChar)), rest.dropWhile isNameChar)
    else if c == '$' then
      match rest with
      | first :: more =>
        if isNameStart first then
          some (reference (String.ofList (first :: more.takeWhile isNameChar)),
            more.dropWhile isNameChar)
        else none
      | [] => none
    else readMark? (c :: rest)

theorem length_of_behind? {ss cs rest : List Char} (h : behind? ss cs = some rest) :
    ss.length + rest.length = cs.length := by
  induction ss generalizing cs with
  | nil => simp only [behind?, Option.some.injEq] at h; simp [h]
  | cons s ss ih =>
    cases cs with
    | nil => simp [behind?] at h
    | cons c cs =>
      simp only [behind?] at h
      split at h
      · have := ih h; simp only [List.length_cons]; omega
      · simp at h

theorem length_lt_of_readMark? {cs rest : List Char} {t : Token}
    (h : readMark? cs = some (t, rest)) : rest.length < cs.length := by
  obtain ⟨s, hs, hb⟩ := List.exists_of_findSome?_eq_some h
  obtain ⟨r, hr, heq⟩ := Option.map_eq_some_iff.mp hb
  simp only [Prod.mk.injEq] at heq
  have hlen := length_of_behind? hr
  have hpos := Mark.spellings_ne_nil s hs
  rw [← heq.2]
  omega

/-- A word uses up at least one character. -/
theorem length_lt_of_read? {cs rest : List Char} {t : Token} (h : read? cs = some (t, rest)) :
    rest.length < cs.length := by
  cases cs with
  | nil => simp [read?] at h
  | cons c tail =>
    simp only [read?] at h
    split at h
    · obtain ⟨r, hr, heq⟩ := Option.map_eq_some_iff.mp h
      simp only [Prod.mk.injEq] at heq
      obtain ⟨d, after⟩ := r
      have := length_lt_of_readUnsigned? hr
      rw [← heq.2]
      exact this
    · split at h
      · split at h
        · simp at h
        · rename_i after hdrop
          simp only [Option.some.injEq, Prod.mk.injEq] at h
          have := length_dropWhile_le (· != c) tail
          rw [hdrop, List.length_cons, h.2] at this
          simp only [List.length_cons]
          omega
      · split at h
        · simp only [Option.some.injEq, Prod.mk.injEq] at h
          rw [← h.2]
          exact Nat.lt_succ_of_le (length_dropWhile_le _ _)
        · split at h
          · split at h
            · split at h
              · simp only [Option.some.injEq, Prod.mk.injEq] at h
                rw [← h.2]
                have := length_dropWhile_le isNameChar ‹List Char›
                simp only [List.length_cons]
                omega
              · simp at h
            · simp at h
          · exact length_lt_of_readMark? h

/-- All words of a text, or none if some part of it is no word. -/
def readAll? (cs : List Char) : Option (List Token) :=
  match _ : cs.dropWhile isSpace with
  | [] => some []
  | c :: rest =>
    match _ : read? (c :: rest) with
    | none => none
    | some (t, tail) => (readAll? tail).map (t :: ·)
termination_by cs.length
decreasing_by
  rename_i hs h
  have h1 := length_lt_of_read? h
  have h2 := length_dropWhile_le isSpace cs
  rw [hs] at h2
  omega

end Token

end ParametricScene
