import ParametricScene.Formula.Parser

/-!
# How formulas are spelled

Which texts spell a formula is said here from the side of the writer, who starts from the tree, and not
from that of the reader. The writer is free in four things: how an operator with two spellings is
spelled, which quote stands around a text, where parentheses stand that are not needed, and what space is
left around words.

## Levels

Every formula is spelled at a level, and the higher the level, the tighter what is spelled holds
together.

* 0: choices `c ? a : b`, which group to the right
* 1 to 6: operators between operands, `||`, `&&`, equality, comparison, sums, products, which group to
  the left
* 7: operators in front of an operand
* 8: single operands

What is spelled at a level may stand wherever a looser one is asked for. Parentheses make a single
operand of any formula, so they are needed where a tighter level is asked for and nowhere else.

## Scope

A tree is `Expressible` if it can be spelled at all. What is left out is what no text says: numbers
that no numeral stands for, texts that hold both kinds of quote, names that are none, and calls of `if`
with three arguments, which a reader makes choices of.

## Main definitions

* `Formula.Word` — the words of a spelling
* `Formula.Spells` — the words spell a formula at a level
* `Formula.Lays` — the text consists of the words and of space
* `Formula.SpelledBy` — the text spells the formula
* `Formula.Expressible` — the formula can be spelled

## Main results

* `Formula.exists_spelledBy` — every expressible formula is spelled by some text
-/

namespace ParametricScene

namespace Formula

/-! ### Words -/

/-- A word of a spelling. -/
inductive Word where
  | digits (cs : List Char)
  | quoted (quote : Char) (s : String)
  | name (s : String)
  | reference (s : String)
  | mark (spelling : List Char)

/-- The characters of a word. -/
def Word.chars : Word → List Char
  | .digits cs => cs
  | .quoted quote s => quote :: (s.toList ++ [quote])
  | .name s => s.toList
  | .reference s => '$' :: s.toList
  | .mark spelling => spelling

/-- A letter or an underscore, and then letters, digits and underscores. -/
def IsName (s : String) : Prop :=
  ∃ c cs, s.toList = c :: cs ∧ Token.isNameStart c = true ∧ ∀ d ∈ cs, Token.isNameChar d = true

/-- The quotes that may stand around a text. -/
def quotes : List Char := ['"', '\x27']

/-- The digits of a numeral, with or without a point. -/
inductive IsMantissa : List Char → Prop where
  | whole {front : List Char} (hne : front ≠ []) (hfront : ∀ c ∈ front, isDigit c = true) :
      IsMantissa front
  | point {front back : List Char} (hne : front ≠ [] ∨ back ≠ [])
      (hfront : ∀ c ∈ front, isDigit c = true) (hback : ∀ c ∈ back, isDigit c = true) :
      IsMantissa (front ++ '.' :: back)

/-- The exponent of a numeral, which may be missing. -/
inductive IsExponent : List Char → Prop where
  | missing : IsExponent []
  | written {letter : Char} {sign digits : List Char} (hletter : letter = 'e' ∨ letter = 'E')
      (hsign : sign = [] ∨ sign = ['+'] ∨ sign = ['-']) (hne : digits ≠ [])
      (hdigits : ∀ c ∈ digits, isDigit c = true) :
      IsExponent (letter :: (sign ++ digits))

/-- A number as it stands in a formula. It has no sign. -/
def IsNumeral (cs : List Char) : Prop :=
  ∃ mantissa exponent, IsMantissa mantissa ∧ IsExponent exponent ∧ cs = mantissa ++ exponent

/-! ### Spellings -/

/-- The operators between operands: how they are spelled, at which level, and what they are. -/
def infixes : List (List Char × Nat × Joint) :=
  [(['|', '|'], 1, .logical .or), (['&', '&'], 2, .logical .and),
    (['=', '='], 3, .binary .equal), (['=', '=', '='], 3, .binary .equal),
    (['!', '='], 3, .binary .unequal), (['!', '=', '='], 3, .binary .unequal),
    (['<'], 4, .binary .less), (['<', '='], 4, .binary .lessEqual),
    (['>'], 4, .binary .greater), (['>', '='], 4, .binary .greaterEqual),
    (['+'], 5, .binary .add), (['-'], 5, .binary .subtract),
    (['*'], 6, .binary .multiply), (['/'], 6, .binary .divide), (['%'], 6, .binary .remainder)]

/-- How an operator in front of an operand is spelled. -/
def prefixSpelling : UnaryOp → List Char
  | .not => ['!']
  | .negate => ['-']
  | .plus => ['+']

/-- What is spelled: a formula at a level, or formulas between commas. -/
inductive Phrase where
  | formula (level : Nat) (f : Formula)
  | items (fs : List Formula)

/-- **The words spell the phrase.** -/
inductive Spells : Phrase → List Word → Prop where
  | number {digits : List Char} {x : Float} (hdigits : IsNumeral digits)
      (hx : readNumber? digits = some x) : Spells (.formula 8 (.number x)) [.digits digits]
  | text {quote : Char} {s : String} (hquote : quote ∈ quotes) (hs : quote ∉ s.toList) :
      Spells (.formula 8 (.text s)) [.quoted quote s]
  | boolean {b : Bool} :
      Spells (.formula 8 (.boolean b)) [.name (if b then "true" else "false")]
  | reference {n : String} : Spells (.formula 8 (.reference n)) [.reference n]
  | identifier {n : String} : Spells (.formula 8 (.identifier n)) [.name n]
  | list {fs : List Formula} {ws : List Word} (h : Spells (.items fs) ws) :
      Spells (.formula 8 (.list fs)) (.mark ['['] :: (ws ++ [.mark [']']]))
  | call {n : String} {fs : List Formula} {ws : List Word} (h : Spells (.items fs) ws) :
      Spells (.formula 8 (.call n fs)) (.name n :: .mark ['('] :: (ws ++ [.mark [')']]))
  | parens {f : Formula} {ws : List Word} (h : Spells (.formula 0 f) ws) :
      Spells (.formula 8 f) (.mark ['('] :: (ws ++ [.mark [')']]))
  | unary {op : UnaryOp} {f : Formula} {ws : List Word} (h : Spells (.formula 7 f) ws) :
      Spells (.formula 7 (.unary op f)) (.mark (prefixSpelling op) :: ws)
  | joint {spelling : List Char} {level : Nat} {j : Joint} {l r : Formula} {ws ws' : List Word}
      (hj : (spelling, level, j) ∈ infixes) (hl : Spells (.formula level l) ws)
      (hr : Spells (.formula (level + 1) r) ws') :
      Spells (.formula level (j.apply l r)) (ws ++ .mark spelling :: ws')
  | choice {c y n : Formula} {ws ws' ws'' : List Word} (hc : Spells (.formula 1 c) ws)
      (hy : Spells (.formula 0 y) ws') (hn : Spells (.formula 0 n) ws'') :
      Spells (.formula 0 (.conditional c y n))
        (ws ++ .mark ['?'] :: (ws' ++ .mark [':'] :: ws''))
  | loosen {level : Nat} {f : Formula} {ws : List Word} (h : Spells (.formula (level + 1) f) ws) :
      Spells (.formula level f) ws
  | empty : Spells (.items []) []
  | single {f : Formula} {ws : List Word} (h : Spells (.formula 0 f) ws) : Spells (.items [f]) ws
  | more {f g : Formula} {fs : List Formula} {ws ws' : List Word} (h : Spells (.formula 0 f) ws)
      (hrest : Spells (.items (g :: fs)) ws') :
      Spells (.items (f :: g :: fs)) (ws ++ .mark [','] :: ws')

/-- The characters that may stand between words, in any number. -/
def spacing : List Char := [' ', '\t', '\r', '\n']

/-- The text consists of the words, with space in front of, between and behind them. -/
inductive Lays : List Word → List Char → Prop where
  | done {space : List Char} (hspace : ∀ c ∈ space, c ∈ spacing) : Lays [] space
  | word {space cs : List Char} {w : Word} {ws : List Word} (hspace : ∀ c ∈ space, c ∈ spacing)
      (hrest : Lays ws cs) : Lays (w :: ws) (space ++ (w.chars ++ cs))

/-- **The text spells the formula.** -/
def SpelledBy (f : Formula) (text : String) : Prop :=
  ∃ ws, Spells (.formula 0 f) ws ∧ Lays ws text.toList

/-! ### What can be spelled -/

mutual

/-- The formula can be spelled. -/
def Expressible : Formula → Prop
  | .number x => ∃ digits, IsNumeral digits ∧ readNumber? digits = some x
  | .boolean _ => True
  | .text s => ∃ quote ∈ quotes, quote ∉ s.toList
  | .reference n => IsName n
  | .identifier n => IsName n ∧ n ≠ "true" ∧ n ≠ "false"
  | .list items => ExpressibleAll items
  | .unary _ operand => Expressible operand
  | .binary _ left right => Expressible left ∧ Expressible right
  | .logical _ left right => Expressible left ∧ Expressible right
  | .conditional condition yes no => Expressible condition ∧ Expressible yes ∧ Expressible no
  | .call function arguments =>
    IsName function ∧ function ≠ "true" ∧ function ≠ "false" ∧
      ¬(function = "if" ∧ arguments.length = 3) ∧ ExpressibleAll arguments

/-- All formulas of the list can be spelled. -/
def ExpressibleAll : List Formula → Prop
  | [] => True
  | item :: rest => Expressible item ∧ ExpressibleAll rest

end

theorem expressible_apply {j : Joint} {l r : Formula} :
    (j.apply l r).Expressible ↔ l.Expressible ∧ r.Expressible := by
  cases j <;> rw [Joint.apply, Expressible]

theorem level_of_mem_infixes {spelling : List Char} {level : Nat} {j : Joint}
    (h : (spelling, level, j) ∈ infixes) : 1 ≤ level ∧ level ≤ 6 := by
  have hall : ∀ e ∈ infixes, 1 ≤ e.2.1 ∧ e.2.1 ≤ 6 := by decide
  exact hall _ h

theorem exists_mem_infixes (j : Joint) : ∃ spelling level, (spelling, level, j) ∈ infixes := by
  cases j with
  | binary op => cases op <;> simp [infixes, exists_or]
  | logical op => cases op <;> simp [infixes]

/-- What is spelled at a level is spelled at every looser one. -/
theorem Spells.loosenTo {level tight : Nat} {f : Formula} {ws : List Word}
    (h : Spells (.formula tight f) ws) (hlevel : level ≤ tight) : Spells (.formula level f) ws := by
  induction hlevel with
  | refl => exact h
  | step _ ih => exact ih h.loosen

/-- Two operands are joined, and stand in parentheses. -/
theorem exists_spells_apply (j : Joint) {l r : Formula} (hl : ∃ ws, Spells (.formula 8 l) ws)
    (hr : ∃ ws, Spells (.formula 8 r) ws) : ∃ ws, Spells (.formula 8 (j.apply l r)) ws := by
  obtain ⟨ws, hws⟩ := hl
  obtain ⟨ws', hws'⟩ := hr
  obtain ⟨spelling, level, hj⟩ := exists_mem_infixes j
  obtain ⟨-, hlevel⟩ := level_of_mem_infixes hj
  have hjoint := Spells.joint hj (hws.loosenTo (by omega)) (hws'.loosenTo (by omega))
  exact ⟨_, .parens (hjoint.loosenTo (Nat.zero_le _))⟩

mutual

/-- Every expressible formula is a single operand, in parentheses if need be. -/
theorem exists_spells : ∀ f : Formula, f.Expressible → ∃ ws, Spells (.formula 8 f) ws
  | .number x, h => by
    obtain ⟨digits, hdigits, hx⟩ := h
    exact ⟨_, .number hdigits hx⟩
  | .boolean b, _ => ⟨_, .boolean⟩
  | .text s, h => by
    obtain ⟨quote, hquote, hs⟩ := h
    exact ⟨_, .text hquote hs⟩
  | .reference n, _ => ⟨_, .reference⟩
  | .identifier n, _ => ⟨_, .identifier⟩
  | .list items, h => by
    obtain ⟨ws, hws⟩ := exists_spells_items items h
    exact ⟨_, .list hws⟩
  | .unary op operand, h => by
    obtain ⟨ws, hws⟩ := exists_spells operand h
    exact ⟨_, .parens ((Spells.unary hws.loosen).loosenTo (by omega))⟩
  | .binary op left right, h =>
    exists_spells_apply (.binary op) (exists_spells left h.1) (exists_spells right h.2)
  | .logical op left right, h =>
    exists_spells_apply (.logical op) (exists_spells left h.1) (exists_spells right h.2)
  | .conditional condition yes no, h => by
    obtain ⟨ws, hws⟩ := exists_spells condition h.1
    obtain ⟨ws', hws'⟩ := exists_spells yes h.2.1
    obtain ⟨ws'', hws''⟩ := exists_spells no h.2.2
    exact ⟨_, .parens (.choice (hws.loosenTo (by omega)) (hws'.loosenTo (by omega))
      (hws''.loosenTo (by omega)))⟩
  | .call function arguments, h => by
    obtain ⟨ws, hws⟩ := exists_spells_items arguments h.2.2.2.2
    exact ⟨_, .call hws⟩

/-- Expressible formulas can stand between commas. -/
theorem exists_spells_items : ∀ fs : List Formula, ExpressibleAll fs → ∃ ws, Spells (.items fs) ws
  | [], _ => ⟨_, .empty⟩
  | [f], h => by
    obtain ⟨ws, hws⟩ := exists_spells f h.1
    exact ⟨_, .single (hws.loosenTo (by omega))⟩
  | f :: g :: fs, h => by
    obtain ⟨ws, hws⟩ := exists_spells f h.1
    obtain ⟨ws', hws'⟩ := exists_spells_items (g :: fs) h.2
    exact ⟨_, .more (hws.loosenTo (by omega)) hws'⟩

end

/-- Words can be written without any space. -/
theorem exists_lays (ws : List Word) : ∃ cs, Lays ws cs := by
  induction ws with
  | nil => exact ⟨[], .done (by simp)⟩
  | cons w ws ih =>
    obtain ⟨cs, hcs⟩ := ih
    exact ⟨_, .word (List.forall_mem_nil _) hcs⟩

/-- **Every expressible formula is spelled by some text.** -/
theorem exists_spelledBy {f : Formula} (h : f.Expressible) : ∃ text, f.SpelledBy text := by
  obtain ⟨ws, hws⟩ := exists_spells f h
  obtain ⟨cs, hcs⟩ := exists_lays ws
  exact ⟨String.ofList cs, ws, hws.loosenTo (by omega), by rwa [String.toList_ofList]⟩

end Formula

end ParametricScene
