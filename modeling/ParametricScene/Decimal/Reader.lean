import ParametricScene.Decimal.Shortest

/-!
# Reading numbers

A number text is an optional sign and either one of the words for the special numbers, in any case,
or digits with an optional point and an optional exponent. At least one digit stands before or
behind the point; no blanks, separators or other bases.

## Main definitions

* `Decimal.toFloat` — the double nearest to a decimal
* `readUnsigned?` — digits, point and exponent, and the rest of the text
* `readNumber?` — the grammar above, for a whole text

## Main results

* `length_lt_of_readUnsigned?` — a number that is read uses up text
-/

namespace ParametricScene

namespace Decimal

/-- The double nearest to `d`, ties to even. Decimals far outside the range of the doubles are
settled by their size alone. -/
def toFloat (d : Decimal) : Float :=
  if d.digits = 0 then 0.0
  else if 400 < d.exponent then 1.0 / 0.0
  else if d.exponent + (d.digits.log2 : Int) < -400 then 0.0
  else Float.ofScientific d.digits (decide (d.exponent < 0)) d.exponent.natAbs

end Decimal

/-- One of the ten ASCII digits. -/
def isDigit (c : Char) : Bool := decide ('0' ≤ c) && decide (c ≤ '9')

/-- The value of a digit. -/
def digitValue (c : Char) : Nat := c.toNat - '0'.toNat

/-- The natural number that digits stand for. -/
def digitsValue (cs : List Char) : Nat := cs.foldl (fun n c => 10 * n + digitValue c) 0

/-- An optional sign, true for a minus, and what follows. -/
def readSign : List Char → Bool × List Char
  | '-' :: rest => (true, rest)
  | '+' :: rest => (false, rest)
  | cs => (false, cs)

/-- An exponent: a mark, an optional sign and at least one digit. Without all of these nothing is
read, and the exponent is zero. -/
def readExponent : List Char → Int × List Char
  | [] => (0, [])
  | mark :: rest =>
    let signed := readSign rest
    let digits := signed.2.takeWhile isDigit
    if (mark = 'e' ∨ mark = 'E') ∧ digits ≠ [] then
      let n : Int := digitsValue digits
      (if signed.1 then -n else n, signed.2.dropWhile isDigit)
    else (0, mark :: rest)

/-- The digits behind a point, if there is one, and what follows. -/
def readFraction : List Char → List Char × List Char
  | '.' :: rest => (rest.takeWhile isDigit, rest.dropWhile isDigit)
  | cs => ([], cs)

/-- Digits, point and exponent, with what follows them. None if no digit stands on either side of
the point. -/
def readUnsigned? (cs : List Char) : Option (Decimal × List Char) :=
  let front := cs.takeWhile isDigit
  let back := readFraction (cs.dropWhile isDigit)
  if front = [] ∧ back.1 = [] then none
  else
    let e := readExponent back.2
    some (⟨digitsValue (front ++ back.1), e.1 - (back.1.length : Int)⟩, e.2)

/-! ### Reading uses up text -/

theorem length_dropWhile_le {α : Type} (p : α → Bool) (l : List α) :
    (l.dropWhile p).length ≤ l.length :=
  (List.dropWhile_sublist p).length_le

theorem length_dropWhile_lt {α : Type} (p : α → Bool) {l : List α} (h : l.takeWhile p ≠ []) :
    (l.dropWhile p).length < l.length := by
  have hsum : (l.takeWhile p).length + (l.dropWhile p).length = l.length := by
    rw [← List.length_append, List.takeWhile_append_dropWhile]
  have hpos := List.length_pos_iff.mpr h
  omega

theorem length_readSign_le (cs : List Char) : (readSign cs).2.length ≤ cs.length := by
  unfold readSign
  split <;> simp

theorem length_readExponent_le (cs : List Char) : (readExponent cs).2.length ≤ cs.length := by
  cases cs with
  | nil => simp [readExponent]
  | cons mark rest =>
    simp only [readExponent]
    split
    · have h1 := length_dropWhile_le isDigit (readSign rest).2
      have h2 := length_readSign_le rest
      simp only [List.length_cons]
      omega
    · exact Nat.le_refl _

theorem length_readFraction_le (cs : List Char) : (readFraction cs).2.length ≤ cs.length := by
  unfold readFraction
  split
  · exact Nat.le_trans (length_dropWhile_le _ _) (Nat.le_succ _)
  · exact Nat.le_refl _

theorem length_readFraction_lt {cs : List Char} (h : (readFraction cs).1 ≠ []) :
    (readFraction cs).2.length < cs.length := by
  unfold readFraction at h ⊢
  split
  · exact Nat.lt_succ_of_le (length_dropWhile_le _ _)
  · simp at h

/-- A number that is read uses up at least one character. -/
theorem length_lt_of_readUnsigned? {cs rest : List Char} {d : Decimal}
    (h : readUnsigned? cs = some (d, rest)) : rest.length < cs.length := by
  simp only [readUnsigned?] at h
  split at h
  · simp at h
  · rename_i hdigits
    simp only [Option.some.injEq, Prod.mk.injEq] at h
    rw [← h.2]
    have h1 := length_readExponent_le (readFraction (cs.dropWhile isDigit)).2
    have h2 := length_readFraction_le (cs.dropWhile isDigit)
    have h3 := length_dropWhile_le isDigit cs
    by_cases hfront : cs.takeWhile isDigit = []
    · have := length_readFraction_lt fun hback => hdigits ⟨hfront, hback⟩
      omega
    · have := length_dropWhile_lt isDigit hfront
      omega

/-! ### Whole texts -/

/-- The words for the special numbers, written in lower case. -/
def specialNumber? (word : List Char) : Option Float :=
  if word = "inf".toList ∨ word = "infinity".toList then some (1.0 / 0.0)
  else if word = "nan".toList then some (0.0 / 0.0)
  else none

/-- The number a whole text stands for. -/
def readNumber? (text : List Char) : Option Float :=
  let signed := readSign text
  let magnitude? :=
    match readUnsigned? signed.2 with
    | some (d, []) => some d.toFloat
    | some _ => none
    | none => specialNumber? (signed.2.map Char.toLower)
  magnitude?.map fun x => if signed.1 then -x else x

end ParametricScene
