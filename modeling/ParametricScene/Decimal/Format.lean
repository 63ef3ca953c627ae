import ParametricScene.Decimal.Shortest

/-!
# Number text

How a chosen decimal is laid out: positionally or with an exponent. The decisions of a format are one
record, `NumberFormat`, and the formats this library writes are values of it, so every number that
leaves the library is written by the same function.

## Main definitions

* `NumberFormat` — where positional writing ends, and the texts of whole and special numbers
* `NumberFormat.render` — the text of a double in a notation
* `NumberFormat.canonical`, `plain`, `document`, `setting` — the four notations in use
-/

namespace ParametricScene

/-- The decisions of a number format. -/
structure NumberFormat where
  /-- Numbers whose leading digit stands for less than `10 ^ lowest` get an exponent. -/
  lowest : Option Int
  /-- Numbers whose leading digit stands for `10 ^ limit` or more get an exponent. -/
  limit : Option Int
  /-- An exponent that is not negative has a plus. -/
  plusExponent : Bool
  /-- Which of two equally close decimals stands for a number. -/
  tie : Tie
  /-- Whole numbers written positionally end in `.0`. -/
  wholePoint : Bool
  /-- The text for what is not a number. -/
  nan : String
  /-- The text for infinity. -/
  infinity : String
  /-- The text for negative infinity. -/
  minusInfinity : String
deriving Repr

namespace NumberFormat

/-- The format of exact numbers: fewest digits, always a point or an exponent; an exponent from
`1e16` up and below `1e-4`. -/
def canonical : NumberFormat where
  lowest := some (-4)
  limit := some 16
  plusExponent := false
  tie := .larger
  wholePoint := true
  nan := "NaN"
  infinity := "inf"
  minusInfinity := "-inf"

/-- The format of numbers shown to a reader: fewest digits, never an exponent. -/
def plain : NumberFormat where
  lowest := none
  limit := none
  plusExponent := false
  tie := .larger
  wholePoint := false
  nan := "NaN"
  infinity := "inf"
  minusInfinity := "-inf"

/-- The format of numbers in a written document: exponents have a sign, ties go to the even digit, and
NaN and the infinities have no text but `null`. -/
def document : NumberFormat where
  lowest := some (-5)
  limit := some 16
  plusExponent := true
  tie := .even
  wholePoint := true
  nan := "null"
  infinity := "null"
  minusInfinity := "null"

/-- The format of numbers in a settings file. -/
def setting : NumberFormat where
  lowest := none
  limit := none
  plusExponent := false
  tie := .larger
  wholePoint := true
  nan := "nan"
  infinity := "inf"
  minusInfinity := "-inf"

/-- The exponents of the leading digit that are written positionally. -/
def positional (n : NumberFormat) (e : Int) : Bool :=
  (n.lowest.all fun l => decide (l ≤ e)) && (n.limit.all fun l => decide (e < l))

/-- Digits with a point, when the leading one stands for `10 ^ e`. Zeros fill the places between the
digits and the point. -/
def layoutPoint (wholePoint : Bool) (digits : List Char) (e : Int) : List Char :=
  if e < 0 then '0' :: '.' :: List.replicate (-e - 1).toNat '0' ++ digits
  else
    let front := digits.take (e.toNat + 1)
    let back := digits.drop (e.toNat + 1)
    let whole := front ++ List.replicate (e.toNat + 1 - front.length) '0'
    if back.isEmpty then (if wholePoint then whole ++ ['.', '0'] else whole)
    else whole ++ '.' :: back

/-- The sign of an exponent. -/
def exponentSign (n : NumberFormat) (e : Int) : List Char :=
  if e < 0 then ['-'] else if n.plusExponent then ['+'] else []

/-- Digits with an exponent: a point after the first digit if more follow. -/
def layoutExponent (n : NumberFormat) (digits : List Char) (e : Int) : List Char :=
  let tail := digits.drop 1
  digits.take 1 ++ (if tail.isEmpty then [] else '.' :: tail) ++
    'e' :: n.exponentSign e ++ Nat.toDigits 10 e.natAbs

/-- The text of a magnitude. -/
def renderMagnitude (n : NumberFormat) (d : Decimal) : List Char :=
  let digits := Nat.toDigits 10 d.digits
  let e := d.exponent + (digits.length : Int) - 1
  if d.digits = 0 ∨ n.positional e then layoutPoint n.wholePoint digits e
  else n.layoutExponent digits e

/-- The text of a double. -/
def render (n : NumberFormat) (x : Float) : String :=
  match Binary.ofFloat? x with
  | some b =>
    String.ofList ((if b.negative then ['-'] else []) ++ n.renderMagnitude (b.shortest n.tie))
  | none => if x.isNaN then n.nan else if x < 0 then n.minusInfinity else n.infinity

end NumberFormat

end ParametricScene
