import ParametricScene.Decimal.Reader
import ParametricScene.Json.Basic

/-!
# Numbers of documents

The number grammar of documents is strict: no sign but a minus, no leading zeros, digits on both
sides of a point. Whole numbers that fit a machine word are kept exactly.

All other numbers are scaled: the leading digits that fit 64 bits make the significand, digits behind
them count only through their place, and the significand is multiplied or divided by a power of ten
in double arithmetic. This takes one or two roundings, so the result may differ from the nearest
double in the last place. A number too large for a double has no value.

## Main definitions

* `JsonNumber.scale?` — the significand scaled by a power of ten
* `JsonNumber.read?` — the number a text starts with
-/

namespace ParametricScene

namespace JsonNumber

/-- Significands and naturals stay below this, the number of words of 64 bits. -/
def wordLimit : Nat := 1 <<< 64

/-- Words with a sign stay below this, and their negatives reach it. -/
def signedLimit : Nat := 1 <<< 63

/-- The leading digits that keep the significand below the limit, and all digits behind them. -/
def takeDigits (significand : Nat) : List Char → Nat × List Char
  | [] => (significand, [])
  | c :: rest =>
    let next := 10 * significand + digitValue c
    if next < wordLimit then takeDigits next rest else (significand, c :: rest)

/-- The power of ten as a double, for exponents up to 308. -/
def powerOfTen (n : Nat) : Float := Decimal.toFloat ⟨1, n⟩

/-- Divides by the largest power of ten until the exponent is in range; the first argument bounds
the number of divisions, after which nothing is left. -/
def scaleDown : Nat → Float → Nat → Float
  | 0, _, _ => 0.0
  | fuel + 1, x, n =>
    if n ≤ 308 then x / powerOfTen n
    else if x == 0.0 then x
    else scaleDown fuel (x / powerOfTen 308) (n - 308)

/-- `significand * 10 ^ exponent`, or none if that is too large. -/
def scale? (significand : Nat) (exponent : Int) : Option Float :=
  let x := Float.ofNat significand
  if exponent < 0 then some (scaleDown 4 x exponent.natAbs)
  else if exponent ≤ 308 then
    let y := x * powerOfTen exponent.toNat
    if y.isFinite then some y else none
  else if significand = 0 then some x
  else none

/-- The exponent part: a mark, an optional sign and at least one digit. The outer option tells
whether there is a mark, the inner one whether it is followed by what it needs. -/
def exponentPart? : List Char → Option (Option (Int × List Char))
  | [] => none
  | mark :: rest =>
    if mark = 'e' ∨ mark = 'E' then
      let signed := readSign rest
      let digits := signed.2.takeWhile isDigit
      if digits.isEmpty then some none
      else
        let n : Int := digitsValue digits
        some (some (if signed.1 then -n else n, signed.2.dropWhile isDigit))
    else none

/-- The number of a significand, the exponent of its last digit and what may follow: an exponent
part. The outer option tells whether the text is that of a number, the inner one its value. -/
def finish? (negative : Bool) (significand : Nat) (exponent : Int) (rest : List Char) :
    Option (Option JsonNumber × List Char) :=
  let signed : Float → JsonNumber := fun x => .double (if negative then -x else x)
  match exponentPart? rest with
  | none => some ((scale? significand exponent).map signed, rest)
  | some none => none
  | some (some (e, tail)) => some ((scale? significand (exponent + e)).map signed, tail)

/-- A whole number: exact if it fits a machine word. Zero with a minus is a double, which keeps the
sign. -/
def ofInteger (negative : Bool) (n : Nat) : JsonNumber :=
  if ¬ negative then .natural n
  else if 0 < n ∧ n ≤ signedLimit then .negative n
  else .double (-(Float.ofNat n))

/-- The number behind the sign. -/
def readMagnitude? (negative : Bool) (cs : List Char) :
    Option (Option JsonNumber × List Char) :=
  let front := cs.takeWhile isDigit
  let rest := cs.dropWhile isDigit
  if front.isEmpty ∨ (front.head? = some '0' ∧ front.length ≠ 1) then none
  else
    let (significand, dropped) := takeDigits 0 front
    match rest with
    | '.' :: tail =>
      let back := tail.takeWhile isDigit
      let rest := tail.dropWhile isDigit
      if back.isEmpty then none
      else
        let (significand, unused) := takeDigits significand back
        let exponent := (dropped.length : Int) + unused.length - back.length
        finish? negative significand exponent rest
    | _ =>
      if (exponentPart? rest).isNone ∧ dropped.isEmpty then
        some (some (ofInteger negative significand), rest)
      else finish? negative significand dropped.length rest

/-- The number a text starts with, if it has a value, and what follows. -/
def read? : List Char → Option (Option JsonNumber × List Char)
  | '-' :: rest => readMagnitude? true rest
  | cs => readMagnitude? false cs

end JsonNumber

end ParametricScene
