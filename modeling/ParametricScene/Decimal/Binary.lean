/-!
# Doubles as exact binary numbers

A finite double is `± mantissa * 2 ^ exponent` for a natural mantissa, and this file goes both ways
between the two. Everything that has to be exact (integer parts, rounding to whole numbers,
remainders, decimal text) is computed on the natural and integer parts, where there is no rounding
and where a proof can see what happens.

## Main definitions

* `Binary` — sign, mantissa and exponent of a finite double
* `Binary.ofFloat?`, `Binary.toFloat` — reading the fields of a double, and writing them
* `Double.floor`, `ceiling`, `roundHalfAway` — three ways to a whole number
* `Double.remainder` — the exact remainder with the sign of the dividend
* `Double.toInt` — the integer part, with the infinities at given bounds
-/

namespace ParametricScene

/-- The finite number `mantissa * 2 ^ exponent`, negated when `negative`. -/
structure Binary where
  negative : Bool
  mantissa : Nat
  exponent : Int
deriving DecidableEq, Repr

namespace Binary

/-- The leading bit of a mantissa of full length, which a double does not store. -/
def leadingBit : Nat := 1 <<< 52

/-- The bit of a double that stands for the minus sign. -/
def signBit : Nat := 1 <<< 63

/-- The fields of a double: a biased exponent of zero has no implicit leading bit, and the largest
one stands for NaN and the infinities, which are no numbers. -/
def ofFloat? (x : Float) : Option Binary :=
  let bits := x.toBits.toNat
  let biased : Nat := (bits >>> 52) % 2048
  let fraction := bits % leadingBit
  let negative := decide (signBit ≤ bits)
  if biased = 2047 then none
  else if biased = 0 then some ⟨negative, fraction, -1074⟩
  else some ⟨negative, leadingBit + fraction, (biased : Int) - 1075⟩

/-- The mantissa of `b` at exponent `e`; digits below `2 ^ e` are dropped. -/
def mantissaAt (b : Binary) (e : Int) : Nat :=
  (b.mantissa <<< (b.exponent - e).toNat) >>> (e - b.exponent).toNat

/-- The exponent at which `b` is stored: as small as a mantissa of 53 bits allows, never below
that of the subnormal numbers. -/
def storedExponent (b : Binary) : Int :=
  max (-1074) (b.exponent + (b.mantissa.log2 : Int) - 52)

/-- The double with value `b`. Exact whenever `b` is the value of a double, which holds for every
use in this library; otherwise the magnitude is rounded down. -/
def toFloat (b : Binary) : Float :=
  let e := b.storedExponent
  let m := b.mantissaAt e
  let sign := if b.negative then signBit else 0
  let magnitude := if m < leadingBit then m else ((e + 1075).toNat <<< 52) + (m - leadingBit)
  Float.ofBits (UInt64.ofNat (sign + magnitude))

/-- The integer part of the magnitude. -/
def whole (b : Binary) : Nat := b.mantissaAt 0

/-- No binary digit stands behind the point. -/
def isWhole (b : Binary) : Bool :=
  decide (0 ≤ b.exponent) || b.mantissa % (1 <<< (-b.exponent).toNat) == 0

/-- At least one half is dropped when the integer part is taken. -/
def halfOrMore (b : Binary) : Bool := b.mantissaAt (-1) % 2 == 1

/-- The integer part, with sign. -/
def toInt (b : Binary) : Int := if b.negative then -(b.whole : Int) else b.whole

end Binary

namespace Double

/-- The natural number `n` with a sign; zero keeps its sign too. -/
def signed (negative : Bool) (n : Nat) : Float :=
  if negative then -(Float.ofNat n) else Float.ofNat n

/-- Replaces the magnitude of a number that is not whole; whole numbers, NaN and the infinities
stay. -/
def mapWhole (f : Binary → Nat) (x : Float) : Float :=
  match Binary.ofFloat? x with
  | none => x
  | some b => if b.isWhole then x else signed b.negative (f b)

/-- Toward negative infinity. -/
def floor : Float → Float := mapWhole fun b => if b.negative then b.whole + 1 else b.whole

/-- Toward positive infinity. -/
def ceiling : Float → Float := mapWhole fun b => if b.negative then b.whole else b.whole + 1

/-- To the nearest whole number, a half away from zero. -/
def roundHalfAway : Float → Float := mapWhole fun b => if b.halfOrMore then b.whole + 1 else b.whole

/-- A whole number; NaN and the infinities are none. -/
def isWhole (x : Float) : Bool :=
  match Binary.ofFloat? x with
  | none => false
  | some b => b.isWhole

/-- What remains of `x` after taking away the largest whole multiple of `y` toward zero, exactly,
with the sign of `x`. NaN where no such multiple exists. -/
def remainder (x y : Float) : Float :=
  match Binary.ofFloat? x, Binary.ofFloat? y with
  | some a, some b =>
    if b.mantissa = 0 then 0.0 / 0.0
    else
      let e := min a.exponent b.exponent
      Binary.toFloat ⟨a.negative, a.mantissaAt e % b.mantissaAt e, e⟩
  | some _, none => if y.isNaN then y else x
  | none, _ => 0.0 / 0.0

/-- The integer part of `x` held between `low` and `high`, where the infinities go to the bounds and
NaN to zero. -/
def toInt (low high : Int) (x : Float) : Int :=
  match Binary.ofFloat? x with
  | some b => max low (min high b.toInt)
  | none => if x.isNaN then 0 else if 0 < x then high else low

/-- The natural part of `x`, at most `high`; negative numbers and NaN give zero. -/
def toNat (high : Nat) (x : Float) : Nat := (toInt 0 high x).toNat

/-- The larger of two numbers; a NaN gives way to a number, and of two equal numbers the second is
kept, which matters for the sign of zero. -/
def larger (a b : Float) : Float := if a.isNaN ∨ a ≤ b then b else a

/-- The smaller of two numbers, with the same rules. -/
def smaller (a b : Float) : Float := if a.isNaN ∨ b ≤ a then b else a

/-- NaN and the infinities become zero. -/
def orZero (x : Float) : Float := if x.isFinite then x else 0.0

end Double

end ParametricScene
