import ParametricScene.Decimal.Binary

/-!
# The fewest decimal digits that read back

Many decimals round to one double. This file chooses among them: the fewest digits first, then the
closest to the exact value; between two equally close ones the caller's `Tie` decides. The choice is
made in exact arithmetic on naturals. The reals that round to `m * 2 ^ q` lie between the midpoints to its two neighbours; with `1, 2, …`
digits the two points of the decimal grid around the exact value are tested against these ends, and
the first grid with a hit wins.

## Main definitions

* `Decimal` — the number `digits * 10 ^ exponent`
* `Tie` — which of two equally close decimals is chosen
* `Binary.ReadsBack` — the decimal lies among the reals that round to the double
* `Binary.shortest` — the chosen decimal
-/

namespace ParametricScene

/-- The number `digits * 10 ^ exponent`. -/
structure Decimal where
  digits : Nat
  exponent : Int
deriving DecidableEq, Repr

/-- Which of two equally close decimals on one grid is chosen. -/
inductive Tie where
  /-- The larger. -/
  | larger
  /-- The one with an even last digit. -/
  | even
deriving DecidableEq, Repr

namespace Decimal

/-- Moves trailing zeros of the digits into the exponent, at most `fuel` of them. -/
def stripZeros : Nat → Decimal → Decimal
  | 0, d => d
  | fuel + 1, d =>
    if d.digits ≠ 0 ∧ d.digits % 10 = 0 then stripZeros fuel ⟨d.digits / 10, d.exponent + 1⟩ else d

/-- The same number with no trailing zero among its digits. -/
def canonical (d : Decimal) : Decimal := d.stripZeros (d.digits.log2 + 1)

end Decimal

namespace Binary

/-- Compares `a * 10 ^ i` with `n * 2 ^ j`, exactly. -/
def compareScaled (a : Nat) (i : Int) (n : Nat) (j : Int) : Ordering :=
  compare ((a * Nat.pow 10 i.toNat) <<< (-j).toNat) ((n <<< j.toNat) * Nat.pow 10 (-i).toNat)

/-- The gap below a power of two is half the gap above it, except among the subnormal numbers. -/
def narrowBelow (b : Binary) : Bool := b.mantissa == leadingBit && decide (-1074 < b.exponent)

/-- The decimal lies among the reals that round to `b`: between the midpoints to the two neighbours,
the midpoints included exactly when the mantissa is even. Quarters of the last place serve as unit,
so that the narrow gap below a power of two needs no fractions. -/
def ReadsBack (b : Binary) (d : Decimal) : Prop :=
  let low := if b.narrowBelow then 4 * b.mantissa - 1 else 4 * b.mantissa - 2
  let high := 4 * b.mantissa + 2
  let fromLow := compareScaled d.digits d.exponent low (b.exponent - 2)
  let fromHigh := compareScaled d.digits d.exponent high (b.exponent - 2)
  (fromLow = .gt ∨ (b.mantissa % 2 = 0 ∧ fromLow = .eq)) ∧
    (fromHigh = .lt ∨ (b.mantissa % 2 = 0 ∧ fromHigh = .eq))

instance (b : Binary) (d : Decimal) : Decidable (b.ReadsBack d) := by
  unfold ReadsBack; infer_instance

/-- The magnitude of `b` counted in units of `10 ^ g`, rounded down. -/
def gridFloor (b : Binary) (g : Int) : Nat :=
  (b.mantissa <<< b.exponent.toNat) * Nat.pow 10 (-g).toNat /
    ((Nat.pow 10 g.toNat) <<< (-b.exponent).toNat)

/-- Of the two grid points around `b` the upper one is chosen: it is closer, or as close and the tie
goes to it. The points are compared through twice the magnitude and their sum. -/
def choosesUpper (tie : Tie) (b : Binary) (g : Int) : Bool :=
  match compareScaled (2 * b.gridFloor g + 1) g (2 * b.mantissa) b.exponent with
  | .lt => true
  | .gt => false
  | .eq =>
    match tie with
    | .larger => true
    | .even => b.gridFloor g % 2 == 1

/-- The better of the two points of the grid `10 ^ g` around `b` that read back, if any does. -/
def onGrid? (tie : Tie) (b : Binary) (g : Int) : Option Decimal :=
  let low : Decimal := ⟨b.gridFloor g, g⟩
  let high : Decimal := ⟨b.gridFloor g + 1, g⟩
  if b.ReadsBack low ∧ ¬ b.ReadsBack high then some low
  else if b.ReadsBack high ∧ ¬ b.ReadsBack low then some high
  else if b.ReadsBack low then some (if choosesUpper tie b g then high else low)
  else none

/-- The exact value of `b` as a decimal. -/
def exactDecimal (b : Binary) : Decimal :=
  ⟨(b.mantissa <<< b.exponent.toNat) * Nat.pow 5 (-b.exponent).toNat, min 0 b.exponent⟩

/-- A power of ten above the magnitude of `b`, at most two digits too large. The two rational
numbers bound the decimal logarithm of two from either side. -/
def scale (b : Binary) : Int :=
  let bits := (b.mantissa.log2 : Int) + 1 + b.exponent
  (bits * (if 0 ≤ bits then 30103 else 30102)).fdiv 100000 + 1

/-- The decimal with the fewest digits that reads back to `b`; of those the closest, and of two
equally close ones that of the tie. Seventeen digits always suffice, and the exact value stands behind
the search. -/
def shortest (tie : Tie) (b : Binary) : Decimal :=
  if b.mantissa = 0 then ⟨0, 0⟩
  else
    let found := (List.range 20).findSome? fun n => onGrid? tie b (b.scale - 1 - (n : Nat))
    (found.getD b.exactDecimal).canonical

end Binary

end ParametricScene
