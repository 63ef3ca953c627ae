import ParametricScene.Decimal.Binary

/-!
# Numbers with a fixed number of places

The exact binary value is rounded to the given number of places behind the point, a tie to the even
neighbour.

## Main definitions

* `roundQuotient` — a quotient of naturals to the nearest natural, ties to even
* `fixedPlaces` — the text of a double with a given number of places
-/

namespace ParametricScene

/-- The natural nearest to `numerator / denominator`; of two equally near ones the even one. -/
def roundQuotient (numerator denominator : Nat) : Nat :=
  let quotient := numerator / denominator
  let rest := 2 * (numerator % denominator)
  if rest < denominator then quotient
  else if denominator < rest then quotient + 1
  else if quotient % 2 = 0 then quotient
  else quotient + 1

/-- The digits of `n` with a point before the last `places` of them. -/
def pointBefore (places n : Nat) : List Char :=
  let digits := Nat.toDigits 10 n
  let padded := List.replicate (places + 1 - digits.length) '0' ++ digits
  let cut := padded.length - places
  if places = 0 then padded else padded.take cut ++ '.' :: padded.drop cut

/-- The text of `x` with `places` digits behind the point. -/
def fixedPlaces (places : Nat) (x : Float) : String :=
  match Binary.ofFloat? x with
  | some b =>
    let scaled := roundQuotient ((b.mantissa <<< b.exponent.toNat) * Nat.pow 10 places)
      (1 <<< (-b.exponent).toNat)
    String.ofList ((if b.negative then ['-'] else []) ++ pointBefore places scaled)
  | none => if x.isNaN then "NaN" else if x < 0 then "-inf" else "inf"

end ParametricScene
