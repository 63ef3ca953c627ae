import ParametricScene.Decimal.Binary

/-!
# Arithmetic of formulas

The numeric helpers behind the functions of formulas, and the choice of an item by an index that may
lie outside the list.

## Main definitions

* `Double.clamp`, `lerp`, `positiveMod`, `roundHalfUp` — numeric helpers
* `wrapIndex` — any number as a position in a list of given length
* `hsvToHex` — the text of a colour given by hue, saturation and value
-/

namespace ParametricScene

namespace Double

/-- `value` held between `low` and `high`; where the bounds cross, `low` wins. A NaN gives way to
the numbers beside it. -/
def clamp (value low high : Float) : Float := larger low (smaller high value)

/-- The point at fraction `t` of the way from `a` to `b`. -/
def lerp (a b t : Float) : Float := a + (b - a) * t

/-- The remainder that takes the sign of the divisor. -/
def positiveMod (a b : Float) : Float := remainder (remainder a b + b) b

/-- To the nearest whole number, a half toward positive infinity. -/
def roundHalfUp (x : Float) : Float := floor (x + 0.5)

/-- The circle constants and the base of the natural logarithm, as the nearest doubles. -/
def pi : Float := 3.141592653589793

/-- One full turn in radians. -/
def tau : Float := 6.283185307179586

/-- The base of the natural logarithm. -/
def euler : Float := 2.718281828459045

end Double

/-- The smallest index. Indices have sixty-four bits, one of them for the sign. -/
def indexLow : Int := -9223372036854775808

/-- The largest index. -/
def indexHigh : Int := 9223372036854775807

/-- A position in a list of `length` items. The index loses its fraction and wraps around at both
ends; one beyond the bounds of indices counts as the bound, and what is not finite as zero. -/
def wrapIndex (index : Float) (length : Nat) : Nat :=
  if length = 0 ∨ ¬ index.isFinite then 0
  else (Double.toInt indexLow indexHigh index % (length : Int)).toNat

/-- Wrapping stays inside a list that is not empty. -/
theorem wrapIndex_lt (index : Float) {length : Nat} (h : 0 < length) :
    wrapIndex index length < length := by
  unfold wrapIndex
  split
  · exact h
  · have h0 := Int.emod_nonneg (Double.toInt indexLow indexHigh index)
      (show (length : Int) ≠ 0 by omega)
    have h1 := Int.emod_lt_of_pos (Double.toInt indexLow indexHigh index)
      (show (0 : Int) < length by omega)
    omega

/-! ### Colours -/

/-- Two lower-case hexadecimal digits. -/
def hexByte (n : Nat) : List Char := [Nat.digitChar (n / 16 % 16), Nat.digitChar (n % 16)]

/-- The colour text of three bytes. -/
def hexColor (r g b : Nat) : String := String.ofList ('#' :: (hexByte r ++ hexByte g ++ hexByte b))

/-- A colour channel between zero and one as a byte. -/
def channelByte (x : Float) : Nat := Double.toNat 255 (Double.roundHalfUp (x * 255.0))

/-- Red, green and blue of a colour given by hue, saturation and value. A hue up to one is a
fraction of a turn, a larger one counts degrees; either wraps around. -/
def hsvToRgb (h s v : Float) : Float × Float × Float :=
  let hue := Double.positiveMod (if h ≤ 1.0 then h * 360.0 else h) 360.0
  let c := v * s
  let x := c * (1.0 - (Double.remainder (hue / 60.0) 2.0 - 1.0).abs)
  let m := v - c
  let (r, g, b) :=
    if hue < 60.0 then (c, x, 0.0)
    else if hue < 120.0 then (x, c, 0.0)
    else if hue < 180.0 then (0.0, c, x)
    else if hue < 240.0 then (0.0, x, c)
    else if hue < 300.0 then (x, 0.0, c)
    else (c, 0.0, x)
  (r + m, g + m, b + m)

/-- The text of a colour given by hue, saturation and value. -/
def hsvToHex (h s v : Float) : String :=
  let (r, g, b) := hsvToRgb h s v
  hexColor (channelByte r) (channelByte g) (channelByte b)

end ParametricScene
