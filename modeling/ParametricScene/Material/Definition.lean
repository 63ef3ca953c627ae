import ParametricScene.Arithmetic
import ParametricScene.Text.Blank

/-!
# Material definitions

What a document says about a material, and how a colour is read.

A colour is a packed number, or a text of three or six hexadecimal digits, with blanks around it and
one leading `#` or `0x` allowed; three digits stand for six with each digit twice.

## Main definitions

* `ColorSpec`, `MaterialDefinition` — as a document gives them
* `ColorSpec.color?` — the colour meant
* `Material` — a material with everything decided
* `Material.ofDefinition` — the material of a definition
-/

namespace ParametricScene

/-- A colour as a document gives it. -/
inductive ColorSpec where
  | packed (n : Nat)
  | text (s : String)
deriving DecidableEq, Repr

/-- What a document says about a material. -/
structure MaterialDefinition where
  kind : Option String
  color : Option ColorSpec
  roughness : Option Float
  metalness : Option Float
  opacity : Option Float

/-- Nothing said. -/
def MaterialDefinition.empty : MaterialDefinition := ⟨none, none, none, none, none⟩

/-! ### Colours -/

/-- The value of a hexadecimal digit. -/
def hexDigitValue? (c : Char) : Option Nat :=
  if '0' ≤ c ∧ c ≤ '9' then some (c.toNat - '0'.toNat)
  else if 'a' ≤ c ∧ c ≤ 'f' then some (c.toNat - 'a'.toNat + 10)
  else if 'A' ≤ c ∧ c ≤ 'F' then some (c.toNat - 'A'.toNat + 10)
  else none

/-- The number that hexadecimal digits stand for; none if some character is no digit. -/
def hexNumber? (cs : List Char) : Option Nat :=
  cs.foldl (fun acc c => acc.bind fun n => (hexDigitValue? c).map (16 * n + ·)) (some 0)

/-- The text without one leading `#`, or else without one leading `0x`. -/
def withoutMarker : List Char → List Char
  | '#' :: rest => rest
  | '0' :: 'x' :: rest => rest
  | cs => cs

/-- The digits as six, three of them doubled; none for other numbers of digits. -/
def sixDigits? : List Char → Option (List Char)
  | [r, g, b] => some [r, r, g, g, b, b]
  | [a, b, c, d, e, f] => some [a, b, c, d, e, f]
  | _ => none

/-- The colour of a text. -/
def colorOfText? (s : String) : Option Nat :=
  (sixDigits? (withoutMarker (trim s.toList))).bind hexNumber?

/-- The colour meant. Of a packed number the lowest 24 bits count. -/
def ColorSpec.color? : ColorSpec → Option Nat
  | .packed n => some (n % 0x1000000)
  | .text s => colorOfText? s

/-! ### Materials -/

/-- A material with everything decided. -/
structure Material where
  name : String
  kind : String
  color : Nat
  roughness : Float
  metalness : Float
  opacity : Float
  transparent : Bool

namespace Material

/-- White, for definitions without a colour that can be read. -/
def defaultColor : Nat := 0xffffff

/-- A number held between zero and one. -/
def unit (x : Float) : Float := if x < 0.0 then 0.0 else if 1.0 < x then 1.0 else x

/-- The material of a definition. A definition with an opacity makes it transparent. -/
def ofDefinition (name : String) (d : MaterialDefinition) : Material where
  name := name
  kind := d.kind.getD "standard"
  color := (d.color.bind ColorSpec.color?).getD defaultColor
  roughness := d.roughness.getD 0.5
  metalness := d.metalness.getD 0.0
  opacity := (d.opacity.map unit).getD 1.0
  transparent := d.opacity.isSome

/-- The bytes of the colour. -/
def bytes (m : Material) : Nat × Nat × Nat :=
  (m.color / 0x10000 % 0x100, m.color / 0x100 % 0x100, m.color % 0x100)

/-- Red, green and blue between zero and one. -/
def rgb (m : Material) : Float × Float × Float :=
  let (r, g, b) := m.bytes
  (Float.ofNat r / 255.0, Float.ofNat g / 255.0, Float.ofNat b / 255.0)

/-- The lowest 24 bits of the colour as text. These are the whole colour in every material that
`ofDefinition` makes: a packed number is cut to them, and six digits have no more. -/
def hex (m : Material) : String :=
  let (r, g, b) := m.bytes
  hexColor r g b

end Material

end ParametricScene
