import ParametricScene.Text.Assigned
import ParametricScene.Text.Combining

/-!
# Characters that show

Quoted text writes a character as itself only if it shows as itself. Controls, format characters,
fillers, blanks other than the space, marks that combine with the character before them, and
characters without a public meaning do not.

## Main definitions

* `controlTable`, `fillerTable` — the code points of characters that never show, in order
* `showsAsItself` — the character may stand for itself in quoted text
-/

namespace ParametricScene

/-- Controls and format characters. -/
def controlTable : List CodeRange :=
  [⟨0x0, 0x1F⟩, ⟨0x7F, 0x9F⟩, ⟨0xAD, 0xAD⟩, ⟨0x600, 0x605⟩, ⟨0x61C, 0x61C⟩, ⟨0x6DD, 0x6DD⟩,
    ⟨0x70F, 0x70F⟩, ⟨0x890, 0x891⟩, ⟨0x8E2, 0x8E2⟩, ⟨0x180E, 0x180E⟩, ⟨0x200B, 0x200F⟩,
    ⟨0x202A, 0x202E⟩, ⟨0x2060, 0x2064⟩, ⟨0x2066, 0x206F⟩, ⟨0xFEFF, 0xFEFF⟩, ⟨0xFFF9, 0xFFFB⟩,
    ⟨0x110BD, 0x110BD⟩, ⟨0x110CD, 0x110CD⟩, ⟨0x13430, 0x1343F⟩, ⟨0x1BCA0, 0x1BCA3⟩,
    ⟨0x1D173, 0x1D17A⟩, ⟨0xE0001, 0xE0001⟩, ⟨0xE0020, 0xE007F⟩]

/-- Letters that hold the place of a letter that is not there. -/
def fillerTable : List CodeRange :=
  [⟨0x115F, 0x1160⟩, ⟨0x3164, 0x3164⟩, ⟨0xFFA0, 0xFFA0⟩]

/-- The space, or a character with a public meaning that is neither blank, control, format
character, filler nor combining. -/
def showsAsItself (c : Char) : Bool :=
  c == ' ' ||
    !(isBlank c || inTable controlTable c.toNat || inTable fillerTable c.toNat) &&
      !isCombining c && isAssigned c

end ParametricScene
