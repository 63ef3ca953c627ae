import ParametricScene.Text.Printable

/-!
# Quoted text

A text between double quotes, in which quotes, backslashes and the usual controls have a short
escape and other characters that do not show have their code point in lower-case hexadecimal between
braces. Single quotes stand for themselves.

## Main definitions

* `escapeChar` — how one character is written inside the quotes
* `quoted` — a text in quotes
-/

namespace ParametricScene

/-- Lower-case hexadecimal digits without leading zeros. -/
def hexDigits (n : Nat) : List Char := Nat.toDigits 16 n

/-- How a character is written inside quotes. -/
def escapeChar (c : Char) : List Char :=
  if c = '"' then ['\\', '"']
  else if c = '\\' then ['\\', '\\']
  else if c = '\n' then ['\\', 'n']
  else if c = '\r' then ['\\', 'r']
  else if c = '\t' then ['\\', 't']
  else if c = '\x00' then ['\\', '0']
  else if showsAsItself c then [c]
  else ['\\', 'u', '{'] ++ hexDigits c.toNat ++ ['}']

/-- The text in quotes. -/
def quotedChars (cs : List Char) : List Char := '"' :: (cs.flatMap escapeChar ++ ['"'])

/-- The text in quotes. -/
def quoted (s : String) : String := String.ofList (quotedChars s.toList)

end ParametricScene
