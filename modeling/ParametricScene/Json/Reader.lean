import ParametricScene.Json.Number

/-!
# Reading documents

The reader accepts exactly one document with blanks around it. Strings hold no raw controls. Three
faults leave the outline of the document intact and spoil one part only: an escape for half of a
surrogate pair without its other half, a number beyond the doubles, and an array or object nested more
than 127 deep.

Every step uses up text, so the recursion runs on a bound for the length of what is left.

## Main definitions

* `Json.maxDepth` — how deep arrays and objects may nest
* `Json.parse?` — the document of a text
-/

namespace ParametricScene

namespace Json

/-- How deep arrays and objects may nest. -/
def maxDepth : Nat := 127

/-- The characters that may stand between the parts of a document. -/
def isGap (c : Char) : Bool := c == ' ' || c == '\n' || c == '\t' || c == '\r'

/-- The text behind the gap it starts with. -/
def skipGap (cs : List Char) : List Char := cs.dropWhile isGap

/-! ### Strings -/

/-- The value of a hexadecimal digit. -/
def hexValue? (c : Char) : Option Nat :=
  if '0' ≤ c ∧ c ≤ '9' then some (c.toNat - '0'.toNat)
  else if 'a' ≤ c ∧ c ≤ 'f' then some (c.toNat - 'a'.toNat + 10)
  else if 'A' ≤ c ∧ c ≤ 'F' then some (c.toNat - 'A'.toNat + 10)
  else none

/-- Four hexadecimal digits. -/
def readUnit? : List Char → Option (Nat × List Char)
  | a :: b :: c :: d :: rest => do
    let a ← hexValue? a
    let b ← hexValue? b
    let c ← hexValue? c
    let d ← hexValue? d
    pure (((a * 16 + b) * 16 + c) * 16 + d, rest)
  | _ => none

/-- The second half of a surrogate pair that an escape at the start of the text gives, and what
follows. -/
def readLowHalf? : List Char → Option (Nat × List Char)
  | '\\' :: 'u' :: rest =>
    (readUnit? rest).bind fun r => if 0xDC00 ≤ r.1 ∧ r.1 ≤ 0xDFFF then some r else none
  | _ => none

/-- The character of the escape that follows a backslash and `u`: one unit, or two that form a
surrogate pair. Half of a pair is no character. -/
def readUnicode? (cs : List Char) : Option (Option Char × List Char) := do
  let (high, rest) ← readUnit? cs
  if 0xDC00 ≤ high ∧ high ≤ 0xDFFF then pure (none, rest)
  else if 0xD800 ≤ high ∧ high ≤ 0xDBFF then
    match readLowHalf? rest with
    | some (low, rest) =>
      pure (some (Char.ofNat (0x10000 + (high - 0xD800) * 0x400 + (low - 0xDC00))), rest)
    | none => pure (none, rest)
  else pure (some (Char.ofNat high), rest)

/-- The character of the escape that follows a backslash. -/
def readEscape? : List Char → Option (Option Char × List Char)
  | '"' :: rest => some (some '"', rest)
  | '\\' :: rest => some (some '\\', rest)
  | '/' :: rest => some (some '/', rest)
  | 'b' :: rest => some (some '\x08', rest)
  | 'f' :: rest => some (some '\x0c', rest)
  | 'n' :: rest => some (some '\n', rest)
  | 'r' :: rest => some (some '\r', rest)
  | 't' :: rest => some (some '\t', rest)
  | 'u' :: rest => readUnicode? rest
  | _ => none

/-- The characters up to the closing quote, put in front of those read before in reverse order; an
escape that is no character leaves a gap. The first argument bounds the number of characters. -/
def readCharsOnto? :
    Nat → List (Option Char) → List Char → Option (List (Option Char) × List Char)
  | 0, _, _ => none
  | _ + 1, _, [] => none
  | fuel + 1, before, c :: rest =>
    if c = '"' then some (before.reverse, rest)
    else if c = '\\' then
      match readEscape? rest with
      | none => none
      | some (e, rest) => readCharsOnto? fuel (e :: before) rest
    else if c.toNat < 0x20 then none
    else readCharsOnto? fuel (some c :: before) rest

/-- The text behind an opening quote, if it has no gaps, and what follows. The first argument bounds
its length. -/
def readText? (fuel : Nat) (cs : List Char) : Option (Option String × List Char) :=
  (readCharsOnto? fuel [] cs).map fun r => ((r.1.mapM id).map String.ofList, r.2)

/-! ### Values -/

/-- What stands behind a word, if the text starts with it. -/
def afterWord? (word : String) (cs : List Char) : Option (List Char) :=
  let w := word.toList
  if cs.take w.length = w then some (cs.drop w.length) else none

/-- Readers of a part of a document. -/
abbrev PartReader (α : Type) : Type := List Char → Option (α × List Char)

/-- Further items of an array, each after a comma, up to the closing bracket; put onto the items
read before. The first argument bounds their number. -/
def itemsOnto? (value : PartReader Json) : Nat → List Json → PartReader (List Json)
  | 0, _, _ => none
  | fuel + 1, before, cs =>
    match skipGap cs with
    | ']' :: rest => some (before.reverse, rest)
    | ',' :: rest =>
      match value (skipGap rest) with
      | some (v, rest) => itemsOnto? value fuel (v :: before) rest
      | none => none
    | _ => none

/-- The items of an array behind its opening bracket. -/
def readItems? (value : PartReader Json) (fuel : Nat) : PartReader (List Json) := fun cs =>
  match skipGap cs with
  | ']' :: rest => some ([], rest)
  | cs =>
    match value cs with
    | some (v, rest) => itemsOnto? value fuel [v] rest
    | none => none

/-- A member of an object, whose name may stand for nothing. -/
abbrev RawMember : Type := Option String × Json

/-- A name, a colon and a value. -/
def readMember? (value : PartReader Json) (fuel : Nat) : PartReader RawMember := fun cs =>
  match cs with
  | '"' :: rest =>
    match readText? fuel rest with
    | none => none
    | some (name, rest) =>
      match skipGap rest with
      | ':' :: rest => (value (skipGap rest)).map fun r => ((name, r.1), r.2)
      | _ => none
  | _ => none

/-- Further members of an object, each after a comma, up to the closing brace; put onto the members
read before. The first argument bounds their number. -/
def membersOnto? (value : PartReader Json) :
    Nat → List RawMember → PartReader (List RawMember)
  | 0, _, _ => none
  | fuel + 1, before, cs =>
    match skipGap cs with
    | '}' :: rest => some (before.reverse, rest)
    | ',' :: rest =>
      match readMember? value fuel (skipGap rest) with
      | some (m, rest) => membersOnto? value fuel (m :: before) rest
      | none => none
    | _ => none

/-- The members of an object behind its opening brace. -/
def readMembers? (value : PartReader Json) (fuel : Nat) : PartReader (List RawMember) := fun cs =>
  match skipGap cs with
  | '}' :: rest => some ([], rest)
  | cs =>
    match readMember? value fuel cs with
    | some (m, rest) => membersOnto? value fuel [m] rest
    | none => none

/-- The object of members; with a name that stands for nothing it does so too. -/
def ofMembers (ms : List RawMember) : Json :=
  match ms.mapM fun m => m.1.map fun name => (name, m.2) with
  | some ms => .object ms
  | none => .unreadable

/-- A scalar. The first argument bounds the length of a string. -/
def readScalar? (fuel : Nat) : PartReader Json := fun cs =>
  match cs with
  | '"' :: rest => (readText? fuel rest).map fun r => ((r.1.map .text).getD .unreadable, r.2)
  | 'n' :: _ => (afterWord? "null" cs).map fun rest => (.null, rest)
  | 't' :: _ => (afterWord? "true" cs).map fun rest => (.boolean true, rest)
  | 'f' :: _ => (afterWord? "false" cs).map fun rest => (.boolean false, rest)
  | _ => (JsonNumber.read? cs).map fun r => ((r.1.map .number).getD .unreadable, r.2)

/-- What an array or object stands for where arrays and objects may nest `depth` deep. -/
def withinDepth (depth : Nat) (j : Json) : Json := if depth = 0 then .unreadable else j

/-- A value. The first argument bounds its length; an array or object that nests deeper than the
second one says stands for nothing. -/
def readValue? : Nat → Nat → PartReader Json
  | 0, _, _ => none
  | fuel + 1, depth, cs =>
    match cs with
    | '[' :: rest =>
      (readItems? (readValue? fuel (depth - 1)) fuel rest).map fun r =>
        (withinDepth depth (.array r.1), r.2)
    | '{' :: rest =>
      (readMembers? (readValue? fuel (depth - 1)) fuel rest).map fun r =>
        (withinDepth depth (ofMembers r.1), r.2)
    | _ => readScalar? fuel cs

/-- The document of a text. -/
def parse? (text : String) : Option Json :=
  let cs := text.toList
  match readValue? (cs.length + 1) maxDepth (skipGap cs) with
  | some (v, rest) => if (skipGap rest).isEmpty then some v else none
  | none => none

end Json

end ParametricScene
