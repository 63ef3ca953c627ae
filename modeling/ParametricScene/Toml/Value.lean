import ParametricScene.Toml.Table
import ParametricScene.Toml.Text

/-!
# Values of settings files

Values are strings, numbers, booleans, times, arrays and inline tables, read into document trees.
Whole numbers fit 64 bits with sign; underscores may stand between digits. Arrays may run over several
lines and end in a comma, inline tables may do neither. Arrays and inline tables nest at most 79 deep,
which is what the recursion runs on.

No setting is a time, so a time is checked for its form and stands for an empty object.

## Main definitions

* `Toml.readName?`, `readPath?` — names and dotted names
* `Toml.readNumber?`, `readTime?` — scalars
* `Toml.readValue?` — every value
-/

namespace ParametricScene

namespace Toml

/-! ### Names -/

/-- A character of a name without quotes. -/
def isNameChar (c : Char) : Bool :=
  isDigit c || (decide ('a' ≤ c) && decide (c ≤ 'z')) || (decide ('A' ≤ c) && decide (c ≤ 'Z')) ||
    c == '_' || c == '-'

/-- The name a text starts with, with or without quotes. -/
def readName? : PartReader String := fun cs =>
  match cs.takeWhile isNameChar with
  | [] => (readLineString? cs).map fun r => (String.ofList r.1, r.2)
  | bare => some (String.ofList bare, cs.dropWhile isNameChar)

/-- Further names, each behind a dot, put onto those read before in reverse order. Blanks may stand
around names. The first argument bounds their number. -/
def pathOnto? : Nat → List String → PartReader (List String)
  | 0, _, _ => none
  | fuel + 1, before, cs => do
    let (name, rest) ← readName? (skipBlanks cs)
    match skipBlanks rest with
    | '.' :: rest => pathOnto? fuel (name :: before) rest
    | rest => some ((name :: before).reverse, rest)

/-- How deep arrays and inline tables may nest, and how many names a dotted name may have. -/
def maxDepth : Nat := 79

/-- A dotted name: the names before the last, and the last. -/
def readPath? : PartReader (List String × String) := fun cs => do
  let (names, rest) ← pathOnto? (cs.length + 1) [] cs
  let last ← names.getLast?
  if names.length ≤ maxDepth then some ((names.dropLast, last), rest) else none

/-! ### Numbers -/

/-- Digits with underscores between them, and what follows. The underscores are left out; each has a
digit on both sides. The first argument bounds the number of groups. -/
def groupsOnto? (isDigitChar : Char → Bool) : Nat → List Char → PartReader (List Char)
  | 0, _, _ => none
  | fuel + 1, before, cs =>
    match cs.takeWhile isDigitChar with
    | [] => none
    | group =>
      match cs.dropWhile isDigitChar with
      | '_' :: rest => groupsOnto? isDigitChar fuel (before ++ group) rest
      | rest => some (before ++ group, rest)

/-- Digits with underscores between them. -/
def readDigits? (isDigitChar : Char → Bool) : PartReader (List Char) := fun cs =>
  groupsOnto? isDigitChar (cs.length + 1) [] cs

/-- The digits of a decimal whole number, which has no leading zeros. -/
def readWhole? : PartReader (List Char)
  | '0' :: rest => some (['0'], rest)
  | cs => readDigits? isDigit cs

/-- A whole number that fits 64 bits with sign. -/
def wholeNumber? (negative : Bool) (n : Nat) : Option Json :=
  if negative then
    if n = 0 then some (.number (.natural 0))
    else if n ≤ JsonNumber.signedLimit then some (.number (.negative n)) else none
  else if n < JsonNumber.signedLimit then some (.number (.natural n)) else none

/-- The digits of a fraction behind its point, if there is a point. -/
def readFraction? : PartReader (List Char)
  | '.' :: rest => readDigits? isDigit rest
  | cs => some ([], cs)

/-- The exponent behind its mark, if there is a mark. -/
def readExponent? : PartReader Int
  | [] => some (0, [])
  | c :: rest =>
    if c = 'e' ∨ c = 'E' then
      let signed := ParametricScene.readSign rest
      (readDigits? isDigit signed.2).map fun r =>
        let n : Int := digitsValue r.1
        (if signed.1 then -n else n, r.2)
    else some (0, c :: rest)

/-- A decimal number behind its sign: whole if there is neither a point nor an exponent. A number
that is too large is refused, unless it is negative. -/
def readDecimal? (negative : Bool) : PartReader Json := fun cs => do
  let (front, rest) ← readWhole? cs
  match rest with
  | '.' :: _ | 'e' :: _ | 'E' :: _ => do
    let (back, rest) ← readFraction? rest
    let (exponent, rest) ← readExponent? rest
    let x := Decimal.toFloat ⟨digitsValue (front ++ back), exponent - (back.length : Int)⟩
    if x.isFinite ∨ negative then some (.number (.double (if negative then -x else x)), rest)
    else none
  | _ => (wholeNumber? negative (digitsValue front)).map fun v => (v, rest)

/-- A whole number to another base, behind the mark of the base. -/
def readBased? (base : Nat) : PartReader Json := fun cs => do
  let isBaseDigit : Char → Bool := fun c => (Json.hexValue? c).any fun d => decide (d < base)
  let (digits, rest) ← readDigits? isBaseDigit cs
  let n := digits.foldl (fun n c => base * n + (Json.hexValue? c).getD 0) 0
  (wholeNumber? false n).map fun v => (v, rest)

/-- A number. Only numbers without sign have a base, and infinity and NaN are words. -/
def readNumber? : PartReader Json := fun cs =>
  match cs with
  | '0' :: 'x' :: rest => readBased? 16 rest
  | '0' :: 'o' :: rest => readBased? 8 rest
  | '0' :: 'b' :: rest => readBased? 2 rest
  | _ =>
    let signed := ParametricScene.readSign cs
    let special : Float → List Char → Option (Json × List Char) := fun x rest =>
      some (.number (.double (if signed.1 then -x else x)), rest)
    match signed.2 with
    | 'i' :: 'n' :: 'f' :: rest => special (1.0 / 0.0) rest
    | 'n' :: 'a' :: 'n' :: rest => special (0.0 / 0.0) rest
    | rest => readDecimal? signed.1 rest

/-! ### Times -/

/-- The number of exactly `n` digits, if it lies between two bounds. -/
def readField? (n low high : Nat) : PartReader Nat := fun cs =>
  let digits := cs.take n
  let value := digitsValue digits
  if digits.length = n ∧ digits.all isDigit ∧ low ≤ value ∧ value ≤ high then
    some (value, cs.drop n)
  else none

/-- The text behind a character, if it starts with it. -/
def after? (c : Char) : List Char → Option (List Char)
  | d :: rest => if d = c then some rest else none
  | [] => none

/-- The number of days of a month. -/
def daysOfMonth (year month : Nat) : Nat :=
  let isLeap := year % 4 == 0 && (year % 100 != 0 || year % 400 == 0)
  if month = 2 then (if isLeap then 29 else 28)
  else if month = 4 ∨ month = 6 ∨ month = 9 ∨ month = 11 then 30
  else 31

/-- The text behind a date. -/
def afterDate? (cs : List Char) : Option (List Char) := do
  let (year, rest) ← readField? 4 0 9999 cs
  let rest ← after? '-' rest
  let (month, rest) ← readField? 2 1 12 rest
  let rest ← after? '-' rest
  let (_, rest) ← readField? 2 1 (daysOfMonth year month) rest
  pure rest

/-- The text behind a time of day. -/
def afterTime? (cs : List Char) : Option (List Char) := do
  let (_, rest) ← readField? 2 0 23 cs
  let rest ← after? ':' rest
  let (_, rest) ← readField? 2 0 59 rest
  let rest ← after? ':' rest
  let (_, rest) ← readField? 2 0 60 rest
  match rest with
  | '.' :: fraction =>
    if (fraction.takeWhile isDigit).isEmpty then none else some (fraction.dropWhile isDigit)
  | rest => some rest

/-- The text behind the offset of a time, which may be missing. -/
def afterOffset? (cs : List Char) : Option (List Char) :=
  match cs with
  | c :: rest =>
    if c = 'Z' ∨ c = 'z' then some rest
    else if c = '+' ∨ c = '-' then do
      let (_, rest) ← readField? 2 0 23 rest
      let rest ← after? ':' rest
      let (_, rest) ← readField? 2 0 59 rest
      pure rest
    else some cs
  | [] => some []

/-- The text behind what may follow a date: a mark or a blank, a time of day and an offset. A blank
without a time of day belongs to what comes next. -/
def afterDated? (cs : List Char) : Option (List Char) :=
  match cs with
  | c :: rest =>
    if c = 'T' ∨ c = 't' then (afterTime? rest).bind afterOffset?
    else if c = ' ' then
      match rest with
      | d :: e :: ':' :: _ =>
        if isDigit d ∧ isDigit e then (afterTime? rest).bind afterOffset? else some cs
      | _ => some cs
    else some cs
  | [] => some []

/-- A date with or without a time of day, or a time of day alone. -/
def readTime? : PartReader Json := fun cs =>
  let isDate := (cs.take 4).all isDigit && (cs.drop 4).head? == some '-'
  let behind? := if isDate then (afterDate? cs).bind afterDated? else afterTime? cs
  behind?.map fun rest => (.object [], rest)

/-- The text starts like a date or a time of day. -/
def isTime (cs : List Char) : Bool :=
  let digits := (cs.takeWhile isDigit).length
  let next := (cs.dropWhile isDigit).head?
  (digits == 4 && next == some '-') || (digits == 2 && next == some ':')

/-! ### All values -/

/-- The text behind a comment, which ends with the line. -/
def afterComment (cs : List Char) : List Char := cs.dropWhile isPrintable

/-- The text behind blanks, line breaks and comments. The first argument bounds their number. -/
def skipLines : Nat → List Char → List Char
  | 0, cs => cs
  | fuel + 1, cs =>
    match skipBlanks cs with
    | '#' :: rest => skipLines fuel (afterComment rest)
    | rest =>
      match afterBreak? rest with
      | some rest => skipLines fuel rest
      | none => rest

/-- The text behind everything that may stand between the items of an array. -/
def skipGap (cs : List Char) : List Char := skipLines (cs.length + 1) cs

/-- The items of an array up to its closing bracket, put onto those read before in reverse order.
The first argument bounds their number. -/
def itemsOnto? (value : PartReader Json) : Nat → List Json → PartReader (List Json)
  | 0, _, _ => none
  | fuel + 1, before, cs =>
    match skipGap cs with
    | ']' :: rest => some (before.reverse, rest)
    | cs =>
      match value cs with
      | none => none
      | some (v, rest) =>
        match skipGap rest with
        | ',' :: rest => itemsOnto? value fuel (v :: before) rest
        | ']' :: rest => some ((v :: before).reverse, rest)
        | _ => none

/-- A dotted name, an equals sign and a value. -/
def readMember? (value : PartReader Json) : PartReader ((List String × String) × Json) := fun cs => do
  let (name, rest) ← readPath? cs
  let rest ← after? '=' rest
  let (v, rest) ← value (skipBlanks rest)
  pure ((name, v), rest)

/-- The members of an inline table up to its closing brace, added to those read before. The first
argument bounds their number. -/
def membersOnto? (value : PartReader Json) : Nat → Members → PartReader Members
  | 0, _, _ => none
  | fuel + 1, before, cs => do
    let (((path, name), v), rest) ← readMember? value cs
    let ms ← insert? [] path name v before
    match skipBlanks rest with
    | ',' :: rest => membersOnto? value fuel ms rest
    | '}' :: rest => some (ms, rest)
    | _ => none

/-- The members of an inline table behind its opening brace. -/
def readInline? (value : PartReader Json) : PartReader Members := fun cs =>
  match skipBlanks cs with
  | '}' :: rest => some ([], rest)
  | rest => membersOnto? value (rest.length + 1) [] rest

/-- A value without parts. -/
def readScalar? : PartReader Json := fun cs =>
  match cs with
  | 't' :: 'r' :: 'u' :: 'e' :: rest => some (.boolean true, rest)
  | 'f' :: 'a' :: 'l' :: 's' :: 'e' :: rest => some (.boolean false, rest)
  | c :: _ =>
    if c = '"' ∨ c = apostrophe then (readString? cs).map fun r => (.text r.1, r.2)
    else if isTime cs then readTime? cs
    else readNumber? cs
  | [] => none

/-- A value in which arrays and inline tables nest at most as deep as the first argument says. -/
def readValue? : Nat → PartReader Json
  | 0, cs =>
    match cs with
    | '[' :: _ | '{' :: _ => none
    | _ => readScalar? cs
  | depth + 1, cs =>
    match cs with
    | '[' :: rest =>
      (itemsOnto? (readValue? depth) (rest.length + 1) [] rest).map fun r => (.array r.1, r.2)
    | '{' :: rest => (readInline? (readValue? depth) rest).map fun r => (toJson r.1, r.2)
    | _ => readScalar? cs

end Toml

end ParametricScene
