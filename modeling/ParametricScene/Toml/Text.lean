import ParametricScene.Json.Reader

/-!
# Strings of settings files

A string stands between quotes, which allow escapes, or between apostrophes, which allow none. Three
of either enclose a string over several lines; a line break right behind the opening mark does not
count, and up to two marks may stand right before the closing ones. Controls other than the tab never
stand in a string as they are.

## Main definitions

* `Toml.readString?` — the string a text starts with
* `Toml.quote` — a string as it is written
-/

namespace ParametricScene

namespace Toml

/-- Readers of a part of a file: what is read, and the text behind it. -/
abbrev PartReader (α : Type) : Type := List Char → Option (α × List Char)

/-- The apostrophe. -/
def apostrophe : Char := '\x27'

/-- A character that may stand in a string or comment as it is. -/
def isPrintable (c : Char) : Bool := c == '\t' || (decide (' ' ≤ c) && c != '\x7f')

/-- Blanks within a line. -/
def isBlankChar (c : Char) : Bool := c == ' ' || c == '\t'

/-- The text behind blanks. -/
def skipBlanks (cs : List Char) : List Char := cs.dropWhile isBlankChar

/-- The text behind a line break, if there is one. -/
def afterBreak? : List Char → Option (List Char)
  | '\n' :: rest => some rest
  | '\r' :: '\n' :: rest => some rest
  | _ => none

/-- The text behind one optional line break. -/
def skipBreak (cs : List Char) : List Char := (afterBreak? cs).getD cs

/-! ### Escapes -/

/-- The number of exactly `n` hexadecimal digits. -/
def readHex? (n : Nat) (cs : List Char) : Option (Nat × List Char) :=
  let digits := cs.take n
  if digits.length = n then
    (digits.mapM Json.hexValue?).map fun ds => (ds.foldl (fun x d => 16 * x + d) 0, cs.drop n)
  else none

/-- The character with the code of `n` hexadecimal digits. -/
def readCode? (n : Nat) : PartReader Char := fun cs => do
  let (code, rest) ← readHex? n cs
  if code.isValidChar then some (Char.ofNat code, rest) else none

/-- The character of the escape that follows a backslash. -/
def readEscape? : PartReader Char
  | '"' :: rest => some ('"', rest)
  | '\\' :: rest => some ('\\', rest)
  | 'b' :: rest => some ('\x08', rest)
  | 'f' :: rest => some ('\x0c', rest)
  | 'n' :: rest => some ('\n', rest)
  | 'r' :: rest => some ('\r', rest)
  | 't' :: rest => some ('\t', rest)
  | 'u' :: rest => readCode? 4 rest
  | 'U' :: rest => readCode? 8 rest
  | _ => none

/-- The text behind blanks and line breaks. A return counts only as part of a line break. -/
def skipMargin : List Char → List Char
  | [] => []
  | '\r' :: '\n' :: rest => skipMargin rest
  | c :: rest => if isBlankChar c || c == '\n' then skipMargin rest else c :: rest

/-- The text behind a backslash that joins lines: blanks, a line break, and all blanks and breaks
that follow. -/
def afterJoin? (cs : List Char) : Option (List Char) :=
  (afterBreak? (skipBlanks cs)).map skipMargin

/-! ### Strings in one line -/

/-- The characters up to the closing quote, put onto those read before in reverse order. The first
argument bounds their number. -/
def quotedOnto? : Nat → List Char → PartReader (List Char)
  | 0, _, _ => none
  | _ + 1, _, [] => none
  | fuel + 1, before, c :: rest =>
    if c = '"' then some (before.reverse, rest)
    else if c = '\\' then
      match readEscape? rest with
      | some (e, rest) => quotedOnto? fuel (e :: before) rest
      | none => none
    else if isPrintable c then quotedOnto? fuel (c :: before) rest
    else none

/-- The characters up to the closing apostrophe. -/
def readLiteral? (cs : List Char) : Option (List Char × List Char) :=
  let isInside : Char → Bool := fun c => c != apostrophe && isPrintable c
  match cs.dropWhile isInside with
  | c :: rest => if c = apostrophe then some (cs.takeWhile isInside, rest) else none
  | [] => none

/-! ### Strings over several lines -/

/-- The characters up to three closing marks, put onto those read before in reverse order. Escapes
count where `escapes` says so. The first argument bounds the number of steps. -/
def linesOnto? (mark : Char) (escapes : Bool) : Nat → List Char → PartReader (List Char)
  | 0, _, _ => none
  | _ + 1, _, [] => none
  | fuel + 1, before, c :: rest =>
    if c = mark then
      let run := (c :: rest).takeWhile (· == mark)
      let after := (c :: rest).dropWhile (· == mark)
      if run.length < 3 then linesOnto? mark escapes fuel (run ++ before) after
      else if run.length ≤ 5 then some ((run.drop 3 ++ before).reverse, after)
      else none
    else if escapes ∧ c = '\\' then
      match afterJoin? rest with
      | some rest => linesOnto? mark escapes fuel before rest
      | none =>
        match readEscape? rest with
        | some (e, rest) => linesOnto? mark escapes fuel (e :: before) rest
        | none => none
    else
      match afterBreak? (c :: rest) with
      | some rest => linesOnto? mark escapes fuel ('\n' :: before) rest
      | none =>
        if isPrintable c then linesOnto? mark escapes fuel (c :: before) rest else none

/-- The string over several lines behind its opening marks. -/
def readLines? (mark : Char) (escapes : Bool) : PartReader (List Char) := fun cs =>
  linesOnto? mark escapes (cs.length + 1) [] (skipBreak cs)

/-- The string a text starts with, in one line. -/
def readLineString? : PartReader (List Char) := fun cs =>
  match cs with
  | [] => none
  | c :: rest =>
    if c = '"' then quotedOnto? (rest.length + 1) [] rest
    else if c = apostrophe then readLiteral? rest
    else none

/-- The string a text starts with. -/
def readString? : PartReader String := fun cs =>
  let marks := cs.take 3
  let chars? :=
    if marks = ['"', '"', '"'] then readLines? '"' true (cs.drop 3)
    else if marks = List.replicate 3 apostrophe then readLines? apostrophe false (cs.drop 3)
    else readLineString? cs
  chars?.map fun r => (String.ofList r.1, r.2)

/-! ### Writing -/

/-- The marks a string may stand between. -/
inductive Enclosure where
  | quotes
  | apostrophes
  | tripleQuotes
  | tripleApostrophes
deriving DecidableEq, Repr

/-- The marks before a string, and behind it. -/
def Enclosure.marks : Enclosure → List Char
  | .quotes => ['"']
  | .apostrophes => [apostrophe]
  | .tripleQuotes => List.replicate 3 '"'
  | .tripleApostrophes => List.replicate 3 apostrophe

/-- The greatest number of marks in a row. -/
def longestRun (mark : Char) (cs : List Char) : Nat :=
  (cs.foldl (fun (r : Nat × Nat) c =>
    if c = mark then (r.1 + 1, max r.2 (r.1 + 1)) else (0, r.2)) (0, 0)).2

/-- The marks a string is written between: the first of quotes, an apostrophe, three quotes and three
apostrophes that need no escape but that of a tab, and quotes where all need one. Strings with a line
break stand between three marks. -/
def enclosure (cs : List Char) : Enclosure :=
  let severalLines := cs.contains '\n'
  let isPlain := cs.all fun c => isPrintable c || c == '\n'
  let hasBackslash := cs.contains '\\'
  let quotes := longestRun '"' cs
  let apostrophes := longestRun apostrophe cs
  if isPlain && !hasBackslash && quotes == 0 && !severalLines then .quotes
  else if isPlain && apostrophes == 0 && !severalLines then .apostrophes
  else if isPlain && !hasBackslash && decide (quotes < 3) then .tripleQuotes
  else if isPlain && decide (apostrophes < 3) then .tripleApostrophes
  else if severalLines then .tripleQuotes
  else .quotes

/-- How a character other than the quote is written between quotes. Line breaks stand for themselves
in strings over several lines. -/
def escapeChar (severalLines : Bool) (c : Char) : List Char :=
  if c = '\x08' then ['\\', 'b']
  else if c = '\t' then ['\\', 't']
  else if c = '\n' then (if severalLines then ['\n'] else ['\\', 'n'])
  else if c = '\x0c' then ['\\', 'f']
  else if c = '\r' then ['\\', 'r']
  else if c = '\\' then ['\\', '\\']
  else if c < ' ' ∨ c = '\x7f' then
    ['\\', 'u', '0', '0', (Nat.digitChar (c.toNat / 16)).toUpper,
      (Nat.digitChar (c.toNat % 16)).toUpper]
  else [c]

/-- How characters are written between quotes. Up to `bare` quotes in a row stand for themselves and
the next one is escaped, behind which the count starts again; `run` of them stand right before. -/
def escapeFrom (severalLines : Bool) (bare : Nat) : Nat → List Char → List Char
  | _, [] => []
  | run, c :: rest =>
    if c = '"' then
      if run < bare then c :: escapeFrom severalLines bare (run + 1) rest
      else '\\' :: c :: escapeFrom severalLines bare 0 rest
    else escapeChar severalLines c ++ escapeFrom severalLines bare 0 rest

/-- How the characters of a string are written between its marks. -/
def Enclosure.body : Enclosure → List Char → List Char
  | .quotes, cs => escapeFrom false 0 0 cs
  | .tripleQuotes, cs => escapeFrom true 2 0 cs
  | .apostrophes, cs | .tripleApostrophes, cs => cs

/-- A string as it is written. A string over several lines starts on a line of its own. -/
def quote (s : String) : String :=
  let cs := s.toList
  let e := enclosure cs
  let opening := if cs.contains '\n' then e.marks ++ ['\n'] else e.marks
  String.ofList (opening ++ e.body cs ++ e.marks)

end Toml

end ParametricScene
