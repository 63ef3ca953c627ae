import ParametricScene.Decimal.Format
import ParametricScene.Json.Basic

/-!
# Writing documents

Documents are written in one line without blanks, or with one part a line, indented by two blanks a
level. Strings escape quotes, backslashes and controls and nothing else; numbers have the fewest
digits that read back. What stands for nothing is written like `null`.

## Main definitions

* `Json.compact` — a document in one line
* `Json.pretty` — a document over several lines
-/

namespace ParametricScene

namespace Json

/-- How a character is written inside a string. -/
def escapeForText (c : Char) : List Char :=
  if c = '"' then ['\\', '"']
  else if c = '\\' then ['\\', '\\']
  else if c = '\n' then ['\\', 'n']
  else if c = '\r' then ['\\', 'r']
  else if c = '\t' then ['\\', 't']
  else if c = '\x08' then ['\\', 'b']
  else if c = '\x0c' then ['\\', 'f']
  else if c.toNat < 0x20 then
    ['\\', 'u', '0', '0', Nat.digitChar (c.toNat / 16), Nat.digitChar (c.toNat % 16)]
  else [c]

/-- A string with its quotes. -/
def renderText (s : String) : String :=
  String.ofList ('"' :: (s.toList.flatMap escapeForText ++ ['"']))

/-- A number. -/
def renderNumber : JsonNumber → String
  | .natural n => toString n
  | .negative n => "-" ++ toString n
  | .double x => NumberFormat.document.render x

mutual

/-- A document in one line. -/
def compact : Json → String
  | .null => "null"
  | .boolean b => if b then "true" else "false"
  | .number n => renderNumber n
  | .text s => renderText s
  | .array items => "[" ++ String.intercalate "," (compactAll items) ++ "]"
  | .object members => "\x7b" ++ String.intercalate "," (compactMembers members) ++ "\x7d"
  | .unreadable => "null"

/-- Several documents, each in one line. -/
def compactAll : List Json → List String
  | [] => []
  | item :: rest => compact item :: compactAll rest

/-- Members, each in one line. -/
def compactMembers : List (String × Json) → List String
  | [] => []
  | (name, value) :: rest => (renderText name ++ ":" ++ compact value) :: compactMembers rest

end

/-- Puts a text in front of the first line. -/
def beforeFirst (start : String) : List String → List String
  | [] => [start]
  | line :: rest => (start ++ line) :: rest

/-- Puts a comma behind the last line. -/
def withComma : List String → List String
  | [] => []
  | [line] => [line ++ ","]
  | line :: rest => line :: withComma rest

/-- Groups of lines, a comma behind each but the last, all of them indented. -/
def indentGroups : List (List String) → List String
  | [] => []
  | [group] => group.map ("  " ++ ·)
  | group :: rest => (withComma group).map ("  " ++ ·) ++ indentGroups rest

mutual

/-- The lines of a document. -/
def lines : Json → List String
  | .array items =>
    if items.isEmpty then ["[]"] else "[" :: (indentGroups (linesAll items) ++ ["]"])
  | .object members =>
    if members.isEmpty then ["\x7b\x7d"]
    else "\x7b" :: (indentGroups (linesMembers members) ++ ["\x7d"])
  | .null | .unreadable => ["null"]
  | .boolean b => [if b then "true" else "false"]
  | .number n => [renderNumber n]
  | .text s => [renderText s]

/-- The lines of several documents. -/
def linesAll : List Json → List (List String)
  | [] => []
  | item :: rest => lines item :: linesAll rest

/-- The lines of members. -/
def linesMembers : List (String × Json) → List (List String)
  | [] => []
  | (name, value) :: rest =>
    beforeFirst (renderText name ++ ": ") (lines value) :: linesMembers rest

end

/-- A document over several lines. -/
def pretty (j : Json) : String := String.intercalate "\n" (lines j)

end Json

end ParametricScene
