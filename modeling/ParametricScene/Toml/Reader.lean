import ParametricScene.Toml.Value

/-!
# Settings files

A file is read line by line: headers, members, comments and blank lines. A member belongs to the table
whose header came last.

## Main definitions

* `Toml.parse?` — the document tree of a settings file
-/

namespace ParametricScene

namespace Toml

/-- The text behind the end of a line: blanks, a comment, and a line break unless the text ends. -/
def afterLine? (cs : List Char) : Option (List Char) :=
  let rest := match skipBlanks cs with
    | '#' :: rest => afterComment rest
    | rest => rest
  match rest with
  | [] => some []
  | _ => afterBreak? rest

/-- What was read so far: all members, and the path of the table that members are added to. -/
structure State where
  members : Members
  table : List String

/-- A header behind its opening bracket, with what follows it in the line. -/
def readHeader? (state : State) : PartReader State := fun cs =>
  match cs with
  | '[' :: cs => do
    let ((path, name), rest) ← readPath? cs
    let rest ← (after? ']' rest).bind (after? ']')
    let members ← openList? path name state.members
    pure (⟨members, path ++ [name]⟩, rest)
  | cs => do
    let ((path, name), rest) ← readPath? cs
    let rest ← after? ']' rest
    let members ← openTable? path name state.members
    pure (⟨members, path ++ [name]⟩, rest)

/-- A line that is not empty. -/
def readLine? (state : State) : PartReader State := fun cs =>
  match cs with
  | '#' :: _ => some (state, cs)
  | '[' :: rest => readHeader? state rest
  | _ => do
    let (((path, name), v), rest) ← readMember? (readValue? maxDepth) cs
    let members ← insert? state.table path name v state.members
    pure ({ state with members := members }, rest)

/-- All lines. The first argument bounds their number. -/
def readFrom? : Nat → State → List Char → Option Members
  | 0, _, _ => none
  | fuel + 1, state, cs =>
    match skipBlanks cs with
    | [] => some state.members
    | rest =>
      match afterBreak? rest with
      | some rest => readFrom? fuel state rest
      | none => do
        let (state, rest) ← readLine? state rest
        let rest ← afterLine? rest
        readFrom? fuel state rest

/-- The document tree of a settings file. A mark of byte order in front does not count. -/
def parse? (text : String) : Option Json :=
  let cs := match text.toList with
    | '\uFEFF' :: rest => rest
    | cs => cs
  (readFrom? (cs.length + 1) ⟨[], []⟩ cs).map toJson

end Toml

end ParametricScene
