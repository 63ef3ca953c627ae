import ParametricScene.Json.Basic

/-!
# Tables of settings files

A settings file is a table of members. Headers open tables below it, and dotted names reach into
tables. Nothing may be defined twice: a header may complete a table that only other headers mentioned,
a dotted name may complete one that dotted names made, and neither may touch anything else.

## Main definitions

* `TomlItem`, `TableOrigin` — what stands under a name
* `Toml.insert?` — a member more, under a dotted name
* `Toml.openTable?`, `Toml.openList?` — headers
* `Toml.toJson` — the finished table as a document tree
-/

namespace ParametricScene

/-- What made a table. -/
inductive TableOrigin where
  /-- The header of a table further below. -/
  | mention
  /-- A dotted name. -/
  | dotted
  /-- Its own header. -/
  | header
deriving DecidableEq, Repr

/-- What stands under a name. -/
inductive TomlItem where
  /-- A value, which nothing can be added to. -/
  | value (v : Json)
  | table (origin : TableOrigin) (members : List (String × TomlItem))
  /-- Tables that share a name, each with its own header. -/
  | list (tables : List (List (String × TomlItem)))

namespace Toml

/-- The members of a table. -/
abbrev Members : Type := List (String × TomlItem)

/-- The item under a name. -/
def find? (name : String) : Members → Option TomlItem
  | [] => none
  | (n, item) :: rest => if n = name then some item else find? name rest

/-- Puts another item under a name that is present. -/
def replace (name : String) (item : TomlItem) (ms : Members) : Members :=
  ms.map fun m => if m.1 = name then (name, item) else m

/-- A member more. -/
def add (name : String) (item : TomlItem) (ms : Members) : Members := ms ++ [(name, item)]

/-- Changes the last of several tables. -/
def changeLast? (f : Members → Option Members) (tables : List Members) : Option (List Members) :=
  match tables.getLast? with
  | some last => (f last).map fun last => tables.dropLast ++ [last]
  | none => none

/-- A member more, under a name reached by a path of names. `direct` tells that members may be added
to the table itself. -/
def insertIn? (name : String) (v : Json) : Bool → List String → Members → Option Members
  | direct, [], ms =>
    if direct ∧ (find? name ms).isNone then some (add name (.value v) ms) else none
  | _, step :: path, ms =>
    match find? step ms with
    | none => (insertIn? name v true path []).map fun inner => add step (.table .dotted inner) ms
    | some (.value _) | some (.table .header _) => none
    | some (.table origin inner) =>
      (insertIn? name v (origin == .dotted) path inner).map fun inner =>
        replace step (.table origin inner) ms
    | some (.list tables) =>
      (changeLast? (insertIn? name v false path) tables).map fun tables =>
        replace step (.list tables) ms

/-- Changes the members of the table that a header names; tables on the way that are missing are
made. -/
def changeAt? (f : Members → Option Members) : List String → Members → Option Members
  | [], ms => f ms
  | step :: path, ms =>
    match find? step ms with
    | none => (changeAt? f path []).map fun inner => add step (.table .mention inner) ms
    | some (.value _) => none
    | some (.table origin inner) =>
      (changeAt? f path inner).map fun inner => replace step (.table origin inner) ms
    | some (.list tables) =>
      (changeLast? (changeAt? f path) tables).map fun tables => replace step (.list tables) ms

/-- A member more in the table that a header names, under a dotted name. -/
def insert? (table path : List String) (name : String) (v : Json) (ms : Members) :
    Option Members :=
  changeAt? (insertIn? name v true path) table ms

/-- The header of a table. -/
def openTable? (path : List String) (name : String) : Members → Option Members :=
  changeAt? (fun ms =>
    match find? name ms with
    | none => some (add name (.table .header []) ms)
    | some (.table .mention inner) => some (replace name (.table .header inner) ms)
    | some _ => none) path

/-- The header of one more of several tables. -/
def openList? (path : List String) (name : String) : Members → Option Members :=
  changeAt? (fun ms =>
    match find? name ms with
    | none => some (add name (.list [[]]) ms)
    | some (.list tables) => some (replace name (.list (tables ++ [[]])) ms)
    | some _ => none) path

mutual

/-- An item as a document tree. -/
def itemToJson : TomlItem → Json
  | .value v => v
  | .table _ members => .object (membersToJson members)
  | .list tables => .array (tablesToJson tables)

/-- Members as members of an object. -/
def membersToJson : List (String × TomlItem) → List (String × Json)
  | [] => []
  | (name, item) :: rest => (name, itemToJson item) :: membersToJson rest

/-- Tables as objects. -/
def tablesToJson : List (List (String × TomlItem)) → List Json
  | [] => []
  | members :: rest => .object (membersToJson members) :: tablesToJson rest

end

/-- The members of a table as a document tree. -/
def toJson (ms : Members) : Json := .object (membersToJson ms)

end Toml

end ParametricScene
