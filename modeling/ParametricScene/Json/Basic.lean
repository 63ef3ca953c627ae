import ParametricScene.OrderedMap

/-!
# Document trees

A document is a tree of objects, arrays and scalars. Numbers keep the distinction between whole
numbers that fit a machine word and all others, because indices and packed colours accept only the
former. The members of an object are kept as written, repeated names included; what a repetition
means is decided by the reader of the object.

A part of a text may have the outline of a document and still stand for nothing: a number beyond the
doubles, a string with half of a surrogate pair, arrays and objects nested too deep. Such a part does
no harm where it is passed over, so the tree has a place for it.

## Main definitions

* `JsonNumber` — naturals, negative integers and doubles
* `Json` — the tree
* `Json.isReadable` — no part of the tree stands for nothing
* `Json.normalize` — one member for each name, in the place of the first, with the value of the last
-/

namespace ParametricScene

/-- A number of a document. -/
inductive JsonNumber where
  /-- A whole number from zero up, below `2 ^ 64`. -/
  | natural (n : Nat)
  /-- The negative of a positive whole number up to `2 ^ 63`. -/
  | negative (n : Nat)
  /-- Every other number. -/
  | double (x : Float)

/-- The number as a double. -/
def JsonNumber.toFloat : JsonNumber → Float
  | .natural n => Float.ofNat n
  | .negative n => -(Float.ofNat n)
  | .double x => x

/-- A document. -/
inductive Json where
  | null
  | boolean (b : Bool)
  | number (n : JsonNumber)
  | text (s : String)
  | array (items : List Json)
  | object (members : List (String × Json))
  /-- A part that has the outline of a document and stands for nothing. -/
  | unreadable
deriving Inhabited

namespace Json

/-- The last value written under a name. -/
def lastMember? (name : String) (members : List (String × Json)) : Option Json :=
  members.foldl (fun found m => if m.1 = name then some m.2 else found) none

/-- The member of an object. -/
def member? (name : String) : Json → Option Json
  | .object members => lastMember? name members
  | _ => none

mutual

/-- No part of the tree stands for nothing. -/
def isReadable : Json → Bool
  | .null | .boolean _ | .number _ | .text _ => true
  | .array items => areReadable items
  | .object members => membersReadable members
  | .unreadable => false

/-- No part of several trees stands for nothing. -/
def areReadable : List Json → Bool
  | [] => true
  | item :: rest => isReadable item && areReadable rest

/-- No part of the values of members stands for nothing. -/
def membersReadable : List (String × Json) → Bool
  | [] => true
  | (_, value) :: rest => isReadable value && membersReadable rest

end

mutual

/-- Everywhere in the tree one member for each name: it stands where the name first occurs and has
the value written last. -/
def normalize : Json → Json
  | .null => .null
  | .boolean b => .boolean b
  | .number n => .number n
  | .text s => .text s
  | .array items => .array (normalizeAll items)
  | .object members => .object (OrderedMap.ofList (normalizeMembers members)).entries
  | .unreadable => .unreadable

/-- Normalizes several documents. -/
def normalizeAll : List Json → List Json
  | [] => []
  | item :: rest => normalize item :: normalizeAll rest

/-- Normalizes the values of members. -/
def normalizeMembers : List (String × Json) → List (String × Json)
  | [] => []
  | (name, value) :: rest => (name, normalize value) :: normalizeMembers rest

end

end Json

end ParametricScene
