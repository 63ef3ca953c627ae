import ParametricScene.Material.Definition

/-!
# Libraries of materials

A scene asks for the material of each leaf by name, and gives it back with the leaf. A material is
made when it is first asked for and kept for good; the library counts its uses.

## Main definitions

* `MaterialCache` — what a scene asks of the keeper of its materials
* `MaterialLibrary` — the keeper of this library
-/

namespace ParametricScene

/-- What a scene asks of the keeper of its materials. -/
class MaterialCache (M : Type) where
  /-- The handle of a material, which is used once more. -/
  acquire : String → MaterialDefinition → M → Nat × M
  /-- Ends one use. -/
  release : Nat → M → M

/-- A material with the number of its uses. -/
structure MaterialEntry where
  material : Material
  uses : Nat

/-- One use more. -/
def MaterialEntry.use (e : MaterialEntry) : MaterialEntry := { e with uses := e.uses + 1 }

/-- One use less, if there are any. -/
def MaterialEntry.leave (e : MaterialEntry) : MaterialEntry := { e with uses := e.uses - 1 }

/-- The materials made so far, each at the place of its handle. -/
structure MaterialLibrary where
  entries : Array MaterialEntry

namespace MaterialLibrary

/-- No materials. -/
def empty : MaterialLibrary := ⟨#[]⟩

/-- The number of materials. -/
def size (l : MaterialLibrary) : Nat := l.entries.size

/-- The material of a handle. -/
def get? (l : MaterialLibrary) (handle : Nat) : Option Material :=
  l.entries[handle]?.map MaterialEntry.material

/-- The handle of a name. -/
def handle? (l : MaterialLibrary) (name : String) : Option Nat :=
  l.entries.findIdx? fun e => e.material.name == name

/-- The number of uses of a handle. -/
def uses (l : MaterialLibrary) (handle : Nat) : Nat :=
  match l.entries[handle]? with
  | some e => e.uses
  | none => 0

/-- The number of uses of all handles. -/
def totalUses (l : MaterialLibrary) : Nat := l.entries.foldl (fun n e => n + e.uses) 0

/-- The handle of a name, which is used once more. The definition counts the first time only. -/
def acquire (name : String) (definition : MaterialDefinition) (l : MaterialLibrary) :
    Nat × MaterialLibrary :=
  match l.handle? name with
  | some h => (h, ⟨l.entries.modify h MaterialEntry.use⟩)
  | none => (l.entries.size, ⟨l.entries.push ⟨Material.ofDefinition name definition, 1⟩⟩)

/-- Ends one use. The material stays. -/
def release (handle : Nat) (l : MaterialLibrary) : MaterialLibrary :=
  ⟨l.entries.modify handle MaterialEntry.leave⟩

instance : MaterialCache MaterialLibrary := ⟨acquire, release⟩

end MaterialLibrary

end ParametricScene
