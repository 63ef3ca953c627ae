import ParametricScene.Geometry.Placement
import ParametricScene.Template.Basic

/-!
# The graph of a scene

The objects of a scene stand in numbered slots and name each other by slot. The object in slot zero is
the root. Removing the descendants of an object leaves their slots free; a new object takes the slot
that was freed last, or a new one at the end.

Every operation is total: slots that hold nothing have no object, no children and no place in the
world, and inserting below nothing only fills a slot.

## Main definitions

* `SceneObject`, `ObjectKind`, `Leaf` — what stands in a slot
* `SceneGraph` — the slots
* `SceneGraph.insert`, `SceneGraph.clearChildren` — growing and shrinking
* `SceneGraph.world?` — where an object stands in the world
-/

namespace ParametricScene

/-- A piece of geometry with its material, each with the handle it is known by. -/
structure Leaf where
  kind : GeometryKind
  dimensions : List Float
  geometryHandle : Nat
  material : String
  materialHandle : Nat

/-- What an object of a scene is. -/
inductive ObjectKind where
  | root
  /-- The object of a template, which holds everything built for it. -/
  | container
  | group
  | leaf (leaf : Leaf)

/-- The word for what an object is. -/
def ObjectKind.word : ObjectKind → String
  | .root => "root"
  | .container => "container"
  | .group => "group"
  | .leaf _ => "leaf"

/-- An object of a scene. -/
structure SceneObject where
  /-- The path from the root, joined by dots. -/
  name : String
  placement : Placement
  parent : Option Nat
  children : Array Nat
  kind : ObjectKind

/-- The leaf of an object that is one. -/
def SceneObject.leaf? (o : SceneObject) : Option Leaf :=
  match o.kind with
  | .leaf l => some l
  | _ => none

/-- One child more, after the others. -/
def SceneObject.adopt (child : Nat) (o : SceneObject) : SceneObject :=
  { o with children := o.children.push child }

/-- Objects in slots, and the free slots, the one freed last first. -/
structure SceneGraph where
  slots : Array (Option SceneObject)
  free : List Nat

namespace SceneGraph

/-- The slot of the root. -/
def rootSlot : Nat := 0

/-- The root alone. -/
def new : SceneGraph := ⟨#[some ⟨"", .default, none, #[], .root⟩], []⟩

instance : Inhabited SceneGraph := ⟨new⟩

/-- The number of objects, the root included. -/
def size (g : SceneGraph) : Nat := g.slots.size - g.free.length

/-- Nothing stands below the root. -/
def isEmpty (g : SceneGraph) : Bool := decide (g.size ≤ 1)

/-- The object in a slot. -/
def get? (g : SceneGraph) (slot : Nat) : Option SceneObject := g.slots[slot]?.join

/-- The children of the object in a slot, in order. -/
def children (g : SceneGraph) (slot : Nat) : List Nat :=
  match g.get? slot with
  | some o => o.children.toList
  | none => []

/-! ### Growing -/

/-- A slot becomes the last child of the object in another. -/
def adopt (g : SceneGraph) (parent child : Nat) : SceneGraph :=
  { g with slots := g.slots.modify parent (Option.map (SceneObject.adopt child)) }

/-- A new object below the one in slot `parent`, and the slot it takes. -/
def insert (g : SceneGraph) (parent : Nat) (name : String) (placement : Placement)
    (kind : ObjectKind) : Nat × SceneGraph :=
  let object : SceneObject := ⟨name, placement, some parent, #[], kind⟩
  match g.free with
  | slot :: rest => (slot, (mk (g.slots.setIfInBounds slot (some object)) rest).adopt parent slot)
  | [] => (g.slots.size, (mk (g.slots.push (some object)) []).adopt parent g.slots.size)

/-- Another placement for the object in a slot. -/
def move (g : SceneGraph) (slot : Nat) (placement : Placement) : SceneGraph :=
  { g with
    slots := g.slots.modify slot (Option.map fun o => { o with placement := placement }) }

/-! ### Shrinking -/

/-- The number of slots that hold an object. -/
def occupied (slots : Array (Option SceneObject)) : Nat := slots.toList.countP Option.isSome

theorem occupied_setIfInBounds_lt {slots : Array (Option SceneObject)} {slot : Nat}
    {o : SceneObject} (h : slots[slot]? = some (some o)) :
    occupied (slots.setIfInBounds slot none) < occupied slots := by
  obtain ⟨hlt, hget⟩ := Array.getElem?_eq_some_iff.mp h
  have hlt' : slot < slots.toList.length := by simpa using hlt
  have hval : slots.toList[slot] = some o := by simpa using hget
  have hpos : 0 < slots.toList.countP Option.isSome :=
    List.countP_pos_iff.mpr ⟨some o, hval ▸ List.getElem_mem hlt', rfl⟩
  unfold occupied
  rw [Array.toList_setIfInBounds, List.countP_set hlt', hval]
  simp only [Option.isSome_some, Option.isSome_none, if_true, Bool.false_eq_true, if_false]
  omega

/-- Takes out the objects in the given slots with all below them: each object before those below it,
and these before the slots that follow. The first result lists what was taken out. -/
def takeOut (slots : Array (Option SceneObject)) :
    List Nat → List (Nat × SceneObject) × Array (Option SceneObject)
  | [] => ([], slots)
  | slot :: rest =>
    match h : slots[slot]? with
    | some (some o) =>
      have := occupied_setIfInBounds_lt h
      let (removed, slots) := takeOut (slots.setIfInBounds slot none) (o.children.toList ++ rest)
      ((slot, o) :: removed, slots)
    | _ => takeOut slots rest
termination_by pending => (occupied slots, pending.length)

/-- Removes everything below the object in a slot, and lists what was removed in depth-first
order. -/
def clearChildren (g : SceneGraph) (slot : Nat) : List (Nat × SceneObject) × SceneGraph :=
  match g.get? slot with
  | none => ([], g)
  | some o =>
    let slots := g.slots.setIfInBounds slot (some { o with children := #[] })
    let (removed, slots) := takeOut slots o.children.toList
    (removed, ⟨slots, (removed.map Prod.fst).reverse ++ g.free⟩)

/-! ### The world -/

/-- Follows the parents of an object for at most `steps` steps, and multiplies their matrices to the
left of `m`. -/
def worldFrom (g : SceneGraph) : Nat → SceneObject → Matrix Float → Option (Matrix Float)
  | steps, o, m =>
    match o.parent with
    | none => some m
    | some parent =>
      match steps, g.get? parent with
      | steps + 1, some p => worldFrom g steps p (p.placement.matrix * m)
      | _, _ => none

/-- The matrix that places the object in a slot in the world: the product of the placements from the
root down to the object. No chain of parents is longer than the number of slots. -/
def world? (g : SceneGraph) (slot : Nat) : Option (Matrix Float) :=
  match g.get? slot with
  | some o => worldFrom g g.slots.size o o.placement.matrix
  | none => none

end SceneGraph

end ParametricScene
