import Mathlib.Logic.Relation
import ParametricScene.Proofs.Arena

/-!
# Who stands below whom

A graph says what stands below an object only one step at a time, by listing children. Here the steps
are put together, and what stands below an object is compared with the forest that the graph shows:
it is exactly the forest below the site of the object.

Everything is read off a forest that the graph holds below some parent (`SceneGraph.Holds`), by
induction on that forest.

## Main definitions

* `SceneGraph.IsChild`, `SceneGraph.HasParent` — the two ways in which objects name each other
* `SceneGraph.Below` — one or more steps from parent to child

## Main results

* `SceneGraph.Holds.exists_parent` — every object is listed by its parent
* `SceneGraph.Shows.parent_of_isChild` — every child names the object that lists it
* `SceneGraph.Shows.below_iff` — what stands below a site
-/

namespace ParametricScene

namespace Forest

variable {ρ : Type}

theorem roots_sublist_labels {α : Type} (f : Forest α) : f.roots.Sublist f.labels := by
  induction f with
  | nil => exact List.Sublist.refl _
  | cons a below beside _ ih => exact (ih.trans (List.sublist_append_right _ _)).cons_cons a

theorem rootSlots_sublist_slots (f : Forest (Site ρ)) : f.rootSlots.Sublist f.slots :=
  f.roots_sublist_labels.map Site.slot

theorem mem_slots_cons {a : Site ρ} {below beside : Forest (Site ρ)} {slot : Nat} :
    slot ∈ (cons a below beside).slots ↔ slot = a.slot ∨ slot ∈ below.slots ∨ slot ∈ beside.slots := by
  simp [slots, labels]

theorem mem_rootSlots_cons {a : Site ρ} {below beside : Forest (Site ρ)} {slot : Nat} :
    slot ∈ (cons a below beside).rootSlots ↔ slot = a.slot ∨ slot ∈ beside.rootSlots := by
  simp [rootSlots, roots]

end Forest

namespace SceneGraph

variable {ρ : Type}

/-- The object in the first slot has that in the second among its children. -/
def IsChild (g : SceneGraph) (slot child : Nat) : Prop := child ∈ g.children slot

/-- The object in the first slot names the second as that of its parent. -/
def HasParent (g : SceneGraph) (slot parent : Nat) : Prop :=
  (g.get? slot).bind SceneObject.parent = some parent

/-- The second slot is reached from the first by one or more steps from parent to child. -/
def Below (g : SceneGraph) (top slot : Nat) : Prop := Relation.TransGen g.IsChild top slot

theorem isChild_iff {g : SceneGraph} {slot child : Nat} {o : SceneObject}
    (h : g.get? slot = some o) : g.IsChild slot child ↔ child ∈ o.children.toList := by
  rw [IsChild, children, h]

/-- Only live objects have children. -/
theorem IsChild.exists_get? {g : SceneGraph} {slot child : Nat} (h : g.IsChild slot child) :
    ∃ o, g.get? slot = some o ∧ child ∈ o.children.toList := by
  rw [IsChild, children] at h
  cases hget : g.get? slot with
  | none => simp [hget] at h
  | some o => exact ⟨o, rfl, by simpa [hget] using h⟩

/-! ### Below a parent -/

namespace Holds

variable {g : SceneGraph} {parent : Option Nat} {f : Forest (Site ρ)} {slot child : Nat}

/-- The topmost objects of a forest have its parent. -/
theorem exists_of_mem_rootSlots (h : g.Holds parent f) (hslot : slot ∈ f.rootSlots) :
    ∃ o, g.get? slot = some o ∧ o.parent = parent := by
  induction f with
  | nil => simp [Forest.rootSlots, Forest.roots] at hslot
  | cons a below beside _ ih =>
    obtain ⟨ha, -, hbeside⟩ := holds_cons_iff.mp h
    rcases Forest.mem_rootSlots_cons.mp hslot with rfl | hslot
    · exact ⟨_, ha, rfl⟩
    · exact ih hbeside hslot

/-- **Every object is listed by its parent**: it is one of the topmost of the forest and has the
parent of the forest, or its parent is in the forest and lists it. -/
theorem exists_parent (h : g.Holds parent f) (hslot : slot ∈ f.slots) :
    ∃ o, g.get? slot = some o ∧
      ((slot ∈ f.rootSlots ∧ o.parent = parent) ∨
        ∃ p, o.parent = some p ∧ p ∈ f.slots ∧ g.IsChild p slot) := by
  induction f generalizing parent with
  | nil => simp [Forest.slots, Forest.labels] at hslot
  | cons a below beside ihBelow ihBeside =>
    obtain ⟨ha, hbelow, hbeside⟩ := holds_cons_iff.mp h
    rcases Forest.mem_slots_cons.mp hslot with rfl | hslot | hslot
    · exact ⟨_, ha, Or.inl ⟨Forest.mem_rootSlots_cons.mpr (Or.inl rfl), rfl⟩⟩
    · obtain ⟨o, ho, ⟨hroot, hparent⟩ | ⟨p, hparent, hp, hchild⟩⟩ := ihBelow hbelow hslot
      · exact ⟨o, ho, Or.inr ⟨a.slot, hparent, Forest.mem_slots_cons.mpr (Or.inl rfl),
          (isChild_iff ha).mpr hroot⟩⟩
      · exact ⟨o, ho, Or.inr ⟨p, hparent, Forest.mem_slots_cons.mpr (Or.inr (Or.inl hp)), hchild⟩⟩
    · obtain ⟨o, ho, ⟨hroot, hparent⟩ | ⟨p, hparent, hp, hchild⟩⟩ := ihBeside hbeside hslot
      · exact ⟨o, ho, Or.inl ⟨Forest.mem_rootSlots_cons.mpr (Or.inr hroot), hparent⟩⟩
      · exact ⟨o, ho, Or.inr ⟨p, hparent, Forest.mem_slots_cons.mpr (Or.inr (Or.inr hp)), hchild⟩⟩

/-- The children of an object of the forest are in the forest. -/
theorem mem_slots_of_isChild (h : g.Holds parent f) (hslot : slot ∈ f.slots)
    (hchild : g.IsChild slot child) : child ∈ f.slots := by
  induction f generalizing parent with
  | nil => simp [Forest.slots, Forest.labels] at hslot
  | cons a below beside ihBelow ihBeside =>
    obtain ⟨ha, hbelow, hbeside⟩ := holds_cons_iff.mp h
    rw [Forest.mem_slots_cons]
    rcases Forest.mem_slots_cons.mp hslot with rfl | hslot | hslot
    · exact Or.inr (Or.inl (below.rootSlots_sublist_slots.subset ((isChild_iff ha).mp hchild)))
    · exact Or.inr (Or.inl (ihBelow hbelow hslot))
    · exact Or.inr (Or.inr (ihBeside hbeside hslot))

/-- Every object of the forest is reached from one of the topmost. -/
theorem exists_reflTransGen (h : g.Holds parent f) (hslot : slot ∈ f.slots) :
    ∃ top ∈ f.rootSlots, Relation.ReflTransGen g.IsChild top slot := by
  induction f generalizing parent with
  | nil => simp [Forest.slots, Forest.labels] at hslot
  | cons a below beside ihBelow ihBeside =>
    obtain ⟨ha, hbelow, hbeside⟩ := holds_cons_iff.mp h
    have hfirst : a.slot ∈ (Forest.cons a below beside).rootSlots :=
      Forest.mem_rootSlots_cons.mpr (Or.inl rfl)
    rcases Forest.mem_slots_cons.mp hslot with rfl | hslot | hslot
    · exact ⟨a.slot, hfirst, .refl⟩
    · obtain ⟨top, htop, hsteps⟩ := ihBelow hbelow hslot
      exact ⟨a.slot, hfirst, hsteps.head ((isChild_iff ha).mpr htop)⟩
    · obtain ⟨top, htop, hsteps⟩ := ihBeside hbeside hslot
      exact ⟨top, Forest.mem_rootSlots_cons.mpr (Or.inr htop), hsteps⟩

end Holds

/-! ### Below a site -/

/-- A live object stands at an open site, and the forest below the site is held below the object. -/
theorem Shows.exists_gap {g : SceneGraph} {f : Forest (Site ρ)} (h : g.Shows f) {slot : Nat}
    {o : SceneObject} (hget : g.get? slot = some o) :
    ∃ (gap : Forest.Gap (Site ρ)) (a : Site ρ) (below : Forest (Site ρ)) (parent : Option Nat),
      f = gap.fill a below ∧ a.slot = slot ∧ o = a.object parent below.rootSlots ∧
        g.Holds (some slot) below := by
  obtain ⟨a, ha, rfl⟩ := List.mem_map.mp (h.mem_slots_iff.mpr ⟨o, hget⟩)
  obtain ⟨gap, below, rfl⟩ := Forest.Gap.exists_fill ha
  obtain ⟨parent, hget', hholds⟩ := h.get?_fill
  exact ⟨gap, a, below, parent, rfl, rfl, Option.some.inj (hget.symm.trans hget'), hholds⟩

/-- **Every child names the object that lists it** as its parent. -/
theorem Shows.parent_of_isChild {g : SceneGraph} {f : Forest (Site ρ)} (h : g.Shows f)
    {slot child : Nat} (hchild : g.IsChild slot child) :
    ∃ o, g.get? child = some o ∧ o.parent = some slot := by
  obtain ⟨o, hget, hmem⟩ := hchild.exists_get?
  obtain ⟨gap, a, below, parent, -, -, rfl, hholds⟩ := h.exists_gap hget
  exact hholds.exists_of_mem_rootSlots hmem

/-- No object lists a child twice. -/
theorem Shows.nodup_children {g : SceneGraph} {f : Forest (Site ρ)} (h : g.Shows f) {slot : Nat}
    {o : SceneObject} (hget : g.get? slot = some o) : o.children.toList.Nodup := by
  obtain ⟨gap, a, below, parent, rfl, -, rfl, -⟩ := h.exists_gap hget
  exact h.nodup_below.1.sublist below.rootSlots_sublist_slots

/-- **What stands below a site** is the forest that the graph shows there. -/
theorem Shows.below_iff {g : SceneGraph} {gap : Forest.Gap (Site ρ)} {a : Site ρ}
    {below : Forest (Site ρ)} (h : g.Shows (gap.fill a below)) {slot : Nat} :
    g.Below a.slot slot ↔ slot ∈ below.slots := by
  obtain ⟨parent, hget, hholds⟩ := h.get?_fill
  have hchild : ∀ {child}, g.IsChild a.slot child ↔ child ∈ below.rootSlots := isChild_iff hget
  constructor
  · intro hbelow
    induction hbelow with
    | single hstep => exact below.rootSlots_sublist_slots.subset (hchild.mp hstep)
    | tail _ hstep ih => exact hholds.mem_slots_of_isChild ih hstep
  · intro hslot
    obtain ⟨top, htop, hsteps⟩ := hholds.exists_reflTransGen hslot
    exact Relation.TransGen.head' (hchild.mpr htop) hsteps

end SceneGraph

end ParametricScene
