import Mathlib.Data.List.Nodup
import ParametricScene.Proofs.Forest

/-!
# The graph as a forest

A graph holds its objects in numbered slots that name each other. Here it is read as a forest of
`Site`s: each site says which slot an object stands in and what it is, and the forest says what stands
below what. `SceneGraph.Shows` ties the two: the slots hold exactly the objects of the forest, no slot
twice, and the free list names exactly the empty slots.

A site also carries a note of any type, which the graph does not know about. It lets a later
development remember what an object was made from.

## Main definitions

* `Site` — a slot and what stands in it
* `Forest.objects` — the objects of a forest with their parents and children
* `SceneGraph.Shows` — the graph holds exactly the forest

## Main results

* `SceneGraph.Shows.insert` — inserting puts a site last below its parent
* `SceneGraph.takeOut_rootSlots` — taking out lists a forest in depth-first order
* `SceneGraph.Shows.clearChildren` — clearing empties the forest below a site and lists it
* `SceneGraph.holds_cons_iff` — what a graph holds, read from the root down
-/

namespace ParametricScene

/-- A slot, what stands in it, and a note. -/
structure Site (ρ : Type) where
  slot : Nat
  name : String
  placement : Placement
  kind : ObjectKind
  note : ρ

/-- The object at a site, given its parent and its children. -/
def Site.object {ρ : Type} (a : Site ρ) (parent : Option Nat) (children : List Nat) : SceneObject :=
  ⟨a.name, a.placement, parent, children.toArray, a.kind⟩

namespace Forest

variable {ρ : Type}

/-- The slots of a forest in depth-first order. -/
def slots (f : Forest (Site ρ)) : List Nat := f.labels.map Site.slot

/-- The slots of the topmost trees. -/
def rootSlots (f : Forest (Site ρ)) : List Nat := f.roots.map Site.slot

/-- The objects of a forest below `parent`, with their slots, in depth-first order. -/
def objects (parent : Option Nat) : Forest (Site ρ) → List (Nat × SceneObject)
  | nil => []
  | cons a below beside =>
    (a.slot, a.object parent below.rootSlots) ::
      (below.objects (some a.slot) ++ beside.objects parent)

@[simp] theorem rootSlots_append (f g : Forest (Site ρ)) :
    (f ++ g).rootSlots = f.rootSlots ++ g.rootSlots := by
  simp [rootSlots]

@[simp] theorem objects_append (parent : Option Nat) (f g : Forest (Site ρ)) :
    (f ++ g).objects parent = f.objects parent ++ g.objects parent := by
  induction f with
  | nil => rfl
  | cons a below beside _ ih => simp [objects, ih]

theorem map_fst_objects (parent : Option Nat) (f : Forest (Site ρ)) :
    (f.objects parent).map Prod.fst = f.slots := by
  induction f generalizing parent with
  | nil => rfl
  | cons a below beside ihBelow ihBeside =>
    simp [objects, slots, labels] at ihBelow ihBeside ⊢
    rw [ihBelow, ihBeside]

theorem mem_slots_of_mem_objects {f : Forest (Site ρ)} {parent : Option Nat} {slot : Nat}
    {o : SceneObject} (h : (slot, o) ∈ f.objects parent) : slot ∈ f.slots := by
  rw [← map_fst_objects parent]
  exact List.mem_map.mpr ⟨_, h, rfl⟩

/-- Every label of a forest is the label of one of its objects. -/
theorem exists_mem_objects {f : Forest (Site ρ)} {a : Site ρ} (h : a ∈ f.labels)
    (parent : Option Nat) : ∃ p cs, (a.slot, a.object p cs) ∈ f.objects parent := by
  induction f generalizing parent with
  | nil => simp [labels] at h
  | cons b below beside ihBelow ihBeside =>
    rw [labels, List.mem_cons, List.mem_append] at h
    rcases h with rfl | h | h
    · exact ⟨parent, below.rootSlots, by simp [objects]⟩
    · obtain ⟨p, cs, hmem⟩ := ihBelow h (some b.slot)
      exact ⟨p, cs, by simp [objects, hmem]⟩
    · obtain ⟨p, cs, hmem⟩ := ihBeside h parent
      exact ⟨p, cs, by simp [objects, hmem]⟩

/-- Every object of a forest is the object at one of its labels. -/
theorem exists_mem_labels {f : Forest (Site ρ)} {parent : Option Nat} {slot : Nat} {o : SceneObject}
    (h : (slot, o) ∈ f.objects parent) :
    ∃ a ∈ f.labels, ∃ p cs, a.slot = slot ∧ o = a.object p cs := by
  induction f generalizing parent with
  | nil => simp [objects] at h
  | cons b below beside ihBelow ihBeside =>
    rw [objects, List.mem_cons, List.mem_append, Prod.mk.injEq] at h
    rcases h with ⟨rfl, rfl⟩ | h | h
    · exact ⟨b, by simp [labels], parent, below.rootSlots, rfl, rfl⟩
    · obtain ⟨a, ha, rest⟩ := ihBelow h
      exact ⟨a, by simp [labels, ha], rest⟩
    · obtain ⟨a, ha, rest⟩ := ihBeside h
      exact ⟨a, by simp [labels, ha], rest⟩

/-- The slots of a filled gap are those of what fills it and those around it. -/
theorem Gap.slots_fill (gap : Gap (Site ρ)) (a : Site ρ) (below : Forest (Site ρ)) :
    (gap.fill a below).slots.Perm (below.slots ++ (gap.fill a .nil).slots) := by
  have hperm := (gap.labels_fill_append a .nil below).map Site.slot
  rwa [nil_append, List.map_append] at hperm

/-- The objects around a gap depend only on the slot of the label that closes it. -/
theorem Gap.exists_objects (gap : Gap (Site ρ)) (parent : Option Nat) (slot : Nat) :
    ∃ front q back, ∀ (a : Site ρ) below, a.slot = slot →
      (gap.fill a below).objects parent =
        front ++ (slot, a.object q below.rootSlots) :: (below.objects (some slot) ++ back) := by
  have hroots : ∀ gap : Gap (Site ρ), ∃ rs, ∀ (a : Site ρ) below, a.slot = slot →
      (gap.fill a below).rootSlots = rs := by
    intro gap
    induction gap with
    | here beside =>
      exact ⟨slot :: beside.rootSlots, fun a below h => by simp [fill, rootSlots, roots, h]⟩
    | within b gap beside _ => exact ⟨b.slot :: beside.rootSlots, fun _ _ _ => rfl⟩
    | past b under gap ih =>
      obtain ⟨rs, hrs⟩ := ih
      refine ⟨b.slot :: rs, fun a below h => ?_⟩
      rw [← hrs a below h]
      rfl
  induction gap generalizing parent with
  | here beside =>
    refine ⟨[], parent, beside.objects parent, fun a below h => ?_⟩
    rw [fill, objects, h]
    rfl
  | within b gap beside ih =>
    obtain ⟨front, q, back, hobj⟩ := ih (some b.slot)
    obtain ⟨rs, hrs⟩ := hroots gap
    refine ⟨(b.slot, b.object parent rs) :: front, q, back ++ beside.objects parent,
      fun a below h => ?_⟩
    rw [fill, objects, hobj a below h, hrs a below h]
    simp
  | past b under gap ih =>
    obtain ⟨front, q, back, hobj⟩ := ih parent
    refine ⟨(b.slot, b.object parent under.rootSlots) :: (under.objects (some b.slot) ++ front), q,
      back, fun a below h => ?_⟩
    rw [fill, objects, hobj a below h]
    simp

/-- Where no slot is used twice, the slot of an object does not occur among the others. -/
theorem not_mem_objects_around {f : Forest (Site ρ)} {parent : Option Nat} {slot : Nat}
    {o : SceneObject} {front back : List (Nat × SceneObject)} (hnodup : f.slots.Nodup)
    (hobj : f.objects parent = front ++ (slot, o) :: back) (o' : SceneObject) :
    (slot, o') ∉ front ++ back := by
  rw [← map_fst_objects parent, hobj, List.map_append, List.map_cons, List.nodup_middle,
    ← List.map_append, List.nodup_cons] at hnodup
  exact fun hmem => hnodup.1 (List.mem_map.mpr ⟨_, hmem, rfl⟩)

end Forest

namespace SceneGraph

variable {ρ : Type}

/-- The graph holds the objects of the forest and no others, each in its slot, and its free list
names every empty slot once. -/
structure Shows (g : SceneGraph) (f : Forest (Site ρ)) : Prop where
  nodup : f.slots.Nodup
  get?_eq_some_iff : ∀ slot o, g.get? slot = some o ↔ (slot, o) ∈ f.objects none
  free_nodup : g.free.Nodup
  mem_free_iff : ∀ slot, slot ∈ g.free ↔ slot < g.slots.size ∧ g.get? slot = none

/-- The slot that the next inserted object takes. -/
def nextSlot (g : SceneGraph) : Nat :=
  match g.free with
  | slot :: _ => slot
  | [] => g.slots.size

theorem insert_fst (g : SceneGraph) (parent : Nat) (name : String) (placement : Placement)
    (kind : ObjectKind) : (g.insert parent name placement kind).1 = g.nextSlot := by
  rw [SceneGraph.insert, nextSlot]
  cases g.free <;> rfl

theorem get?_adopt (g : SceneGraph) (parent child slot : Nat) :
    (g.adopt parent child).get? slot =
      if slot = parent then (g.get? slot).map (SceneObject.adopt child) else g.get? slot := by
  simp only [get?, adopt, Array.getElem?_modify]
  by_cases h : slot = parent
  · subst h
    cases hs : g.slots[slot]? with
    | none => simp
    | some cell => cases cell <;> simp
  · simp [h, Ne.symm h]

theorem lt_of_get? {g : SceneGraph} {slot : Nat} {o : SceneObject} (h : g.get? slot = some o) :
    slot < g.slots.size := by
  by_contra hge
  rw [get?, Array.getElem?_eq_none (Nat.le_of_not_lt hge)] at h
  simp at h

namespace Shows

variable {g : SceneGraph} {f : Forest (Site ρ)}

theorem mem_slots_iff (h : g.Shows f) {slot : Nat} :
    slot ∈ f.slots ↔ ∃ o, g.get? slot = some o := by
  rw [← f.map_fst_objects none, List.mem_map]
  constructor
  · rintro ⟨⟨slot', o⟩, hmem, rfl⟩
    exact ⟨o, (h.get?_eq_some_iff slot' o).mpr hmem⟩
  · rintro ⟨o, ho⟩
    exact ⟨(slot, o), (h.get?_eq_some_iff slot o).mp ho, rfl⟩

theorem get?_eq_none_iff (h : g.Shows f) {slot : Nat} : g.get? slot = none ↔ slot ∉ f.slots := by
  rw [h.mem_slots_iff]
  cases g.get? slot <;> simp

/-- The slot that is taken next holds nothing. -/
theorem nextSlot_not_mem (h : g.Shows f) : g.nextSlot ∉ f.slots := by
  rw [← h.get?_eq_none_iff, nextSlot]
  split
  · rename_i slot rest hfree
    exact ((h.mem_free_iff slot).mp (by rw [hfree]; exact List.mem_cons_self ..)).2
  · rw [get?, Array.getElem?_eq_none (Nat.le_refl _)]
    rfl

/-- The object at a site of the forest. -/
theorem get?_of_mem_labels (h : g.Shows f) {a : Site ρ} (ha : a ∈ f.labels) :
    ∃ p cs, g.get? a.slot = some (a.object p cs) := by
  obtain ⟨p, cs, hmem⟩ := Forest.exists_mem_objects ha none
  exact ⟨p, cs, (h.get?_eq_some_iff _ _).mpr hmem⟩

/-- Two sites of the forest in one slot are one site as far as the graph can tell. -/
theorem label_unique (h : g.Shows f) {a b : Site ρ} (ha : a ∈ f.labels) (hb : b ∈ f.labels)
    (hslot : a.slot = b.slot) : a = b :=
  List.inj_on_of_nodup_map h.nodup ha hb hslot

/-- The slots below an open site are not in use elsewhere. -/
theorem nodup_below {gap : Forest.Gap (Site ρ)} {a : Site ρ} {below : Forest (Site ρ)}
    (h : g.Shows (gap.fill a below)) :
    below.slots.Nodup ∧ (gap.fill a .nil).slots.Nodup ∧
      List.Disjoint below.slots (gap.fill a .nil).slots :=
  List.nodup_append'.mp ((gap.slots_fill a below).nodup_iff.mp h.nodup)

theorem slot_not_mem_below {gap : Forest.Gap (Site ρ)} {a : Site ρ} {below : Forest (Site ρ)}
    (h : g.Shows (gap.fill a below)) : a.slot ∉ below.slots := fun hmem =>
  h.nodup_below.2.2 hmem
    (List.mem_map.mpr ⟨a, Forest.Gap.mem_labels_fill.mpr (Or.inl rfl), rfl⟩)

/-- The graph does not know the notes of sites. -/
theorem renote {gap : Forest.Gap (Site ρ)} {a : Site ρ} {below : Forest (Site ρ)}
    (h : g.Shows (gap.fill a below)) (note : ρ) :
    g.Shows (gap.fill { a with note := note } below) := by
  obtain ⟨front, q, back, hobj⟩ := gap.exists_objects none a.slot
  have heq : (gap.fill { a with note := note } below).objects none =
      (gap.fill a below).objects none := by
    rw [hobj a below rfl, hobj { a with note := note } below rfl]
    rfl
  refine ⟨?_, fun slot o => ?_, h.free_nodup, h.mem_free_iff⟩
  · rw [← Forest.map_fst_objects none, heq, Forest.map_fst_objects]
    exact h.nodup
  · rw [heq]
    exact h.get?_eq_some_iff slot o

/-! ### Inserting -/

theorem free_insert (g : SceneGraph) (parent : Nat) (name : String) (placement : Placement)
    (kind : ObjectKind) : (g.insert parent name placement kind).2.free = g.free.tail := by
  rw [SceneGraph.insert]
  cases hfree : g.free <;> simp [adopt]

/-- What every slot holds after an insertion below a slot that is in use. -/
theorem get?_insert (h : g.Shows f) {parent : Nat} (hparent : parent ∈ f.slots) (name : String)
    (placement : Placement) (kind : ObjectKind) (slot : Nat) :
    (g.insert parent name placement kind).2.get? slot =
      if slot = g.nextSlot then some ⟨name, placement, some parent, #[], kind⟩
      else if slot = parent then (g.get? slot).map (SceneObject.adopt g.nextSlot)
      else g.get? slot := by
  have hne : parent ≠ g.nextSlot := fun heq => h.nextSlot_not_mem (heq ▸ hparent)
  rw [SceneGraph.insert]
  cases hfree : g.free with
  | nil =>
    have hnext : g.nextSlot = g.slots.size := by rw [nextSlot, hfree]
    rw [hnext] at hne ⊢
    simp only [get?_adopt]
    by_cases hs : slot = g.slots.size
    · subst hs
      rw [if_neg hne.symm, if_pos rfl]
      simp [get?]
    · have hpush : (SceneGraph.mk
          (g.slots.push (some ⟨name, placement, some parent, #[], kind⟩)) []).get? slot =
            g.get? slot := by
        simp [get?, Array.getElem?_push, hs]
      rw [hpush, if_neg hs]
  | cons top rest =>
    have hnext : g.nextSlot = top := by rw [nextSlot, hfree]
    have htop : top < g.slots.size :=
      ((h.mem_free_iff top).mp (by rw [hfree]; exact List.mem_cons_self ..)).1
    rw [hnext] at hne ⊢
    simp only [get?_adopt]
    by_cases hs : slot = top
    · subst hs
      rw [if_neg hne.symm, if_pos rfl]
      simp [get?, htop]
    · have hset : (SceneGraph.mk (g.slots.setIfInBounds top
          (some ⟨name, placement, some parent, #[], kind⟩)) rest).get? slot = g.get? slot := by
        simp [get?, Ne.symm hs]
      rw [hset, if_neg hs]

theorem size_insert (h : g.Shows f) (parent : Nat) (name : String) (placement : Placement)
    (kind : ObjectKind) :
    (g.insert parent name placement kind).2.slots.size = max g.slots.size (g.nextSlot + 1) := by
  rw [SceneGraph.insert]
  cases hfree : g.free with
  | nil =>
    have hnext : g.nextSlot = g.slots.size := by rw [nextSlot, hfree]
    simp [adopt, hnext]
  | cons top rest =>
    have hnext : g.nextSlot = top := by rw [nextSlot, hfree]
    have htop : top < g.slots.size :=
      ((h.mem_free_iff top).mp (by rw [hfree]; exact List.mem_cons_self ..)).1
    simp [adopt, hnext]
    omega

/-- After an insertion the free list still names exactly the empty slots. -/
theorem mem_free_insert_iff (h : g.Shows f) {parent : Nat} (hparent : parent ∈ f.slots)
    (name : String) (placement : Placement) (kind : ObjectKind) (slot : Nat) :
    slot ∈ (g.insert parent name placement kind).2.free ↔
      slot < (g.insert parent name placement kind).2.slots.size ∧
        (g.insert parent name placement kind).2.get? slot = none := by
  have htail : slot ∈ g.free.tail ↔ slot ≠ g.nextSlot ∧ slot ∈ g.free := by
    have hnodup := h.free_nodup
    rw [nextSlot]
    cases hfree : g.free with
    | nil => simp
    | cons top rest =>
      rw [hfree, List.nodup_cons] at hnodup
      simp only [List.tail_cons, List.mem_cons]
      constructor
      · intro hmem
        exact ⟨fun heq => hnodup.1 (heq ▸ hmem), Or.inr hmem⟩
      · rintro ⟨hne, heq | hmem⟩
        · exact absurd heq hne
        · exact hmem
  rw [free_insert, htail, h.mem_free_iff, size_insert h, get?_insert h hparent]
  by_cases hs : slot = g.nextSlot
  · simp [hs]
  · have hnone : (if slot = parent then (g.get? slot).map (SceneObject.adopt g.nextSlot)
        else g.get? slot) = none ↔ g.get? slot = none := by
      split <;> simp
    rw [if_neg hs, hnone]
    constructor
    · rintro ⟨-, hlt, hget⟩
      exact ⟨by omega, hget⟩
    · rintro ⟨hlt, hget⟩
      refine ⟨hs, ?_, hget⟩
      -- past the end of the old slots there is only the slot just taken
      by_contra hge
      have hnext : g.nextSlot ≤ g.slots.size := by
        rw [nextSlot]
        split
        · rename_i top rest hfree
          exact Nat.le_of_lt ((h.mem_free_iff top).mp (by rw [hfree]; exact List.mem_cons_self ..)).1
        · exact Nat.le_refl _
      omega

/-- **Inserting puts a site last below its parent.** -/
theorem insert {gap : Forest.Gap (Site ρ)} {a : Site ρ} {below : Forest (Site ρ)}
    (h : g.Shows (gap.fill a below)) (name : String) (placement : Placement) (kind : ObjectKind)
    (note : ρ) :
    (g.insert a.slot name placement kind).2.Shows
      (gap.fill a (below ++ .cons ⟨g.nextSlot, name, placement, kind, note⟩ .nil .nil)) := by
  have hparent : a.slot ∈ (gap.fill a below).slots :=
    List.mem_map.mpr ⟨a, Forest.Gap.mem_labels_fill.mpr (Or.inl rfl), rfl⟩
  have hfresh := h.nextSlot_not_mem
  refine ⟨?_, fun slot o => ?_, ?_, h.mem_free_insert_iff hparent name placement kind⟩
  · have hperm := (gap.labels_fill_append a below
      (.cons ⟨g.nextSlot, name, placement, kind, note⟩ .nil .nil)).map Site.slot
    exact hperm.nodup_iff.mpr (List.nodup_cons.mpr ⟨hfresh, h.nodup⟩)
  · rw [get?_insert h hparent]
    obtain ⟨front, q, back, hobj⟩ := gap.exists_objects none a.slot
    have hold := hobj a below rfl
    have hnext : ∀ o', (g.nextSlot, o') ∉ (gap.fill a below).objects none := fun o' hmem => by
      obtain ⟨b, hb, _, _, hslot, -⟩ := Forest.exists_mem_labels hmem
      exact hfresh (List.mem_map.mpr ⟨b, hb, hslot⟩)
    have hother := Forest.not_mem_objects_around h.nodup hold
    rw [hobj _ _ rfl, Forest.objects_append, Forest.rootSlots_append]
    by_cases hs : slot = g.nextSlot
    · subst hs
      have hne : g.nextSlot ≠ a.slot := fun heq => hfresh (heq ▸ hparent)
      rw [if_pos rfl]
      rw [hold] at hnext
      simp only [List.mem_append, List.mem_cons, not_or, Prod.mk.injEq] at hnext
      simp [Forest.objects, Site.object, Forest.rootSlots, Forest.roots, hne, hnext, eq_comm]
    · rw [if_neg hs]
      by_cases hp : slot = a.slot
      · subst hp
        have hget : g.get? a.slot = some (a.object q below.rootSlots) :=
          (h.get?_eq_some_iff _ _).mpr (by rw [hold]; simp)
        simp only [List.mem_append, not_or] at hother
        rw [if_pos rfl, hget]
        simp [Forest.objects, Site.object, SceneObject.adopt, Forest.rootSlots, Forest.roots, hs,
          hother, eq_comm]
      · rw [if_neg hp, h.get?_eq_some_iff, hold]
        simp [Forest.objects, hs, hp]
  · rw [free_insert]
    exact h.free_nodup.tail

end Shows

/-! ### Clearing -/

theorem takeOut_cons {slots : Array (Option SceneObject)} {slot : Nat} {o : SceneObject}
    (h : slots[slot]?.join = some o) (rest : List Nat) :
    takeOut slots (slot :: rest) =
      ((slot, o) :: (takeOut (slots.setIfInBounds slot none) (o.children.toList ++ rest)).1,
        (takeOut (slots.setIfInBounds slot none) (o.children.toList ++ rest)).2) := by
  rw [Option.join_eq_some_iff] at h
  rw [takeOut]
  split
  · rename_i o' h'
    obtain rfl : o = o' := Option.some.inj (Option.some.inj (h.symm.trans h'))
    rfl
  · rename_i hnone
    exact absurd h (hnone o)

theorem takeOut_nil (slots : Array (Option SceneObject)) : takeOut slots [] = ([], slots) := by
  rw [takeOut]

theorem join_setIfInBounds_none (slots : Array (Option SceneObject)) (slot x : Nat) :
    (slots.setIfInBounds slot none)[x]?.join = if x = slot then none else slots[x]?.join := by
  rw [Array.getElem?_setIfInBounds]
  by_cases h : x = slot
  · subst h
    rw [if_pos rfl, if_pos rfl]
    split <;> rfl
  · rw [if_neg (Ne.symm h), if_neg h]

/-- **Taking out lists a forest in depth-first order** and empties its slots and no others. What is
still pending comes after it. -/
theorem takeOut_rootSlots {f : Forest (Site ρ)} (slots : Array (Option SceneObject))
    (parent : Option Nat) (hnodup : f.slots.Nodup)
    (hlive : ∀ slot o, (slot, o) ∈ f.objects parent → slots[slot]?.join = some o)
    (rest : List Nat) :
    ∃ left : Array (Option SceneObject), left.size = slots.size ∧
      (∀ slot, left[slot]?.join = if slot ∈ f.slots then none else slots[slot]?.join) ∧
      takeOut slots (f.rootSlots ++ rest) =
        (f.objects parent ++ (takeOut left rest).1, (takeOut left rest).2) := by
  induction f generalizing slots parent rest with
  | nil => exact ⟨slots, rfl, fun slot => by simp [Forest.slots, Forest.labels], rfl⟩
  | cons a below beside ihBelow ihBeside =>
    have hslots : (Forest.cons a below beside).slots = a.slot :: (below.slots ++ beside.slots) := by
      simp [Forest.slots, Forest.labels]
    have hroots : (Forest.cons a below beside).rootSlots = a.slot :: beside.rootSlots := rfl
    rw [hslots, List.nodup_cons, List.nodup_append'] at hnodup
    obtain ⟨ha, hbelow, hbeside, hdisjoint⟩ := hnodup
    rw [List.mem_append, not_or] at ha
    have hother : ∀ slot, slot ≠ a.slot →
        (slots.setIfInBounds a.slot none)[slot]?.join = slots[slot]?.join := fun slot hs => by
      rw [join_setIfInBounds_none, if_neg hs]
    obtain ⟨left, hsize, hleft, htake⟩ := ihBelow
      (slots.setIfInBounds a.slot none) (some a.slot) hbelow
      (fun slot o h => by
        have hs : slot ≠ a.slot := fun heq => ha.1 (heq ▸ Forest.mem_slots_of_mem_objects h)
        rw [hother slot hs]
        exact hlive slot o (List.mem_cons_of_mem _ (List.mem_append_left _ h)))
      (beside.rootSlots ++ rest)
    obtain ⟨left', hsize', hleft', htake'⟩ := ihBeside left parent hbeside
      (fun slot o h => by
        have hmem := Forest.mem_slots_of_mem_objects h
        have hs : slot ≠ a.slot := fun heq => ha.2 (heq ▸ hmem)
        rw [hleft, if_neg fun hs' => hdisjoint hs' hmem, hother slot hs]
        exact hlive slot o (List.mem_cons_of_mem _ (List.mem_append_right _ h))) rest
    refine ⟨left', by simpa [hsize] using hsize', fun slot => ?_, ?_⟩
    · rw [hleft', hleft, join_setIfInBounds_none, hslots]
      by_cases hs : slot = a.slot <;> by_cases hb : slot ∈ below.slots <;>
        by_cases hb' : slot ∈ beside.slots <;> simp [hs, hb, hb']
    · rw [hroots, List.cons_append, takeOut_cons (hlive a.slot _ (List.mem_cons_self ..))]
      simp only [Site.object]
      rw [htake, htake', Forest.objects]
      simp [Site.object]

theorem join_setIfInBounds_some {slots : Array (Option SceneObject)} {slot : Nat}
    (h : slot < slots.size) (o : SceneObject) (x : Nat) :
    (slots.setIfInBounds slot (some o))[x]?.join = if x = slot then some o else slots[x]?.join := by
  rw [Array.getElem?_setIfInBounds]
  by_cases hx : x = slot
  · subst hx
    rw [if_pos rfl, if_pos rfl, if_pos h]
    rfl
  · rw [if_neg (Ne.symm hx), if_neg hx]

/-- What clearing lists, and what it leaves in the slots: nothing where an object was taken out, and
the site without children. -/
theorem Shows.clearChildren_eq {g : SceneGraph} {gap : Forest.Gap (Site ρ)} {a : Site ρ}
    {below : Forest (Site ρ)} (h : g.Shows (gap.fill a below)) {q : Option Nat}
    (hget : g.get? a.slot = some (a.object q below.rootSlots)) :
    ∃ left : Array (Option SceneObject), left.size = g.slots.size ∧
      (∀ slot, left[slot]?.join = if slot ∈ below.slots then none
        else if slot = a.slot then some (a.object q []) else g.get? slot) ∧
      g.clearChildren a.slot =
        (below.objects (some a.slot), ⟨left, below.slots.reverse ++ g.free⟩) := by
  obtain ⟨front, q', back, hobj⟩ := gap.exists_objects none a.slot
  have hslot := h.slot_not_mem_below
  have hlive : ∀ slot o, (slot, o) ∈ below.objects (some a.slot) →
      (g.slots.setIfInBounds a.slot (some (a.object q [])))[slot]?.join = some o := by
    intro slot o ho
    have hne : slot ≠ a.slot := fun heq => hslot (heq ▸ Forest.mem_slots_of_mem_objects ho)
    rw [join_setIfInBounds_some (lt_of_get? hget), if_neg hne]
    exact (h.get?_eq_some_iff slot o).mpr (by rw [hobj a below rfl]; simp [ho])
  obtain ⟨left, hsize, hleft, htake⟩ := takeOut_rootSlots
    (g.slots.setIfInBounds a.slot (some (a.object q []))) (some a.slot) h.nodup_below.1 hlive []
  rw [List.append_nil, takeOut_nil, List.append_nil] at htake
  refine ⟨left, by rw [hsize, Array.size_setIfInBounds], fun slot => ?_, ?_⟩
  · rw [hleft, join_setIfInBounds_some (lt_of_get? hget)]
    rfl
  · rw [SceneGraph.clearChildren, hget]
    simp only [Site.object] at htake ⊢
    rw [htake, Forest.map_fst_objects]

/-- **Clearing empties the forest below a site**, lists it in depth-first order, and leaves all else
in place. -/
theorem Shows.clearChildren {g : SceneGraph} {gap : Forest.Gap (Site ρ)} {a : Site ρ}
    {below : Forest (Site ρ)} (h : g.Shows (gap.fill a below)) :
    (g.clearChildren a.slot).1 = below.objects (some a.slot) ∧
      (g.clearChildren a.slot).2.Shows (gap.fill a .nil) := by
  obtain ⟨front, q, back, hobj⟩ := gap.exists_objects none a.slot
  have hold := hobj a below rfl
  have hnew := hobj a .nil rfl
  have hget : g.get? a.slot = some (a.object q below.rootSlots) :=
    (h.get?_eq_some_iff _ _).mpr (by rw [hold]; simp)
  obtain ⟨left, hsize, hleft, hclear⟩ := h.clearChildren_eq hget
  obtain ⟨hbelow, hrest, hdisjoint⟩ := h.nodup_below
  have hmem : ∀ {slot}, slot ∈ below.slots → slot ∈ (gap.fill a below).slots := fun hs =>
    (gap.slots_fill a below).mem_iff.mpr (List.mem_append_left _ hs)
  rw [hclear]
  refine ⟨rfl, hrest, fun slot o => ?_, ?_, fun slot => ?_⟩
  · rw [get?, hleft]
    by_cases hb : slot ∈ below.slots
    · rw [if_pos hb]
      exact ⟨fun hnone => by simp at hnone, fun ho =>
        absurd (Forest.mem_slots_of_mem_objects ho) (hdisjoint hb)⟩
    · rw [if_neg hb]
      by_cases hs : slot = a.slot
      · subst hs
        have hother := Forest.not_mem_objects_around hrest hnew
        simp only [Forest.objects, List.nil_append, List.mem_append, not_or] at hother
        rw [if_pos rfl, hnew]
        simp [Forest.objects, Forest.rootSlots, Forest.roots, hother, eq_comm]
      · have hnot : ∀ o', (slot, o') ∉ below.objects (some a.slot) := fun o' ho' =>
          hb (Forest.mem_slots_of_mem_objects ho')
        rw [if_neg hs, h.get?_eq_some_iff, hold, hnew]
        simp [Forest.objects, hs, hnot]
  · refine List.nodup_append'.mpr
      ⟨List.nodup_reverse.mpr hbelow, h.free_nodup, fun slot hs hfree => ?_⟩
    have hnone := ((h.mem_free_iff slot).mp hfree).2
    exact h.get?_eq_none_iff.mp hnone (hmem (List.mem_reverse.mp hs))
  · have hsome : ∀ {s}, s ∈ below.slots → s < g.slots.size := fun hs => by
      obtain ⟨o, ho⟩ := h.mem_slots_iff.mp (hmem hs)
      exact lt_of_get? ho
    rw [get?, hleft, List.mem_append, List.mem_reverse, h.mem_free_iff]
    simp only [hsize]
    by_cases hb : slot ∈ below.slots
    · simp [hb, hsome hb]
    · by_cases hs : slot = a.slot
      · subst hs
        simp [hb, hget]
      · simp [hb, hs]

/-! ### Reading a graph from the root down -/

/-- The graph holds the objects of a forest below `parent`. -/
def Holds (g : SceneGraph) (parent : Option Nat) (f : Forest (Site ρ)) : Prop :=
  ∀ slot o, (slot, o) ∈ f.objects parent → g.get? slot = some o

theorem holds_cons_iff {g : SceneGraph} {parent : Option Nat} {a : Site ρ}
    {below beside : Forest (Site ρ)} :
    g.Holds parent (.cons a below beside) ↔
      g.get? a.slot = some (a.object parent below.rootSlots) ∧ g.Holds (some a.slot) below ∧
        g.Holds parent beside := by
  constructor
  · intro h
    exact ⟨h _ _ (by simp [Forest.objects]), fun slot o ho => h slot o (by simp [Forest.objects, ho]),
      fun slot o ho => h slot o (by simp [Forest.objects, ho])⟩
  · rintro ⟨ha, hbelow, hbeside⟩ slot o ho
    rw [Forest.objects, List.mem_cons, List.mem_append, Prod.mk.injEq] at ho
    rcases ho with ⟨rfl, rfl⟩ | ho | ho
    · exact ha
    · exact hbelow slot o ho
    · exact hbeside slot o ho

theorem Shows.holds {g : SceneGraph} {f : Forest (Site ρ)} (h : g.Shows f) : g.Holds none f :=
  fun slot o => (h.get?_eq_some_iff slot o).mpr

/-- The object at an open site, and the objects below it. -/
theorem Shows.get?_fill {g : SceneGraph} {gap : Forest.Gap (Site ρ)} {a : Site ρ}
    {below : Forest (Site ρ)} (h : g.Shows (gap.fill a below)) :
    ∃ parent, g.get? a.slot = some (a.object parent below.rootSlots) ∧
      g.Holds (some a.slot) below := by
  obtain ⟨front, q, back, hobj⟩ := gap.exists_objects none a.slot
  refine ⟨q, (h.get?_eq_some_iff _ _).mpr ?_, fun slot o ho => (h.get?_eq_some_iff _ _).mpr ?_⟩
  · rw [hobj a below rfl]
    simp
  · rw [hobj a below rfl]
    simp [ho]

end SceneGraph

end ParametricScene
