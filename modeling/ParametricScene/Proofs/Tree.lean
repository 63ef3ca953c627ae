import Mathlib.Data.Set.Card
import ParametricScene.Proofs.Descent
import ParametricScene.Proofs.Registry

/-!
# A graph stays a tree

Objects name their parents and their children by slot, and slots that became free are taken again. Here
it is shown that the two ways of naming never come apart and that nothing is lost: whatever is
inserted, cleared and moved, in whatever order, the live objects are one tree below the root.

What has to hold for that is little. A new object needs a live parent, and only live objects are
moved. Clearing needs nothing: a slot that holds nothing is left as it is.

## Implementation notes

`SceneGraph.IsTree` says nothing about forests, which are how it is proved. A graph that shows a forest
of one tree, with the root on top, is a tree in that sense, and each edit leads from one such forest to
another by the lemmas of `ParametricScene.Proofs.Arena`.

## Main definitions

* `GraphEdit`, `SceneGraph.apply`, `SceneGraph.run` — edits, one after another
* `SceneGraph.Allows`, `SceneGraph.AllowsAll` — the objects that edits need are live
* `SceneGraph.IsTree` — parents and children agree, and all is below the root

## Main results

* `SceneGraph.ShowsTree.apply` — every allowed edit leads from one tree to another
* `SceneGraph.isTree_run_new` — a graph stays a tree
-/

namespace ParametricScene

/-- An edit of a graph. -/
inductive GraphEdit where
  | insert (parent : Nat) (name : String) (placement : Placement) (kind : ObjectKind)
  | clear (slot : Nat)
  | move (slot : Nat) (placement : Placement)

namespace SceneGraph

/-- An object stands in the slot. -/
def Live (g : SceneGraph) (slot : Nat) : Prop := (g.get? slot).isSome = true

instance (g : SceneGraph) (slot : Nat) : Decidable (g.Live slot) :=
  inferInstanceAs (Decidable ((g.get? slot).isSome = true))

theorem live_iff {g : SceneGraph} {slot : Nat} : g.Live slot ↔ ∃ o, g.get? slot = some o :=
  Option.isSome_iff_exists

/-- The graph after an edit. -/
def apply (g : SceneGraph) : GraphEdit → SceneGraph
  | .insert parent name placement kind => (g.insert parent name placement kind).2
  | .clear slot => (g.clearChildren slot).2
  | .move slot placement => g.move slot placement

/-- The graph after edits one after another. -/
def run (g : SceneGraph) (es : List GraphEdit) : SceneGraph := es.foldl apply g

/-- New objects have a live parent, and moved objects are live. -/
def Allows (g : SceneGraph) : GraphEdit → Prop
  | .insert parent _ _ _ => g.Live parent
  | .clear _ => True
  | .move slot _ => g.Live slot

/-- Each edit is allowed when it is made. -/
def AllowsAll (g : SceneGraph) : List GraphEdit → Prop
  | [] => True
  | e :: es => g.Allows e ∧ (g.apply e).AllowsAll es

/-- The objects of the graph are one tree below the root, and the free list names what is empty. -/
structure IsTree (g : SceneGraph) : Prop where
  free_nodup : g.free.Nodup
  mem_free_iff : ∀ slot, slot ∈ g.free ↔ slot < g.slots.size ∧ ¬g.Live slot
  root : ∃ o, g.get? rootSlot = some o ∧ o.kind = .root ∧ o.parent = none
  parentless : ∀ slot o, g.get? slot = some o → o.parent = none → slot = rootSlot
  parent : ∀ slot o, g.get? slot = some o → slot ≠ rootSlot →
    ∃ p po, o.parent = some p ∧ g.get? p = some po ∧ po.children.toList.count slot = 1
  child : ∀ slot o, g.get? slot = some o → ∀ c ∈ o.children.toList,
    ∃ co, g.get? c = some co ∧ co.parent = some slot
  ascends : ∀ slot, g.Live slot → Relation.ReflTransGen g.HasParent slot rootSlot
  live_iff_reached : ∀ slot, g.Live slot ↔ Relation.ReflTransGen g.IsChild rootSlot slot
  size_eq : {slot | g.Live slot}.encard = g.size

/-! ### Forests of one tree -/

/-- The graph shows one tree, with the root on top. -/
def ShowsTree (g : SceneGraph) : Prop :=
  ∃ (a : Site (Option Origin)) (below : SceneForest),
    g.Shows (.cons a below .nil) ∧ a.slot = rootSlot ∧ a.kind = .root

/-- What fills a gap in one tree leaves one tree, whose top is the old one or the label that was
filled in. -/
theorem exists_fill_eq_tree {α : Type} {gap : Forest.Gap α} {a top : α} {below under : Forest α}
    (h : gap.fill a below = .cons top under .nil) (a' : α) (below' : Forest α) :
    ∃ top' under', gap.fill a' below' = .cons top' under' .nil ∧
      (top' = top ∨ (top = a ∧ top' = a')) := by
  cases gap with
  | here beside =>
    cases h
    exact ⟨a', below', rfl, Or.inr ⟨rfl, rfl⟩⟩
  | within b inner beside =>
    cases h
    exact ⟨_, inner.fill a' below', rfl, Or.inl rfl⟩
  | past b beneath inner => cases inner <;> cases h

/-- Every live object of a tree stands in a gap of its forest, and what is done there leads to a tree
again. -/
theorem ShowsTree.exists_gap {g : SceneGraph} (h : g.ShowsTree) {slot : Nat} (hlive : g.Live slot) :
    ∃ (gap : Forest.Gap (Site (Option Origin))) (a : Site (Option Origin)) (below : SceneForest),
      a.slot = slot ∧ g.Shows (gap.fill a below) ∧
        ∀ (g' : SceneGraph) (a' : Site (Option Origin)) (below' : SceneForest), a'.slot = a.slot →
          a'.kind = a.kind → g'.Shows (gap.fill a' below') → g'.ShowsTree := by
  obtain ⟨top, under, hshows, hslot, hkind⟩ := h
  obtain ⟨a, ha, rfl⟩ := List.mem_map.mp (hshows.mem_slots_iff.mpr (live_iff.mp hlive))
  obtain ⟨gap, below, hfill⟩ := Forest.Gap.exists_fill ha
  refine ⟨gap, a, below, rfl, hfill ▸ hshows, fun g' a' below' hslot' hkind' hshows' => ?_⟩
  obtain ⟨top', under', hfill', htop⟩ := exists_fill_eq_tree hfill.symm a' below'
  refine ⟨top', under', hfill' ▸ hshows', ?_⟩
  rcases htop with rfl | ⟨rfl, rfl⟩
  · exact ⟨hslot, hkind⟩
  · exact ⟨hslot'.trans hslot, hkind'.trans hkind⟩

/-! ### Edits -/

theorem get?_move (g : SceneGraph) (slot : Nat) (placement : Placement) (x : Nat) :
    (g.move slot placement).get? x =
      if x = slot then (g.get? x).map fun o => { o with placement := placement } else g.get? x := by
  simp only [get?, move, Array.getElem?_modify]
  by_cases h : slot = x
  · subst h
    cases hs : g.slots[slot]? with
    | none => simp
    | some cell => cases cell <;> simp
  · simp [h, Ne.symm h]

/-- **Moving an object** changes the placement of its site and nothing else. -/
theorem Shows.move {ρ : Type} {g : SceneGraph} {gap : Forest.Gap (Site ρ)} {a : Site ρ}
    {below : Forest (Site ρ)} (h : g.Shows (gap.fill a below)) (placement : Placement) :
    (g.move a.slot placement).Shows (gap.fill { a with placement := placement } below) := by
  obtain ⟨front, q, back, hobj⟩ := gap.exists_objects none a.slot
  have hold := hobj a below rfl
  have hnew := hobj { a with placement := placement } below rfl
  have hother := Forest.not_mem_objects_around h.nodup hold
  have hnone : ∀ slot, (g.move a.slot placement).get? slot = none ↔ g.get? slot = none := by
    intro slot
    rw [get?_move]
    split <;> simp
  refine ⟨?_, fun slot o => ?_, h.free_nodup, fun slot => ?_⟩
  · rw [← Forest.map_fst_objects none, hnew]
    have hslots := h.nodup
    rw [← Forest.map_fst_objects none, hold] at hslots
    simpa using hslots
  · rw [get?_move, hnew]
    by_cases hs : slot = a.slot
    · subst hs
      have hget : g.get? a.slot = some (a.object q below.rootSlots) :=
        (h.get?_eq_some_iff _ _).mpr (by rw [hold]; simp)
      simp only [List.mem_append, not_or] at hother
      rw [if_pos rfl, hget]
      simp [Site.object, hother, eq_comm]
    · rw [if_neg hs, h.get?_eq_some_iff, hold]
      simp [hs]
  · have hsize : (g.move a.slot placement).slots.size = g.slots.size := by simp [SceneGraph.move]
    rw [hnone, hsize]
    exact h.mem_free_iff slot

theorem showsTree_new : SceneGraph.new.ShowsTree :=
  ⟨Scene.rootSite, .nil, Scene.shows_new, rfl, rfl⟩

/-- **Every allowed edit leads from one tree to another.** -/
theorem ShowsTree.apply {g : SceneGraph} (h : g.ShowsTree) {e : GraphEdit} (he : g.Allows e) :
    (g.apply e).ShowsTree := by
  cases e with
  | insert parent name placement kind =>
    obtain ⟨gap, a, below, rfl, hshows, hback⟩ := h.exists_gap he
    exact hback _ a _ rfl rfl (hshows.insert name placement kind none)
  | clear slot =>
    by_cases hlive : g.Live slot
    · obtain ⟨gap, a, below, rfl, hshows, hback⟩ := h.exists_gap hlive
      exact hback _ a _ rfl rfl hshows.clearChildren.2
    · have hnone : g.get? slot = none := Option.not_isSome_iff_eq_none.mp hlive
      rw [SceneGraph.apply, clearChildren, hnone]
      exact h
  | move slot placement =>
    obtain ⟨gap, a, below, rfl, hshows, hback⟩ := h.exists_gap he
    exact hback _ { a with placement := placement } below rfl rfl (hshows.move placement)

theorem ShowsTree.run {g : SceneGraph} (h : g.ShowsTree) {es : List GraphEdit}
    (hes : g.AllowsAll es) : (g.run es).ShowsTree := by
  induction es generalizing g with
  | nil => exact h
  | cons e es ih => exact ih (h.apply hes.1) hes.2

/-! ### One tree is a tree -/

/-- The size of a graph is the number of its live objects, if the free list names what is empty. -/
theorem encard_live {g : SceneGraph} (hnodup : g.free.Nodup)
    (hfree : ∀ slot, slot ∈ g.free ↔ slot < g.slots.size ∧ ¬g.Live slot) :
    {slot | g.Live slot}.encard = g.size := by
  have hlive : {slot | g.Live slot} = ↑((Finset.range g.slots.size).filter g.Live) := by
    ext slot
    simp only [Set.mem_ofPred_eq, Finset.coe_filter, Finset.mem_range]
    refine ⟨fun h => ⟨?_, h⟩, fun h => h.2⟩
    obtain ⟨o, ho⟩ := live_iff.mp h
    exact lt_of_get? ho
  have hempty : (Finset.range g.slots.size).filter (fun slot => ¬g.Live slot) = g.free.toFinset := by
    ext slot
    simp [hfree]
  have hsum := Finset.card_filter_add_card_filter_not (s := Finset.range g.slots.size) g.Live
  rw [hempty, List.toFinset_card_of_nodup hnodup, Finset.card_range] at hsum
  have hcount : ((Finset.range g.slots.size).filter g.Live).card = g.size := by
    rw [size]
    omega
  rw [hlive, Set.encard_coe_eq_coe_finsetCard, hcount]

section OneTree

variable {g : SceneGraph} {top : Site (Option Origin)} {under : SceneForest}

/-- In one tree only the top has no parent, and every other object is listed once by its parent. -/
theorem Shows.parent_of_ne (h : g.Shows (.cons top under .nil)) {slot : Nat} {o : SceneObject}
    (hget : g.get? slot = some o) (hne : slot ≠ top.slot) :
    ∃ p po, o.parent = some p ∧ g.get? p = some po ∧ po.children.toList.count slot = 1 := by
  obtain ⟨o', hget', ⟨htop, -⟩ | ⟨p, hp, -, hchild⟩⟩ :=
    h.holds.exists_parent (h.mem_slots_iff.mpr ⟨o, hget⟩)
  · exact absurd (List.mem_singleton.mp htop) hne
  · obtain rfl := Option.some.inj (hget.symm.trans hget')
    obtain ⟨po, hpo, hmem⟩ := hchild.exists_get?
    exact ⟨p, po, hp, hpo, List.count_eq_one_of_mem (h.nodup_children hpo) hmem⟩

/-- In one tree every live object is reached from the top, and nothing else is. -/
theorem Shows.live_iff_reached (h : g.Shows (.cons top under .nil)) {slot : Nat} :
    g.Live slot ↔ Relation.ReflTransGen g.IsChild top.slot slot := by
  constructor
  · intro hlive
    obtain ⟨first, hfirst, hsteps⟩ :=
      h.holds.exists_reflTransGen (h.mem_slots_iff.mpr (live_iff.mp hlive))
    exact List.mem_singleton.mp hfirst ▸ hsteps
  · intro hsteps
    rcases Relation.ReflTransGen.cases_tail hsteps with rfl | ⟨p, -, hchild⟩
    · exact live_iff.mpr ⟨_, (holds_cons_iff.mp h.holds).1⟩
    · obtain ⟨o, hget, -⟩ := h.parent_of_isChild hchild
      exact live_iff.mpr ⟨o, hget⟩

/-- The way up from an object is the way down to it, read backwards. -/
theorem Shows.ascends (h : g.Shows (.cons top under .nil)) {slot : Nat} (hlive : g.Live slot) :
    Relation.ReflTransGen g.HasParent slot top.slot := by
  refine Relation.ReflTransGen.mono (fun x p hchild => ?_) _ _ (h.live_iff_reached.mp hlive).swap
  obtain ⟨o, hget, hparent⟩ := h.parent_of_isChild hchild
  rw [HasParent, hget]
  exact hparent

end OneTree

/-- **A graph that shows one tree is a tree.** -/
theorem ShowsTree.isTree {g : SceneGraph} (h : g.ShowsTree) : g.IsTree := by
  obtain ⟨top, under, hshows, hslot, hkind⟩ := h
  have hfree : ∀ slot, slot ∈ g.free ↔ slot < g.slots.size ∧ ¬g.Live slot := fun slot => by
    rw [hshows.mem_free_iff, Live, Option.not_isSome_iff_eq_none]
  have hroot := (holds_cons_iff.mp hshows.holds).1
  rw [hslot] at hroot
  constructor
  case free_nodup => exact hshows.free_nodup
  case mem_free_iff => exact hfree
  case root => exact ⟨_, hroot, hkind, rfl⟩
  case parentless =>
    intro slot o hget hnone
    by_contra hne
    obtain ⟨p, -, hp, -⟩ := hshows.parent_of_ne hget (hslot ▸ hne)
    rw [hnone] at hp
    cases hp
  case parent => exact fun slot o hget hne => hshows.parent_of_ne hget (hslot ▸ hne)
  case child =>
    exact fun slot o hget c hc => hshows.parent_of_isChild ((isChild_iff hget).mpr hc)
  case ascends => exact fun slot hlive => hslot ▸ hshows.ascends hlive
  case live_iff_reached => exact fun slot => hslot ▸ hshows.live_iff_reached
  case size_eq => exact encard_live hshows.free_nodup hfree

/-- **A graph stays a tree**, whatever is inserted below live objects, cleared and moved. -/
theorem isTree_run_new (es : List GraphEdit) (hes : SceneGraph.new.AllowsAll es) :
    (SceneGraph.new.run es).IsTree :=
  (showsTree_new.run hes).isTree

/-- A table with two legs is cleared and gets one leg again, which takes the slot that was freed last;
then something that is not there is cleared, and the table is moved. -/
def tableEdits : List GraphEdit :=
  [.insert 0 "table" .default .container,
    .insert 1 "table.left" .default .group,
    .insert 1 "table.right" .default .group,
    .clear 1,
    .insert 1 "table.middle" .default .group,
    .clear 2,
    .move 1 .default]

/-- The table stays a tree. -/
theorem isTree_run_new_table :
    SceneGraph.new.AllowsAll tableEdits ∧ (SceneGraph.new.run tableEdits).IsTree := by
  have hallows : SceneGraph.new.AllowsAll tableEdits := by
    simp [tableEdits, AllowsAll, Allows, Live, apply, SceneGraph.new, SceneGraph.insert, adopt,
      SceneObject.adopt, clearChildren, get?, takeOut]
  exact ⟨hallows, isTree_run_new tableEdits hallows⟩

end SceneGraph

end ParametricScene
