import ParametricScene.Proofs.Tree

/-!
# Where objects stand in the world

An object is placed relative to its parent, and where it stands in the world is found by climbing from
parent to parent. How far the climb goes is not known in advance: slots are taken again, and parents are
named by slot. Here it is shown that in a graph that edits lead to, the climb ends at the root after fewer
steps than there are objects, and that the placements are multiplied in the order of the way down, that
of the root first.

Matrices of doubles are not multiplied associatively, so the product is given as it is put together:
the placement of the object stands innermost, and each parent is multiplied to the left of what there is.

## Implementation notes

All that is needed of the graph is that it is a tree in the sense of `SceneGraph.IsTree`. The objects above
another are listed by `SceneGraph.Ancestry`, which has no bound on the number of steps; that the climb
never needs the bound it is given is shown from there. What is below an object is told by
`SceneGraph.Below`, through the children and not through the parents, so that the two ways of naming meet
in `SceneGraph.Ancestry.mem_iff_below`.

## Main definitions

* `SceneGraph.Ancestry` — the objects above a slot, from the root down
* `SceneGraph.StandsAt` — an object stands where the placements from the root down to it put it

## Main results

* `SceneGraph.Ancestry.eq` — there is only one way up
* `SceneGraph.Ancestry.worldFrom_eq` — what a climb of enough steps comes to
* `SceneGraph.IsTree.standsAt` — where the objects of a tree stand
* `SceneGraph.IsTree.world?_move` — who stays in place when an object is moved
* `SceneGraph.world?_run_new` — where objects stand in a graph that edits lead to
-/

namespace ParametricScene

namespace SceneGraph

/-- The root has no parent. -/
theorem IsTree.ne_rootSlot {g : SceneGraph} (hg : g.IsTree) {slot parent : Nat} {o : SceneObject}
    (hget : g.get? slot = some o) (hparent : o.parent = some parent) : slot ≠ rootSlot := by
  rintro rfl
  obtain ⟨root, hroot, -, hnone⟩ := hg.root
  obtain rfl := Option.some.inj (hget.symm.trans hroot)
  cases hparent.symm.trans hnone

/-! ### The way up -/

/-- The list names the objects above the one in the slot, from the root down to its parent. -/
inductive Ancestry (g : SceneGraph) : Nat → List (Nat × SceneObject) → Prop where
  | top {slot : Nat} {o : SceneObject} (hget : g.get? slot = some o) (hparent : o.parent = none) :
      Ancestry g slot []
  | under {slot parent : Nat} {o p : SceneObject} {above : List (Nat × SceneObject)}
      (hget : g.get? slot = some o) (hparent : o.parent = some parent)
      (hp : g.get? parent = some p) (habove : Ancestry g parent above) :
      Ancestry g slot (above ++ [(parent, p)])

namespace Ancestry

variable {g : SceneGraph} {slot x : Nat} {o : SceneObject} {above l : List (Nat × SceneObject)}

/-- The way up from an object that has a parent starts with that parent. -/
theorem exists_of_parent (h : g.Ancestry slot above) (hget : g.get? slot = some o) {parent : Nat}
    (hparent : o.parent = some parent) :
    ∃ p higher, g.get? parent = some p ∧ g.Ancestry parent higher ∧
      above = higher ++ [(parent, p)] := by
  cases h with
  | top hget' hnone =>
    obtain rfl := Option.some.inj (hget.symm.trans hget')
    cases hparent.symm.trans hnone
  | under hget' hparent' hp habove =>
    obtain rfl := Option.some.inj (hget.symm.trans hget')
    obtain rfl := Option.some.inj (hparent.symm.trans hparent')
    exact ⟨_, _, hp, habove, rfl⟩

/-- **There is only one way up.** -/
theorem eq (h : g.Ancestry slot above) (h' : g.Ancestry slot l) : above = l := by
  induction h generalizing l with
  | top hget hparent =>
    cases h' with
    | top => rfl
    | under hget' hparent' =>
      obtain rfl := Option.some.inj (hget.symm.trans hget')
      cases hparent.symm.trans hparent'
  | under hget hparent hp _ ih =>
    obtain ⟨p', higher, hp', hhigher, rfl⟩ := h'.exists_of_parent hget hparent
    obtain rfl := Option.some.inj (hp.symm.trans hp')
    rw [ih hhigher]

/-- What is listed are the objects in their slots. -/
theorem get?_of_mem (h : g.Ancestry slot above) : ∀ a ∈ above, g.get? a.1 = some a.2 := by
  induction h with
  | top => exact List.forall_mem_nil _
  | under _ _ hp _ ih => exact List.forall_mem_append.mpr ⟨ih, List.forall_mem_singleton.mpr hp⟩

/-- The way up depends only on the objects that are met. -/
theorem congr {g' : SceneGraph} (h : g.Ancestry slot above) (hslot : g'.get? slot = g.get? slot)
    (habove : ∀ a ∈ above, g'.get? a.1 = g.get? a.1) : g'.Ancestry slot above := by
  induction h with
  | top hget hparent => exact .top (hslot.trans hget) hparent
  | under hget hparent hp _ ih =>
    obtain ⟨hhigher, hlast⟩ := List.forall_mem_append.mp habove
    have hfirst := List.forall_mem_singleton.mp hlast
    exact .under (hslot.trans hget) hparent (hfirst.trans hp) (ih hfirst hhigher)

/-- **What a climb comes to**, if it may take as many steps as there are objects above. -/
theorem worldFrom_eq (h : g.Ancestry slot above) (hget : g.get? slot = some o) {steps : Nat}
    (hsteps : above.length ≤ steps) (m : Matrix Float) :
    g.worldFrom steps o m = some (above.foldr (fun a m => a.2.placement.matrix * m) m) := by
  induction h generalizing o steps m with
  | top hget' hparent =>
    obtain rfl := Option.some.inj (hget.symm.trans hget')
    rw [worldFrom.eq_def]
    simp only [hparent, List.foldr_nil]
  | under hget' hparent hp _ ih =>
    obtain rfl := Option.some.inj (hget.symm.trans hget')
    rw [List.length_append, List.length_singleton] at hsteps
    obtain ⟨steps, rfl⟩ := Nat.exists_eq_add_of_le' (Nat.le_of_add_left_le hsteps)
    rw [worldFrom.eq_def]
    simp only [hparent, hp]
    rw [ih hp (Nat.le_of_succ_le_succ hsteps), List.foldr_append]
    rfl

/-- Where the object stands, if the way up is not longer than there are slots. -/
theorem world?_eq (h : g.Ancestry slot above) (hget : g.get? slot = some o)
    (hlength : above.length ≤ g.slots.size) :
    g.world? slot = some (above.foldr (fun a m => a.2.placement.matrix * m) o.placement.matrix) := by
  rw [world?, hget]
  exact h.worldFrom_eq hget hlength _

/-! ### The way up and the way down -/

variable (hg : g.IsTree)
include hg

/-- The objects above another have it below them. -/
theorem below_of_mem (h : g.Ancestry slot above) (hx : x ∈ above.map Prod.fst) : g.Below x slot := by
  induction h with
  | top => cases hx
  | @under slot parent o p above hget hparent hp _ ih =>
    have hchild : g.IsChild parent slot := by
      obtain ⟨parent', p', hparent', hp', hcount⟩ :=
        hg.parent slot o hget (hg.ne_rootSlot hget hparent)
      obtain rfl := Option.some.inj (hparent.symm.trans hparent')
      exact (isChild_iff hp').mpr (List.count_pos_iff.mp (hcount ▸ Nat.one_pos))
    rw [List.map_append, List.mem_append, List.map_singleton, List.mem_singleton] at hx
    rcases hx with hx | rfl
    · exact (ih hx).tail hchild
    · exact .single hchild

/-- The way up from a child starts with the object that lists it. -/
theorem exists_of_isChild (hchild : g.IsChild x slot) (h : g.Ancestry slot above) :
    ∃ p higher, g.Ancestry x higher ∧ above = higher ++ [(x, p)] := by
  obtain ⟨po, hpo, hmem⟩ := hchild.exists_get?
  obtain ⟨o, hget, hparent⟩ := hg.child x po hpo slot hmem
  obtain ⟨p, higher, -, hhigher, heq⟩ := h.exists_of_parent hget hparent
  exact ⟨p, higher, hhigher, heq⟩

/-- What has another below it is passed on the way up from there, and the way up from it is what
follows. -/
theorem exists_of_below (hbelow : g.Below x slot) (h : g.Ancestry slot above) :
    ∃ p higher lower, g.Ancestry x higher ∧ above = higher ++ (x, p) :: lower := by
  induction hbelow generalizing above with
  | single hchild =>
    obtain ⟨p, higher, hhigher, heq⟩ := exists_of_isChild hg hchild h
    exact ⟨p, higher, [], hhigher, heq⟩
  | @tail y _ _ hchild ih =>
    obtain ⟨q, middle, hmiddle, rfl⟩ := exists_of_isChild hg hchild h
    obtain ⟨p, higher, lower, hhigher, rfl⟩ := ih hmiddle
    exact ⟨p, higher, lower ++ [(y, q)], hhigher, by simp⟩

/-- **What is above an object is what has it below.** -/
theorem mem_iff_below (h : g.Ancestry slot above) : x ∈ above.map Prod.fst ↔ g.Below x slot := by
  refine ⟨h.below_of_mem hg, fun hbelow => ?_⟩
  obtain ⟨p, higher, lower, -, rfl⟩ := exists_of_below hg hbelow h
  simp

/-- Nothing is above itself: the way up would have to be longer than it is. -/
theorem not_mem_self (h : g.Ancestry slot above) : slot ∉ above.map Prod.fst := by
  intro hmem
  obtain ⟨p, higher, lower, hhigher, heq⟩ := exists_of_below hg (h.below_of_mem hg hmem) h
  have hlength := congrArg List.length heq
  rw [hhigher.eq h, List.length_append, List.length_cons] at hlength
  omega

/-- Nothing is met twice on the way up. -/
theorem nodup (h : g.Ancestry slot above) : (above.map Prod.fst ++ [slot]).Nodup := by
  induction h with
  | top => exact List.nodup_singleton _
  | under hget hparent hp habove ih =>
    have hself := (Ancestry.under hget hparent hp habove).not_mem_self hg
    rw [List.map_append, List.map_singleton] at hself ⊢
    rw [List.nodup_append]
    exact ⟨ih, List.nodup_singleton _, fun x hx y hy hxy =>
      hself (List.mem_singleton.mp hy ▸ hxy ▸ hx)⟩

/-- **The way up is short**: it has fewer steps than there are objects. -/
theorem length_lt (h : g.Ancestry slot above) (hlive : g.Live slot) : above.length < g.size := by
  have hsub : ((above.map Prod.fst ++ [slot]).toFinset : Set Nat) ⊆ {slot | g.Live slot} := by
    intro x hx
    rw [List.coe_toFinset, Set.mem_ofPred_eq, List.mem_append, List.mem_singleton, List.mem_map] at hx
    rcases hx with ⟨a, ha, rfl⟩ | rfl
    · exact live_iff.mpr ⟨a.2, h.get?_of_mem a ha⟩
    · exact hlive
  have hcard := Set.encard_le_encard hsub
  rw [hg.size_eq, Set.encard_coe_eq_coe_finsetCard, List.toFinset_card_of_nodup (h.nodup hg),
    List.length_append, List.length_map, List.length_singleton] at hcard
  exact Nat.lt_of_succ_le (Nat.cast_le.mp hcard)

/-- The climb is given steps enough. -/
theorem length_le_slots (h : g.Ancestry slot above) (hlive : g.Live slot) :
    above.length ≤ g.slots.size :=
  (h.length_lt hg hlive).le.trans (Nat.sub_le _ _)

end Ancestry

/-! ### Where objects stand -/

/-- The object in the slot stands where the placements of the objects above it and its own put it: they
are all the objects that it is below, from the root down, and the climb ends when it has met them. -/
structure StandsAt (g : SceneGraph) (slot : Nat) (o : SceneObject)
    (above : List (Nat × SceneObject)) : Prop where
  ancestry_iff : ∀ l, g.Ancestry slot l ↔ l = above
  first : (above.map Prod.fst ++ [slot]).head? = some rootSlot
  nodup : (above.map Prod.fst ++ [slot]).Nodup
  mem_iff : ∀ x, x ∈ above.map Prod.fst ↔ g.Below x slot
  length_lt : above.length < g.size
  ends : ∀ steps, above.length ≤ steps → g.worldFrom steps o o.placement.matrix = g.world? slot
  world?_eq :
    g.world? slot = some (above.foldr (fun a m => a.2.placement.matrix * m) o.placement.matrix)

theorem world?_eq_none {g : SceneGraph} {slot : Nat} (h : g.get? slot = none) :
    g.world? slot = none := by
  rw [world?, h]

namespace IsTree

variable {g : SceneGraph} (hg : g.IsTree)
include hg

/-- Every object of a tree has a way up, and it ends at the root. -/
theorem exists_ancestry {slot : Nat} (hlive : g.Live slot) :
    ∃ above, g.Ancestry slot above ∧ (above.map Prod.fst ++ [slot]).head? = some rootSlot := by
  induction hg.ascends slot hlive using Relation.ReflTransGen.head_induction_on with
  | refl =>
    obtain ⟨root, hroot, -, hnone⟩ := hg.root
    exact ⟨[], .top hroot hnone, rfl⟩
  | @head slot parent hparent _ ih =>
    obtain ⟨o, hget, hparent⟩ := Option.bind_eq_some_iff.mp hparent
    obtain ⟨parent', p, hparent', hp, -⟩ := hg.parent slot o hget (hg.ne_rootSlot hget hparent)
    obtain rfl := Option.some.inj (hparent.symm.trans hparent')
    obtain ⟨above, habove, hfirst⟩ := ih (live_iff.mpr ⟨p, hp⟩)
    refine ⟨above ++ [(parent, p)], .under hget hparent hp habove, ?_⟩
    rw [List.map_append, List.map_singleton, List.head?_append, hfirst, Option.some_or]

/-- **Where the objects of a tree stand.** -/
theorem standsAt {slot : Nat} {o : SceneObject} (hget : g.get? slot = some o) :
    ∃ above, g.StandsAt slot o above := by
  have hlive : g.Live slot := live_iff.mpr ⟨o, hget⟩
  obtain ⟨above, habove, hfirst⟩ := hg.exists_ancestry hlive
  have hlength := habove.length_lt hg hlive
  have hworld := habove.world?_eq hget (habove.length_le_slots hg hlive)
  refine ⟨above, ?_⟩
  constructor
  case ancestry_iff => exact fun l => ⟨fun h => h.eq habove, fun h => h ▸ habove⟩
  case first => exact hfirst
  case nodup => exact habove.nodup hg
  case mem_iff => exact fun x => habove.mem_iff_below hg
  case length_lt => exact hlength
  case ends => exact fun steps hsteps => (habove.worldFrom_eq hget hsteps _).trans hworld.symm
  case world?_eq => exact hworld

/-- The objects of a tree have a place in the world, and nothing else has. -/
theorem isSome_world?_iff {slot : Nat} : (g.world? slot).isSome = true ↔ g.Live slot := by
  cases hget : g.get? slot with
  | none => simp [world?_eq_none hget, Live, hget]
  | some o =>
    obtain ⟨above, habove⟩ := hg.standsAt hget
    simp [habove.world?_eq, Live, hget]

/-- **Who stays in place when an object is moved**: all but the object and what is below it. -/
theorem world?_move {slot x : Nat} (placement : Placement) (hne : x ≠ slot)
    (hbelow : ¬g.Below slot x) : (g.move slot placement).world? x = g.world? x := by
  have hget : ∀ y, y ≠ slot → (g.move slot placement).get? y = g.get? y := fun y hy => by
    rw [get?_move, if_neg hy]
  cases hx : g.get? x with
  | none => rw [world?_eq_none hx, world?_eq_none ((hget x hne).trans hx)]
  | some o =>
    obtain ⟨above, habove, -⟩ := hg.exists_ancestry (live_iff.mpr ⟨o, hx⟩)
    have hothers : ∀ a ∈ above, a.1 ≠ slot := by
      rintro a ha rfl
      exact hbelow (habove.below_of_mem hg (List.mem_map_of_mem ha))
    have hmoved : (g.move slot placement).Ancestry x above :=
      habove.congr (hget x hne) fun a ha => hget a.1 (hothers a ha)
    have hsize : (g.move slot placement).slots.size = g.slots.size := by simp [move]
    have hlength := habove.length_le_slots hg (live_iff.mpr ⟨o, hx⟩)
    rw [hmoved.world?_eq ((hget x hne).trans hx) (hsize.symm ▸ hlength), habove.world?_eq hx hlength]

end IsTree

/-- **Where objects stand in a graph that edits lead to**: exactly the live objects have a place, it is
the product of the placements from the root down to them, and only the object that is moved and what is
below it leave theirs. -/
theorem world?_run_new (es : List GraphEdit) (hes : SceneGraph.new.AllowsAll es) (slot : Nat) :
    (((SceneGraph.new.run es).world? slot).isSome = true ↔ (SceneGraph.new.run es).Live slot) ∧
      (∀ o, (SceneGraph.new.run es).get? slot = some o →
        ∃ above, (SceneGraph.new.run es).StandsAt slot o above) ∧
      ∀ placement x, x ≠ slot → ¬(SceneGraph.new.run es).Below slot x →
        ((SceneGraph.new.run es).move slot placement).world? x =
          (SceneGraph.new.run es).world? x := by
  have hg := (showsTree_new.run hes).isTree
  exact ⟨hg.isSome_world?_iff, fun o => hg.standsAt,
    fun placement x hne hbelow => hg.world?_move placement hne hbelow⟩

/-- A shelf with two boards is cleared and gets a board with a box on it. The board takes the slot that
was freed last and the box the one freed before, so that the box stands in a lower slot than its
parent. -/
def boardEdits : List GraphEdit :=
  [.insert 0 "shelf" .default .container,
    .insert 1 "shelf.low" .default .group,
    .insert 1 "shelf.high" .default .group,
    .clear 1,
    .insert 1 "shelf.board" .default .group,
    .insert 3 "shelf.board.box" .default .group]

/-- The box stands where shelf and board put it, and the board stays in place when the box is moved. -/
theorem world?_run_new_board :
    SceneGraph.new.AllowsAll boardEdits ∧
      ((SceneGraph.new.run boardEdits).world? 2).isSome = true ∧
      (∀ o, (SceneGraph.new.run boardEdits).get? 2 = some o →
        ∃ above, (SceneGraph.new.run boardEdits).StandsAt 2 o above) ∧
      ∀ placement, ((SceneGraph.new.run boardEdits).move 2 placement).world? 3 =
        (SceneGraph.new.run boardEdits).world? 3 := by
  have hallows : SceneGraph.new.AllowsAll boardEdits := by
    simp [boardEdits, AllowsAll, Allows, Live, apply, SceneGraph.new, SceneGraph.insert, adopt,
      SceneObject.adopt, clearChildren, get?, takeOut]
  have hlive : (SceneGraph.new.run boardEdits).Live 2 := by
    simp [run, boardEdits, Live, apply, SceneGraph.new, SceneGraph.insert, adopt,
      SceneObject.adopt, clearChildren, get?, takeOut]
  have hchildren : (SceneGraph.new.run boardEdits).children 2 = [] := by
    simp [run, boardEdits, children, apply, SceneGraph.new, SceneGraph.insert, adopt,
      SceneObject.adopt, clearChildren, get?, takeOut]
  have hbelow : ¬(SceneGraph.new.run boardEdits).Below 2 3 := by
    intro h
    obtain ⟨child, hchild, -⟩ := Relation.TransGen.head'_iff.mp h
    rw [IsChild, hchildren] at hchild
    cases hchild
  obtain ⟨hsome, hstands, hstays⟩ := world?_run_new boardEdits hallows 2
  exact ⟨hallows, hsome.mpr hlive, hstands,
    fun placement => hstays placement 3 (by decide) hbelow⟩

end SceneGraph

end ParametricScene
