import ParametricScene.Proofs.Tree

/-!
# Clearing takes out exactly what is below

Clearing an object walks the graph while it takes it apart: an object that was taken out is gone from its
slot before its children are looked at. Here the result is described by the graph as it was before, which
the walk never sees as a whole: the objects taken out are those below the cleared one, in the order of a
walk that goes down before it goes on, each as it was, and nothing else changes but the list of
children of the cleared object and the list of free slots.

The contract is for graphs that edits lead to. In a graph where a slot is listed twice, or where
something stands below itself, there would be no such walk.

## Main definitions

* `SceneGraph.Walks` — the objects below some slots, in depth-first order
* `SceneGraph.Clears` — what one graph has lost against another when an object was cleared

## Main results

* `SceneGraph.Walks.eq` — there is only one depth-first order
* `SceneGraph.Shows.clears` — clearing a site of a forest
* `SceneGraph.clears_run_new` — clearing an object of a graph that edits lead to
-/

namespace ParametricScene

namespace SceneGraph

/-! ### Depth-first order -/

/-- The list names the objects in the slots and all below them, each before those below it, and these
before the slots that follow. -/
inductive Walks (g : SceneGraph) : List Nat → List (Nat × SceneObject) → Prop where
  | done : Walks g [] []
  | visit {slot : Nat} {o : SceneObject} {rest : List Nat} {below beside : List (Nat × SceneObject)}
      (hget : g.get? slot = some o) (hbelow : Walks g o.children.toList below)
      (hbeside : Walks g rest beside) : Walks g (slot :: rest) ((slot, o) :: (below ++ beside))

/-- There is only one depth-first order. -/
theorem Walks.eq {g : SceneGraph} {pending : List Nat} {l l' : List (Nat × SceneObject)}
    (h : g.Walks pending l) (h' : g.Walks pending l') : l = l' := by
  induction h generalizing l' with
  | done =>
    cases h'
    rfl
  | visit hget _ _ ihBelow ihBeside =>
    cases h' with
    | visit hget' hbelow' hbeside' =>
      obtain rfl := Option.some.inj (hget.symm.trans hget')
      rw [ihBelow hbelow', ihBeside hbeside']

/-- The objects of a forest that the graph holds are in depth-first order. -/
theorem Holds.walks {ρ : Type} {g : SceneGraph} {parent : Option Nat} {f : Forest (Site ρ)}
    (h : g.Holds parent f) : g.Walks f.rootSlots (f.objects parent) := by
  induction f generalizing parent with
  | nil => exact .done
  | cons a below beside ihBelow ihBeside =>
    obtain ⟨ha, hbelow, hbeside⟩ := holds_cons_iff.mp h
    exact .visit ha (ihBelow hbelow) (ihBeside hbeside)

/-! ### Clearing -/

/-- The second graph is the first with everything taken out that was below the object `o` in the slot,
and the list names what was taken out. -/
structure Clears (g : SceneGraph) (slot : Nat) (o : SceneObject)
    (removed : List (Nat × SceneObject)) (g' : SceneGraph) : Prop where
  /-- What was taken out is listed as it was, in the one depth-first order there is. -/
  walks_iff : ∀ l, g.Walks o.children.toList l ↔ l = removed
  mem_iff : ∀ x, x ∈ removed.map Prod.fst ↔ g.Below slot x
  nodup : (removed.map Prod.fst).Nodup
  get?_of_mem : ∀ e ∈ removed, g.get? e.1 = some e.2
  live_iff : ∀ x, g'.Live x ↔ g.Live x ∧ ¬g.Below slot x
  /-- The slots that were emptied are taken first by what is inserted next, the last one foremost. -/
  free_eq : g'.free = (removed.map Prod.fst).reverse ++ g.free
  free_nodup : g'.free.Nodup
  get?_self : g'.get? slot = some { o with children := #[] }
  get?_of_not_below : ∀ x, x ≠ slot → ¬g.Below slot x → g'.get? x = g.get? x

/-- Where nothing stands there is nothing to clear. -/
theorem clearChildren_of_not_live {g : SceneGraph} {slot : Nat} (h : ¬g.Live slot) :
    g.clearChildren slot = ([], g) := by
  have hnone : g.get? slot = none := Option.not_isSome_iff_eq_none.mp h
  rw [clearChildren, hnone]

/-- **Clearing a site of a forest** takes out the forest below it. -/
theorem Shows.clears {ρ : Type} {g : SceneGraph} {gap : Forest.Gap (Site ρ)} {a : Site ρ}
    {below : Forest (Site ρ)} (h : g.Shows (gap.fill a below)) {o : SceneObject}
    (hget : g.get? a.slot = some o) :
    g.Clears a.slot o (g.clearChildren a.slot).1 (g.clearChildren a.slot).2 := by
  obtain ⟨q, hsite, hholds⟩ := h.get?_fill
  obtain rfl := Option.some.inj (hget.symm.trans hsite)
  obtain ⟨left, -, hleft, hclear⟩ := h.clearChildren_eq hsite
  have hfree := h.clearChildren.2.free_nodup
  have hself : a.slot ∉ below.slots := h.slot_not_mem_below
  have hgone : ∀ x, x ∈ below.slots → left[x]?.join = none := fun x hx => by rw [hleft, if_pos hx]
  have hstays : ∀ x, x ∉ below.slots → x ≠ a.slot → left[x]?.join = g.get? x := fun x hx hne => by
    rw [hleft, if_neg hx, if_neg hne]
  have hcleared : left[a.slot]?.join = some (a.object q []) := by
    rw [hleft, if_neg hself, if_pos rfl]
  rw [hclear] at hfree ⊢
  constructor
  case walks_iff => exact fun l => ⟨fun hl => hl.eq hholds.walks, fun hl => hl ▸ hholds.walks⟩
  case mem_iff => exact fun x => by rw [Forest.map_fst_objects, h.below_iff]
  case nodup => exact Forest.map_fst_objects (some a.slot) below ▸ h.nodup_below.1
  case get?_of_mem => exact fun e he => hholds e.1 e.2 he
  case live_iff =>
    intro x
    rw [h.below_iff, Live, Live, get?]
    by_cases hx : x ∈ below.slots
    · simp [hgone x hx, hx]
    · by_cases hne : x = a.slot
      · subst hne
        simp [hcleared, hsite, hself]
      · simp [hstays x hx hne, hx]
  case free_eq => rw [Forest.map_fst_objects]
  case free_nodup => exact hfree
  case get?_self => exact hcleared
  case get?_of_not_below =>
    intro x hne hx
    exact hstays x (fun hmem => hx (h.below_iff.mpr hmem)) hne

/-- **Clearing takes out exactly what is below.** In a graph that edits lead to, clearing a slot that
holds nothing changes nothing. Clearing an object lists what is below it in depth-first order, each
object once and as it was, and frees the slots of just these objects. The object itself stays and has no
children any more, and all others stay as they are. -/
theorem clears_run_new (es : List GraphEdit) (hes : SceneGraph.new.AllowsAll es) (slot : Nat) :
    (¬(SceneGraph.new.run es).Live slot →
        (SceneGraph.new.run es).clearChildren slot = ([], SceneGraph.new.run es)) ∧
      ∀ o, (SceneGraph.new.run es).get? slot = some o →
        (SceneGraph.new.run es).Clears slot o ((SceneGraph.new.run es).clearChildren slot).1
          ((SceneGraph.new.run es).clearChildren slot).2 := by
  refine ⟨clearChildren_of_not_live, fun o hget => ?_⟩
  obtain ⟨gap, a, below, rfl, hshows, -⟩ :=
    (showsTree_new.run hes).exists_gap (live_iff.mpr ⟨o, hget⟩)
  exact hshows.clears hget

/-- A shelf with a row of two books and a lamp. The row stands in a slot that was freed before. -/
def shelfEdits : List GraphEdit :=
  [.insert 0 "shelf" .default .container,
    .insert 1 "shelf.vase" .default .group,
    .clear 1,
    .insert 1 "shelf.row" .default .group,
    .insert 2 "shelf.row.left" .default .group,
    .insert 1 "shelf.lamp" .default .group,
    .insert 2 "shelf.row.right" .default .group]

/-- The shelf is cleared: its row, the books of the row and then the lamp are taken out, though the lamp
was put there before the second book. -/
theorem clears_run_new_shelf :
    SceneGraph.new.AllowsAll shelfEdits ∧
      (∃ o, (SceneGraph.new.run shelfEdits).get? 1 = some o ∧
        (SceneGraph.new.run shelfEdits).Clears 1 o
          ((SceneGraph.new.run shelfEdits).clearChildren 1).1
          ((SceneGraph.new.run shelfEdits).clearChildren 1).2) ∧
      ((SceneGraph.new.run shelfEdits).clearChildren 1).1.map (fun e => (e.1, e.2.name)) =
        [(2, "shelf.row"), (3, "shelf.row.left"), (5, "shelf.row.right"), (4, "shelf.lamp")] := by
  have hallows : SceneGraph.new.AllowsAll shelfEdits := by
    simp [shelfEdits, AllowsAll, Allows, Live, apply, SceneGraph.new, SceneGraph.insert, adopt,
      SceneObject.adopt, clearChildren, get?, takeOut]
  have hlive : (SceneGraph.new.run shelfEdits).Live 1 := by
    simp [shelfEdits, run, Live, apply, SceneGraph.new, SceneGraph.insert, adopt,
      SceneObject.adopt, clearChildren, get?, takeOut]
  obtain ⟨o, hget⟩ := live_iff.mp hlive
  refine ⟨hallows, ⟨o, hget, (clears_run_new shelfEdits hallows 1).2 o hget⟩, ?_⟩
  simp [shelfEdits, run, apply, SceneGraph.new, SceneGraph.insert, adopt, SceneObject.adopt,
    clearChildren, get?, takeOut]

end SceneGraph

end ParametricScene
