import ParametricScene.Proofs.Rebuilding

/-!
# A scene mirrors its templates

Whatever edits were made and in whatever order, what stands below the container of a registered
template is what the template says now: its expansion, node for node, with every path, placement, form
and material in place.

The contract is about one registered template at a time. What stands below the container of a nested
template is governed by the entry of that template, so `Scene.Mirrors` stops at containers, after
checking that they are there and placed as they should be.

## Implementation notes

The expansion in the contract is that of a new evaluator, while the scene was built with one that had
seen every edit and remembered results. So this is also the statement that nothing remembered is out
of date. It needs that different contexts have different fingerprints, which is why the document must
not bind names with an equals sign in them.

## Main definitions

* `PlacedNode.isBuilt` — something is built for the node
* `Scene.Mirrors`, `Scene.MirrorsAll` — objects of the graph are what placed nodes say

## Main results

* `Scene.mirrorsAll_run_build` — every registered template is mirrored by the graph
-/

namespace ParametricScene

open Evaluator (value)

/-- Something is built for the node: it is no geometry of an unknown kind. -/
def PlacedNode.isBuilt : PlacedNode → Bool
  | .geometry piece => piece.kind.isKnown
  | .group _ _ _ _ | .template _ _ => true

namespace Scene

variable {G M : Type}

mutual

/-- The object in the slot is what the node says, below an object with the given path. Of a nested
template it is the container that is looked at, which stands where `ev` places it. -/
def Mirrors (s : Scene G M) (ev : Evaluator) : PlacedNode → String → Nat → Prop
  | .group id name transform children, path, slot =>
    ∃ o, s.graph.get? slot = some o ∧
      o.look = ⟨joinPath path (groupId id name), transform.complete, .group⟩ ∧
      MirrorsAll s ev children o.name o.children.toList
  | .geometry piece, path, slot =>
    ∃ o, s.graph.get? slot = some o ∧
      o.look = ⟨joinPath path (leafId piece), piece.transform.complete,
        .leaf piece.kind piece.dimensions (s.resolveMaterial piece.material).1⟩ ∧
      o.children = #[]
  | .template t ctx, path, slot =>
    ∃ o, s.graph.get? slot = some o ∧
      o.look = ⟨joinPath path t.id, (Evaluator.placement t.transform ctx ev).1.complete, .container⟩

/-- The objects in the slots are what the nodes say, one for each node for which something is built,
and in the order of the nodes. -/
def MirrorsAll (s : Scene G M) (ev : Evaluator) : List PlacedNode → String → List Nat → Prop
  | [], _, slots => slots = []
  | node :: rest, path, slots =>
    if node.isBuilt then
      ∃ slot others, slots = slot :: others ∧ Mirrors s ev node path slot ∧
        MirrorsAll s ev rest path others
    else MirrorsAll s ev rest path slots

end

/-! ### Forests -/

/-- A forest that renders nodes mirrors them in a graph that holds its objects. -/
theorem mirrorsAll_of_renders {P : Plan} {admits : Admission}
    (hr : P.functions.IsPure) {s : Scene G M} (hdefinitions : s.definitions = P.definitions)
    {ev : Evaluator} (hev : ev.Truthful P.functions) {path : String} {nodes : List PlacedNode}
    {f : SceneForest} (h : Renders P admits path nodes f) {parent : Option Nat}
    (hholds : s.graph.Holds parent f) : s.MirrorsAll ev nodes path f.rootSlots := by
  induction h generalizing parent with
  | done => exact rfl
  | @unknown _ piece rest _ hkind _ ih =>
    rw [MirrorsAll, PlacedNode.isBuilt, hkind]
    exact ih hholds
  | @leaf path piece _ a beside hkind hlook _ _ ih =>
    obtain ⟨ha, -, hbeside⟩ := SceneGraph.holds_cons_iff.mp hholds
    rw [MirrorsAll, PlacedNode.isBuilt, if_pos hkind]
    refine ⟨a.slot, beside.rootSlots, rfl, ?_, ih hbeside⟩
    rw [Mirrors, resolveMaterial_name, hdefinitions]
    exact ⟨_, ha, hlook, rfl⟩
  | @group path id name transform children _ a below beside hlook _ _ _ ihBelow ih =>
    obtain ⟨ha, hbelow, hbeside⟩ := SceneGraph.holds_cons_iff.mp hholds
    rw [MirrorsAll, PlacedNode.isBuilt, if_pos rfl]
    refine ⟨a.slot, beside.rootSlots, rfl, ?_, ih hbeside⟩
    rw [Mirrors]
    exact ⟨_, ha, hlook, ihBelow hbelow⟩
  | @template path t ctx _ a built below beside hlook _ _ hclean _ _ _ ih =>
    obtain ⟨ha, -, hbeside⟩ := SceneGraph.holds_cons_iff.mp hholds
    rw [MirrorsAll, PlacedNode.isBuilt, if_pos rfl]
    refine ⟨a.slot, beside.rootSlots, rfl, ?_, ih hbeside⟩
    rw [Mirrors, (Evaluator.steady_placement hr hclean.2 t.transform ev hev).1]
    exact ⟨_, ha, hlook⟩

/-! ### The contract -/

/-- **The scene always mirrors its registered templates.** In every scene that edits lead to, the
children of the container of a registered template are the expansion of the template in its
surroundings, as a new evaluator finds it. -/
theorem mirrorsAll_run_build (settings : Settings) (d : SceneDocument)
    (hclean : ∀ t ∈ d.templates, t.Clean) (es : List SceneEdit) (path : String)
    (entry : TemplateEntry)
    (hentry : ((build settings d).run es).templates.get? path = some entry) :
    ∃ o, ((build settings d).run es).graph.get? entry.container = some o ∧
      o.name = path ∧ o.kind = .container ∧
      ((build settings d).run es).MirrorsAll settings.evaluator
        (entry.template.expand settings.repeatCap entry.surroundings settings.evaluator).1
        path o.children.toList := by
  obtain ⟨f, hf⟩ := rendered_run settings hclean es
  obtain ⟨⟨ht, hctx⟩, gap, a, below, rfl, hslot, hname, hkind, hrenders⟩ := hf.inside hentry
  obtain ⟨parent, hget, hholds⟩ := hf.registers.shows.get?_fill
  refine ⟨_, hslot ▸ hget, hname, hkind, ?_⟩
  have hexpand := (Template.steady_expand Registry.isPure_builtin ht settings.repeatCap hctx).1 _
    (truthful_evaluator settings)
  rw [hexpand.1]
  exact mirrorsAll_of_renders Registry.isPure_builtin hf.ready.definitions
    (truthful_evaluator settings) hrenders hholds

/-! ### A lamp -/

/-- No part of a placement. -/
def unmoved : PlacementSpec := ⟨none, none, none⟩

/-- A lamp with a switch. It has an arm with a rod and a bulb on it, and a part of a kind that is not
known. -/
def lamp : Template where
  id := "lamp"
  generator := none
  transform := unmoved
  parameters := OrderedMap.insert ∅ "lit" (.bare (.boolean true))
  expressions := ∅
  constraints := ∅
  nodes := [
    .group ⟨some "arm", none, unmoved⟩ [
      .geometry ⟨.box, some "rod", none, [], unmoved, none⟩,
      .template ⟨"bulb", none, unmoved, ∅, ∅, ∅⟩ []],
    .geometry ⟨.unknown "shade", none, none, [], unmoved, none⟩]

/-- The document of a lamp. -/
def lampDocument : SceneDocument := ⟨Settings.currentVersion, none, none, [lamp], ∅, none⟩

theorem clean_lamp : lamp.Clean := by
  refine ⟨⟨fun name hname => ?_, fun name hname => ?_⟩, ?_⟩
  · obtain rfl := List.mem_singleton.mp hname
    rw [CleanName]
    decide
  · exact absurd hname List.not_mem_nil
  · refine ⟨⟨trivial, ⟨⟨fun name hname => ?_, fun name hname => ?_⟩, trivial⟩, trivial⟩, trivial,
      trivial⟩
    · exact absurd hname List.not_mem_nil
    · exact absurd hname List.not_mem_nil

/-- A lamp that was switched off mirrors its template. -/
theorem mirrorsAll_run_build_lamp :
    (∀ t ∈ lampDocument.templates, t.Clean) ∧
      ∃ entry, ((build default lampDocument).run
          [.setParameter "lamp" "lit" (.boolean false)]).templates.get? "lamp" = some entry ∧
        ∃ o, ((build default lampDocument).run
            [.setParameter "lamp" "lit" (.boolean false)]).graph.get? entry.container = some o ∧
          o.name = "lamp" ∧ o.kind = .container ∧
          ((build default lampDocument).run
              [.setParameter "lamp" "lit" (.boolean false)]).MirrorsAll
            (default : Settings).evaluator
            (entry.template.expand (default : Settings).repeatCap entry.surroundings
              (default : Settings).evaluator).1 "lamp" o.children.toList := by
  have hclean : ∀ t ∈ lampDocument.templates, t.Clean := fun t ht =>
    List.mem_singleton.mp ht ▸ clean_lamp
  have hbuilt : (build default lampDocument).templates.contains "lamp" = true := by decide +kernel
  obtain ⟨f, hf⟩ : ∃ f, (build default lampDocument).Registers f := registers_buildWith ..
  have hstays := contains_run hf hbuilt [.setParameter "lamp" "lit" (.boolean false)]
    (by simp [SceneEdit.path])
  obtain ⟨entry, hentry⟩ := Option.isSome_iff_exists.mp hstays
  exact ⟨hclean, entry, hentry, mirrorsAll_run_build default lampDocument hclean _ "lamp" entry
    hentry⟩

end Scene

end ParametricScene
