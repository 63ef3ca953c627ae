import ParametricScene.Proofs.Listing
import ParametricScene.Proofs.Tally

/-!
# Scenes that cannot be told apart

Two scenes are alike if no question that is asked by path has different answers: the same objects hang
together in the same order and look the same, the same leaves and templates are registered, the same
rules are violated, and as many meshes and uses of materials are counted. Slots, handles and the order
of entries are left out, as these depend on what was built before.

What a scene is like is determined by the templates it renders and by the edits that count. This is
because `Renders` leaves no choice if `admits` leaves none, and because registries that list everything
say no more than the forest does.

## Main definitions

* `SceneGraph.SameTree` — two objects with everything below them look the same
* `Scene.Alike` — two scenes cannot be told apart
* `Scene.revisedBy` — a template admits what edits make of it, and nothing else

## Main results

* `Renders.map_mark_eq` — two forests that render the same nodes have the same marks
* `Scene.Rendered.alike` — two scenes that render the same templates with the same edits are alike
-/

namespace ParametricScene

open Evaluator (value)

/-- Two objects look the same, and so do their children, in order. -/
inductive SceneGraph.SameTree (g g' : SceneGraph) : Nat → Nat → Prop where
  | intro {slot slot' : Nat} {o o' : SceneObject} (hget : g.get? slot = some o)
      (hget' : g'.get? slot' = some o') (hlook : o.look = o'.look)
      (hchildren : List.Forall₂ (SameTree g g') o.children.toList o'.children.toList) :
      SameTree g g' slot slot'

/-- The scenes cannot be told apart by path. -/
structure Scene.Alike (s s' : Scene MeshFactory MaterialLibrary) : Prop where
  tree : SceneGraph.SameTree s.graph s'.graph SceneGraph.rootSlot SceneGraph.rootSlot
  leaves : ∀ path, path ∈ s.leaves.keys ↔ path ∈ s'.leaves.keys
  templates : ∀ path, (s.templates.get? path).map (fun e => (e.template, e.surroundings)) =
    (s'.templates.get? path).map fun e => (e.template, e.surroundings)
  violations : ∀ path, s.violations.get? path = s'.violations.get? path
  meshes : s.geometry.live = s'.geometry.live
  uses : ∀ name, s.materials.usesOf name = s'.materials.usesOf name

/-! ### Marks -/

/-- What a site looks like, and what it was built from if it is a container. -/
def Site.mark (a : Site (Option Origin)) : Look × Option Origin := (a.look, a.note)

theorem Site.mark_eq {a b : Site (Option Origin)} (hlook : a.look = b.look)
    (hnote : a.note = b.note) : a.mark = b.mark :=
  Prod.ext hlook hnote

theorem Site.name_eq {a b : Site (Option Origin)} (hlook : a.look = b.look) : a.name = b.name :=
  congrArg Look.name hlook

/-- Forests with the same marks have the same paths. -/
theorem Forest.names_eq {f f' : SceneForest} (h : f.map Site.mark = f'.map Site.mark) :
    f.names = f'.names := by
  have hnames : ∀ g : SceneForest, g.names = (g.map Site.mark).labels.map fun m => m.1.name :=
    fun g => by
      rw [Forest.labels_map, List.map_map]
      rfl
  rw [hnames, hnames, h]

/-- **Rendering leaves no choice** where nothing else is left to choose. -/
theorem Renders.map_mark_eq {P : Plan} {admits : Admission}
    (hunique : ∀ path t u v, admits path t u → admits path t v → u = v) {path : String}
    {nodes : List PlacedNode} {f f' : SceneForest} (h : Renders P admits path nodes f)
    (h' : Renders P admits path nodes f') : f.map Site.mark = f'.map Site.mark := by
  induction h generalizing f' with
  | done =>
    cases h'
    rfl
  | unknown hkind _ ih =>
    cases h' with
    | unknown _ hrest' => exact ih hrest'
    | leaf hkind' => exact absurd (hkind.symm.trans hkind') Bool.false_ne_true
  | leaf hkind hlook hnote _ ih =>
    cases h' with
    | unknown hkind' => exact absurd (hkind'.symm.trans hkind) Bool.false_ne_true
    | leaf _ hlook' hnote' hrest' =>
      rw [Forest.map, Forest.map, Site.mark_eq (hlook.trans hlook'.symm) (hnote.trans hnote'.symm),
        ih hrest']
      rfl
  | group hlook hnote _ _ ihBelow ih =>
    cases h' with
    | group hlook' hnote' hbelow' hrest' =>
      rw [Site.name_eq (hlook'.trans hlook.symm)] at hbelow'
      rw [Forest.map, Forest.map, Site.mark_eq (hlook.trans hlook'.symm) (hnote.trans hnote'.symm),
        ihBelow hbelow', ih hrest']
  | template hlook hnote hadmits _ _ _ ihBelow ih =>
    cases h' with
    | template hlook' hnote' hadmits' _ hbelow' hrest' =>
      rw [Site.name_eq (hlook'.trans hlook.symm)] at hbelow' hadmits'
      obtain rfl := hunique _ _ _ _ hadmits hadmits'
      rw [Forest.map, Forest.map, Site.mark_eq (hlook.trans hlook'.symm) (hnote.trans hnote'.symm),
        ihBelow hbelow', ih hrest']

/-- Graphs that hold forests with the same marks have the same trees there. -/
theorem SceneGraph.forall₂_sameTree {g g' : SceneGraph} {f f' : SceneForest}
    (hmarks : f.map Site.mark = f'.map Site.mark) {parent parent' : Option Nat}
    (hf : g.Holds parent f) (hf' : g'.Holds parent' f') :
    List.Forall₂ (SameTree g g') f.rootSlots f'.rootSlots := by
  induction f generalizing f' parent parent' with
  | nil =>
    cases f' with
    | nil => exact .nil
    | cons => cases hmarks
  | cons a below beside ihBelow ihBeside =>
    cases f' with
    | nil => cases hmarks
    | cons a' below' beside' =>
      rw [Forest.map, Forest.map, Forest.cons.injEq] at hmarks
      obtain ⟨hmark, hmarksBelow, hmarksBeside⟩ := hmarks
      obtain ⟨ha, hbelow, hbeside⟩ := holds_cons_iff.mp hf
      obtain ⟨ha', hbelow', hbeside'⟩ := holds_cons_iff.mp hf'
      exact .cons (.intro ha ha' (congrArg Prod.fst hmark) (ihBelow hmarksBelow hbelow hbelow'))
        (ihBeside hmarksBeside hbeside hbeside')

/-- The material of a leaf. -/
def ObjectForm.material? : ObjectForm → Option String
  | .leaf _ _ material => some material
  | .root | .container | .group => none

/-- The materials of the leaves of a forest. -/
theorem Forest.map_material_leaves (f : SceneForest) :
    f.leaves.map Leaf.material =
      (f.labels.map Site.mark).filterMap fun m => m.1.form.material? := by
  rw [Forest.leaves, List.map_filterMap, List.filterMap_map]
  refine List.filterMap_congr fun a _ => ?_
  rw [Function.comp_apply, Site.mark, Site.look, Site.leaf?]
  cases a.kind <;> rfl

namespace Scene

/-! ### Registries -/

section Registries

variable {G M : Type} {s : Scene G M} {r : Registry} {f : SceneForest}

/-- A leaf is registered at a path exactly if one stands there. -/
theorem mem_keys_leaves_iff (h : s.Registers f) (hlists : s.Lists r f.labels) (path : String) :
    path ∈ s.leaves.keys ↔ ∃ m ∈ f.labels.map Site.mark, m.1.name = path ∧
      m.1.form.material?.isSome = true := by
  rw [OrderedMap.mem_keys_iff, Option.isSome_iff_exists]
  constructor
  · rintro ⟨slot, hslot⟩
    obtain ⟨a, ha, -, hname, l, hl⟩ := h.leaf path slot hslot
    refine ⟨a.mark, List.mem_map.mpr ⟨a, ha, rfl⟩, hname, ?_⟩
    rw [Site.mark, Site.look, hl]
    rfl
  · rintro ⟨m, hm, hname, hform⟩
    obtain ⟨a, ha, rfl⟩ := List.mem_map.mp hm
    rw [Site.mark, Site.look] at hform hname
    cases hkind : a.kind with
    | leaf l =>
      rw [← hname]
      exact ⟨_, hlists.leaf a ha l hkind⟩
    | root | container | group =>
      rw [hkind] at hform
      cases hform

/-- A template is registered at a path exactly if its container stands there. -/
theorem map_get?_templates_iff (h : s.Registers f) (hlists : s.Lists r f.labels) (path : String)
    (o : Origin) :
    (s.templates.get? path).map (fun e => (e.template, e.surroundings)) = some o ↔
      ∃ m ∈ f.labels.map Site.mark, m.1.name = path ∧ m.2 = some o := by
  rw [Option.map_eq_some_iff]
  constructor
  · rintro ⟨entry, hentry, rfl⟩
    obtain ⟨a, ha, -, hname, -, hnote⟩ := h.template path entry hentry
    exact ⟨a.mark, List.mem_map.mpr ⟨a, ha, rfl⟩, hname, hnote⟩
  · rintro ⟨m, hm, hname, hnote⟩
    obtain ⟨a, ha, rfl⟩ := List.mem_map.mp hm
    rw [← hname]
    exact ⟨_, (hlists.template a ha o hnote).1, rfl⟩

/-- Rules are recorded at a path exactly if a container stands there, and they are those that its
template violates. -/
theorem get?_violations_iff (h : s.Registers f) (hlists : s.Lists r f.labels) (path : String)
    (violations : List Violation) :
    s.violations.get? path = some violations ↔
      ∃ m ∈ f.labels.map Site.mark, m.1.name = path ∧ ∃ o, m.2 = some o ∧
        violations = value r (Evaluator.violations o.1.toTemplateHeader) := by
  constructor
  · intro hget
    have hcontains : s.templates.contains path = true := by
      rw [← h.violations, OrderedMap.contains, hget]
      rfl
    obtain ⟨entry, hentry⟩ := Option.isSome_iff_exists.mp hcontains
    obtain ⟨a, ha, -, hname, -, hnote⟩ := h.template path entry hentry
    refine ⟨a.mark, List.mem_map.mpr ⟨a, ha, rfl⟩, hname, _, hnote, ?_⟩
    have hlisted := (hlists.template a ha _ hnote).2
    rw [hname, hget] at hlisted
    exact Option.some.inj hlisted
  · rintro ⟨m, hm, hname, o, hnote, rfl⟩
    obtain ⟨a, ha, rfl⟩ := List.mem_map.mp hm
    rw [← hname]
    exact (hlists.template a ha o hnote).2

end Registries

/-! ### Scenes -/

/-- A template admits what the edits make of it, and nothing else. -/
def revisedBy (edits : OrderedMap (OrderedMap Value)) : Admission := fun path t built =>
  built = withEdits ((edits.get? path).getD ∅) t

/-- **Two scenes that render the same templates with the same edits are alike**, if their registries
list everything and their books are balanced. -/
theorem Rendered.alike {P : Plan} {edits : OrderedMap (OrderedMap Value)} {ts : List Template}
    {definitions : OrderedMap MaterialDefinition} {s s' : Scene MeshFactory MaterialLibrary}
    {f f' : SceneForest} (h : s.Rendered P (revisedBy edits) ts f)
    (h' : s'.Rendered P (revisedBy edits) ts f') (hmarks : f.map Site.mark = f'.map Site.mark)
    (hlists : s.Lists P.functions f.labels) (hlists' : s'.Lists P.functions f'.labels)
    (haccounts : s.Accounts definitions) (haccounts' : s'.Accounts definitions) : s.Alike s' := by
  have hlabels : f.labels.map Site.mark = f'.labels.map Site.mark := by
    rw [← Forest.labels_map, ← Forest.labels_map, hmarks]
  have hmaterials : f.leaves.map Leaf.material = f'.leaves.map Leaf.material := by
    rw [Forest.map_material_leaves, Forest.map_material_leaves, hlabels]
  have hperm := h.registers.shows.leaves_perm
  have hperm' := h'.registers.shows.leaves_perm
  refine ⟨?_, fun path => ?_, fun path => ?_, fun path => ?_, ?_, fun name => ?_⟩
  · have htrees := SceneGraph.forall₂_sameTree hmarks h.registers.shows.holds
      h'.registers.shows.holds
    obtain ⟨under, hroot, -⟩ := h.renders
    obtain ⟨under', hroot', -⟩ := h'.renders
    rw [hroot, hroot'] at htrees
    exact (List.forall₂_cons.mp htrees).1
  · rw [mem_keys_leaves_iff h.registers hlists, mem_keys_leaves_iff h'.registers hlists', hlabels]
  · refine Option.ext fun o => ?_
    rw [map_get?_templates_iff h.registers hlists, map_get?_templates_iff h'.registers hlists',
      hlabels]
  · refine Option.ext fun violations => ?_
    rw [get?_violations_iff h.registers hlists, get?_violations_iff h'.registers hlists', hlabels]
  · have hlength := congrArg List.length hmaterials
    rw [List.length_map, List.length_map] at hlength
    rw [haccounts.live_eq, haccounts'.live_eq, ← hperm.length_eq, ← hperm'.length_eq, hlength]
  · have hcount : ∀ leaves : List Leaf, leaves.countP (·.material == name) =
        (leaves.map Leaf.material).countP (· == name) := fun leaves => by
      rw [List.countP_map]
      rfl
    rw [haccounts.usesOf_eq, haccounts'.usesOf_eq, ← hperm.countP_eq, ← hperm'.countP_eq, hcount,
      hcount, hmaterials]

end Scene

end ParametricScene
