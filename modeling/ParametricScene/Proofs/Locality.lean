import ParametricScene.Proofs.Descent
import ParametricScene.Proofs.Mirror
import ParametricScene.Proofs.Resources

/-!
# Edits are local

Building a template again takes slots that were just given free, writes to registries that the whole
scene shares, and opens other templates on the way. Still it touches nothing but what stands below the
container of the template. Here is what that means for everything a scene holds: objects, meshes,
registries, violations and edits.

A registry is shared by path. So an entry of something that was not touched can be lost in one way only:
something new of the same sort that was built below the container has its path.

## Implementation notes

What an edit leaves alone is read off the gap in the forest around the container, which the forest
before the edit and the one after it both fill. For meshes one more fact is needed, that no two leaves
have one handle (`Scene.OwnHandles`). It holds for every factory of meshes that a scene starts with, and
whatever keeps the materials.

## Main definitions

* `SceneEdit.Succeeds` — the edit is not refused
* `Scene.Untouched` — what is the same before and after an edit

## Main results

* `Scene.Grows.registersAt` — building registers nothing but what it builds
* `Scene.OwnHandles.turn` — every single change keeps the handles of leaves apart
* `Scene.untouched_apply_run_buildWith` — edits are local
-/

namespace ParametricScene

/-! ### The graph around a gap -/

namespace SceneGraph

variable {ρ : Type} {g g' : SceneGraph} {gap : Forest.Gap (Site ρ)} {a a' : Site ρ}
  {below below' : Forest (Site ρ)}

/-- Graphs that fill a gap in different ways hold the same objects around it. -/
theorem Shows.get?_around (h : g.Shows (gap.fill a below)) (h' : g'.Shows (gap.fill a' below'))
    (hslot : a'.slot = a.slot) {slot : Nat} {o : SceneObject} (hget : g.get? slot = some o)
    (hne : slot ≠ a.slot) (hbelow : slot ∉ below.slots) : g'.get? slot = some o := by
  obtain ⟨front, q, back, hobj⟩ := gap.exists_objects none a.slot
  rw [h.get?_eq_some_iff, hobj a below rfl] at hget
  rw [h'.get?_eq_some_iff, hobj a' below' hslot]
  have hnot : (slot, o) ∉ below.objects (some a.slot) := fun hmem =>
    hbelow (Forest.mem_slots_of_mem_objects hmem)
  simp only [List.mem_append, List.mem_cons, Prod.mk.injEq, hne, false_and, false_or, hnot] at hget ⊢
  exact hget.imp_right Or.inr

/-- Graphs that fill a gap in different ways have the same parent for what fills it. -/
theorem Shows.exists_object (h : g.Shows (gap.fill a below)) (h' : g'.Shows (gap.fill a' below'))
    (hslot : a'.slot = a.slot) :
    ∃ q, g.get? a.slot = some (a.object q below.rootSlots) ∧
      g'.get? a.slot = some (a'.object q below'.rootSlots) := by
  obtain ⟨front, q, back, hobj⟩ := gap.exists_objects none a.slot
  refine ⟨q, ?_, ?_⟩
  · rw [h.get?_eq_some_iff, hobj a below rfl]
    simp
  · rw [h'.get?_eq_some_iff, hobj a' below' hslot]
    simp

/-- What fills a gap below the open site stands below it in the graph. -/
theorem Shows.exists_below (h : g.Shows (gap.fill a below)) {b : Site ρ} (hb : b ∈ below.labels) :
    ∃ o, g.Below a.slot b.slot ∧ g.get? b.slot = some o ∧ o.kind = b.kind ∧ o.name = b.name := by
  obtain ⟨p, cs, hget⟩ := h.get?_of_mem_labels (Forest.Gap.mem_labels_fill.mpr (Or.inr (Or.inl hb)))
  exact ⟨_, h.below_iff.mpr (List.mem_map.mpr ⟨b, hb, rfl⟩), hget, rfl, rfl⟩

/-- A live object stands at a site of the forest. -/
theorem Shows.exists_site {f : Forest (Site ρ)} (h : g.Shows f) {slot : Nat} {o : SceneObject}
    (hget : g.get? slot = some o) : ∃ b ∈ f.labels, b.slot = slot ∧ o.kind = b.kind := by
  obtain ⟨gap, b, below, parent, rfl, hslot, rfl, -⟩ := h.exists_gap hget
  exact ⟨b, Forest.Gap.mem_labels_fill.mpr (Or.inl rfl), hslot, rfl⟩

end SceneGraph

/-! ### Meshes -/

namespace MeshFactory

/-- A request that is refused changes nothing. -/
theorem eq_of_create_none {f f' : MeshFactory} {kind : GeometryKind} {dimensions : List Float}
    (h : f.create kind dimensions = (none, f')) : f' = f := by
  rw [create] at h
  split at h
  · cases h
  · exact (Prod.mk.inj h).2.symm

/-- A new mesh has a handle that was not handed out before, and leaves the others as they are. -/
theorem create_some {f f' : MeshFactory} {kind : GeometryKind} {dimensions : List Float}
    {handle : Nat} (h : f.create kind dimensions = (some handle, f')) :
    handle = f.created ∧ f'.created = f.created + 1 ∧ ∀ k < f.created, f'.mesh? k = f.mesh? k := by
  rw [create] at h
  split at h
  · rename_i p _
    obtain ⟨hhandle, rfl⟩ := Prod.mk.inj h
    refine ⟨(Option.some.inj hhandle).symm, by simp [created], fun k hk => ?_⟩
    rw [created] at hk
    rw [mesh?, mesh?, Array.getElem?_push, if_neg (Nat.ne_of_lt hk)]
  · cases h

/-- Giving meshes back leaves the number of handles handed out and all other meshes as they are. -/
theorem foldl_release (leaves : List Leaf) (f : MeshFactory) :
    (leaves.foldl (fun f l => f.release l.geometryHandle) f).created = f.created ∧
      ∀ k ∉ leaves.map Leaf.geometryHandle,
        (leaves.foldl (fun f l => f.release l.geometryHandle) f).mesh? k = f.mesh? k := by
  induction leaves generalizing f with
  | nil => exact ⟨rfl, fun _ _ => rfl⟩
  | cons l rest ih =>
    obtain ⟨hcreated, hmesh⟩ := ih (f.release l.geometryHandle)
    refine ⟨hcreated.trans (by simp [created, release]), fun k hk => ?_⟩
    rw [List.map_cons, List.mem_cons, not_or] at hk
    rw [List.foldl_cons, hmesh k hk.2, mesh?_release, if_neg (Ne.symm hk.1)]

end MeshFactory

namespace Scene

variable {G M : Type}

/-! ### Building -/

/-- Between the two scenes nothing was registered but leaves and containers among the sites, under
their paths. -/
structure RegistersAt (s : Scene G M) (sites : List (Site (Option Origin))) (s' : Scene G M) :
    Prop where
  leaf : ∀ path, (∀ a ∈ sites, (∃ l, a.kind = .leaf l) → a.name ≠ path) →
    s'.leaves.get? path = s.leaves.get? path
  template : ∀ path, (∀ a ∈ sites, a.kind = .container → a.name ≠ path) →
    s'.templates.get? path = s.templates.get? path ∧
      s'.violations.get? path = s.violations.get? path

theorem RegistersAt.append {s s₁ s' : Scene G M} {sites more : List (Site (Option Origin))}
    (h : RegistersAt s sites s₁) (h' : RegistersAt s₁ more s') :
    RegistersAt s (sites ++ more) s' := by
  refine ⟨fun path hpath => ?_, fun path hpath => ?_⟩
  · exact (h'.leaf path fun a ha => hpath a (List.mem_append_right _ ha)).trans
      (h.leaf path fun a ha => hpath a (List.mem_append_left _ ha))
  · have hfirst := h.template path fun a ha => hpath a (List.mem_append_left _ ha)
    have hsecond := h'.template path fun a ha => hpath a (List.mem_append_right _ ha)
    exact ⟨hsecond.1.trans hfirst.1, hsecond.2.trans hfirst.2⟩

theorem registersAt_plant (s : Scene G M) (parent : Nat) (site : Site (Option Origin)) :
    RegistersAt s [site] (s.plant parent site) :=
  ⟨fun _ _ => rfl, fun _ _ => ⟨rfl, rfl⟩⟩

theorem registersAt_plantLeaf (s : Scene G M) (parent : Nat) {site : Site (Option Origin)}
    (hsite : ∃ l, site.kind = .leaf l) : RegistersAt s [site] (s.plantLeaf parent site) := by
  refine ⟨fun path hpath => ?_, fun _ _ => ⟨rfl, rfl⟩⟩
  exact OrderedMap.get?_insert_of_ne _ _ (hpath site (List.mem_singleton_self _) hsite).symm

theorem registersAt_plantContainer (s : Scene G M) (parent : Nat) {site : Site (Option Origin)}
    (hsite : site.kind = .container) (origin : Origin) (violations : List Violation) :
    RegistersAt s [site] (s.plantContainer parent site origin violations) := by
  refine ⟨fun _ _ => rfl, fun path hpath => ?_⟩
  have hne := (hpath site (List.mem_singleton_self _) hsite).symm
  exact ⟨OrderedMap.get?_insert_of_ne _ _ hne, OrderedMap.get?_insert_of_ne _ _ hne⟩

section Building

variable [GeometryFactory G] [MaterialCache M]

/-- **Building registers nothing but what it builds.** -/
theorem Grows.registersAt {s s' : Scene G M} {parent : Nat} {path : String}
    {nodes : List PlacedNode} {f : SceneForest} (h : Grows s parent path nodes f s') :
    RegistersAt s f.labels s' := by
  induction h with
  | done => exact ⟨fun _ _ => rfl, fun _ _ => ⟨rfl, rfl⟩⟩
  | unknown _ _ ih => exact ih
  | refused _ _ _ ih => exact ⟨ih.leaf, ih.template⟩
  | @leaf s _ parent path piece _ _ geometry materials leaf _ _ _ _ _ ih =>
    have hplant := registersAt_plantLeaf { s with geometry := geometry, materials := materials }
      parent ⟨leaf, (rfl : (s.leafSite path piece leaf).kind = _)⟩
    have hone : RegistersAt s [s.leafSite path piece leaf] _ := ⟨hplant.leaf, hplant.template⟩
    exact hone.append ih
  | @group s _ _ parent path id name transform _ _ _ _ _ _ ihBelow ih =>
    have hone := registersAt_plant s parent (s.groupSite path id name transform)
    exact (hone.append ihBelow).append ih
  | @template s _ _ parent path t ctx transform violations _ _ _ _ ev _ _ _ _ _ _ _ ihBelow ih =>
    have hplant := registersAt_plantContainer { s with evaluator := ev } parent
      (rfl : (s.containerSite path t.id transform (s.originOf path t ctx)).kind = _)
      (s.originOf path t ctx) violations
    have hone : RegistersAt s [s.containerSite path t.id transform (s.originOf path t ctx)] _ :=
      ⟨hplant.leaf, hplant.template⟩
    exact (hone.append ihBelow).append ih

/-- Building leaves meshes as they are that were built before. -/
theorem Grows.mesh?_eq {s s' : Scene MeshFactory M} {parent : Nat} {path : String}
    {nodes : List PlacedNode} {f : SceneForest} (h : Grows s parent path nodes f s') :
    s.geometry.created ≤ s'.geometry.created ∧
      ∀ k < s.geometry.created, s'.geometry.mesh? k = s.geometry.mesh? k := by
  induction h with
  | done => exact ⟨Nat.le_refl _, fun _ _ => rfl⟩
  | unknown _ _ ih => exact ih
  | refused _ hcreate _ ih =>
    obtain rfl := MeshFactory.eq_of_create_none hcreate
    exact ih
  | @leaf s s' _ _ _ _ _ geometry _ _ _ hcreate _ _ _ ih =>
    obtain ⟨-, hcreated, hmesh⟩ := MeshFactory.create_some hcreate
    have hle : geometry.created ≤ s'.geometry.created := ih.1
    have hrest : ∀ k < geometry.created, s'.geometry.mesh? k = geometry.mesh? k := ih.2
    exact ⟨by omega, fun k hk => (hrest k (by omega)).trans (hmesh k hk)⟩
  | @group s s₁ _ _ _ _ _ _ _ _ _ _ _ _ ihBelow ih =>
    have hle : s.geometry.created ≤ s₁.geometry.created := ihBelow.1
    exact ⟨hle.trans ih.1, fun k hk => (ih.2 k (by omega)).trans (ihBelow.2 k hk)⟩
  | @template s s₁ _ _ _ _ _ _ _ _ _ _ _ _ _ _ _ _ _ _ _ ihBelow ih =>
    have hle : s.geometry.created ≤ s₁.geometry.created := ihBelow.1
    exact ⟨hle.trans ih.1, fun k hk => (ih.2 k (by omega)).trans (ihBelow.2 k hk)⟩

end Building

/-! ### Handles of leaves -/

/-- No two leaves have one handle, and every handle of a leaf was handed out. -/
structure OwnHandles (s : Scene MeshFactory M) (f : SceneForest) : Prop where
  nodup : (f.leaves.map Leaf.geometryHandle).Nodup
  lt : ∀ l ∈ f.leaves, l.geometryHandle < s.geometry.created

section OwnHandles

variable {s : Scene MeshFactory M} {gap : Forest.Gap (Site (Option Origin))}
  {a site : Site (Option Origin)} {below : SceneForest}

/-- Handles depend on the leaves only, in any order. -/
theorem OwnHandles.perm {f f' : SceneForest} (h : s.OwnHandles f) (hperm : f.leaves.Perm f'.leaves) :
    s.OwnHandles f' :=
  ⟨(hperm.map _).nodup_iff.mp h.nodup, fun l hl => h.lt l (hperm.mem_iff.mpr hl)⟩

/-- An addition that is no leaf needs no handle. -/
theorem OwnHandles.plant (h : s.OwnHandles (gap.fill a below)) (hsite : site.leaf? = none) :
    s.OwnHandles (gap.fill a (below ++ .cons site .nil .nil)) := by
  have hperm := gap.leaves_fill_append a below (.cons site .nil .nil)
  rw [Forest.leaves_singleton, hsite, Option.toList_none, List.nil_append] at hperm
  exact h.perm hperm.symm

/-- A scene without objects has no leaves, whatever its factory has built. -/
theorem ownHandles_initial (geometry : MeshFactory) (materials : M) (evaluator : Evaluator)
    (settings : Settings) (definitions : OrderedMap MaterialDefinition) :
    (initial geometry materials evaluator settings definitions).OwnHandles
      (.cons rootSite .nil .nil) := by
  have hnone : (Forest.cons rootSite .nil .nil).leaves = [] := rfl
  exact ⟨by simp [hnone], by simp [hnone]⟩

variable [MaterialCache M]

theorem OwnHandles.sprout {p q : Scene MeshFactory M × SceneForest} (h : p.1.OwnHandles p.2)
    (hstep : Sprouts p q) : q.1.OwnHandles q.2 := by
  cases hstep with
  | refuse _ hcreate =>
    obtain rfl := MeshFactory.eq_of_create_none hcreate
    exact ⟨h.nodup, h.lt⟩
  | @leaf s gap a site below leaf _ geometry _ _ hsite _ hcreate _ _ =>
    obtain ⟨hhandle, hcreated, -⟩ := MeshFactory.create_some hcreate
    have hleaf : site.leaf? = some leaf := by rw [Site.leaf?, hsite]
    have hperm := gap.leaves_fill_append a below (.cons site .nil .nil)
    rw [Forest.leaves_singleton, hleaf, Option.toList_some, List.singleton_append] at hperm
    have hlt : ∀ l ∈ (gap.fill a below).leaves, l.geometryHandle < s.geometry.created := h.lt
    have hfresh : leaf.geometryHandle ∉ (gap.fill a below).leaves.map Leaf.geometryHandle := by
      intro hmem
      obtain ⟨l, hl, heq⟩ := List.mem_map.mp hmem
      have := hlt l hl
      omega
    refine ⟨(hperm.map Leaf.geometryHandle).nodup_iff.mpr
      (List.nodup_cons.mpr ⟨hfresh, h.nodup⟩), fun l hl => ?_⟩
    have hle : l.geometryHandle ≤ s.geometry.created := by
      rcases List.mem_cons.mp (hperm.mem_iff.mp hl) with rfl | hmem
      · exact hhandle.le
      · exact (hlt l hmem).le
    exact Nat.lt_of_lt_of_eq (Nat.lt_succ_of_le hle) hcreated.symm
  | group _ hsite =>
    have hs := OwnHandles.plant h (by rw [Site.leaf?, hsite])
    exact ⟨hs.nodup, hs.lt⟩
  | container _ hsite _ =>
    have hs := OwnHandles.plant h (by rw [Site.leaf?, hsite])
    exact ⟨hs.nodup, hs.lt⟩

/-- Pruning takes handles away and hands none out. -/
theorem OwnHandles.reopened (h : s.OwnHandles (gap.fill a below)) (path : String) (ev : Evaluator)
    (violations : List Violation) :
    (s.reopened path a.slot below ev violations).OwnHandles (gap.fill a .nil) := by
  have hs : s.OwnHandles (below ++ gap.fill a .nil) :=
    h.perm (by simpa [Forest.leaves] using gap.leaves_fill_append a .nil below)
  have hsublist : (gap.fill a .nil).leaves.Sublist (below ++ gap.fill a .nil).leaves := by
    simp [Forest.leaves]
  refine ⟨hs.nodup.sublist (hsublist.map _), fun l hl => ?_⟩
  exact Nat.lt_of_lt_of_eq (hs.lt l (hsublist.subset hl))
    (MeshFactory.foldl_release below.leaves s.geometry).1.symm

/-- **Every single change keeps the handles of leaves apart.** -/
theorem OwnHandles.turn {p q : Scene MeshFactory M × SceneForest} (h : p.1.OwnHandles p.2)
    (hstep : Turns p q) : q.1.OwnHandles q.2 := by
  cases hstep with
  | sprout hsprout => exact h.sprout hsprout
  | prune _ _ => exact OwnHandles.reopened h _ _ _
  | @record s gap a below path name entry p stored _ _ =>
    have hsame := gap.leaves_fill_renote a
      (some ((editedEntry name p entry).template, entry.surroundings)) below
    have hs := OwnHandles.perm h (List.Perm.of_eq hsame.symm)
    exact ⟨hs.nodup, hs.lt⟩

theorem OwnHandles.turns {p q : Scene MeshFactory M × SceneForest} (h : p.1.OwnHandles p.2)
    (hsteps : Relation.ReflTransGen Turns p q) : q.1.OwnHandles q.2 := by
  induction hsteps with
  | refl => exact h
  | tail _ hstep ih => exact ih.turn hstep

end OwnHandles

/-! ### What an edit leaves alone -/

end Scene

/-- The edit is not refused. -/
def SceneEdit.Succeeds {G M : Type} [GeometryFactory G] [MaterialCache M] (s : Scene G M) :
    SceneEdit → Prop
  | .regenerate path => (s.regenerate path).1 = true
  | .setParameter path name v => ∃ violations, (s.setParameter path name v).1 = .ok violations

/-- The edit gives another value to the parameter of the template at the path. -/
def SceneEdit.Edits : SceneEdit → String → String → Prop
  | .regenerate _, _, _ => False
  | .setParameter path name _, path', name' => path' = path ∧ name' = name

/-- A template that is registered at the path is kept by the edit: it is the same, or the edited
parameter is all that changed. -/
def SceneEdit.Keeps (e : SceneEdit) (path : String) (t t' : Template) : Prop :=
  t' = t ∨ ∃ name p, e.Edits path name ∧ name ∈ t.parameters.keys ∧
    t' = { t with parameters := t.parameters.insert name p }

namespace Scene

variable {G M : Type}

/-- **What is the same before and after an edit** of the template whose container is in slot `top`.

Objects are untouched unless they stand below the container, and of the container itself the list of
children is all that changes. Entries of registries whose objects are untouched are kept, unless
something of the same sort that now stands below the container, and so was built by the edit, has their
path. -/
structure Untouched (s s' : Scene G M) (e : SceneEdit) (top : Nat) : Prop where
  object : ∀ slot o, s.graph.get? slot = some o → slot ≠ top → ¬s.graph.Below top slot →
    s'.graph.get? slot = some o
  container : ∃ o children, s.graph.get? top = some o ∧
    s'.graph.get? top = some { o with children := children }
  leaf : ∀ path slot, s.leaves.get? path = some slot → ¬s.graph.Below top slot →
    s'.leaves.get? path = some slot ∨
      ∃ slot' o l, s'.graph.Below top slot' ∧ s'.graph.get? slot' = some o ∧
        o.kind = .leaf l ∧ o.name = path
  template : ∀ path entry, s.templates.get? path = some entry →
    ¬s.graph.Below top entry.container →
      (∃ t, s'.templates.get? path = some { entry with template := t } ∧
        e.Keeps path entry.template t ∧
        (path ≠ e.path → s'.violations.get? path = s.violations.get? path)) ∨
      ∃ slot' o, s'.graph.Below top slot' ∧ s'.graph.get? slot' = some o ∧
        o.kind = .container ∧ o.name = path
  edits : ∀ path name, ¬e.Edits path name →
    (s'.editsAt path).get? name = (s.editsAt path).get? name
  edits_of_ne : ∀ path, (∀ name, ¬e.Edits path name) → s'.edits.get? path = s.edits.get? path

/-- What an edit writes down about a template that was registered. -/
theorem Amends.keeps {s s₁ : Scene G M} {e : SceneEdit} {path k : String}
    {entry old : TemplateEntry} (h : s.Amends e path entry s₁) (hold : s.templates.get? k = some old) :
    ∃ t, s₁.templates.get? k = some { old with template := t } ∧ e.Keeps k old.template t := by
  cases h with
  | keep _ => exact ⟨_, hold, Or.inl rfl⟩
  | @edit _ name _ entry p p' stored hentry hp _ =>
    by_cases hk : k = path
    · subst hk
      obtain rfl := Option.some.inj (hold.symm.trans hentry)
      refine ⟨_, OrderedMap.get?_insert_self .., Or.inr ⟨name, p', ⟨rfl, rfl⟩, ?_, rfl⟩⟩
      exact OrderedMap.mem_keys_iff.mpr (by rw [hp]; rfl)
    · exact ⟨_, (OrderedMap.get?_insert_of_ne _ _ hk).trans hold, Or.inl rfl⟩

/-- What an edit writes down about edits. -/
theorem Amends.edits {s s₁ : Scene G M} {e : SceneEdit} {path : String} {entry : TemplateEntry}
    (h : s.Amends e path entry s₁) :
    (∀ k name, ¬e.Edits k name → (s₁.editsAt k).get? name = (s.editsAt k).get? name) ∧
      ∀ k, (∀ name, ¬e.Edits k name) → s₁.edits.get? k = s.edits.get? k := by
  cases h with
  | keep _ => exact ⟨fun _ _ _ => rfl, fun _ _ => rfl⟩
  | @edit _ name _ entry p p' stored _ _ _ =>
    have hedits : (s.recordEdit path name entry p' stored).edits =
        s.edits.insert path ((s.editsAt path).insert name stored) := rfl
    constructor
    · intro k name' hne
      rw [editsAt, hedits]
      by_cases hk : k = path
      · subst hk
        have hname : name' ≠ name := fun heq => hne ⟨rfl, heq⟩
        rw [OrderedMap.get?_insert_self, Option.getD_some, OrderedMap.get?_insert_of_ne _ _ hname]
      · rw [OrderedMap.get?_insert_of_ne _ _ hk, editsAt]
    · intro k hne
      rw [hedits]
      exact OrderedMap.get?_insert_of_ne _ _ fun hk => hne name ⟨hk, rfl⟩

section Edits

variable [GeometryFactory G] [MaterialCache M]

/-- A leaf that does not stand below the container is still registered after pruning. -/
theorem get?_leaves_reopened {s : Scene G M} {k : String} {slot : Nat} {below : SceneForest}
    (hslot : slot ∉ below.slots) (hget : s.leaves.get? k = some slot) (path : String) (top : Nat)
    (ev : Evaluator) (violations : List Violation) :
    (s.reopened path top below ev violations).leaves.get? k = some slot := by
  rw [reopened, pruned, OrderedMap.get?_filter, hget, Option.filter_some, if_pos]
  simpa using hslot

/-- A template whose container does not stand below the pruned one is still registered after pruning,
and if it is another one, then its rules were not checked again. -/
theorem get?_templates_reopened {s : Scene G M} {k : String} {entry : TemplateEntry}
    {below : SceneForest} (hslot : entry.container ∉ below.slots)
    (hget : s.templates.get? k = some entry) (path : String) (top : Nat) (ev : Evaluator)
    (violations : List Violation) :
    (s.reopened path top below ev violations).templates.get? k = some entry ∧
      (k ≠ path → (s.reopened path top below ev violations).violations.get? k =
        s.violations.get? k) := by
  have hstays : (s.pruned top below).templates.get? k = some entry := by
    rw [pruned, OrderedMap.get?_filter, hget, Option.filter_some, if_pos]
    simpa using hslot
  have hcontains : (s.pruned top below).templates.contains k = true := by
    rw [OrderedMap.contains, hstays]
    rfl
  refine ⟨hstays, fun hk => ?_⟩
  have hkept : (s.pruned top below).violations.get? k =
      (s.violations.get? k).filter fun _ => (s.pruned top below).templates.contains k :=
    OrderedMap.get?_filter ..
  rw [reopened, OrderedMap.get?_insert_of_ne _ _ hk, hkept, hcontains]
  cases s.violations.get? k <;> rfl

/-- An edit that is not refused writes something down, and the template is built again. -/
theorem exists_amends {s : Scene G M} {e : SceneEdit} (h : e.Succeeds s) :
    ∃ entry s₁, s.Amends e e.path entry s₁ ∧ s.apply e = (s₁.regenerate e.path).2 := by
  cases e with
  | regenerate path =>
    rw [SceneEdit.Succeeds, Scene.regenerate] at h
    cases hentry : s.templates.get? path with
    | none => simp [hentry] at h
    | some entry => exact ⟨entry, s, .keep hentry, rfl⟩
  | setParameter path name v =>
    obtain ⟨violations, hok⟩ := h
    rw [Scene.setParameter] at hok
    cases hentry : s.templates.get? path with
    | none => simp [hentry] at hok
    | some entry =>
      cases hp : entry.template.parameters.get? name with
      | none => simp [hentry, hp] at hok
      | some p =>
        cases hset : p.set v with
        | error cause => simp [hentry, hp, hset] at hok
        | ok accepted =>
          refine ⟨_, _, .edit hentry hp hset, ?_⟩
          rw [apply, Scene.setParameter]
          simp only [hentry, hp, hset]
          rfl

/-- **What an edit that is not refused does**: something is written down, the forest below the
container is pruned, and another one grows there. -/
theorem Registers.exists_grows {s : Scene G M} {f : SceneForest} (h : s.Registers f) {e : SceneEdit}
    (he : e.Succeeds s) :
    ∃ (entry : TemplateEntry) (s₁ : Scene G M) (gap : Forest.Gap (Site (Option Origin)))
      (a : Site (Option Origin)) (below grown : SceneForest) (old : Template) (nodes : List PlacedNode)
      (ev : Evaluator) (violations : List Violation), s.Amends e e.path entry s₁ ∧
        s.templates.get? e.path = some ⟨a.slot, old, entry.surroundings⟩ ∧ f = gap.fill a below ∧
        Grows (s₁.reopened e.path a.slot below ev violations) a.slot e.path nodes grown (s.apply e) ∧
        (s.apply e).Registers
          (gap.fill { a with note := some (entry.template, entry.surroundings) } grown) := by
  obtain ⟨entry, s₁, hamends, happly⟩ := exists_amends he
  obtain ⟨gap, a, below, old, rfl, -, -, -, hslot, hold, hregisters⟩ := hamends.registers h
  obtain ⟨grown, violations, ev₁, ev₂, hgrows⟩ := exists_regenerate_grows hregisters.shows
    hamends.get? hslot
  rw [← happly] at hgrows
  exact ⟨entry, s₁, gap, a, below, grown, old, _, ev₂, violations, hamends, hold, rfl, hgrows,
    Grows.registers hgrows (hregisters.reopened hamends.get? hslot _ _)⟩

/-- **An edit touches only what stands below the container**, in every scene whose registries agree
with a forest. -/
theorem Registers.untouched_apply {s : Scene G M} {f : SceneForest} (h : s.Registers f)
    {e : SceneEdit} (he : e.Succeeds s) :
    ∃ entry, s.templates.get? e.path = some entry ∧ s.Untouched (s.apply e) e entry.container := by
  obtain ⟨entry, s₁, gap, a, below, grown, old, nodes, ev, violations, hamends, hold, rfl, hgrows,
    hregisters⟩ := h.exists_grows he
  have hbelow : ∀ {slot}, ¬s.graph.Below a.slot slot → slot ∉ below.slots := fun hnot hmem =>
    hnot (h.shows.below_iff.mpr hmem)
  have hframe := hamends.frame
  have hedits : (s.apply e).edits = s₁.edits := hgrows.edits_eq
  refine ⟨_, hold, ?object, ?container, ?leaf, ?template, ?edits, ?edits_of_ne⟩
  case object =>
    exact fun slot o hget hne hnot =>
      h.shows.get?_around hregisters.shows rfl hget hne (hbelow hnot)
  case container =>
    obtain ⟨q, hget, hget'⟩ := h.shows.exists_object hregisters.shows rfl
    exact ⟨_, _, hget, hget'⟩
  case leaf =>
    intro path slot hget hnot
    by_cases hfresh : ∀ b ∈ grown.labels, (∃ l, b.kind = .leaf l) → b.name ≠ path
    · have hleaves : s₁.leaves.get? path = some slot := by
        rw [hframe]
        exact hget
      exact Or.inl ((hgrows.registersAt.leaf path hfresh).trans
        (get?_leaves_reopened (hbelow hnot) hleaves ..))
    · push Not at hfresh
      obtain ⟨b, hb, ⟨l, hl⟩, hname⟩ := hfresh
      obtain ⟨o, hunder, hgetb, hkind, hnameb⟩ := hregisters.shows.exists_below hb
      exact Or.inr ⟨_, o, l, hunder, hgetb, hkind.trans hl, hnameb.trans hname⟩
  case template =>
    intro path kept hget hnot
    by_cases hfresh : ∀ b ∈ grown.labels, b.kind = .container → b.name ≠ path
    · obtain ⟨t, ht, hkeeps⟩ := hamends.keeps hget
      obtain ⟨htemplates, hviolations⟩ := hgrows.registersAt.template path hfresh
      have hslot : ({ kept with template := t } : TemplateEntry).container ∉ below.slots :=
        hbelow hnot
      obtain ⟨hstays, hsame⟩ := get?_templates_reopened hslot ht e.path a.slot ev violations
      refine Or.inl ⟨t, htemplates.trans hstays, hkeeps, fun hne => ?_⟩
      rw [hviolations, hsame hne, hframe]
    · push Not at hfresh
      obtain ⟨b, hb, hcontainer, hname⟩ := hfresh
      obtain ⟨o, hunder, hgetb, hkind, hnameb⟩ := hregisters.shows.exists_below hb
      exact Or.inr ⟨_, o, hunder, hgetb, hkind.trans hcontainer, hnameb.trans hname⟩
  case edits =>
    intro path name hne
    rw [editsAt, hedits]
    exact hamends.edits.1 path name hne
  case edits_of_ne =>
    intro path hne
    rw [hedits]
    exact hamends.edits.2 path hne

/-- **An edit leaves meshes alone** that belong to leaves which do not stand below the container. -/
theorem Registers.mesh?_apply {M : Type} [MaterialCache M] {s : Scene MeshFactory M}
    {f : SceneForest} (h : s.Registers f) (hhandles : s.OwnHandles f) {e : SceneEdit}
    (he : e.Succeeds s) {entry : TemplateEntry} (hentry : s.templates.get? e.path = some entry)
    {slot : Nat} {o : SceneObject} {l : Leaf} (hget : s.graph.get? slot = some o)
    (hl : o.kind = .leaf l) (hnot : ¬s.graph.Below entry.container slot) :
    (s.apply e).geometry.mesh? l.geometryHandle = s.geometry.mesh? l.geometryHandle := by
  obtain ⟨next, s₁, gap, a, below, grown, old, nodes, ev, violations, hamends, hold, rfl, hgrows, -⟩ :=
    h.exists_grows he
  obtain rfl := Option.some.inj (hentry.symm.trans hold)
  have hgeometry : s₁.geometry = s.geometry := by rw [hamends.frame]
  -- the leaf stands in the forest, and not in the part that is pruned
  have hleaf : l ∈ (gap.fill a .nil).leaves := by
    obtain ⟨b, hb, hslot, hobject⟩ := h.shows.exists_site hget
    have hstays := mem_labels_pruned hb fun hmem => hnot (h.shows.below_iff.mpr (hslot ▸ hmem))
    exact List.mem_filterMap.mpr ⟨b, hstays, by rw [Site.leaf?, ← hobject, hl]⟩
  have hperm := gap.leaves_fill_append a .nil below
  rw [Forest.nil_append] at hperm
  have hnodup := (hperm.map Leaf.geometryHandle).nodup_iff.mp hhandles.nodup
  rw [List.map_append, List.nodup_append'] at hnodup
  have hkept : l.geometryHandle ∉ below.leaves.map Leaf.geometryHandle := fun hmem =>
    hnodup.2.2 hmem (List.mem_map.mpr ⟨l, hleaf, rfl⟩)
  have hlt := hhandles.lt l (hperm.mem_iff.mpr (List.mem_append_right _ hleaf))
  obtain ⟨hcreated, hreleased⟩ := MeshFactory.foldl_release below.leaves s.geometry
  have hreopened : (s₁.reopened e.path a.slot below ev violations).geometry =
      below.leaves.foldl (fun g l => g.release l.geometryHandle) s.geometry := by
    rw [← hgeometry]
    rfl
  have hmesh := hgrows.mesh?_eq.2 l.geometryHandle
  rw [hreopened, hcreated] at hmesh
  rw [hmesh hlt, hreleased _ hkept]

end Edits

/-- **Edits are local.** After any run of edits, an edit that is not refused leaves alone what does not
stand below the container of its template, and the meshes of all leaves that do not. -/
theorem untouched_apply_run_buildWith {M : Type} [MaterialCache M] (geometry : MeshFactory)
    (materials : M) (evaluator : Evaluator) (settings : Settings) (d : SceneDocument)
    (es : List SceneEdit) (e : SceneEdit) {s : Scene MeshFactory M}
    (hs : s = (buildWith geometry materials evaluator settings d).run es) (he : e.Succeeds s) :
    ∃ entry, s.templates.get? e.path = some entry ∧ s.Untouched (s.apply e) e entry.container ∧
      ∀ slot o l, s.graph.get? slot = some o → o.kind = .leaf l →
        ¬s.graph.Below entry.container slot →
          (s.apply e).geometry.mesh? l.geometryHandle = s.geometry.mesh? l.geometryHandle := by
  obtain ⟨f, hf⟩ := run_turns geometry materials evaluator settings d es
  have hregisters := (registers_initial geometry materials
    (evaluator.setMemoize settings.memoize) settings d.materials).turns hf
  have hhandles := (ownHandles_initial geometry materials
    (evaluator.setMemoize settings.memoize) settings d.materials).turns hf
  rw [← hs] at hregisters hhandles
  obtain ⟨entry, hentry, huntouched⟩ := hregisters.untouched_apply he
  exact ⟨entry, hentry, huntouched, fun slot o l hget hl hnot =>
    hregisters.mesh?_apply hhandles he hentry hget hl hnot⟩

/-! ### A room -/

/-- A table, which is a box. -/
def table : Template where
  id := "table"
  generator := none
  transform := unmoved
  parameters := ∅
  expressions := ∅
  constraints := ∅
  nodes := [.geometry ⟨.box, some "top", none, [], unmoved, none⟩]

/-- The document of a lamp and a table. -/
def roomDocument : SceneDocument := ⟨Settings.currentVersion, none, none, [lamp, table], ∅, none⟩

theorem clean_room : ∀ t ∈ roomDocument.templates, t.Clean := by
  have htable : table.Clean := ⟨⟨fun _ hname => absurd hname List.not_mem_nil,
    fun _ hname => absurd hname List.not_mem_nil⟩, trivial, trivial⟩
  intro t ht
  rcases List.mem_cons.mp ht with rfl | ht
  · exact clean_lamp
  · exact List.mem_singleton.mp ht ▸ htable

/-- What stands in the room: the lamp with its arm, the rod and the bulb on the arm, and the table with
its top. -/
def roomForest (lamp arm rod bulb table top : Site (Option Origin)) : SceneForest :=
  .cons rootSite
    (.cons lamp (.cons arm (.cons rod .nil (.cons bulb .nil .nil)) .nil)
      (.cons table (.cons top .nil .nil) .nil)) .nil

/-- Whatever is edited, the room is as it was. -/
theorem exists_registers_room (es : List SceneEdit) :
    ∃ lamp arm rod bulb table top,
      ((build default roomDocument).run es).Registers (roomForest lamp arm rod bulb table top) ∧
        (roomForest lamp arm rod bulb table top).labels.map Site.name =
          ["", "lamp", "lamp.arm", "lamp.arm.rod", "lamp.arm.bulb", "table", "table.top"] := by
  obtain ⟨f, hf⟩ := rendered_run default clean_room es
  have hregisters := hf.registers
  obtain ⟨under, rfl, hunder⟩ := hf.renders
  have hr : (planOf default roomDocument).functions.IsPure := Registry.isPure_builtin
  obtain ⟨lamp, _, _, _, _, rfl, hlamp, hbelow, hbeside⟩ := exists_container hr hunder
  obtain ⟨table, _, _, _, _, rfl, htable, hsurface, hbeside⟩ := exists_container hr hbeside
  cases hbeside
  obtain ⟨top, _, rfl, htop, hbeside⟩ := Renders.exists_leaf hsurface rfl
  cases hbeside
  -- nothing stands for the shade beside the arm of the lamp
  obtain ⟨arm, _, _, rfl, harm, hparts, hbeside⟩ := Renders.exists_group hbelow
  cases Renders.of_unknown hbeside rfl
  obtain ⟨rod, _, rfl, hrod, hparts⟩ := Renders.exists_leaf hparts rfl
  obtain ⟨bulb, _, _, _, _, rfl, hbulb, hbelow, hbeside⟩ := exists_container hr hparts
  cases hbelow
  cases hbeside
  refine ⟨lamp, arm, rod, bulb, table, top, hregisters, ?_⟩
  have hname : lamp.name = _ := congrArg Look.name hlamp
  have hname₁ : arm.name = _ := congrArg Look.name harm
  have hname₂ : rod.name = _ := congrArg Look.name hrod
  have hname₃ : bulb.name = _ := congrArg Look.name hbulb
  have hname₄ : table.name = _ := congrArg Look.name htable
  have hname₅ : top.name = _ := congrArg Look.name htop
  simp only [roomForest, Forest.labels, List.map_cons, List.map_nil, List.append_nil, List.map_append,
    List.nil_append, hname, hname₁, hname₂, hname₃, hname₄, hname₅]
  decide

/-- The rod and the bulb are on the arm of a lamp, which is all that the container holds. -/
def HasLamp (s : Scene MeshFactory MaterialLibrary) (container : Nat) : Prop :=
  ∃ arm rod bulb, s.graph.children container = [arm] ∧ s.graph.children arm = [rod, bulb]

/-- An object of the name is a lamp, whatever was edited. -/
theorem hasLamp_run_room (es : List SceneEdit) {slot : Nat} {o : SceneObject}
    (hget : ((build default roomDocument).run es).graph.get? slot = some o) (hname : o.name = "lamp") :
    ((build default roomDocument).run es).HasLamp slot := by
  obtain ⟨lamp, arm, rod, bulb, table, top, hregisters, hnames⟩ := exists_registers_room es
  obtain ⟨a, ha, parent, children, rfl, rfl⟩ :=
    Forest.exists_mem_labels ((hregisters.shows.get?_eq_some_iff slot o).mp hget)
  have hnodup : ((roomForest lamp arm rod bulb table top).labels.map Site.name).Nodup := by
    rw [hnames]
    decide
  have hlamp : lamp ∈ (roomForest lamp arm rod bulb table top).labels := by
    simp [roomForest, Forest.labels]
  obtain rfl : a = lamp := by
    refine List.inj_on_of_nodup_map hnodup ha hlamp (hname.trans ?_)
    have hsecond := congrArg (·[1]?) hnames
    exact (Option.some.inj hsecond).symm
  obtain ⟨-, hbelow, -⟩ := SceneGraph.holds_cons_iff.mp hregisters.shows.holds
  obtain ⟨hcontainer, hparts, -⟩ := SceneGraph.holds_cons_iff.mp hbelow
  obtain ⟨harm, -, -⟩ := SceneGraph.holds_cons_iff.mp hparts
  refine ⟨arm.slot, rod.slot, bulb.slot, ?_, ?_⟩
  · rw [SceneGraph.children, hcontainer]
    rfl
  · rw [SceneGraph.children, harm]
    rfl

/-- The lamp is built again although it was just built again. Its arm, the rod and the bulb go and
come back, and the table with its top is left alone. -/
theorem untouched_apply_run_buildWith_room :
    ∃ s, s = (build default roomDocument).run [.regenerate "lamp"] ∧
      (SceneEdit.regenerate "lamp").Succeeds s ∧
      ∃ entry, s.templates.get? "lamp" = some entry ∧ s.HasLamp entry.container ∧
        (s.apply (.regenerate "lamp")).HasLamp entry.container ∧
        s.Untouched (s.apply (.regenerate "lamp")) (.regenerate "lamp") entry.container ∧
        ∀ slot o l, s.graph.get? slot = some o → o.kind = .leaf l →
          ¬s.graph.Below entry.container slot →
            (s.apply (.regenerate "lamp")).geometry.mesh? l.geometryHandle =
              s.geometry.mesh? l.geometryHandle := by
  have hbuilt : (build default roomDocument).templates.contains "lamp" = true := by decide +kernel
  obtain ⟨f, hf⟩ : ∃ f, (build default roomDocument).Registers f := registers_buildWith ..
  have hstays := contains_run hf hbuilt [.regenerate "lamp"] (by simp [SceneEdit.path])
  obtain ⟨f', hrendered⟩ := rendered_run default clean_room [.regenerate "lamp"]
  have hlamp := @hasLamp_run_room [.regenerate "lamp"]
  have hrun : (build default roomDocument).run ([.regenerate "lamp"] ++ [.regenerate "lamp"]) =
      ((build default roomDocument).run [.regenerate "lamp"]).apply (.regenerate "lamp") :=
    List.foldl_append ..
  have hagain := @hasLamp_run_room ([.regenerate "lamp"] ++ [.regenerate "lamp"])
  rw [hrun] at hagain
  obtain ⟨s, hs⟩ : ∃ s, s = (build default roomDocument).run [.regenerate "lamp"] := ⟨_, rfl⟩
  rw [← hs] at hstays hrendered hlamp hagain
  obtain ⟨entry, hentry⟩ := Option.isSome_iff_exists.mp hstays
  have hsucceeds : (SceneEdit.regenerate "lamp").Succeeds s := by
    rw [SceneEdit.Succeeds, Scene.regenerate, hentry]
  obtain ⟨_, hentry', huntouched, hmeshes⟩ := untouched_apply_run_buildWith MeshFactory.empty
    MaterialLibrary.empty (default : Settings).evaluator default roomDocument [.regenerate "lamp"]
    (.regenerate "lamp") (hs.trans (by rw [build])) hsucceeds
  obtain rfl := Option.some.inj (hentry.symm.trans hentry')
  obtain ⟨o, children, hget, hget'⟩ := huntouched.container
  obtain ⟨_, hget'', hname, -⟩ := hrendered.registers.consistent.template "lamp" entry hentry
  obtain rfl := Option.some.inj (hget.symm.trans hget'')
  exact ⟨s, hs, hsucceeds, entry, hentry, hlamp hget hname, hagain hget' hname, huntouched, hmeshes⟩

end Scene

end ParametricScene
