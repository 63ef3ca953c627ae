import ParametricScene.Proofs.Regeneration
import ParametricScene.Proofs.Tally

/-!
# What stands in the graph is registered

The registries name nothing that does not stand in the graph. The other way round it takes more: an
object whose path was given to a later object of its kind is built, holds its mesh and its material,
and is in no registry. It is not counted as a leaf then, and no bounds are found for it.

So the contract is exact. In every scene of a run all leaves and containers are registered if and only
if no two leaves and no two containers of such a scene have one path. Where all are registered, the
number of registered leaves is that of the leaves in the graph, of the meshes and of the uses of
materials, and the bounds of the scene are made of the bounds of all leaves.

Paths collide as soon as two pieces of one kind stand side by side without identifiers, since the word
for the kind is all that their paths end with.

## Implementation notes

The condition is on the scenes between edits and not on the steps of an edit. While a template is
built no object is removed, so a collision on the way is still there at the end.

The kinds that share a registry are named by `ObjectKind.SharesRegistry`. A leaf and a group of one
path do not get in each other's way, nor do a leaf and a container.

## Main definitions

* `SceneGraph.Separate` — objects that share a registry have different paths
* `Scene.Enrolled` — every leaf and every container is registered under its path

## Main results

* `Scene.EnrolsAll.sprout` — an addition that takes no path leaves all registered
* `Scene.enrolled_apply` — so does an edit
* `Scene.separate_of_pathsDistinct` — nothing collides where no two objects have one path
* `Scene.enrolled_run_buildWith_iff` — everything is registered exactly where nothing collides
* `Scene.not_enrolled_twoBoxes` — two boxes side by side that collide
-/

namespace ParametricScene

/-! ### Objects that share a registry -/

/-- Both kinds are kept in the registry of leaves, or both in that of templates. -/
def ObjectKind.SharesRegistry : ObjectKind → ObjectKind → Prop
  | .leaf _, .leaf _ => True
  | .container, .container => True
  | _, _ => False

/-- Objects that share a registry have different names. -/
def SceneGraph.Separate (g : SceneGraph) : Prop :=
  ∀ slot o, g.get? slot = some o → ∀ slot' o', g.get? slot' = some o' →
    o.kind.SharesRegistry o'.kind → o.name = o'.name → slot = slot'

/-- Sites that share a registry have different names. -/
def Forest.Separate {ρ : Type} (f : Forest (Site ρ)) : Prop :=
  ∀ a ∈ f.labels, ∀ b ∈ f.labels, a.kind.SharesRegistry b.kind → a.name = b.name → a.slot = b.slot

/-- A property of all objects of a graph is one of all sites of the forest that it shows. -/
theorem SceneGraph.Shows.forall_iff {ρ : Type} {g : SceneGraph} {f : Forest (Site ρ)}
    (h : g.Shows f) {P : Nat → String → ObjectKind → Prop} :
    (∀ slot o, g.get? slot = some o → P slot o.name o.kind) ↔
      ∀ a ∈ f.labels, P a.slot a.name a.kind := by
  constructor
  · intro hall a ha
    obtain ⟨p, cs, hget⟩ := h.get?_of_mem_labels ha
    exact hall _ _ hget
  · intro hall slot o hget
    obtain ⟨a, ha, p, cs, rfl, rfl⟩ :=
      Forest.exists_mem_labels ((h.get?_eq_some_iff slot o).mp hget)
    exact hall a ha

theorem SceneGraph.Shows.separate_iff {ρ : Type} {g : SceneGraph} {f : Forest (Site ρ)}
    (h : g.Shows f) : g.Separate ↔ f.Separate := by
  rw [SceneGraph.Separate, h.forall_iff (P := fun slot name kind => ∀ slot' o',
    g.get? slot' = some o' → kind.SharesRegistry o'.kind → name = o'.name → slot = slot')]
  refine forall₂_congr fun a _ => ?_
  exact h.forall_iff (P := fun slot name kind =>
    a.kind.SharesRegistry kind → a.name = name → a.slot = slot)

/-- Nothing collides in part of a forest where nothing collides. -/
theorem Forest.Separate.subset {ρ : Type} {f f' : Forest (Site ρ)} (h : f'.Separate)
    (hsub : f.labels ⊆ f'.labels) : f.Separate :=
  fun a ha b hb => h a (hsub ha) b (hsub hb)

/-! ### The slots of leaves -/

/-- The slots of the leaves in a graph, in order. -/
def SceneGraph.leafSlots (g : SceneGraph) : List Nat :=
  (List.range g.slots.size).filter fun slot => ((g.get? slot).bind SceneObject.leaf?).isSome

theorem SceneGraph.nodup_leafSlots (g : SceneGraph) : g.leafSlots.Nodup := List.nodup_range.filter _

theorem SceneGraph.length_leafSlots (g : SceneGraph) : g.leafSlots.length = g.leaves.length := by
  rw [leafSlots, leaves_eq, List.length_filterMap_eq_countP, List.countP_eq_length_filter]

theorem SceneGraph.mem_leafSlots_iff {g : SceneGraph} {slot : Nat} :
    slot ∈ g.leafSlots ↔ ∃ o leaf, g.get? slot = some o ∧ o.kind = .leaf leaf := by
  rw [leafSlots, List.mem_filter, List.mem_range, Option.isSome_iff_exists]
  have hleaf : ∀ (o : SceneObject) leaf, o.leaf? = some leaf ↔ o.kind = .leaf leaf := by
    intro o leaf
    rw [SceneObject.leaf?]
    cases o.kind <;> simp
  constructor
  · rintro ⟨-, leaf, hget⟩
    obtain ⟨o, hget, hkind⟩ := Option.bind_eq_some_iff.mp hget
    exact ⟨o, leaf, hget, (hleaf o leaf).mp hkind⟩
  · rintro ⟨o, leaf, hget, hkind⟩
    exact ⟨lt_of_get? hget, leaf, Option.bind_eq_some_iff.mpr ⟨o, hget, (hleaf o leaf).mpr hkind⟩⟩

namespace Scene

variable {G M : Type}

/-! ### Being registered -/

/-- What stands in a slot is what the registry for its kind has under its name. -/
def Enrols (s : Scene G M) (slot : Nat) (name : String) : ObjectKind → Prop
  | .leaf _ => s.leaves.get? name = some slot
  | .container => (s.templates.get? name).map TemplateEntry.container = some slot
  | .root | .group => True

/-- Every leaf and every container in the graph is registered under its name. -/
def Enrolled (s : Scene G M) : Prop :=
  ∀ slot o, s.graph.get? slot = some o → s.Enrols slot o.name o.kind

instance decidableEnrols (s : Scene G M) (slot : Nat) (name : String) :
    (kind : ObjectKind) → Decidable (s.Enrols slot name kind)
  | .leaf _ => inferInstanceAs (Decidable (s.leaves.get? name = some slot))
  | .container =>
    inferInstanceAs (Decidable ((s.templates.get? name).map TemplateEntry.container = some slot))
  | .root | .group => isTrue trivial

instance decidableEnrolled (s : Scene G M) : Decidable s.Enrolled :=
  decidable_of_iff (∀ slot < s.graph.slots.size, ∀ o ∈ s.graph.get? slot, s.Enrols slot o.name o.kind)
    ⟨fun h slot o hget => h slot (SceneGraph.lt_of_get? hget) o hget, fun h slot _ o => h slot o⟩

/-- Every leaf and every container in the forest is registered under its name. -/
def EnrolsAll (s : Scene G M) (f : SceneForest) : Prop :=
  ∀ a ∈ f.labels, s.Enrols a.slot a.name a.kind

theorem enrolled_iff {s : Scene G M} {f : SceneForest} (h : s.graph.Shows f) :
    s.Enrolled ↔ s.EnrolsAll f := h.forall_iff (P := s.Enrols)

/-- Objects that share a registry have different names where no two objects below the root have one. -/
theorem separate_of_pathsDistinct {g : SceneGraph} {under : SceneForest}
    (hshows : g.Shows (.cons rootSite under .nil)) (h : g.PathsDistinct) : g.Separate := by
  obtain ⟨hroot, -⟩ := SceneGraph.holds_cons_iff.mp hshows.holds
  have hbelow : ∀ slot o, g.get? slot = some o → o.kind ≠ .root → slot ≠ SceneGraph.rootSlot := by
    rintro slot o hget hkind rfl
    obtain rfl := Option.some.inj (hget.symm.trans hroot)
    exact hkind rfl
  have hkinds : ∀ {kind kind' : ObjectKind}, kind.SharesRegistry kind' →
      kind ≠ .root ∧ kind' ≠ .root := by
    intro kind kind' hshares
    cases kind <;> cases kind' <;> first | exact hshares.elim | simp
  intro slot o hget slot' o' hget' hshares hname
  exact h slot slot' o o' (hbelow slot o hget (hkinds hshares).1)
    (hbelow slot' o' hget' (hkinds hshares).2) hget hget' hname

/-- A registry has one slot for a name. -/
theorem Enrols.slot_eq {s : Scene G M} {slot slot' : Nat} {name : String} {kind kind' : ObjectKind}
    (h : s.Enrols slot name kind) (h' : s.Enrols slot' name kind')
    (hshares : kind.SharesRegistry kind') : slot = slot' := by
  cases kind <;> cases kind' <;> first | exact hshares.elim | exact Option.some.inj (h.symm.trans h')

/-- **Nothing collides where everything is registered.** -/
theorem Enrolled.separate {s : Scene G M} (h : s.Enrolled) : s.graph.Separate := by
  intro slot o hget slot' o' hget' hshares hname
  exact (h slot o hget).slot_eq (hname ▸ h slot' o' hget') hshares

/-- Where the registry has the one, it has the other, for kinds that share it. -/
theorem Enrols.of_shares {s : Scene G M} {slot : Nat} {name : String} {kind kind' : ObjectKind}
    (h : s.Enrols slot name kind') (hshares : kind.SharesRegistry kind') :
    s.Enrols slot name kind := by
  cases kind <;> cases kind' <;> first | exact hshares.elim | exact h

/-- An edit writes down nothing about where anything stands. -/
theorem Enrolled.amends {s s₁ : Scene G M} {e : SceneEdit} {path : String} {entry : TemplateEntry}
    (h : s.Enrolled) (hamends : s.Amends e path entry s₁) : s₁.Enrolled := by
  cases hamends with
  | keep _ => exact h
  | edit hentry hp hset =>
    intro slot o hget
    have hbefore := h slot o hget
    cases hkind : o.kind with
    | leaf leaf =>
      rw [hkind] at hbefore
      exact hbefore
    | container =>
      rw [hkind] at hbefore
      rw [Enrols, Scene.recordEdit, OrderedMap.get?_insert]
      split
      · rename_i hname
        rw [Enrols, hname, hentry] at hbefore
        exact hbefore
      · exact hbefore
    | root | group => trivial

/-! ### Single changes -/

section Changes

variable {s : Scene G M} {gap : Forest.Gap (Site (Option Origin))} {a site : Site (Option Origin)}
  {below : SceneForest}

/-- One site more is registered. What was registered before still is, unless the new site is in its
place, which is a collision. -/
theorem EnrolsAll.planted {s' : Scene G M} (h : s.EnrolsAll (gap.fill a below))
    (hsep : (gap.fill a (below ++ .cons site .nil .nil)).Separate)
    (hsite : s'.Enrols site.slot site.name site.kind)
    (hkeep : ∀ b : Site (Option Origin), s.Enrols b.slot b.name b.kind →
      s'.Enrols b.slot b.name b.kind ∨ b.kind.SharesRegistry site.kind ∧ b.name = site.name) :
    s'.EnrolsAll (gap.fill a (below ++ .cons site .nil .nil)) := by
  intro b hb
  have hperm := gap.labels_fill_append a below (.cons site .nil .nil)
  rcases List.mem_append.mp (hperm.mem_iff.mp hb) with hmem | hmem
  · obtain rfl : b = site := by simpa [Forest.labels] using hmem
    exact hsite
  · obtain hkept | ⟨hshares, hname⟩ := hkeep b (h b hmem)
    · exact hkept
    · have hslot : b.slot = site.slot := hsep b hb site mem_labels_planted hshares hname
      rw [hslot, hname]
      exact hsite.of_shares hshares

/-- A new leaf takes the path of another leaf, or nothing is overwritten. -/
theorem Enrols.plantLeaf {slot : Nat} {name : String} {kind : ObjectKind}
    (h : s.Enrols slot name kind) (parent : Nat) {leaf : Leaf} (hsite : site.kind = .leaf leaf) :
    (s.plantLeaf parent site).Enrols slot name kind ∨
      kind.SharesRegistry site.kind ∧ name = site.name := by
  rw [hsite]
  cases kind with
  | leaf _ =>
    by_cases hname : name = site.name
    · exact Or.inr ⟨trivial, hname⟩
    · exact Or.inl ((OrderedMap.get?_insert_of_ne _ _ hname).trans h)
  | container | root | group => exact Or.inl h

/-- A new container takes the path of another container, or nothing is overwritten. -/
theorem Enrols.plantContainer {slot : Nat} {name : String} {kind : ObjectKind}
    (h : s.Enrols slot name kind) (parent : Nat) (hsite : site.kind = .container) (origin : Origin)
    (violations : List Violation) :
    (s.plantContainer parent site origin violations).Enrols slot name kind ∨
      kind.SharesRegistry site.kind ∧ name = site.name := by
  rw [hsite]
  cases kind with
  | container =>
    by_cases hname : name = site.name
    · exact Or.inr ⟨trivial, hname⟩
    · refine Or.inl ?_
      rw [Enrols, Scene.plantContainer, OrderedMap.get?_insert_of_ne _ _ hname]
      exact h
  | leaf _ | root | group => exact Or.inl h

/-- Pruning takes nothing off the registries that still stands. -/
theorem EnrolsAll.reopened [GeometryFactory G] [MaterialCache M]
    (h : s.EnrolsAll (gap.fill a below)) (hshows : s.graph.Shows (gap.fill a below)) (path : String)
    (ev : Evaluator) (violations : List Violation) :
    (s.reopened path a.slot below ev violations).EnrolsAll (gap.fill a .nil) := by
  intro b hb
  have hperm := gap.labels_fill_append a .nil below
  rw [Forest.nil_append] at hperm
  have hbefore := h b (hperm.mem_iff.mpr (List.mem_append_right _ hb))
  have hstays : (!below.slots.contains b.slot) = true := by
    rw [Bool.not_eq_true', List.contains_eq_mem, decide_eq_false_iff_not]
    exact fun hmem => hshows.nodup_below.2.2 hmem (List.mem_map.mpr ⟨b, hb, rfl⟩)
  cases hkind : b.kind with
  | leaf leaf =>
    rw [hkind, Enrols] at hbefore
    rw [Enrols, Scene.reopened, pruned, OrderedMap.get?_filter, hbefore, Option.filter_some,
      if_pos hstays]
  | container =>
    rw [hkind] at hbefore
    obtain ⟨entry, hentry, hcontainer⟩ := Option.map_eq_some_iff.mp hbefore
    rw [Enrols, Scene.reopened, pruned, OrderedMap.get?_filter, hentry, Option.filter_some,
      hcontainer, if_pos hstays, Option.map_some, hcontainer]
  | root | group => trivial

variable [GeometryFactory G] [MaterialCache M]

/-- Nothing collides before an addition if nothing does after it. -/
theorem Sprouts.separate {p q : Scene G M × SceneForest} (hstep : Sprouts p q)
    (h : q.2.Separate) : p.2.Separate := by
  have hplanted : ∀ {gap : Forest.Gap (Site (Option Origin))} {a site : Site (Option Origin)}
      {below : SceneForest}, (gap.fill a (below ++ .cons site .nil .nil)).Separate →
        (gap.fill a below).Separate := fun {gap a site below} hsep =>
    hsep.subset fun b hb => (gap.labels_fill_append a below (.cons site .nil .nil)).mem_iff.mpr
      (List.mem_append_right _ hb)
  cases hstep with
  | refuse _ _ => exact h
  | leaf _ _ _ _ _ _ => exact hplanted h
  | group _ _ => exact hplanted h
  | container _ _ _ => exact hplanted h

/-- **An addition that takes no path leaves all registered.** -/
theorem EnrolsAll.sprout {p q : Scene G M × SceneForest} (h : p.1.EnrolsAll p.2)
    (hstep : Sprouts p q) (hsep : q.2.Separate) : q.1.EnrolsAll q.2 := by
  cases hstep with
  | refuse _ _ => exact h
  | @leaf s gap a site below leaf _ geometry materials _ hsite _ _ _ _ =>
    refine EnrolsAll.planted h hsep ?_ fun b hb =>
      Enrols.plantLeaf (s := { s with geometry := geometry, materials := materials }) hb a.slot hsite
    rw [hsite]
    exact OrderedMap.get?_insert_self ..
  | group _ hsite =>
    refine EnrolsAll.planted h hsep ?_ fun b hb => Or.inl hb
    rw [hsite]
    trivial
  | @container s gap a site below origin violations ev _ hsite _ =>
    refine EnrolsAll.planted h hsep ?_ fun b hb =>
      Enrols.plantContainer (s := { s with evaluator := ev }) hb a.slot hsite origin violations
    rw [hsite, Enrols, Scene.plantContainer, OrderedMap.get?_insert_self]
    rfl

/-- Additions that take no path leave all registered. -/
theorem EnrolsAll.sprouts {p q : Scene G M × SceneForest} (h : p.1.EnrolsAll p.2)
    (hsteps : Relation.ReflTransGen Sprouts p q) (hsep : q.2.Separate) : q.1.EnrolsAll q.2 := by
  induction hsteps with
  | refl => exact h
  | tail _ hstep ih => exact (ih (hstep.separate hsep)).sprout hstep hsep

end Changes

/-! ### Edits -/

section Edits

variable [GeometryFactory G] [MaterialCache M]

/-- **An edit leaves all registered** if nothing collides after it. -/
theorem enrolled_apply {s : Scene G M} {f : SceneForest} (hs : s.Registers f) (h : s.Enrolled)
    (e : SceneEdit) (hsep : (s.apply e).graph.Separate) : (s.apply e).Enrolled := by
  obtain hsame | ⟨path, entry, s₁, hamends, happly⟩ := s.apply_cases e
  · rw [hsame]
    exact h
  · obtain ⟨gap, a, below, old, rfl, -, -, -, hslot, -, hregisters⟩ := hamends.registers hs
    obtain ⟨grown, violations, ev₁, ev₂, hgrows⟩ := exists_regenerate_grows hregisters.shows
      hamends.get? hslot
    have hshows := (Grows.registers hgrows
      (hregisters.reopened hamends.get? hslot ev₂ violations)).shows
    rw [happly] at hsep ⊢
    have hstart := ((enrolled_iff hregisters.shows).mp (h.amends hamends)).reopened
      hregisters.shows path ev₂ violations
    exact (enrolled_iff hshows).mpr (EnrolsAll.sprouts (p := (_, _)) (q := (_, _)) hstart
      (hgrows.sprouts gap _ .nil rfl) (hshows.separate_iff.mp hsep))

/-- A run of edits leaves all registered if nothing collides after any of them. -/
theorem enrolled_run {s : Scene G M} {f : SceneForest} (hs : s.Registers f) (h : s.Enrolled)
    (es : List SceneEdit) (hsep : ∀ before, before <+: es → (s.run before).graph.Separate) :
    (s.run es).Enrolled := by
  induction es generalizing s f with
  | nil => exact h
  | cons e rest ih =>
    obtain ⟨f', hf'⟩ := hs.apply_turns e
    have hfirst : (s.apply e).graph.Separate := hsep [e] ⟨rest, rfl⟩
    refine ih (hs.turns hf') (enrolled_apply hs h e hfirst) fun before hbefore => ?_
    exact hsep (e :: before) (List.cons_prefix_cons.mpr ⟨rfl, hbefore⟩)

/-- All is registered in the scene of a document if nothing collides there. -/
theorem enrolled_buildWith (geometry : G) (materials : M) (evaluator : Evaluator)
    (settings : Settings) (d : SceneDocument)
    (hsep : (buildWith geometry materials evaluator settings d).graph.Separate) :
    (buildWith geometry materials evaluator settings d).Enrolled := by
  obtain ⟨f, hf⟩ := grows_populate d.templates
    (initial geometry materials (evaluator.setMemoize settings.memoize) settings d.materials)
  have hstart : (initial geometry materials (evaluator.setMemoize settings.memoize) settings
      d.materials).Registers (Forest.Gap.fill (.here .nil) rootSite .nil) :=
    registers_initial geometry materials _ settings d.materials
  have hshows := (Grows.registers (a := rootSite) hf hstart).shows
  have hroot : (initial geometry materials (evaluator.setMemoize settings.memoize) settings
      d.materials).EnrolsAll (.cons rootSite .nil .nil) := fun a ha => by
    obtain rfl : a = rootSite := by simpa [Forest.labels] using ha
    trivial
  exact (enrolled_iff hshows).mpr (EnrolsAll.sprouts (p := (_, _)) (q := (_, _)) hroot
    (hf.sprouts (.here .nil) rootSite .nil rfl) (hshows.separate_iff.mp hsep))

end Edits

/-! ### Counting what is registered -/

section Counting

variable {s : Scene G M}

/-- Where all is registered, the registry of leaves lists the leaves in the graph. -/
theorem Enrolled.perm_leafSlots (h : s.Enrolled) (hs : s.Consistent) :
    (s.leaves.entries.map Prod.snd).Perm s.graph.leafSlots := by
  have hentry : ∀ e, e ∈ s.leaves.entries ↔ s.leaves.get? e.1 = some e.2 := fun e =>
    OrderedMap.get?_eq_some_iff.symm
  -- the name of the object in a slot is the path of its entry
  have hnodup : (s.leaves.entries.map Prod.snd).Nodup := by
    refine List.Nodup.map_on (fun e he e' he' hslot => ?_) s.leaves.nodup.of_map
    obtain ⟨o, hget, hname, -⟩ := hs.leaf e.1 e.2 ((hentry e).mp he)
    obtain ⟨o', hget', hname', -⟩ := hs.leaf e'.1 e'.2 ((hentry e').mp he')
    rw [hslot, hget', Option.some.injEq] at hget
    exact Prod.ext (hname.symm.trans (hget ▸ hname')) hslot
  refine (List.perm_ext_iff_of_nodup hnodup s.graph.nodup_leafSlots).mpr fun slot => ?_
  rw [SceneGraph.mem_leafSlots_iff, List.mem_map]
  constructor
  · rintro ⟨e, he, rfl⟩
    obtain ⟨o, hget, -, leaf, hkind⟩ := hs.leaf e.1 e.2 ((hentry e).mp he)
    exact ⟨o, leaf, hget, hkind⟩
  · rintro ⟨o, leaf, hget, hkind⟩
    have hslot := h slot o hget
    rw [hkind, Enrols] at hslot
    exact ⟨(o.name, slot), (hentry _).mpr hslot, rfl⟩

/-- Where all is registered, as many leaves are registered as there are in the graph. -/
theorem Enrolled.leafCount_eq (h : s.Enrolled) (hs : s.Consistent) :
    s.leafCount = s.graph.leaves.length := by
  rw [← SceneGraph.length_leafSlots, ← (h.perm_leafSlots hs).length_eq, List.length_map]
  rfl

/-- Where all is registered, the bounds of the scene are made of the bounds of all leaves. -/
theorem Enrolled.bounds_eq [GeometryFactory G] (h : s.Enrolled) (hs : s.Consistent) :
    ∃ slots : List Nat, slots.Perm s.graph.leafSlots ∧
      s.bounds = (slots.filterMap s.leafBounds?).foldl Box.union Box.empty :=
  ⟨_, h.perm_leafSlots hs, by rw [List.filterMap_map]; rfl⟩

end Counting

/-! ### The contract -/

/-- **Everything is registered exactly where nothing collides.** All leaves and containers of all
scenes of a run are registered under their paths if and only if no two leaves and no two containers of
such a scene have one path. Where all are registered, leaves are counted by the registry, by the meshes
and by the uses of materials alike, and the bounds of the scene are made of the bounds of all leaves. -/
theorem enrolled_run_buildWith_iff (evaluator : Evaluator) (settings : Settings) (d : SceneDocument)
    (es : List SceneEdit) :
    ((∀ before, before <+: es →
        ((buildWith MeshFactory.empty MaterialLibrary.empty evaluator settings d).run
          before).Enrolled) ↔
      ∀ before, before <+: es →
        ((buildWith MeshFactory.empty MaterialLibrary.empty evaluator settings d).run
          before).graph.Separate) ∧
    ∀ s, s = (buildWith MeshFactory.empty MaterialLibrary.empty evaluator settings d).run es →
      s.Enrolled →
        s.leafCount = s.graph.leaves.length ∧ s.geometry.live = s.graph.leaves.length ∧
          s.materials.totalUses = s.graph.leaves.length ∧
          ∃ slots : List Nat, slots.Perm s.graph.leafSlots ∧
            s.bounds = (slots.filterMap s.leafBounds?).foldl Box.union Box.empty := by
  obtain ⟨f, hf⟩ := registers_buildWith MeshFactory.empty MaterialLibrary.empty evaluator settings d
  refine ⟨⟨fun h before hbefore => (h before hbefore).separate, fun h before hbefore => ?_⟩, ?_⟩
  · have hstart := enrolled_buildWith MeshFactory.empty MaterialLibrary.empty evaluator settings d
      (h [] List.nil_prefix)
    exact enrolled_run hf hstart before fun early hearly => h early (hearly.trans hbefore)
  · rintro s rfl h
    obtain ⟨f', hf'⟩ := hf.run_turns es
    have hconsistent := (hf.turns hf').consistent
    have haccounts := accounts_run_with evaluator settings d es
    exact ⟨h.leafCount_eq hconsistent, haccounts.live_eq, haccounts.totalUses_eq,
      h.bounds_eq hconsistent⟩

/-! ### A bench -/

/-- A box with an identifier. -/
def namedBox (id : String) : BuildNode :=
  .geometry ⟨.box, some id, none, [], ⟨none, none, none⟩, none⟩

/-- A bench of two boxes. It may be wet. -/
def bench : Template where
  id := "bench"
  generator := none
  transform := ⟨none, none, none⟩
  parameters := OrderedMap.insert ∅ "wet" (.bare (.boolean false))
  expressions := ∅
  constraints := ∅
  nodes := [namedBox "seat", namedBox "back"]

/-- The document of a bench. -/
def benchDocument : SceneDocument := ⟨Settings.currentVersion, none, none, [bench], ∅, none⟩

theorem clean_bench : ∀ t ∈ benchDocument.templates, t.Clean := by
  intro t ht
  obtain rfl := List.mem_singleton.mp ht
  refine ⟨⟨fun name hname => ?_, fun name hname => absurd hname List.not_mem_nil⟩, trivial, trivial,
    trivial⟩
  obtain rfl := List.mem_singleton.mp hname
  rw [CleanName]
  decide

/-- Whatever is edited, the bench has its two boxes. -/
theorem exists_shows_bench (es : List SceneEdit) :
    ∃ under : SceneForest,
      ((build default benchDocument).run es).graph.Shows (.cons rootSite under .nil) ∧
        under.names = ["bench", "bench.seat", "bench.back"] ∧
        (Forest.cons rootSite under .nil).leaves.length = 2 := by
  obtain ⟨f, hf⟩ := rendered_run default clean_bench es
  obtain ⟨under, rfl, hunder⟩ := hf.renders
  refine ⟨under, hf.registers.shows, ?_⟩
  have hr : (planOf default benchDocument).functions.IsPure := Registry.isPure_builtin
  obtain ⟨top, _, _, _, _, rfl, htop, hbelow, hbeside⟩ := exists_container hr hunder
  cases hbeside
  obtain ⟨seat, _, rfl, hseat, hbeside⟩ := Renders.exists_leaf hbelow rfl
  obtain ⟨back, _, rfl, hback, hbeside⟩ := Renders.exists_leaf hbeside rfl
  cases hbeside
  constructor
  · have hname : top.name = _ := congrArg Look.name htop
    have hname₁ : seat.name = _ := congrArg Look.name hseat
    have hname₂ : back.name = _ := congrArg Look.name hback
    simp only [Forest.names, Forest.labels, List.map_cons, List.map_nil, List.append_nil,
      List.nil_append, hname, hname₁, hname₂]
    decide
  · rw [← List.length_map Leaf.material, Forest.map_material_leaves]
    simp only [Forest.labels, List.map_cons, List.map_nil, List.append_nil, List.nil_append,
      Site.mark, htop, hseat, hback]
    rfl

/-- The bench gets wet, and is built again. -/
def benchEdits : List SceneEdit :=
  [.setParameter "bench" "wet" (.boolean true), .regenerate "bench"]

/-- Both boxes of the bench are registered before and after it got wet, and they are counted by the
registry, the meshes and the materials alike. -/
theorem enrolled_run_buildWith_iff_bench :
    (∀ before, before <+: benchEdits → ((build default benchDocument).run before).Enrolled) ∧
      ((build default benchDocument).run benchEdits).leafCount = 2 ∧
      ((build default benchDocument).run benchEdits).geometry.live = 2 ∧
      ((build default benchDocument).run benchEdits).materials.totalUses = 2 := by
  have hseparate : ∀ es, ((build default benchDocument).run es).graph.Separate := fun es => by
    obtain ⟨under, hshows, hnames, -⟩ := exists_shows_bench es
    exact separate_of_pathsDistinct hshows ((pathsDistinct_iff hshows).mpr (hnames ▸ by decide))
  obtain ⟨under, hshows, -, hleaves⟩ := exists_shows_bench benchEdits
  rw [hshows.leaves_perm.length_eq] at hleaves
  obtain ⟨henrolled, hcounts⟩ := enrolled_run_buildWith_iff (default : Settings).evaluator default
    benchDocument benchEdits
  have hall := henrolled.mpr fun before _ => hseparate before
  obtain ⟨hcount, hlive, huses, -⟩ := hcounts _ rfl (hall _ (List.prefix_refl _))
  exact ⟨hall, hcount.trans hleaves, hlive.trans hleaves, huses.trans hleaves⟩

/-! ### Boxes without identifiers -/

/-- A box without an identifier. -/
def namelessBox : BuildNode := .geometry ⟨.box, none, none, [], ⟨none, none, none⟩, none⟩

/-- The document of a template with some boxes side by side, none of which has an identifier. -/
def boxesDocument (count : Nat) : SceneDocument :=
  ⟨Settings.currentVersion, none, none,
    [⟨⟨"boxes", none, ⟨none, none, none⟩, ∅, ∅, ∅⟩, List.replicate count namelessBox⟩], ∅, none⟩

/-- **Of two boxes without identifiers only the later one is registered.** Both are in the graph, with
their meshes and their materials. -/
theorem not_enrolled_twoBoxes :
    ¬(build default (boxesDocument 2)).Enrolled ∧
      (build default (boxesDocument 2)).leafCount = 1 ∧
      (build default (boxesDocument 2)).graph.leaves.length = 2 ∧
      (build default (boxesDocument 2)).geometry.live = 2 ∧
      (build default (boxesDocument 2)).materials.totalUses = 2 := by
  decide +kernel

end Scene

end ParametricScene
