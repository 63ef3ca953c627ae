import ParametricScene.Proofs.Growth
import ParametricScene.Proofs.Maps

/-!
# What edits do to a scene

An edit of a scene builds a registered template again, perhaps with another value for one parameter.
This file says in terms of the forest what that comes to: the forest below the container is pruned,
its leaves are given back in depth-first order and forgotten, and another forest grows in its place.

As for building, facts that every single change keeps are proved about single changes. `Scene.Turns`
adds to `Scene.Sprouts` the two changes that only edits make.

## Main definitions

* `SceneEdit`, `Scene.apply`, `Scene.run` — edits, one after another
* `Scene.pruned` — a scene without what stood below a container
* `Scene.Turns` — a single change to a scene and its forest

## Main results

* `Scene.releaseChildren_eq` — giving back what stands below a container prunes the forest
* `Scene.regenerate_grows` — building again prunes, and grows another forest
* `Scene.setParameter_cases` — an edit is refused and changes nothing, or is written down and the
  template built again
-/

namespace ParametricScene

/-- An edit of a scene: a template is built again, or a parameter of it is given a value first. -/
inductive SceneEdit where
  | regenerate (path : String)
  | setParameter (path name : String) (value : Value)

/-- The leaf at a site, if there is one. -/
def Site.leaf? {ρ : Type} (a : Site ρ) : Option Leaf :=
  match a.kind with
  | .leaf l => some l
  | _ => none

/-- The leaves of a forest in depth-first order. -/
def Forest.leaves {ρ : Type} (f : Forest (Site ρ)) : List Leaf := f.labels.filterMap Site.leaf?

/-- The objects of a forest have its leaves. -/
theorem Forest.filterMap_leaf?_objects {ρ : Type} (f : Forest (Site ρ)) (parent : Option Nat) :
    (f.objects parent).filterMap (fun r => r.2.leaf?) = f.leaves := by
  induction f generalizing parent with
  | nil => rfl
  | cons a below beside ihBelow ihBeside =>
    have ha : ∀ p cs, (a.object p cs).leaf? = a.leaf? := fun _ _ => rfl
    simp only [leaves] at ihBelow ihBeside
    rw [objects, leaves, labels, List.filterMap_cons, List.filterMap_cons, List.filterMap_append,
      List.filterMap_append, ihBelow, ihBeside, ha]

/-- A site alone has the leaf that stands there, if there is one. -/
theorem Forest.leaves_singleton {ρ : Type} (a : Site ρ) :
    (Forest.cons a .nil .nil).leaves = a.leaf?.toList := by
  rw [leaves, labels, labels, List.append_nil, List.filterMap_cons, List.filterMap_nil]
  cases a.leaf? <;> rfl

/-- Notes do not change what leaves there are. -/
theorem Forest.Gap.leaves_fill_renote {ρ : Type} (gap : Forest.Gap (Site ρ)) (a : Site ρ) (note : ρ)
    (below : Forest (Site ρ)) :
    (gap.fill { a with note := note } below).leaves = (gap.fill a below).leaves := by
  rw [leaves, leaves, labels_fill, labels_fill, List.filterMap_append, List.filterMap_append,
    List.filterMap_cons, List.filterMap_cons]
  rfl

namespace Scene

variable {G M : Type} [GeometryFactory G] [MaterialCache M]

/-- The scene after an edit. -/
def apply (s : Scene G M) : SceneEdit → Scene G M
  | .regenerate path => (s.regenerate path).2
  | .setParameter path name v => (s.setParameter path name v).2

/-- The scene after edits one after another. -/
def run (s : Scene G M) (es : List SceneEdit) : Scene G M := es.foldl apply s

/-! ### Pruning -/

/-- The scene without the forest that stood below the object in a slot. -/
def pruned (s : Scene G M) (slot : Nat) (below : SceneForest) : Scene G M :=
  let templates := s.templates.filter fun _ entry => !below.slots.contains entry.container
  { s with
    geometry := below.leaves.foldl (fun g l => GeometryFactory.release l.geometryHandle g) s.geometry
    materials := below.leaves.foldl (fun m l => MaterialCache.release l.materialHandle m) s.materials
    graph := (s.graph.clearChildren slot).2
    templates := templates
    leaves := s.leaves.filter fun _ slot => !below.slots.contains slot
    violations := s.violations.filter fun path _ => templates.contains path }

/-- Giving back objects gives back the leaves among them, and touches nothing but the factory and the
keeper of materials. -/
theorem foldl_releaseObject (removed : List (Nat × SceneObject)) (s : Scene G M) :
    removed.foldl (fun s r => s.releaseObject r.2) s =
      { s with
        geometry := (removed.filterMap fun r => r.2.leaf?).foldl
          (fun g l => GeometryFactory.release l.geometryHandle g) s.geometry
        materials := (removed.filterMap fun r => r.2.leaf?).foldl
          (fun m l => MaterialCache.release l.materialHandle m) s.materials } := by
  induction removed generalizing s with
  | nil => rfl
  | cons r rest ih =>
    rw [List.foldl_cons, ih, releaseObject, List.filterMap_cons]
    cases r.2.leaf? <;> rfl

/-- **Giving back what stands below a container prunes the forest there.** -/
theorem releaseChildren_eq {s : Scene G M} {gap : Forest.Gap (Site (Option Origin))}
    {a : Site (Option Origin)} {below : SceneForest} (h : s.graph.Shows (gap.fill a below)) :
    s.releaseChildren a.slot = s.pruned a.slot below := by
  have hremoved := h.clearChildren.1
  rw [releaseChildren]
  simp only [foldl_releaseObject, forget, hremoved, Forest.filterMap_leaf?_objects,
    Forest.map_fst_objects, Std.HashSet.contains_ofList]
  rfl

/-! ### Building again -/

/-- The scene without the forest that stood below a container, where the rules of its template were
checked again. -/
def reopened (s : Scene G M) (path : String) (slot : Nat) (below : SceneForest) (ev : Evaluator)
    (violations : List Violation) : Scene G M :=
  { s.pruned slot below with
    evaluator := ev
    violations := (s.pruned slot below).violations.insert path violations }

/-- A template whose container stays is still registered after pruning. -/
theorem get?_templates_pruned {s : Scene G M} {gap : Forest.Gap (Site (Option Origin))}
    {a : Site (Option Origin)} {below : SceneForest} (h : s.graph.Shows (gap.fill a below))
    {path : String} {entry : TemplateEntry} (hentry : s.templates.get? path = some entry)
    (ha : entry.container = a.slot) :
    (s.pruned a.slot below).templates.get? path = some entry := by
  have hslot : a.slot ∉ below.slots := h.slot_not_mem_below
  rw [pruned, OrderedMap.get?_filter, hentry, Option.filter_some, ha, if_pos]
  rw [Bool.not_eq_true', List.contains_eq_mem, decide_eq_false hslot]

theorem regenerate_of_get?_none {s : Scene G M} {path : String} (h : s.templates.get? path = none) :
    (s.regenerate path).2 = s := by
  rw [regenerate, h]

/-- **Building a template again** prunes the forest below its container and grows another there. -/
theorem regenerate_grows {s : Scene G M} {gap : Forest.Gap (Site (Option Origin))}
    {a : Site (Option Origin)} {below : SceneForest} (h : s.graph.Shows (gap.fill a below))
    {path : String} {entry : TemplateEntry} (hentry : s.templates.get? path = some entry)
    (ha : entry.container = a.slot) {violations : List Violation} {nodes : List PlacedNode}
    {ev₁ ev₂ : Evaluator}
    (hviolations : Evaluator.violations entry.template.toTemplateHeader s.evaluator.clearCache =
      (violations, ev₁))
    (hexpand : entry.template.expand s.settings.repeatCap entry.surroundings ev₁ = (nodes, ev₂)) :
    ∃ f, Grows (s.reopened path a.slot below ev₂ violations) a.slot path nodes f
      (s.regenerate path).2 := by
  have hprune : ({ s with evaluator := s.evaluator.clearCache } : Scene G M).releaseChildren
      entry.container = { s.pruned a.slot below with evaluator := s.evaluator.clearCache } := by
    rw [ha, releaseChildren_eq (s := { s with evaluator := s.evaluator.clearCache }) h]
    rfl
  have hbuild : (s.regenerate path).2 = (buildNodes buildTemplate nodes a.slot path
      (s.reopened path a.slot below ev₂ violations)).2 := by
    rw [regenerate, hentry]
    simp only [expandTemplate, StateT.run, hprune]
    rw [expandWith_of_get? (s := { s.pruned a.slot below with evaluator := s.evaluator.clearCache })
      (get?_templates_pruned h hentry ha) hviolations hexpand, ha]
    rfl
  rw [hbuild]
  exact grows_buildNodes (fun t _ => buildsTemplate_buildTemplate t) nodes _ _ _ (Nat.le_refl _)

/-- The same, whatever the rules of the template and its expansion come to. -/
theorem exists_regenerate_grows {s : Scene G M} {gap : Forest.Gap (Site (Option Origin))}
    {a : Site (Option Origin)} {below : SceneForest} (h : s.graph.Shows (gap.fill a below))
    {path : String} {entry : TemplateEntry} (hentry : s.templates.get? path = some entry)
    (ha : entry.container = a.slot) :
    ∃ (grown : SceneForest) (violations : List Violation) (ev₁ ev₂ : Evaluator),
      Grows (s.reopened path a.slot below ev₂ violations) a.slot path
        (entry.template.expand s.settings.repeatCap entry.surroundings ev₁).1 grown
        (s.regenerate path).2 := by
  rcases hviolations : Evaluator.violations entry.template.toTemplateHeader s.evaluator.clearCache
    with ⟨violations, ev₁⟩
  rcases hexpand : entry.template.expand s.settings.repeatCap entry.surroundings ev₁
    with ⟨nodes, ev₂⟩
  obtain ⟨grown, hgrows⟩ := regenerate_grows h hentry ha hviolations hexpand
  exact ⟨grown, violations, ev₁, ev₂, by rw [hexpand]; exact hgrows⟩

/-- **An edit of a parameter is refused and changes nothing, or it is written down and the template is
built again.** -/
theorem setParameter_cases (s : Scene G M) (path name : String) (v : Value) :
    (s.setParameter path name v).2 = s ∨
      ∃ entry p p' stored, s.templates.get? path = some entry ∧
        entry.template.parameters.get? name = some p ∧ p.set v = .ok (p', stored) ∧
        (s.setParameter path name v).2 =
          ((s.recordEdit path name entry p' stored).regenerate path).2 := by
  cases hentry : s.templates.get? path with
  | none =>
    refine Or.inl ?_
    rw [setParameter, hentry]
  | some entry =>
    cases hp : entry.template.parameters.get? name with
    | none =>
      refine Or.inl ?_
      rw [setParameter, hentry]
      simp only [hp]
    | some p =>
      cases hset : p.set v with
      | error cause =>
        refine Or.inl ?_
        rw [setParameter, hentry]
        simp only [hp, hset]
      | ok accepted =>
        refine Or.inr ⟨entry, p, accepted.1, accepted.2, rfl, hp, hset, ?_⟩
        rw [setParameter, hentry]
        simp only [hp, hset]

/-! ### Single changes -/

/-- The registered template after an edit that counted. -/
def editedEntry (name : String) (p : Parameter) (entry : TemplateEntry) : TemplateEntry :=
  { entry with
    template := { entry.template with parameters := entry.template.parameters.insert name p } }

/-- One change to a scene and to the forest it shows. -/
inductive Turns : Scene G M × SceneForest → Scene G M × SceneForest → Prop where
  | sprout {p q : Scene G M × SceneForest} (h : Sprouts p q) : Turns p q
  | prune {s : Scene G M} {gap : Forest.Gap (Site (Option Origin))} {a : Site (Option Origin)}
      {below : SceneForest} {path : String} {entry : TemplateEntry} {ev : Evaluator}
      {violations : List Violation} (hentry : s.templates.get? path = some entry)
      (ha : entry.container = a.slot) :
      Turns (s, gap.fill a below) (s.reopened path a.slot below ev violations, gap.fill a .nil)
  | record {s : Scene G M} {gap : Forest.Gap (Site (Option Origin))} {a : Site (Option Origin)}
      {below : SceneForest} {path name : String} {entry : TemplateEntry} {p : Parameter}
      {stored : Value} (hentry : s.templates.get? path = some entry)
      (ha : entry.container = a.slot) :
      Turns (s, gap.fill a below)
        (s.recordEdit path name entry p stored,
          gap.fill { a with note := some ((editedEntry name p entry).template, entry.surroundings) }
            below)

/-- Building a template again is a sequence of single changes. -/
theorem regenerate_turns {s : Scene G M} {gap : Forest.Gap (Site (Option Origin))}
    {a : Site (Option Origin)} {below : SceneForest} (h : s.graph.Shows (gap.fill a below))
    {path : String} {entry : TemplateEntry} (hentry : s.templates.get? path = some entry)
    (ha : entry.container = a.slot) :
    ∃ f, Relation.ReflTransGen Turns (s, gap.fill a below) ((s.regenerate path).2, gap.fill a f) := by
  obtain ⟨f, violations, ev₁, ev₂, hf⟩ := exists_regenerate_grows h hentry ha
  have hgrown := Relation.ReflTransGen.mono (fun _ _ => Turns.sprout) _ _
    (hf.sprouts gap a .nil rfl)
  exact ⟨f, hgrown.head (.prune hentry ha)⟩

end Scene

end ParametricScene
