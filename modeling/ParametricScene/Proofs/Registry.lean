import ParametricScene.Proofs.Editing

/-!
# Registries name what stands in the graph

A scene registers its leaves and templates by path and refers to their objects by slot. Slots are
given free and taken again by every edit, so an entry that was forgotten to be dropped would come to
refer to some other object. None ever does.

The contract is that every entry refers to a *live* object of the right kind, which has the path of the
entry as its name. It says nothing about objects that are not registered: where two have one path, only
the later one is.

## Implementation notes

`Scene.Registers` is the invariant. It ties the registries to a forest that the graph shows, not to
the graph itself, because pruning is easier to follow there, and because the forest also remembers
what each container was built from. Building twice with one path is no special case: an entry that
is overwritten is just gone.

## Main definitions

* `Scene.Registers` — the registries agree with a forest
* `Scene.Consistent` — the registries agree with the graph

## Main results

* `Scene.Registers.turn` — every single change keeps the registries right
* `Scene.run_turns` — a run of edits is a sequence of single changes
* `Scene.consistent_run_buildWith` — no entry is ever stale
-/

namespace ParametricScene

namespace Scene

variable {G M : Type}

/-- The graph shows the forest, every entry of a registry belongs to a site of the forest with its
path as name, and the rules of the registered templates are those that were checked. -/
structure Registers (s : Scene G M) (f : SceneForest) : Prop where
  shows : s.graph.Shows f
  leaf : ∀ path slot, s.leaves.get? path = some slot →
    ∃ a ∈ f.labels, a.slot = slot ∧ a.name = path ∧ ∃ leaf, a.kind = .leaf leaf
  template : ∀ path entry, s.templates.get? path = some entry →
    ∃ a ∈ f.labels, a.slot = entry.container ∧ a.name = path ∧ a.kind = .container ∧
      a.note = some (entry.template, entry.surroundings)
  violations : ∀ path, s.violations.contains path = s.templates.contains path

/-- The entries of the registries refer to live objects of the right kind with the right name, and
rules were checked for exactly the registered templates. -/
structure Consistent (s : Scene G M) : Prop where
  leaf : ∀ path slot, s.leaves.get? path = some slot →
    ∃ o, s.graph.get? slot = some o ∧ o.name = path ∧ ∃ leaf, o.kind = .leaf leaf
  template : ∀ path entry, s.templates.get? path = some entry →
    ∃ o, s.graph.get? entry.container = some o ∧ o.name = path ∧ o.kind = .container
  violations : ∀ path, path ∈ s.violations.keys ↔ path ∈ s.templates.keys

/-- Registries that agree with a forest agree with the graph that shows it. -/
theorem Registers.consistent {s : Scene G M} {f : SceneForest} (h : s.Registers f) :
    s.Consistent := by
  refine ⟨fun path slot hslot => ?_, fun path entry hentry => ?_, fun path => ?_⟩
  · obtain ⟨a, ha, rfl, hname, leaf, hkind⟩ := h.leaf path slot hslot
    obtain ⟨p, cs, hget⟩ := h.shows.get?_of_mem_labels ha
    exact ⟨_, hget, hname, leaf, hkind⟩
  · obtain ⟨a, ha, hslot, hname, hkind, -⟩ := h.template path entry hentry
    obtain ⟨p, cs, hget⟩ := h.shows.get?_of_mem_labels ha
    exact ⟨_, hslot ▸ hget, hname, hkind⟩
  · rw [OrderedMap.mem_keys_iff, OrderedMap.mem_keys_iff]
    exact iff_of_eq (congrArg (· = true) (h.violations path))

/-! ### Single changes -/

section Changes

variable {s : Scene G M} {gap : Forest.Gap (Site (Option Origin))} {a site : Site (Option Origin)}
  {below : SceneForest}

/-- A new site is put last below its parent. -/
theorem shows_plant (h : s.graph.Shows (gap.fill a below)) (hslot : site.slot = s.graph.nextSlot) :
    (s.plant a.slot site).graph.Shows (gap.fill a (below ++ .cons site .nil .nil)) := by
  have hinsert := h.insert site.name site.placement site.kind site.note
  rwa [← hslot] at hinsert

/-- An addition keeps what the registries say. -/
theorem Registers.plant (h : s.Registers (gap.fill a below))
    (hslot : site.slot = s.graph.nextSlot) :
    (s.plant a.slot site).Registers (gap.fill a (below ++ .cons site .nil .nil)) := by
  have hmono : ∀ b ∈ (gap.fill a below).labels,
      b ∈ (gap.fill a (below ++ .cons site .nil .nil)).labels := fun b hb =>
    (gap.labels_fill_append a below _).mem_iff.mpr (List.mem_append_right _ hb)
  refine ⟨shows_plant h.shows hslot, fun path slot hget => ?_, fun path entry hget => ?_,
    h.violations⟩
  · obtain ⟨b, hb, hrest⟩ := h.leaf path slot hget
    exact ⟨b, hmono b hb, hrest⟩
  · obtain ⟨b, hb, hrest⟩ := h.template path entry hget
    exact ⟨b, hmono b hb, hrest⟩

/-- Registering a site of the forest as a leaf. -/
theorem Registers.insertLeaf {f : SceneForest} (h : s.Registers f) (hmem : site ∈ f.labels)
    {leaf : Leaf} (hkind : site.kind = .leaf leaf) :
    ({ s with leaves := s.leaves.insert site.name site.slot } : Scene G M).Registers f := by
  refine ⟨h.shows, fun path slot hget => ?_, h.template, h.violations⟩
  rw [OrderedMap.get?_insert] at hget
  split at hget
  · exact ⟨site, hmem, Option.some.inj hget, Eq.symm ‹_›, leaf, hkind⟩
  · exact h.leaf path slot hget

/-- Registering a site of the forest as the container of what its note says. -/
theorem Registers.insertTemplate {f : SceneForest} (h : s.Registers f) (hmem : site ∈ f.labels)
    {origin : Origin} (hkind : site.kind = .container) (hnote : site.note = some origin)
    (violations : List Violation) :
    ({ s with
      templates := s.templates.insert site.name ⟨site.slot, origin.1, origin.2⟩
      violations := s.violations.insert site.name violations } : Scene G M).Registers f := by
  refine ⟨h.shows, h.leaf, fun path entry hget => ?_, fun path => ?_⟩
  · rw [OrderedMap.get?_insert] at hget
    split at hget
    · obtain rfl := Option.some.inj hget
      exact ⟨site, hmem, rfl, Eq.symm ‹_›, hkind, hnote⟩
    · exact h.template path entry hget
  · rw [OrderedMap.contains_insert, OrderedMap.contains_insert, h.violations]

/-- The site that was added last is a site of the forest. -/
theorem mem_labels_planted : site ∈ (gap.fill a (below ++ .cons site .nil .nil)).labels :=
  (gap.labels_fill_append a below _).mem_iff.mpr
    (List.mem_append_left _ (by simp [Forest.labels]))

/-- A site whose slot is not below the open one is still there after pruning. -/
theorem mem_labels_pruned {b : Site (Option Origin)} (hb : b ∈ (gap.fill a below).labels)
    (hslot : b.slot ∉ below.slots) : b ∈ (gap.fill a .nil).labels := by
  have hperm := gap.labels_fill_append a .nil below
  rw [Forest.nil_append] at hperm
  rcases List.mem_append.mp (hperm.mem_iff.mp hb) with hmem | hmem
  · exact absurd (List.mem_map.mpr ⟨b, hmem, rfl⟩) hslot
  · exact hmem

/-- **Writing an edit down keeps the registries right**, with another note for the container. -/
theorem Registers.recordEdit (h : s.Registers (gap.fill a below)) {path name : String}
    {entry : TemplateEntry} (hentry : s.templates.get? path = some entry)
    (ha : entry.container = a.slot) (p : Parameter) (stored : Value) :
    (s.recordEdit path name entry p stored).Registers
      (gap.fill { a with note := some ((editedEntry name p entry).template, entry.surroundings) }
        below) := by
  obtain ⟨b, hb, hslot, hname, hkind, -⟩ := h.template path entry hentry
  obtain rfl : b = a := h.shows.label_unique hb
    (Forest.Gap.mem_labels_fill.mpr (Or.inl rfl)) (hslot.trans ha)
  have hother : ∀ c ∈ (gap.fill b below).labels, c ≠ b → ∀ note,
      c ∈ (gap.fill { b with note := note } below).labels := fun c hc hne note =>
    Forest.Gap.mem_labels_fill.mpr
      (Or.inr ((Forest.Gap.mem_labels_fill.mp hc).resolve_left hne))
  refine ⟨h.shows.renote _, fun path' slot hget => ?_, fun path' entry' hget => ?_, fun path' => ?_⟩
  · obtain ⟨c, hc, hslot', hname', leaf, hleaf⟩ := h.leaf path' slot hget
    have hne : c ≠ b := fun heq => by
      rw [heq, hkind] at hleaf
      exact ObjectKind.noConfusion hleaf
    exact ⟨c, hother c hc hne _, hslot', hname', leaf, hleaf⟩
  · rw [Scene.recordEdit, OrderedMap.get?_insert] at hget
    split at hget
    · obtain rfl := Option.some.inj hget
      exact ⟨_, Forest.Gap.mem_labels_fill.mpr (Or.inl rfl), ha.symm, hname.trans (Eq.symm ‹_›),
        hkind, rfl⟩
    · rename_i hpath
      obtain ⟨c, hc, hslot', hname', hrest⟩ := h.template path' entry' hget
      have hne : c ≠ b := fun heq => hpath (by rw [← hname', heq, hname])
      exact ⟨c, hother c hc hne _, hslot', hname', hrest⟩
  · have hcontains : s.templates.contains path = true := by
      rw [OrderedMap.contains, hentry]
      rfl
    rw [Scene.recordEdit, OrderedMap.contains_insert, h.violations]
    by_cases hp : path' = path
    · rw [hp, hcontains, Bool.or_true]
    · rw [decide_eq_false hp, Bool.false_or]

/-- The container of a registered template stands in a gap of the forest. -/
theorem Registers.exists_fill {f : SceneForest} (h : s.Registers f) {path : String}
    {entry : TemplateEntry} (hentry : s.templates.get? path = some entry) :
    ∃ (gap : Forest.Gap (Site (Option Origin))) (a : Site (Option Origin)) (below : SceneForest),
      f = gap.fill a below ∧ entry.container = a.slot ∧ a.name = path ∧ a.kind = .container ∧
        a.note = some (entry.template, entry.surroundings) := by
  obtain ⟨a, ha, hslot, hrest⟩ := h.template path entry hentry
  obtain ⟨gap, below, hfill⟩ := Forest.Gap.exists_fill ha
  exact ⟨gap, a, below, hfill, hslot.symm, hrest⟩

section Factories

variable [GeometryFactory G] [MaterialCache M]

theorem Registers.sprout {p q : Scene G M × SceneForest} (h : p.1.Registers p.2)
    (hstep : Sprouts p q) : q.1.Registers q.2 := by
  cases hstep with
  | refuse _ _ => exact ⟨h.shows, h.leaf, h.template, h.violations⟩
  | @leaf s gap a site below leaf _ geometry materials hslot hsite _ _ _ _ =>
    have hs : ({ s with geometry := geometry, materials := materials } : Scene G M).Registers
      (gap.fill a below) := ⟨h.shows, h.leaf, h.template, h.violations⟩
    exact (hs.plant hslot).insertLeaf mem_labels_planted hsite
  | group hslot _ => exact Registers.plant h hslot
  | @container s gap a site below origin violations ev hslot hsite hnote =>
    have hs : ({ s with evaluator := ev } : Scene G M).Registers (gap.fill a below) :=
      ⟨h.shows, h.leaf, h.template, h.violations⟩
    exact (hs.plant hslot).insertTemplate mem_labels_planted hsite hnote violations

/-- **Pruning keeps the registries right**: what stood in the slots that became free is dropped from
all of them, and nothing else is. -/
theorem Registers.reopened (h : s.Registers (gap.fill a below)) {path : String}
    {entry : TemplateEntry} (hentry : s.templates.get? path = some entry)
    (ha : entry.container = a.slot) (ev : Evaluator) (violations : List Violation) :
    (s.reopened path a.slot below ev violations).Registers (gap.fill a .nil) := by
  have hstays := get?_templates_pruned h.shows hentry ha
  refine ⟨h.shows.clearChildren.2, fun path slot hget => ?_, fun path entry hget => ?_,
    fun path' => ?_⟩
  · rw [Scene.reopened, pruned, OrderedMap.get?_filter, Option.filter_eq_some_iff,
      Bool.not_eq_true', List.contains_eq_mem, decide_eq_false_iff_not] at hget
    obtain ⟨b, hb, hslot, hrest⟩ := h.leaf path slot hget.1
    exact ⟨b, mem_labels_pruned hb (hslot ▸ hget.2), hslot, hrest⟩
  · rw [Scene.reopened, pruned, OrderedMap.get?_filter, Option.filter_eq_some_iff,
      Bool.not_eq_true', List.contains_eq_mem, decide_eq_false_iff_not] at hget
    obtain ⟨b, hb, hslot, hrest⟩ := h.template path entry hget.1
    exact ⟨b, mem_labels_pruned hb (hslot ▸ hget.2), hslot, hrest⟩
  · -- every pruned template had its rules checked, and the one at `path` is not pruned
    have hsub : (s.pruned a.slot below).violations.contains path' =
        (s.pruned a.slot below).templates.contains path' := by
      have hcontains : (s.pruned a.slot below).templates.contains path' = true →
          s.violations.contains path' = true := fun hpruned =>
        (h.violations path').trans (OrderedMap.contains_of_filter hpruned)
      have hfilter : (s.pruned a.slot below).violations.contains path' =
          (s.violations.contains path' && (s.pruned a.slot below).templates.contains path') :=
        OrderedMap.contains_filter_keys ..
      rw [hfilter, Bool.and_eq_right_iff_imp]
      exact hcontains
    rw [Scene.reopened, OrderedMap.contains_insert, hsub]
    by_cases hp : path' = path
    · subst hp
      rw [decide_eq_true rfl, Bool.true_or]
      symm
      rw [OrderedMap.contains, hstays]
      rfl
    · rw [decide_eq_false hp, Bool.false_or]

/-- **Every single change keeps the registries right.** -/
theorem Registers.turn {p q : Scene G M × SceneForest} (h : p.1.Registers p.2) (hstep : Turns p q) :
    q.1.Registers q.2 := by
  cases hstep with
  | sprout hsprout => exact h.sprout hsprout
  | prune hentry ha => exact Registers.reopened h hentry ha _ _
  | record hentry ha => exact Registers.recordEdit h hentry ha _ _

theorem Registers.turns {p q : Scene G M × SceneForest} (h : p.1.Registers p.2)
    (hsteps : Relation.ReflTransGen Turns p q) : q.1.Registers q.2 := by
  induction hsteps with
  | refl => exact h
  | tail _ hstep ih => exact ih.turn hstep

end Factories

end Changes

/-! ### Runs -/

/-- The site of the root. -/
def rootSite : Site (Option Origin) := ⟨SceneGraph.rootSlot, "", .default, .root, none⟩

/-- A scene without objects shows the root alone. -/
theorem shows_new : SceneGraph.new.Shows (Forest.cons rootSite .nil .nil) := by
  refine ⟨List.nodup_singleton _, fun slot o => ?_, List.nodup_nil, fun slot => ?_⟩
  · cases slot with
    | zero => simp [SceneGraph.get?, SceneGraph.new, Forest.objects, rootSite, Site.object,
        SceneGraph.rootSlot, Forest.rootSlots, Forest.roots, eq_comm]
    | succ slot => simp [SceneGraph.get?, SceneGraph.new, Forest.objects, rootSite,
        SceneGraph.rootSlot]
  · cases slot <;> simp [SceneGraph.get?, SceneGraph.new]

theorem registers_initial (geometry : G) (materials : M) (evaluator : Evaluator)
    (settings : Settings) (definitions : OrderedMap MaterialDefinition) :
    (initial geometry materials evaluator settings definitions).Registers
      (.cons rootSite .nil .nil) :=
  ⟨shows_new, fun _ _ h => by simp [initial] at h, fun _ _ h => by simp [initial] at h,
    fun _ => rfl⟩

section Runs

variable [GeometryFactory G] [MaterialCache M]

/-- An edit is a sequence of single changes. -/
theorem Registers.apply_turns {s : Scene G M} {f : SceneForest} (h : s.Registers f)
    (e : SceneEdit) : ∃ f', Relation.ReflTransGen Turns (s, f) (s.apply e, f') := by
  have hregenerate : ∀ {s : Scene G M} {f : SceneForest}, s.Registers f → ∀ path,
      ∃ f', Relation.ReflTransGen Turns (s, f) ((s.regenerate path).2, f') := by
    intro s f h path
    cases hentry : s.templates.get? path with
    | none => exact ⟨f, by rw [regenerate_of_get?_none hentry]⟩
    | some entry =>
      obtain ⟨gap, a, below, rfl, ha, -⟩ := h.exists_fill hentry
      obtain ⟨f', hf'⟩ := regenerate_turns h.shows hentry ha
      exact ⟨_, hf'⟩
  cases e with
  | regenerate path => exact hregenerate h path
  | setParameter path name v =>
    rw [apply]
    obtain hsame | ⟨entry, p, p', stored, hentry, -, -, hset⟩ := s.setParameter_cases path name v
    · exact ⟨f, by rw [hsame]⟩
    · obtain ⟨gap, a, below, rfl, ha, -⟩ := h.exists_fill hentry
      obtain ⟨f', hf'⟩ := hregenerate (h.recordEdit hentry ha p' stored) path
      exact ⟨f', by rw [hset]; exact hf'.head (.record hentry ha)⟩

/-- A run of edits is a sequence of single changes. -/
theorem Registers.run_turns {s : Scene G M} {f : SceneForest} (h : s.Registers f)
    (es : List SceneEdit) : ∃ f', Relation.ReflTransGen Turns (s, f) (s.run es, f') := by
  induction es generalizing s f with
  | nil => exact ⟨f, .refl⟩
  | cons e rest ih =>
    obtain ⟨f₁, hf₁⟩ := h.apply_turns e
    obtain ⟨f₂, hf₂⟩ := ih (h.turns hf₁)
    exact ⟨f₂, hf₁.trans hf₂⟩

/-- The scene of a document comes from the root alone by single changes. -/
theorem buildWith_turns (geometry : G) (materials : M) (evaluator : Evaluator) (settings : Settings)
    (d : SceneDocument) :
    ∃ f, Relation.ReflTransGen Turns
      (initial geometry materials (evaluator.setMemoize settings.memoize) settings d.materials,
        .cons rootSite .nil .nil)
      (buildWith geometry materials evaluator settings d, f) := by
  obtain ⟨f, hf⟩ := grows_populate d.templates
    (initial geometry materials (evaluator.setMemoize settings.memoize) settings d.materials)
  exact ⟨_, Relation.ReflTransGen.mono (fun _ _ => Turns.sprout) _ _
    (hf.sprouts (.here .nil) rootSite .nil rfl)⟩

/-- The registries of the scene of a document agree with a forest. -/
theorem registers_buildWith (geometry : G) (materials : M) (evaluator : Evaluator)
    (settings : Settings) (d : SceneDocument) :
    ∃ f, (buildWith geometry materials evaluator settings d).Registers f := by
  obtain ⟨f, hf⟩ := buildWith_turns geometry materials evaluator settings d
  exact ⟨f, (registers_initial geometry materials _ settings d.materials).turns hf⟩

/-- A run of edits of the scene of a document is a sequence of single changes to the root alone. -/
theorem run_turns (geometry : G) (materials : M) (evaluator : Evaluator) (settings : Settings)
    (d : SceneDocument) (es : List SceneEdit) :
    ∃ f, Relation.ReflTransGen Turns
      (initial geometry materials (evaluator.setMemoize settings.memoize) settings d.materials,
        .cons rootSite .nil .nil)
      ((buildWith geometry materials evaluator settings d).run es, f) := by
  obtain ⟨f, hf⟩ := buildWith_turns geometry materials evaluator settings d
  obtain ⟨f', hf'⟩ := Registers.run_turns
    ((registers_initial geometry materials _ settings d.materials).turns hf) es
  exact ⟨f', hf.trans hf'⟩

/-- **No entry of a registry is ever stale.** In every scene that edits lead to, registered leaves and
containers are live, of the right kind and named by their paths, and rules were checked for exactly
the registered templates. -/
theorem consistent_run_buildWith (geometry : G) (materials : M) (evaluator : Evaluator)
    (settings : Settings) (d : SceneDocument) (es : List SceneEdit) :
    ((buildWith geometry materials evaluator settings d).run es).Consistent := by
  obtain ⟨f, hf⟩ := run_turns geometry materials evaluator settings d es
  exact ((registers_initial geometry materials _ settings d.materials).turns hf).consistent

end Runs

end Scene

end ParametricScene
