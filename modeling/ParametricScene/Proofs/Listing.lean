import ParametricScene.Proofs.Rebuilding

/-!
# Registries that list everything

That an entry of a registry refers to the right object is true of every scene. The converse is not: an
object is lost from the registries when a later one takes its path. Where no two objects have one
path, nothing is lost, and the registries list the whole forest: every leaf, every container with the
template it was built from, and the rules this template violates.

## How it is proved

Building touches the registries at the paths of what it builds and nowhere else. `Scene.Records` says
so, and what is found at those paths afterwards. Two runs of building one after another are put together
by `Records.append`, which is the only place where distinct paths are needed for building. Editing
needs them once more, for what is around the container.

## Main definitions

* `Forest.names` — the paths in a forest
* `Scene.Lists` — the registries list all given sites
* `Scene.Records` — from one scene to another the given sites were registered and nothing else

## Main results

* `Scene.Grows.records` — building registers what it builds
* `Scene.Rebuild.lists` — after an edit the registries list everything again
-/

namespace ParametricScene

open Evaluator (value)

/-- The paths in a forest in depth-first order. -/
def Forest.names {ρ : Type} (f : Forest (Site ρ)) : List String := f.labels.map Site.name

namespace Scene

variable {G M : Type}

/-- The registries list every one of the sites that is a leaf or a container. -/
structure Lists (s : Scene G M) (r : Registry) (sites : List (Site (Option Origin))) : Prop where
  leaf : ∀ a ∈ sites, ∀ l, a.kind = .leaf l → s.leaves.get? a.name = some a.slot
  template : ∀ a ∈ sites, ∀ o, a.note = some o →
    s.templates.get? a.name = some ⟨a.slot, o.1, o.2⟩ ∧
      s.violations.get? a.name = some (value r (Evaluator.violations o.1.toTemplateHeader))

/-- The sites were registered between the first scene and the second, and nothing was registered at
any path but theirs. -/
structure Records (r : Registry) (s : Scene G M) (sites : List (Site (Option Origin)))
    (s' : Scene G M) : Prop where
  lists : s'.Lists r sites
  leaves_of_ne : ∀ path ∉ sites.map Site.name, s'.leaves.get? path = s.leaves.get? path
  templates_of_ne : ∀ path ∉ sites.map Site.name, s'.templates.get? path = s.templates.get? path
  violations_of_ne : ∀ path ∉ sites.map Site.name, s'.violations.get? path = s.violations.get? path

section Lists

variable {r : Registry} {s s' s₁ : Scene G M} {sites more : List (Site (Option Origin))}
  {site : Site (Option Origin)}

theorem Lists.append (h : s.Lists r sites) (h' : s.Lists r more) : s.Lists r (sites ++ more) :=
  ⟨fun a ha => (List.mem_append.mp ha).elim (h.leaf a) (h'.leaf a),
    fun a ha => (List.mem_append.mp ha).elim (h.template a) (h'.template a)⟩

theorem Lists.subset (h : s.Lists r more) (hsub : sites ⊆ more) : s.Lists r sites :=
  ⟨fun a ha => h.leaf a (hsub ha), fun a ha => h.template a (hsub ha)⟩

/-- What was listed stays listed while other paths are registered. -/
theorem Lists.keep (h : s.Lists r sites) (hrecords : Records r s more s')
    (hdisjoint : List.Disjoint (sites.map Site.name) (more.map Site.name)) : s'.Lists r sites := by
  have hne : ∀ a ∈ sites, a.name ∉ more.map Site.name := fun a ha =>
    hdisjoint (List.mem_map.mpr ⟨a, ha, rfl⟩)
  refine ⟨fun a ha l hl => ?_, fun a ha o ho => ?_⟩
  · rw [hrecords.leaves_of_ne _ (hne a ha)]
    exact h.leaf a ha l hl
  · rw [hrecords.templates_of_ne _ (hne a ha), hrecords.violations_of_ne _ (hne a ha)]
    exact h.template a ha o ho

theorem records_nil (hleaves : s'.leaves = s.leaves) (htemplates : s'.templates = s.templates)
    (hviolations : s'.violations = s.violations) : Records r s [] s' :=
  ⟨⟨fun _ ha => absurd ha List.not_mem_nil, fun _ ha => absurd ha List.not_mem_nil⟩,
    fun _ _ => by rw [hleaves], fun _ _ => by rw [htemplates], fun _ _ => by rw [hviolations]⟩

/-- **Registering in two goes**, with distinct paths. -/
theorem Records.append (h : Records r s sites s₁) (h' : Records r s₁ more s')
    (hnodup : ((sites ++ more).map Site.name).Nodup) : Records r s (sites ++ more) s' := by
  rw [List.map_append, List.nodup_append'] at hnodup
  have hne : ∀ path, path ∉ (sites ++ more).map Site.name →
      path ∉ sites.map Site.name ∧ path ∉ more.map Site.name := fun path hpath => by
    rwa [List.map_append, List.mem_append, not_or] at hpath
  refine ⟨(h.lists.keep h' hnodup.2.2).append h'.lists, fun path hpath => ?_, fun path hpath => ?_,
    fun path hpath => ?_⟩
  · exact (h'.leaves_of_ne path (hne path hpath).2).trans (h.leaves_of_ne path (hne path hpath).1)
  · exact (h'.templates_of_ne path (hne path hpath).2).trans
      (h.templates_of_ne path (hne path hpath).1)
  · exact (h'.violations_of_ne path (hne path hpath).2).trans
      (h.violations_of_ne path (hne path hpath).1)

/-! ### One object more -/

theorem records_plant (parent : Nat) (hkind : site.kind = .group) (hnote : site.note = none) :
    Records r s [site] (s.plant parent site) := by
  refine ⟨⟨fun a ha l hl => ?_, fun a ha o ho => ?_⟩, fun _ _ => rfl, fun _ _ => rfl, fun _ _ => rfl⟩
  · rw [List.mem_singleton.mp ha, hkind] at hl
    exact ObjectKind.noConfusion hl
  · rw [List.mem_singleton.mp ha, hnote] at ho
    cases ho

theorem records_plantLeaf (parent : Nat) (hnote : site.note = none) :
    Records r s [site] (s.plantLeaf parent site) := by
  refine ⟨⟨fun a ha l hl => ?_, fun a ha o ho => ?_⟩, fun path hpath => ?_, fun _ _ => rfl,
    fun _ _ => rfl⟩
  · rw [List.mem_singleton.mp ha]
    exact OrderedMap.get?_insert_self ..
  · rw [List.mem_singleton.mp ha, hnote] at ho
    cases ho
  · exact OrderedMap.get?_insert_of_ne _ _ fun heq => hpath (by simp [heq])

theorem records_plantContainer (parent : Nat) {origin : Origin} (hkind : site.kind = .container)
    (hnote : site.note = some origin) {violations : List Violation}
    (hviolations : violations = value r (Evaluator.violations origin.1.toTemplateHeader)) :
    Records r s [site] (s.plantContainer parent site origin violations) := by
  refine ⟨⟨fun a ha l hl => ?_, fun a ha o ho => ?_⟩, fun _ _ => rfl, fun path hpath => ?_,
    fun path hpath => ?_⟩
  · rw [List.mem_singleton.mp ha, hkind] at hl
    exact ObjectKind.noConfusion hl
  · rw [List.mem_singleton.mp ha] at ho ⊢
    obtain rfl := Option.some.inj (hnote.symm.trans ho)
    rw [← hviolations]
    exact ⟨OrderedMap.get?_insert_self .., OrderedMap.get?_insert_self ..⟩
  · exact OrderedMap.get?_insert_of_ne _ _ fun heq => hpath (by simp [heq])
  · exact OrderedMap.get?_insert_of_ne _ _ fun heq => hpath (by simp [heq])

/-- A site, what stands below it, and what stands beside it, registered in this order. -/
theorem Records.cons {s₂ : Scene G M} {below beside : SceneForest} (h : Records r s [site] s₁)
    (hbelow : Records r s₁ below.labels s₂) (hbeside : Records r s₂ beside.labels s')
    (hnodup : (Forest.cons site below beside).names.Nodup) :
    Records r s (Forest.cons site below beside).labels s' := by
  have hlabels : (Forest.cons site below beside).labels =
      ([site] ++ below.labels) ++ beside.labels := rfl
  rw [Forest.names, hlabels] at hnodup
  rw [hlabels]
  have hleft := hnodup
  rw [List.map_append] at hleft
  exact (h.append hbelow hleft.of_append_left).append hbeside hnodup

/-- Paths that are distinct in a forest are so in its parts. -/
theorem nodup_names_of_cons {below beside : SceneForest}
    (h : (Forest.cons site below beside).names.Nodup) : below.names.Nodup ∧ beside.names.Nodup := by
  have hlabels : (Forest.cons site below beside).names =
      site.name :: (below.names ++ beside.names) := by
    simp [Forest.names, Forest.labels]
  rw [hlabels, List.nodup_cons, List.nodup_append'] at h
  exact ⟨h.2.1, h.2.2.1⟩

end Lists

/-! ### Building -/

/-- **Building registers what it builds** and nothing else, if all of it has paths of its own. -/
theorem Grows.records [MaterialCache M] {P : Plan}
    {admits : Admission} (hr : P.functions.IsPure)
    {s s' : Scene MeshFactory M} {parent : Nat} {path : String} {nodes : List PlacedNode}
    {f : SceneForest} (h : Grows s parent path nodes f s') (hs : s.Ready P admits)
    (hclean : PlacedNode.CleanAll nodes) (hnodup : f.names.Nodup) :
    Records P.functions s f.labels s' := by
  induction h with
  | done => exact records_nil rfl rfl rfl
  | unknown _ _ ih => exact ih hs hclean.2 hnodup
  | @refused s _ _ _ piece _ _ _ hkind hcreate _ _ =>
    exact absurd (congrArg Prod.fst hcreate)
      (MeshFactory.create_ne_none hkind piece.dimensions s.geometry)
  | @leaf s _ parent path piece _ _ geometry materials leaf _ _ _ _ _ ih =>
    have hplant := records_plantLeaf (r := P.functions)
      (s := { s with geometry := geometry, materials := materials }) parent
      (rfl : (s.leafSite path piece leaf).note = none)
    have hone : Records P.functions s [s.leafSite path piece leaf] _ :=
      ⟨hplant.lists, hplant.leaves_of_ne, hplant.templates_of_ne, hplant.violations_of_ne⟩
    have hnone : ∀ t : Scene MeshFactory M,
        Records P.functions t (Forest.nil : SceneForest).labels t :=
      fun _ => records_nil rfl rfl rfl
    exact hone.cons (hnone _)
      (ih ⟨hs.evaluator, hs.cap, hs.definitions, hs.admits⟩ hclean.2 (List.nodup_cons.mp hnodup).2)
      hnodup
  | @group s _ _ parent path id name transform _ _ below beside hbelow _ ihBelow ih =>
    obtain ⟨hnodupBelow, hnodupBeside⟩ := nodup_names_of_cons hnodup
    have hstart : (s.plant parent (s.groupSite path id name transform)).Ready P admits :=
      ⟨hs.evaluator, hs.cap, hs.definitions, hs.admits⟩
    exact (records_plant parent rfl rfl).cons (ihBelow hstart hclean.1 hnodupBelow)
      (ih (hbelow.renders hr hstart hclean.1).2 hclean.2 hnodupBeside) hnodup
  | @template s _ _ parent path t ctx transform violations nodes _ ev₁ ev₂ ev₃ below beside
      hplacement hviolations hexpand hbelow _ ihBelow ih =>
    obtain ⟨⟨ht, hctx⟩, hcleanRest⟩ := hclean
    obtain ⟨hnodupBelow, hnodupBeside⟩ := nodup_names_of_cons hnodup
    obtain ⟨htransform, hrules, hnodes, hev₃, hcleanNodes⟩ :=
      hs.opens hr ht hctx hplacement hviolations hexpand
    have hstart : (({ s with evaluator := ev₃ } : Scene MeshFactory M).plantContainer parent
        (s.containerSite path t.id transform (s.originOf path t ctx)) (s.originOf path t ctx)
        violations).Ready P admits := ⟨hev₃, hs.cap, hs.definitions, hs.admits⟩
    have hsite : (s.containerSite path t.id transform (s.originOf path t ctx)).kind = .container :=
      rfl
    have hplant := records_plantContainer (s := { s with evaluator := ev₃ }) parent hsite rfl hrules
    have hone : Records P.functions s [s.containerSite path t.id transform (s.originOf path t ctx)]
        _ :=
      ⟨hplant.lists, hplant.leaves_of_ne, hplant.templates_of_ne, hplant.violations_of_ne⟩
    exact hone.cons (ihBelow hstart hcleanNodes hnodupBelow)
      (ih (hbelow.renders hr hstart hcleanNodes).2 hcleanRest hnodupBeside) hnodup

/-! ### Distinct paths -/

/-- No two objects below the root have one path. -/
def PathsDistinct (f : SceneForest) : Prop :=
  ∀ under, f = .cons rootSite under .nil → under.names.Nodup

/-- The root needs no entry. -/
theorem lists_root (s : Scene G M) (r : Registry) : s.Lists r [rootSite] := by
  refine ⟨fun a ha l hl => ?_, fun a ha o ho => ?_⟩
  · rw [List.mem_singleton.mp ha] at hl
    cases hl
  · rw [List.mem_singleton.mp ha] at ho
    cases ho

section Editing

variable [MaterialCache M] {P : Plan} {admits : Admission}
  {ts : List Template}

/-- The registries of the scene of a document list everything. -/
theorem lists_of_grows (hr : P.functions.IsPure) {s s' : Scene MeshFactory M} {f : SceneForest}
    (h : Grows s SceneGraph.rootSlot "" (ts.map fun t => .template t ∅) f s')
    (hready : s.Ready P admits) (hclean : ∀ t ∈ ts, t.Clean)
    (hdistinct : PathsDistinct (.cons rootSite f .nil)) :
    s'.Lists P.functions (Forest.cons rootSite f .nil).labels := by
  have hrecords := h.records hr hready (cleanAll_roots hclean) (hdistinct f rfl)
  refine ((lists_root s' P.functions).append hrecords.lists).subset ?_
  simp [Forest.labels]

/-- What is listed around a container is still listed when everything below it was pruned, and the
container itself is listed with the template that is built next. -/
theorem Rebuild.lists_around {r : Registry} {e : SceneEdit} {p q : Scene MeshFactory M × SceneForest}
    (h : Rebuild r e p q) (hp : p.1.Registers p.2) (hlists : p.1.Lists r p.2.labels)
    (hne : ∀ a ∈ h.gap.before ++ h.gap.after, a.note ≠ none → a.name ≠ h.path) :
    (h.written.reopened h.path h.site.slot h.below h.ev
        (value r (Evaluator.violations h.entry.template.toTemplateHeader))).Lists r
      ({ h.site with note := some (h.entry.template, h.entry.surroundings) } ::
        (h.gap.before ++ h.gap.after)) := by
  have hshows : p.1.graph.Shows (h.gap.fill h.site h.below) := h.before ▸ hp.shows
  have hmem : ∀ a ∈ h.gap.before ++ h.gap.after, a ∈ p.2.labels := fun a ha =>
    h.before ▸ Forest.Gap.mem_labels_fill.mpr (Or.inr (Or.inr ha))
  -- nothing around the container stands in a slot that was given free
  have hstays : ∀ a ∈ h.gap.before ++ h.gap.after,
      (!h.below.slots.contains a.slot) = true := fun a ha => by
    have hdisjoint := (Forest.Gap.around_of_nodup hshows.nodup).2.2
    rw [Bool.not_eq_true', List.contains_eq_mem, decide_eq_false_iff_not]
    exact hdisjoint (List.mem_cons_of_mem _ (List.mem_map.mpr ⟨a, ha, rfl⟩))
  have hentry : (h.written.pruned h.site.slot h.below).templates.get? h.path = some h.entry := by
    have hwritten : h.written.graph.Shows (h.gap.fill h.site h.below) := by
      rw [h.amends.frame]
      exact hshows
    exact get?_templates_pruned hwritten h.amends.get? h.slot
  refine ⟨fun a ha l hl => ?_, fun a ha o ho => ?_⟩
  · rcases List.mem_cons.mp ha with rfl | ha
    · rw [h.kind] at hl
      cases hl
    · have hleaves : h.written.leaves = p.1.leaves := by rw [h.amends.frame]
      rw [reopened, pruned, OrderedMap.get?_filter, hleaves, hlists.leaf a (hmem a ha) l hl,
        Option.filter_some, if_pos (hstays a ha)]
  · rcases List.mem_cons.mp ha with rfl | ha
    · obtain rfl := Option.some.inj ho
      refine ⟨?_, ?_⟩
      · rw [h.name, reopened, hentry, ← h.slot]
      · rw [h.name, reopened, OrderedMap.get?_insert_self]
    · obtain ⟨htemplate, hrules⟩ := hlists.template a (hmem a ha) o ho
      have hname := hne a ha (ho ▸ Option.some_ne_none o)
      have hpruned : (h.written.pruned h.site.slot h.below).templates.get? a.name =
          some ⟨a.slot, o.1, o.2⟩ := by
        rw [pruned, OrderedMap.get?_filter, h.amends.get?_of_ne hname, htemplate,
          Option.filter_some, if_pos (hstays a ha)]
      have hviolations : h.written.violations = p.1.violations := by rw [h.amends.frame]
      refine ⟨hpruned, ?_⟩
      have hfilter : (h.written.pruned h.site.slot h.below).violations =
          p.1.violations.filter fun path _ =>
            (h.written.pruned h.site.slot h.below).templates.contains path := by
        rw [← hviolations]
        rfl
      rw [reopened, OrderedMap.get?_insert_of_ne _ _ hname, hfilter, OrderedMap.get?_filter, hrules,
        Option.filter_some, if_pos]
      rw [OrderedMap.contains, hpruned]
      rfl

/-- No other container has the path of the one that is edited. -/
theorem Rebuild.name_ne {r : Registry} {e : SceneEdit} {p q : Scene MeshFactory M × SceneForest}
    (h : Rebuild r e p q) (hp : p.1.Rendered P admits ts p.2) (hdistinct : PathsDistinct p.2) :
    ∀ a ∈ h.gap.before ++ h.gap.after, a.note ≠ none → a.name ≠ h.path := by
  intro a ha hnote heq
  obtain ⟨under, hroot, -⟩ := hp.renders
  obtain ⟨inner, hgap, rfl⟩ := exists_within (h.before.symm.trans hroot) h.kind
  obtain ⟨-, hne, -⟩ := Forest.Gap.around_of_nodup (hdistinct _ hroot)
  rw [hgap] at ha
  simp only [Forest.Gap.before, Forest.Gap.after, Forest.labels, List.append_nil, List.cons_append,
    List.mem_cons] at ha
  rcases ha with rfl | ha
  · exact hnote rfl
  · exact hne a ha (heq.trans h.name.symm)

/-- **After an edit the registries list everything again**, if paths are distinct before and after
it. -/
theorem Rebuild.lists (hr : P.functions.IsPure) {e : SceneEdit}
    {p q : Scene MeshFactory M × SceneForest} (h : Rebuild P.functions e p q)
    (hp : p.1.Rendered P admits ts p.2) (hlists : p.1.Lists P.functions p.2.labels)
    (hbefore : PathsDistinct p.2) (hafter : PathsDistinct q.2) :
    q.1.Lists P.functions q.2.labels := by
  obtain ⟨under, hroot, -⟩ := hp.renders
  obtain ⟨inner, hgap, -⟩ := exists_within (h.before.symm.trans hroot) h.kind
  have hfill : h.gap.fill { h.site with note := some (h.entry.template, h.entry.surroundings) }
      h.grown = .cons rootSite (inner.fill { h.site with
        note := some (h.entry.template, h.entry.surroundings) } h.grown) .nil := by
    rw [hgap]
    rfl
  obtain ⟨hgrown, -, hdisjoint⟩ := Forest.Gap.around_of_nodup
    (hafter _ (h.after.trans hfill))
  have hstart := h.lists_around hp.registers hlists (h.name_ne hp hbefore)
  obtain ⟨hcleanOld, hctx⟩ := (hp.inside h.registered).1
  have hgrows := h.grows
  rw [hp.ready.cap] at hgrows
  have hcleanNodes := (Template.steady_expand hr (h.amends.clean h.registered hcleanOld) P.cap hctx).2
  have hready := h.ready_reopened hp.ready (fun _ _ _ => True) fun _ _ => trivial
  have hrecords := hgrows.records hr hready hcleanNodes hgrown
  -- the path of the root may well be the path of something that was built
  have hsub : inner.before ++ inner.after ⊆ h.gap.before ++ h.gap.after :=
    hgap ▸ Forest.Gap.subset_within _ _ _
  have hkept := (hstart.subset (List.cons_subset_cons _ hsub)).keep hrecords hdisjoint
  refine ((lists_root q.1 P.functions).append (hkept.append hrecords.lists)).subset ?_
  rw [h.after, hfill]
  intro a ha
  simp only [Forest.labels, List.append_nil, List.mem_cons, Forest.Gap.mem_labels_fill] at ha
  simp only [List.mem_append, List.mem_cons] at ha ⊢
  tauto

end Editing

end Scene

end ParametricScene
