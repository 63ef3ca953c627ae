import ParametricScene.Proofs.Likeness

/-!
# Editing a scene is building it anew

An edit builds one template again and leaves the rest of the scene as it is. What comes of a whole run
of edits is nevertheless the scene that would have been built at once, had all edits been known: no
trace is left of the order in which they were made, of templates that came and went, or of values that
were overwritten.

This takes three conditions, each of which is needed. Names that are bound have no equals sign, as
for everything about what evaluators remember. No two objects have one path in any scene of the run,
since edits are kept by path. And what an edit stores is stored again when it is offered, since a
rebuild offers what was stored and not what was offered at first.

## Main definitions

* `SceneGraph.PathsDistinct` — no two objects below the root have one path
* `SceneEdit.Settles` — what the edit stores is stored again when it is offered
* `Scene.rebuilt` — the scene that is built when all edits are known
* `Scene.Faithful` — the scene is what its document and its edits say

## Main results

* `Scene.Faithful.apply` — an edit keeps a scene faithful
* `Scene.alike_rebuilt_run_build` — a scene after a run of edits is like the scene built anew
-/

namespace ParametricScene

/-! ### Distinct paths -/

/-- No two objects below the root have one path. -/
def SceneGraph.PathsDistinct (g : SceneGraph) : Prop :=
  ∀ slot slot' o o', slot ≠ rootSlot → slot' ≠ rootSlot → g.get? slot = some o →
    g.get? slot' = some o' → o.name = o'.name → slot = slot'

namespace Scene

/-- Paths are distinct in a graph exactly if they are in the forest that it shows. -/
theorem pathsDistinct_iff {g : SceneGraph} {under : SceneForest}
    (h : g.Shows (.cons rootSite under .nil)) : g.PathsDistinct ↔ under.names.Nodup := by
  have hlabels : (Forest.cons rootSite under .nil).labels = rootSite :: under.labels := by
    simp [Forest.labels]
  have hnodup := h.nodup
  rw [Forest.slots, hlabels, List.map_cons, List.nodup_cons] at hnodup
  have hbelow : ∀ a ∈ under.labels, a.slot ≠ SceneGraph.rootSlot ∧
      ∃ p cs, g.get? a.slot = some (a.object p cs) := fun a ha =>
    ⟨fun heq => hnodup.1 (List.mem_map.mpr ⟨a, ha, heq⟩),
      h.get?_of_mem_labels (hlabels ▸ List.mem_cons_of_mem _ ha)⟩
  constructor
  · intro hg
    refine List.Nodup.map_on (fun a ha b hb hname => ?_) hnodup.2.of_map
    obtain ⟨hroot, p, cs, hget⟩ := hbelow a ha
    obtain ⟨hroot', p', cs', hget'⟩ := hbelow b hb
    exact h.label_unique (hlabels ▸ List.mem_cons_of_mem _ ha)
      (hlabels ▸ List.mem_cons_of_mem _ hb) (hg _ _ _ _ hroot hroot' hget hget' hname)
  · intro hnames slot slot' o o' hroot hroot' hget hget' hname
    have hsite : ∀ slot o, slot ≠ SceneGraph.rootSlot → g.get? slot = some o →
        ∃ a ∈ under.labels, a.slot = slot ∧ a.name = o.name := by
      intro slot o hslot ho
      obtain ⟨a, ha, p, cs, rfl, rfl⟩ :=
        Forest.exists_mem_labels ((h.get?_eq_some_iff slot o).mp ho)
      rw [hlabels] at ha
      rcases List.mem_cons.mp ha with rfl | ha
      · exact absurd rfl hslot
      · exact ⟨a, ha, rfl, rfl⟩
    obtain ⟨a, ha, rfl, hnameA⟩ := hsite slot o hroot hget
    obtain ⟨b, hb, rfl, hnameB⟩ := hsite slot' o' hroot' hget'
    rw [List.inj_on_of_nodup_map hnames ha hb (hnameA.trans (hname.trans hnameB.symm))]

theorem pathsDistinct_of_shows {g : SceneGraph} {f : SceneForest} (h : g.Shows f)
    (hg : g.PathsDistinct) : PathsDistinct f := by
  rintro under rfl
  exact (pathsDistinct_iff h).mp hg

end Scene

/-! ### Edits that settle -/

/-- What the edit stores is stored again when it is offered. -/
def SceneEdit.Settles {G M : Type} (s : Scene G M) : SceneEdit → Prop
  | .regenerate _ => True
  | .setParameter path name v => ∀ entry p p' stored, s.templates.get? path = some entry →
    entry.template.parameters.get? name = some p → p.set v = .ok (p', stored) →
      (p.set stored).map Prod.snd = .ok stored

/-- Where a boolean is accepted, it is stored as it is. -/
theorem ParameterDefinition.eq_of_accept_boolean {d : ParameterDefinition} {b : Bool} {v : Value}
    (h : d.accept (.boolean b) = .ok v) : v = .boolean b := by
  unfold accept at h
  cases hkind : d.kind with
  | number | integer | choice =>
    rw [hkind] at h
    cases h
  | boolean | other =>
    rw [hkind] at h
    exact (Except.ok.inj h).symm

/-- An edit that offers a boolean settles. -/
theorem SceneEdit.settles_boolean {G M : Type} (s : Scene G M) (path name : String) (b : Bool) :
    (SceneEdit.setParameter path name (.boolean b)).Settles s := by
  intro entry p p' stored _ _ hset
  have hsame : stored = .boolean b := by
    cases p with
    | bare source => exact (Prod.mk.inj (Except.ok.inj hset)).2.symm
    | defined d =>
      rw [Parameter.set] at hset
      cases haccept : d.accept (.boolean b) with
      | error e => simp [haccept] at hset
      | ok v =>
        simp only [haccept, Except.ok.injEq, Prod.mk.injEq] at hset
        rw [← hset.2]
        exact ParameterDefinition.eq_of_accept_boolean haccept
  rw [hsame] at hset ⊢
  rw [hset]
  rfl

namespace Scene

section Amends

variable {G M : Type} {s s₁ : Scene G M} {e : SceneEdit} {path : String} {entry : TemplateEntry}

/-- The template that is built next is what all edits make of the template it comes from, the last
one included. -/
theorem Amends.revisedBy (h : s.Amends e path entry s₁) (hsettles : e.Settles s) {container : Nat}
    {old : Template} {ctx : Context} (hold : s.templates.get? path = some ⟨container, old, ctx⟩)
    {t : Template} (ht : revisedBy s.edits path t old) :
    Scene.revisedBy s₁.edits path t entry.template := by
  cases h with
  | keep hentry =>
    obtain rfl := Option.some.inj (hold.symm.trans hentry)
    exact ht
  | @edit _ name v entry p p' stored hentry hp hset =>
    obtain rfl := Option.some.inj (hold.symm.trans hentry)
    have hstored := Parameter.set_stored hset (hsettles _ p p' stored hentry hp hset)
    rw [Scene.revisedBy] at ht
    rw [Scene.revisedBy, Scene.recordEdit, OrderedMap.get?_insert_self, Option.getD_some]
    rw [ht] at hp
    rw [withEdits_insert hp hstored, ← ht]
    rfl

/-- Elsewhere the edits are as before. -/
theorem Amends.revisedBy_of_ne (h : s.Amends e path entry s₁) {k : String} (hk : k ≠ path) :
    Scene.revisedBy s₁.edits k = Scene.revisedBy s.edits k := by
  cases h with
  | keep => rfl
  | edit =>
    unfold Scene.revisedBy
    rw [Scene.recordEdit, OrderedMap.get?_insert_of_ne _ _ hk]

end Amends

/-! ### Faithful scenes -/

/-- The scene is what its document and its edits say, and its registries list all of it. -/
structure Faithful (settings : Settings) (d : SceneDocument) (s : Scene MeshFactory MaterialLibrary)
    (f : SceneForest) : Prop where
  rendered : s.Rendered (planOf settings d) (revisedBy s.edits) d.templates f
  lists : s.Lists Registry.builtin f.labels

section Runs

variable {settings : Settings} {d : SceneDocument}

/-- **An edit keeps a scene faithful**, if it settles and paths are distinct before and after it. -/
theorem Faithful.apply {s : Scene MeshFactory MaterialLibrary} {f : SceneForest}
    (h : s.Faithful settings d f) {e : SceneEdit} (hsettles : e.Settles s)
    (hbefore : s.graph.PathsDistinct) (hafter : (s.apply e).graph.PathsDistinct) :
    ∃ f', (s.apply e).Faithful settings d f' := by
  obtain hsame | ⟨f', hstep, hregisters⟩ := h.rendered.registers.apply_rebuilds
    Registry.isPure_builtin h.rendered.ready.evaluator
    (fun path entry hentry => (h.rendered.inside hentry).1) e
  · rw [hsame]
    exact ⟨f, h⟩
  · have hdistinct := pathsDistinct_of_shows h.rendered.registers.shows hbefore
    have hdistinct' := pathsDistinct_of_shows hregisters.shows hafter
    have hedits := hstep.edits_eq
    refine ⟨f', Rebuild.rendered (P := planOf settings d) (q := (_, f')) Registry.isPure_builtin
      hstep h.rendered hregisters ?_ ?_ ?_, Rebuild.lists (P := planOf settings d) (q := (_, f'))
        Registry.isPure_builtin hstep h.rendered h.lists hdistinct hdistinct'⟩
    · exact fun _ _ => rfl
    · intro t ht
      rw [show (s.apply e).edits = _ from hedits]
      exact hstep.amends.revisedBy hsettles hstep.registered ht
    · intro a ha hnote t built hbuilt
      rw [show (s.apply e).edits = _ from hedits,
        hstep.amends.revisedBy_of_ne (hstep.name_ne h.rendered hdistinct a ha hnote)]
      exact hbuilt

/-- The scene that is built when all edits are known. -/
def rebuilt (settings : Settings) (d : SceneDocument) (edits : OrderedMap (OrderedMap Value)) :
    Scene MeshFactory MaterialLibrary :=
  ((populate d.templates).run (start settings d MeshFactory.empty MaterialLibrary.empty edits)).2

/-- A scene that is built renders the templates of its document with the edits that count, and is
faithful if paths are distinct. -/
theorem rendered_rebuilt (settings : Settings) (hclean : ∀ t ∈ d.templates, t.Clean)
    (edits : OrderedMap (OrderedMap Value)) :
    ∃ f, (rebuilt settings d edits).Rendered (planOf settings d) (revisedBy edits) d.templates f ∧
      (PathsDistinct f → (rebuilt settings d edits).Lists Registry.builtin f.labels) := by
  obtain ⟨f, hf⟩ := grows_populate d.templates
    (start settings d MeshFactory.empty MaterialLibrary.empty edits)
  have hready : (start settings d MeshFactory.empty MaterialLibrary.empty edits).Ready
      (planOf settings d) (revisedBy edits) := ready_start settings d _ _ edits fun _ _ => rfl
  exact ⟨_, rendered_of_grows Registry.isPure_builtin hf (registers_start ..) hready hclean,
    lists_of_grows (P := planOf settings d) Registry.isPure_builtin hf hready hclean⟩

theorem accounts_rebuilt (settings : Settings) (d : SceneDocument)
    (edits : OrderedMap (OrderedMap Value)) : (rebuilt settings d edits).Accounts d.materials := by
  obtain ⟨f, hf⟩ := grows_populate d.templates
    (start settings d MeshAuditor.empty LibraryAuditor.empty edits)
  have haccounts := accounts_of_turns (Relation.ReflTransGen.mono (fun _ _ => Turns.sprout) _ _
    (hf.sprouts (.here .nil) rootSite .nil rfl))
  have hsame : rebuilt settings d edits = (populate d.templates
      (start settings d MeshAuditor.empty LibraryAuditor.empty edits)).2.mapStores
        MeshAuditor.meshes LibraryAuditor.library :=
    congrArg Prod.snd (Follows.populate MeshAuditor.factoryMap_meshes
      LibraryAuditor.cacheMap_library d.templates
        (start settings d MeshAuditor.empty LibraryAuditor.empty edits))
  rw [hsame]
  exact haccounts

/-- **After a run of edits that settle, through scenes with distinct paths, the scene is faithful.** -/
theorem faithful_run (hclean : ∀ t ∈ d.templates, t.Clean) (es : List SceneEdit)
    (hdistinct : ∀ before, before <+: es → ((build settings d).run before).graph.PathsDistinct)
    (hsettles : ∀ before e, before ++ [e] <+: es → e.Settles ((build settings d).run before)) :
    ∃ f, ((build settings d).run es).Faithful settings d f := by
  induction es using List.reverseRecOn with
  | nil =>
    obtain ⟨f, hf, hlists⟩ := rendered_rebuilt settings hclean ∅
    have hgraph : (rebuilt settings d ∅).graph.PathsDistinct := hdistinct [] (List.prefix_refl _)
    have hedits : (rebuilt settings d ∅).edits = ∅ := by
      obtain ⟨f', hf'⟩ := grows_populate d.templates
        (start settings d MeshFactory.empty MaterialLibrary.empty ∅)
      exact hf'.edits_eq
    have hbuild : (build settings d).run [] = rebuilt settings d ∅ := rfl
    rw [hbuild]
    refine ⟨f, ?_, hlists (pathsDistinct_of_shows hf.registers.shows hgraph)⟩
    rw [hedits]
    exact hf
  | append_singleton es e ih =>
    have hprefix : es <+: es ++ [e] := List.prefix_append ..
    obtain ⟨f, hf⟩ := ih (fun before h => hdistinct before (h.trans hprefix))
      fun before e' h => hsettles before e' (h.trans hprefix)
    have hrun : (build settings d).run (es ++ [e]) = ((build settings d).run es).apply e :=
      List.foldl_append ..
    have hafter := hdistinct _ (List.prefix_refl _)
    rw [hrun] at hafter ⊢
    exact hf.apply (hsettles es e (List.prefix_refl _)) (hdistinct es hprefix) hafter

/-- **Incremental regeneration equals a rebuild from scratch.** After a run of edits that settle,
through scenes with distinct paths, the scene is like the scene that is built when all edits are
known. -/
theorem alike_rebuilt_run_build (settings : Settings) (d : SceneDocument)
    (hclean : ∀ t ∈ d.templates, t.Clean) (es : List SceneEdit)
    (hdistinct : ∀ before, before <+: es → ((build settings d).run before).graph.PathsDistinct)
    (hsettles : ∀ before e, before ++ [e] <+: es → e.Settles ((build settings d).run before)) :
    ((build settings d).run es).Alike (rebuilt settings d ((build settings d).run es).edits) := by
  obtain ⟨f, hf⟩ := faithful_run hclean es hdistinct hsettles
  obtain ⟨f', hf', hlists'⟩ := rendered_rebuilt settings hclean
    ((build settings d).run es).edits
  obtain ⟨under, rfl, hunder⟩ := hf.rendered.renders
  obtain ⟨under', rfl, hunder'⟩ := hf'.renders
  have hmarks : under.map Site.mark = under'.map Site.mark :=
    Renders.map_mark_eq (fun _ _ _ _ hu hv => hu.trans hv.symm) hunder hunder'
  have hdistinct' : PathsDistinct (.cons rootSite under' .nil) := by
    rintro _ ⟨⟩
    rw [← Forest.names_eq hmarks]
    exact pathsDistinct_of_shows hf.rendered.registers.shows (hdistinct es (List.prefix_refl es)) _
      rfl
  have hforest : (Forest.cons rootSite under .nil).map Site.mark =
      (Forest.cons rootSite under' .nil).map Site.mark := by
    rw [Forest.map, Forest.map, hmarks]
    rfl
  exact hf.rendered.alike hf' hforest hf.lists (hlists' hdistinct') (accounts_run settings d es)
    (accounts_rebuilt settings d _)

/-! ### A lantern -/

/-- The bulb of a lantern. -/
def lanternBulb : Template where
  id := "bulb"
  generator := none
  transform := ⟨none, none, none⟩
  parameters := OrderedMap.insert ∅ "bright" (.bare (.boolean true))
  expressions := ∅
  constraints := ∅
  nodes := []

/-- A lantern with a switch and a bulb. -/
def lantern : Template where
  id := "lantern"
  generator := none
  transform := ⟨none, none, none⟩
  parameters := OrderedMap.insert ∅ "lit" (.bare (.boolean true))
  expressions := ∅
  constraints := ∅
  nodes := [.template lanternBulb.toTemplateHeader lanternBulb.nodes]

/-- The document of a lantern. -/
def lanternDocument : SceneDocument := ⟨Settings.currentVersion, none, none, [lantern], ∅, none⟩

theorem clean_lantern : ∀ t ∈ lanternDocument.templates, t.Clean := by
  have hclean : ∀ s ∈ ["bright", "lit"], CleanName s := by
    unfold CleanName
    decide
  have hheader : ∀ t : TemplateHeader, t.expressions = ∅ → (∀ k ∈ t.parameters.keys, CleanName k) →
      t.Clean := fun t hexpressions hparameters =>
    ⟨hparameters, fun name hname => by rw [hexpressions] at hname; exact absurd hname List.not_mem_nil⟩
  have hbulb : lanternBulb.toTemplateHeader.Clean := hheader _ rfl fun name hname =>
    hclean name (by rw [List.mem_singleton.mp hname]; simp)
  intro t ht
  obtain rfl := List.mem_singleton.mp ht
  exact ⟨hheader _ rfl fun name hname => hclean name (by rw [List.mem_singleton.mp hname]; simp),
    ⟨hbulb, trivial⟩, trivial⟩

/-- The lantern and its bulb keep their paths. -/
theorem pathsDistinct_lantern (es : List SceneEdit) :
    ((build default lanternDocument).run es).graph.PathsDistinct := by
  obtain ⟨f, hf⟩ := rendered_run default clean_lantern es
  obtain ⟨under, rfl, hunder⟩ := hf.renders
  rw [pathsDistinct_iff hf.registers.shows]
  have hr : (planOf default lanternDocument).functions.IsPure := Registry.isPure_builtin
  obtain ⟨top, _, _, _, _, rfl, htop, hbelow, hbeside⟩ := exists_container hr hunder
  cases hbeside
  obtain ⟨bulb, _, _, _, _, rfl, hbulb, hbelow, hbeside⟩ := exists_container hr hbelow
  cases hbelow
  cases hbeside
  have hname : top.name = _ := congrArg Look.name htop
  have hname' : bulb.name = _ := congrArg Look.name hbulb
  simp only [Forest.names, Forest.labels, List.map_cons, List.map_nil, List.append_nil, hname, hname']
  decide

/-- The bulb of the lantern is dimmed, and then the lantern is switched off. -/
def lanternEdits : List SceneEdit :=
  [.setParameter "lantern.bulb" "bright" (.boolean false),
    .setParameter "lantern" "lit" (.boolean false)]

/-- The bulb that is built again with the lantern is still dimmed, as in a lantern that is built with
both edits. -/
theorem alike_rebuilt_run_build_lantern :
    (∀ t ∈ lanternDocument.templates, t.Clean) ∧
      (∀ before, before <+: lanternEdits →
        ((build default lanternDocument).run before).graph.PathsDistinct) ∧
      (∀ before e, before ++ [e] <+: lanternEdits →
        e.Settles ((build default lanternDocument).run before)) ∧
      ((build default lanternDocument).run lanternEdits).Alike
        (rebuilt default lanternDocument
          ((build default lanternDocument).run lanternEdits).edits) := by
  have hdistinct : ∀ before, before <+: lanternEdits →
      ((build default lanternDocument).run before).graph.PathsDistinct := fun before _ =>
    pathsDistinct_lantern before
  have hsettles : ∀ before e, before ++ [e] <+: lanternEdits →
      e.Settles ((build default lanternDocument).run before) := by
    intro before e hprefix
    have hmem : e ∈ lanternEdits := hprefix.subset (by simp)
    rcases List.mem_cons.mp hmem with rfl | hmem
    · exact SceneEdit.settles_boolean _ _ _ _
    · rw [List.mem_singleton.mp hmem]
      exact SceneEdit.settles_boolean _ _ _ _
  exact ⟨clean_lantern, hdistinct, hsettles,
    alike_rebuilt_run_build default lanternDocument clean_lantern lanternEdits hdistinct hsettles⟩

end Runs

end Scene

end ParametricScene
