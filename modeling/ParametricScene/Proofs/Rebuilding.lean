import ParametricScene.Proofs.Registry
import ParametricScene.Proofs.Rendering

/-!
# Edits rebuild what stands below one container

An edit that is not refused does three things: it may write another value down for a parameter of a
registered template, it prunes what stands below the container of that template, and it builds the
template again. `Scene.Rebuild` is all three in one step, between a scene with its forest and the
scene with its forest after the edit.

A scene that renders the templates of its document still does after such a step. What is admitted may
change with the edits; `Rebuild.rendered` says what that takes.

## Main definitions

* `Scene.Amends` — what an edit writes down before anything is pruned
* `Scene.Rebuild` — an edit as one step
* `Scene.Rendered` — the scene renders templates, and its registries agree with its forest

## Main results

* `Scene.Registers.apply_rebuilds` — an edit changes nothing, or is one step
* `Scene.Rebuild.rendered` — a scene that renders templates still does after an edit
* `Scene.rendered_of_grows` — building templates renders them
* `Scene.exists_container` — what stands for a nested template
* `Scene.rendered_run` — after every run of edits the scene renders the templates of its document
-/

namespace ParametricScene

open Evaluator (value)

/-- The path of the template that an edit is about. -/
def SceneEdit.path : SceneEdit → String
  | .regenerate path => path
  | .setParameter path _ _ => path

namespace Scene

variable {G M : Type}

/-! ### What an edit writes down -/

/-- What an edit of the template at `path` writes down: the registered template as it is built next,
and the scene. -/
inductive Amends (s : Scene G M) : SceneEdit → String → TemplateEntry → Scene G M → Prop where
  | keep {path : String} {entry : TemplateEntry} (hentry : s.templates.get? path = some entry) :
      Amends s (.regenerate path) path entry s
  | edit {path name : String} {v : Value} {entry : TemplateEntry} {p p' : Parameter}
      {stored : Value} (hentry : s.templates.get? path = some entry)
      (hp : entry.template.parameters.get? name = some p) (hset : p.set v = .ok (p', stored)) :
      Amends s (.setParameter path name v) path (editedEntry name p' entry)
        (s.recordEdit path name entry p' stored)

/-- Only the registered templates and the edits are written to. -/
theorem Amends.frame {s s₁ : Scene G M} {e : SceneEdit} {path : String} {entry : TemplateEntry}
    (h : s.Amends e path entry s₁) :
    s₁ = { s with templates := s₁.templates, edits := s₁.edits } := by
  cases h <;> rfl

theorem Amends.path_eq {s s₁ : Scene G M} {e : SceneEdit} {path : String} {entry : TemplateEntry}
    (h : s.Amends e path entry s₁) : path = e.path := by
  cases h <;> rfl

theorem Amends.get? {s s₁ : Scene G M} {e : SceneEdit} {path : String} {entry : TemplateEntry}
    (h : s.Amends e path entry s₁) : s₁.templates.get? path = some entry := by
  cases h with
  | keep hentry => exact hentry
  | edit hentry hp hset => exact OrderedMap.get?_insert_self ..

theorem Amends.get?_of_ne {s s₁ : Scene G M} {e : SceneEdit} {path k : String}
    {entry : TemplateEntry} (h : s.Amends e path entry s₁) (hk : k ≠ path) :
    s₁.templates.get? k = s.templates.get? k := by
  cases h with
  | keep hentry => rfl
  | edit hentry hp hset => exact OrderedMap.get?_insert_of_ne _ _ hk

/-- A clean template stays clean. -/
theorem Amends.clean {s s₁ : Scene G M} {e : SceneEdit} {path : String}
    {entry old : TemplateEntry} (h : s.Amends e path entry s₁)
    (hold : s.templates.get? path = some old) (hclean : old.template.Clean) :
    entry.template.Clean := by
  cases h with
  | keep hentry =>
    obtain rfl := Option.some.inj (hold.symm.trans hentry)
    exact hclean
  | edit hentry hp hset =>
    obtain rfl := Option.some.inj (hold.symm.trans hentry)
    exact clean_of_keys_eq hclean
      (OrderedMap.keys_insert_of_mem _ _ (OrderedMap.mem_keys_iff.mpr (by rw [hp]; rfl)))

/-- Parameters are all that an edit changes of a template. -/
theorem Amends.nodes_eq {s s₁ : Scene G M} {e : SceneEdit} {path : String}
    {entry old : TemplateEntry} (h : s.Amends e path entry s₁)
    (hold : s.templates.get? path = some old) : entry.template.nodes = old.template.nodes := by
  cases h with
  | keep hentry =>
    obtain rfl := Option.some.inj (hold.symm.trans hentry)
    rfl
  | edit hentry hp hset =>
    obtain rfl := Option.some.inj (hold.symm.trans hentry)
    rfl

/-- What an edit writes down keeps the registries right, with the next template as the note of the
container. -/
theorem Amends.registers {s s₁ : Scene G M} {e : SceneEdit} {path : String}
    {entry : TemplateEntry} (h : s.Amends e path entry s₁) {f : SceneForest} (hs : s.Registers f) :
    ∃ (gap : Forest.Gap (Site (Option Origin))) (a : Site (Option Origin)) (below : SceneForest)
      (old : Template), f = gap.fill a below ∧ a.name = path ∧ a.kind = .container ∧
        a.note = some (old, entry.surroundings) ∧ entry.container = a.slot ∧
        s.templates.get? path = some ⟨a.slot, old, entry.surroundings⟩ ∧
        s₁.Registers
          (gap.fill { a with note := some (entry.template, entry.surroundings) } below) := by
  cases h with
  | keep hentry =>
    obtain ⟨gap, a, below, rfl, hslot, hname, hkind, hnote⟩ := hs.exists_fill hentry
    refine ⟨gap, a, below, entry.template, rfl, hname, hkind, hnote, hslot, ?_, ?_⟩
    · rw [hentry, ← hslot]
    · rw [← hnote]
      exact hs
  | @edit _ name _ entry p p' stored hentry hp hset =>
    obtain ⟨gap, a, below, rfl, hslot, hname, hkind, hnote⟩ := hs.exists_fill hentry
    refine ⟨gap, a, below, entry.template, rfl, hname, hkind, hnote, hslot, ?_,
      hs.recordEdit hentry hslot p' stored⟩
    rw [hentry, ← hslot]
    rfl

/-! ### Steps -/

section Steps

variable [GeometryFactory G] [MaterialCache M]

/-- **An edit is refused and changes nothing, or something is written down and the template is built
again.** -/
theorem apply_cases (s : Scene G M) (e : SceneEdit) :
    s.apply e = s ∨ ∃ path entry s₁, s.Amends e path entry s₁ ∧
      s.apply e = (s₁.regenerate path).2 := by
  cases e with
  | regenerate path =>
    cases hentry : s.templates.get? path with
    | none => exact Or.inl (regenerate_of_get?_none hentry)
    | some entry => exact Or.inr ⟨path, entry, s, .keep hentry, rfl⟩
  | setParameter path name v =>
    obtain hsame | ⟨entry, p, p', stored, hentry, hp, hset, happly⟩ :=
      s.setParameter_cases path name v
    · exact Or.inl hsame
    · exact Or.inr ⟨path, _, _, .edit hentry hp hset, happly⟩

/-- **An edit as one step**, from a scene with its forest to another. What the rules and the expansion
of the template come to is what they come to for an evaluator that has done nothing yet. -/
structure Rebuild (r : Registry) (e : SceneEdit) (p q : Scene G M × SceneForest) where
  path : String
  /-- The template as it was built before. -/
  old : Template
  /-- The template as it is built now. -/
  entry : TemplateEntry
  /-- The scene in which nothing was pruned yet. -/
  written : Scene G M
  gap : Forest.Gap (Site (Option Origin))
  site : Site (Option Origin)
  below : SceneForest
  grown : SceneForest
  ev : Evaluator
  amends : p.1.Amends e path entry written
  registered : p.1.templates.get? path = some ⟨site.slot, old, entry.surroundings⟩
  slot : entry.container = site.slot
  name : site.name = path
  kind : site.kind = .container
  note : site.note = some (old, entry.surroundings)
  truthful : ev.Truthful r
  before : p.2 = gap.fill site below
  after : q.2 =
    gap.fill { site with note := some (entry.template, entry.surroundings) } grown
  grows : Grows (written.reopened path site.slot below ev
      (value r (Evaluator.violations entry.template.toTemplateHeader)))
    site.slot path (value r (entry.template.expand p.1.settings.repeatCap entry.surroundings)) grown
    q.1

/-- Growing below a site keeps the registries right. -/
theorem Grows.registers {s s' : Scene G M} {path : String} {nodes : List PlacedNode}
    {grown : SceneForest} {a : Site (Option Origin)} (h : Grows s a.slot path nodes grown s')
    {gap : Forest.Gap (Site (Option Origin))} (hs : s.Registers (gap.fill a .nil)) :
    s'.Registers (gap.fill a grown) := by
  have hsteps := Relation.ReflTransGen.mono (fun _ _ => Turns.sprout) _ _
    (h.sprouts gap a .nil rfl)
  exact Registers.turns (p := (s, gap.fill a .nil)) hs hsteps

/-- An edit changes nothing, or is one step, if the evaluator remembers nothing wrong and all names
are clean. -/
theorem Registers.apply_rebuilds {r : Registry} (hr : r.IsPure) {s : Scene G M} {f : SceneForest}
    (h : s.Registers f) (hev : s.evaluator.Truthful r)
    (hclean : ∀ path entry, s.templates.get? path = some entry →
      entry.template.Clean ∧ entry.surroundings.Clean) (e : SceneEdit) :
    s.apply e = s ∨ ∃ (f' : SceneForest) (_ : Rebuild r e (s, f) (s.apply e, f')),
      (s.apply e).Registers f' := by
  obtain hsame | ⟨path, entry, s₁, hamends, happly⟩ := s.apply_cases e
  · exact Or.inl hsame
  · obtain ⟨gap, a, below, old, rfl, hname, hkind, hnote, hslot, hold, hregisters⟩ :=
      hamends.registers h
    obtain ⟨hcleanOld, hctx⟩ := hclean path _ hold
    have ht : entry.template.Clean := hamends.clean hold hcleanOld
    have hsettings : s₁.settings = s.settings := by rw [hamends.frame]
    have hev₁ : s₁.evaluator.clearCache.Truthful r := by
      rw [hamends.frame]
      exact hev.clearCache
    rcases hviolations : Evaluator.violations entry.template.toTemplateHeader
      s₁.evaluator.clearCache with ⟨violations, ev₂⟩
    rcases hexpand : entry.template.expand s₁.settings.repeatCap entry.surroundings ev₂
      with ⟨nodes, ev₃⟩
    obtain ⟨grown, hgrows⟩ := regenerate_grows hregisters.shows hamends.get? hslot hviolations
      hexpand
    obtain ⟨hviolationsValue, hev₂⟩ := Evaluator.steady_violations hr ht.header _ hev₁
    rw [hviolations] at hviolationsValue hev₂
    obtain ⟨hnodesValue, hev₃⟩ := (Template.steady_expand hr ht s₁.settings.repeatCap hctx).1 _ hev₂
    rw [hexpand] at hnodesValue hev₃
    obtain rfl := hviolationsValue
    obtain rfl := hnodesValue
    rw [hsettings] at hgrows
    rw [happly]
    exact Or.inr ⟨_, ⟨path, old, entry, s₁, gap, a, below, grown, ev₃, hamends, hold, hslot, hname,
      hkind, hnote, hev₃, rfl, rfl, hgrows⟩,
      Grows.registers hgrows (hregisters.reopened hamends.get? hslot _ _)⟩

/-- Nothing is taken off the registry of templates while building. -/
theorem Grows.contains {s s' : Scene G M} {parent : Nat} {path : String} {nodes : List PlacedNode}
    {f : SceneForest} (h : Grows s parent path nodes f s') {k : String}
    (hk : s.templates.contains k = true) : s'.templates.contains k = true := by
  induction h with
  | done => exact hk
  | unknown _ _ ih => exact ih hk
  | refused _ _ _ ih => exact ih hk
  | leaf _ _ _ _ _ ih => exact ih hk
  | group _ _ ihBelow ih => exact ih (ihBelow hk)
  | template _ _ _ _ _ ihBelow ih =>
    refine ih (ihBelow ?_)
    rw [plantContainer, OrderedMap.contains_insert, Bool.or_eq_true]
    exact Or.inr hk

/-- **An edit keeps its own template registered.** -/
theorem contains_apply {s : Scene G M} {f : SceneForest} (h : s.Registers f) (e : SceneEdit)
    (hpath : s.templates.contains e.path = true) :
    (s.apply e).templates.contains e.path = true := by
  obtain hsame | ⟨path, entry, s₁, hamends, happly⟩ := s.apply_cases e
  · rw [hsame]
    exact hpath
  · obtain ⟨gap, a, below, old, rfl, -, -, -, hslot, -, hregisters⟩ := hamends.registers h
    obtain ⟨grown, violations, ev₁, ev₂, hgrows⟩ := exists_regenerate_grows hregisters.shows
      hamends.get? hslot
    rw [happly, ← hamends.path_eq]
    refine hgrows.contains ?_
    have hstays := get?_templates_pruned hregisters.shows hamends.get? hslot
    rw [reopened, OrderedMap.contains, hstays]
    rfl

/-- Edits of one template keep it registered. -/
theorem contains_run {s : Scene G M} {f : SceneForest} (h : s.Registers f) {path : String}
    (hpath : s.templates.contains path = true) (es : List SceneEdit)
    (hes : ∀ e ∈ es, e.path = path) : (s.run es).templates.contains path = true := by
  induction es generalizing s f with
  | nil => exact hpath
  | cons e rest ih =>
    have he : e.path = path := hes e (List.mem_cons_self ..)
    obtain ⟨f', hf'⟩ := h.apply_turns e
    have hstays := contains_apply h e (he.symm ▸ hpath)
    rw [he] at hstays
    exact ih (h.turns hf') hstays fun e' he' => hes e' (List.mem_cons_of_mem _ he')

end Steps

/-! ### Scenes that render templates -/

/-- The scene renders the templates below its root, is set up as the plan says, and has registries
that agree with its forest. -/
structure Rendered (s : Scene G M) (P : Plan) (admits : Admission)
    (ts : List Template) (f : SceneForest) : Prop where
  registers : s.Registers f
  ready : s.Ready P admits
  renders : ∃ below, f = .cons rootSite below .nil ∧
    Renders P admits "" (ts.map fun t => .template t ∅) below

/-- What is not the root stands below the root. -/
theorem exists_within {gap : Forest.Gap (Site (Option Origin))} {a : Site (Option Origin)}
    {below under : SceneForest} (h : gap.fill a below = .cons rootSite under .nil)
    (ha : a.kind = .container) :
    ∃ inner : Forest.Gap (Site (Option Origin)), gap = .within rootSite inner .nil ∧
      under = inner.fill a below := by
  cases gap with
  | here beside =>
    cases h
    cases ha
  | within b inner beside =>
    cases h
    exact ⟨inner, rfl, rfl⟩
  | past b beneath inner => cases inner <;> cases h

section Rendered

variable {P : Plan} {admits admits' : Admission} {ts : List Template}

/-- **Every registered template is rendered** below its container. -/
theorem Rendered.inside {s : Scene G M} {f : SceneForest} (h : s.Rendered P admits ts f)
    {path : String} {entry : TemplateEntry} (hentry : s.templates.get? path = some entry) :
    (entry.template.Clean ∧ entry.surroundings.Clean) ∧
      ∃ (gap : Forest.Gap (Site (Option Origin))) (a : Site (Option Origin)) (below : SceneForest),
        f = gap.fill a below ∧ entry.container = a.slot ∧ a.name = path ∧ a.kind = .container ∧
          Renders P admits path
            (value P.functions (entry.template.expand P.cap entry.surroundings)) below := by
  obtain ⟨gap, a, below, rfl, hslot, hname, hkind, hnote⟩ := h.registers.exists_fill hentry
  obtain ⟨under, hroot, hrenders⟩ := h.renders
  obtain ⟨inner, -, rfl⟩ := exists_within hroot hkind
  obtain ⟨hclean, hbelow⟩ := hrenders.inside hnote
  exact ⟨hclean, gap, a, below, rfl, hslot, hname, hkind, hname ▸ hbelow⟩

/-- The nodes of a document with clean templates. -/
theorem cleanAll_roots (hclean : ∀ t ∈ ts, t.Clean) :
    PlacedNode.CleanAll (ts.map fun t => .template t ∅) := by
  induction ts with
  | nil => exact trivial
  | cons t rest ih =>
    exact ⟨⟨hclean t (List.mem_cons_self ..), Context.clean_empty⟩,
      ih fun u hu => hclean u (List.mem_cons_of_mem _ hu)⟩

variable [MaterialCache M]

/-- **Building templates renders them.** -/
theorem rendered_of_grows (hr : P.functions.IsPure) {s s' : Scene MeshFactory M} {f : SceneForest}
    (h : Grows s SceneGraph.rootSlot "" (ts.map fun t => .template t ∅) f s')
    (hs : s.Registers (.cons rootSite .nil .nil)) (hready : s.Ready P admits)
    (hclean : ∀ t ∈ ts, t.Clean) : s'.Rendered P admits ts (.cons rootSite f .nil) := by
  obtain ⟨hrenders, hready'⟩ := h.renders hr hready (cleanAll_roots hclean)
  have hregisters : s'.Registers ((Forest.Gap.here .nil).fill rootSite f) :=
    Grows.registers (a := rootSite) h hs
  exact ⟨hregisters, hready', f, rfl, hrenders⟩

/-- Edits stay as they are while templates are built. -/
theorem Grows.edits_eq [GeometryFactory G] {s s' : Scene G M} {parent : Nat} {path : String}
    {nodes : List PlacedNode} {f : SceneForest} (h : Grows s parent path nodes f s') :
    s'.edits = s.edits := by
  induction h with
  | done => rfl
  | unknown _ _ ih => exact ih
  | refused _ _ _ ih => exact ih
  | leaf _ _ _ _ _ ih => exact ih
  | group _ _ ihBelow ih => exact ih.trans ihBelow
  | template _ _ _ _ _ ihBelow ih => exact ih.trans ihBelow

/-- After an edit the edits are those that were written down. -/
theorem Rebuild.edits_eq [GeometryFactory G] {r : Registry} {e : SceneEdit}
    {p q : Scene G M × SceneForest} (h : Rebuild r e p q) : q.1.edits = h.written.edits :=
  h.grows.edits_eq

/-- The scene in which a template is built again is ready for it. -/
theorem Rebuild.ready_reopened [GeometryFactory G] {e : SceneEdit} {p q : Scene G M × SceneForest}
    (h : Rebuild P.functions e p q) (hp : p.1.Ready P admits) (admits' : Admission)
    (hadmits : ∀ path t, admits' path t (withEdits (h.written.editsAt path) t)) :
    (h.written.reopened h.path h.site.slot h.below h.ev (value P.functions
      (Evaluator.violations h.entry.template.toTemplateHeader))).Ready P admits' := by
  refine ⟨h.truthful, ?_, ?_, hadmits⟩
  · rw [h.amends.frame]
    exact hp.cap
  · rw [h.amends.frame]
    exact hp.definitions

/-- **A scene that renders templates still does after an edit.** What the edits after it make of a
template has to be admitted then. The edited template has to be admitted where the template was before,
and elsewhere what was admitted has to stay admitted. -/
theorem Rebuild.rendered (hr : P.functions.IsPure) {e : SceneEdit}
    {p q : Scene MeshFactory M × SceneForest} (h : Rebuild P.functions e p q)
    (hp : p.1.Rendered P admits ts p.2) (hq : q.1.Registers q.2)
    (hready : ∀ path t, admits' path t (withEdits (q.1.editsAt path) t))
    (hadmits : ∀ t, admits h.path t h.old → admits' h.path t h.entry.template)
    (hmono : StillAdmits admits admits' (h.gap.before ++ h.gap.after)) :
    q.1.Rendered P admits' ts q.2 := by
  obtain ⟨hcleanOld, hctx⟩ := (hp.inside h.registered).1
  have ht : h.entry.template.Clean := h.amends.clean h.registered hcleanOld
  have hstart := h.ready_reopened hp.ready admits' fun path t => by
    have hadmitted := hready path t
    rw [editsAt, h.edits_eq] at hadmitted
    exact hadmitted
  have hgrows := h.grows
  rw [hp.ready.cap] at hgrows
  obtain ⟨hgrown, hafter⟩ := hgrows.renders hr hstart (Template.steady_expand hr ht P.cap hctx).2
  obtain ⟨under, hroot, hrenders⟩ := hp.renders
  obtain ⟨inner, hgap, rfl⟩ := exists_within (h.before.symm.trans hroot) h.kind
  refine ⟨hq, hafter, inner.fill { h.site with
    note := some (h.entry.template, h.entry.surroundings) } h.grown, ?_, ?_⟩
  · rw [h.after, hgap]
    rfl
  · rw [hgap] at hmono
    refine hrenders.refill rfl h.note rfl ht (fun t hold => ?_)
      (hmono.subset (Forest.Gap.subset_within _ _ _)) (h.name ▸ hgrown)
    rw [h.name] at hold ⊢
    exact hadmits t hold

end Rendered

/-! ### Runs -/

/-- What a scene of a document depends on. -/
def planOf (settings : Settings) (d : SceneDocument) : Plan :=
  ⟨Registry.builtin, settings.repeatCap, d.materials⟩

theorem truthful_evaluator (settings : Settings) :
    settings.evaluator.Truthful Registry.builtin :=
  (Evaluator.truthful_ofRegistry Registry.builtin).setMemoize settings.memoize

/-- A scene without objects in which some edits count already. -/
def start (settings : Settings) (d : SceneDocument) (geometry : G) (materials : M)
    (edits : OrderedMap (OrderedMap Value)) : Scene G M :=
  { initial geometry materials (settings.evaluator.setMemoize settings.memoize) settings
      d.materials with edits := edits }

theorem ready_start (settings : Settings) (d : SceneDocument) (geometry : G) (materials : M)
    (edits : OrderedMap (OrderedMap Value)) {admits : Admission}
    (hadmits : ∀ path t, admits path t (withEdits ((edits.get? path).getD ∅) t)) :
    (start settings d geometry materials edits).Ready (planOf settings d) admits :=
  ⟨(truthful_evaluator settings).setMemoize settings.memoize, rfl, rfl, hadmits⟩

theorem registers_start (settings : Settings) (d : SceneDocument) (geometry : G) (materials : M)
    (edits : OrderedMap (OrderedMap Value)) :
    (start settings d geometry materials edits).Registers (.cons rootSite .nil .nil) := by
  obtain ⟨hshows, hleaf, htemplate, hviolations⟩ := registers_initial geometry materials
    (settings.evaluator.setMemoize settings.memoize) settings d.materials
  exact ⟨hshows, hleaf, htemplate, hviolations⟩

/-- A template admits all that have its nodes. -/
def sameNodes : Admission := fun _ t built => built.nodes = t.nodes

/-- A container stands for a nested template, with its nodes expanded below it. -/
theorem exists_container {P : Plan} (hr : P.functions.IsPure) {path : String} {t : Template}
    {ctx : Context} {rest : List PlacedNode} {f : SceneForest}
    (h : Renders P sameNodes path (.template t ctx :: rest) f) :
    ∃ a below beside placement inner, f = .cons a below beside ∧
      a.look = ⟨joinPath path t.id, placement, .container⟩ ∧
      Renders P sameNodes (joinPath path t.id)
        (value P.functions (BuildNode.expandAll P.cap t.nodes inner)) below ∧
      Renders P sameNodes path rest beside := by
  cases h with
  | template hlook _ hnodes hclean hbelow hrest =>
    rw [show Site.name _ = _ from congrArg Look.name hlook, Template.value_expand hr hclean.1 _ hclean.2,
      show Template.nodes _ = _ from hnodes] at hbelow
    exact ⟨_, _, _, _, _, rfl, hlook, hbelow, hrest⟩

/-- **After every run of edits the scene renders the templates of its document**, with parameters as
the edits have left them. -/
theorem rendered_run (settings : Settings) {d : SceneDocument} (hclean : ∀ t ∈ d.templates, t.Clean)
    (es : List SceneEdit) :
    ∃ f, ((build settings d).run es).Rendered (planOf settings d) sameNodes d.templates f := by
  induction es using List.reverseRecOn with
  | nil =>
    obtain ⟨f, hf⟩ := grows_populate d.templates
      (start settings d MeshFactory.empty MaterialLibrary.empty ∅)
    exact ⟨_, rendered_of_grows Registry.isPure_builtin hf (registers_start ..)
      (ready_start settings d _ _ _ fun _ _ => rfl) hclean⟩
  | append_singleton es e ih =>
    obtain ⟨f, hf⟩ := ih
    have hrun : (build settings d).run (es ++ [e]) = ((build settings d).run es).apply e :=
      List.foldl_append ..
    rw [hrun]
    obtain hsame | ⟨f', hstep, hregisters⟩ := hf.registers.apply_rebuilds Registry.isPure_builtin
      hf.ready.evaluator (fun path entry hentry => (hf.inside hentry).1) e
    · rw [hsame]
      exact ⟨f, hf⟩
    · refine ⟨f', Rebuild.rendered (P := planOf settings d) (q := (_, f')) Registry.isPure_builtin
        hstep hf hregisters ?_ ?_ ?_⟩
      · exact fun _ _ => rfl
      · exact fun t ht => (hstep.amends.nodes_eq hstep.registered).trans ht
      · exact fun _ _ _ _ _ => id

end Scene

end ParametricScene
