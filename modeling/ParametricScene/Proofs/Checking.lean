import ParametricScene.Proofs.Rebuilding

/-!
# Violations are never out of date

A scene keeps the violated rules of its templates in a registry of their own, beside the templates.
Parameters are edited, templates are built again from what surrounds them with edits that still count,
and later templates take the paths of earlier ones. Whatever happens, the rules that are on record at a
path are those that the template registered there violates, with its parameters as they are now.

The contract does not ask for distinct paths, nor for any particular factory or keeper of materials.
It says nothing about the templates that were overwritten: their rules are lost with them.

## Implementation notes

`Scene.Checked` is the invariant. A template and its violations are always written one right after
the other, before anything below the container is built, so the invariant holds at every single step
of building, also where a nested template takes the path of the template around it.

The rules on record were found by an evaluator with a memory, and the contract compares them with what
an evaluator finds that has done nothing yet. So names have to be clean, here as elsewhere.

## Main definitions

* `Scene.Checked` — the rules on record are those that the registered templates violate

## Main results

* `Scene.Checked.grows` — building keeps the record right
* `Scene.Rebuild.checked` — an edit keeps the record right
* `Scene.violationsAt_run_buildWith` — after every run of edits the record is right
-/

namespace ParametricScene

open Evaluator (value)

namespace Scene

variable {G M : Type}

/-- The rules on record at the path of a template are those that the template violates, and nothing
that the evaluator remembers is wrong. -/
structure Checked (r : Registry) (s : Scene G M) : Prop where
  evaluator : s.evaluator.Truthful r
  clean : ∀ path entry, s.templates.get? path = some entry →
    entry.template.Clean ∧ entry.surroundings.Clean
  recorded : ∀ path entry, s.templates.get? path = some entry →
    s.violations.get? path = some (value r (Evaluator.violations entry.template.toTemplateHeader))

section Checked

variable {r : Registry} {s : Scene G M}

/-- What is found on record at the path of a registered template. -/
theorem Checked.violationsAt_eq (h : s.Checked r) {path : String} {entry : TemplateEntry}
    (hentry : s.templates.get? path = some entry) :
    s.violationsAt path = value r (Evaluator.violations entry.template.toTemplateHeader) := by
  rw [violationsAt, h.recorded path entry hentry, Option.getD_some]

/-- Registering a container, with the rules that its template violates. -/
theorem Checked.plantContainer (h : s.Checked r) (parent : Nat) (site : Site (Option Origin))
    {origin : Origin} (hclean : origin.1.Clean ∧ origin.2.Clean) {violations : List Violation}
    (hviolations : violations = value r (Evaluator.violations origin.1.toTemplateHeader)) :
    (s.plantContainer parent site origin violations).Checked r := by
  refine ⟨h.evaluator, fun path entry hget => ?_, fun path entry hget => ?_⟩
  · rw [Scene.plantContainer, OrderedMap.get?_insert] at hget
    split at hget
    · obtain rfl := Option.some.inj hget
      exact hclean
    · exact h.clean path entry hget
  · rw [Scene.plantContainer, OrderedMap.get?_insert] at hget ⊢
    split at hget
    · obtain rfl := Option.some.inj hget
      rw [if_pos ‹_›, hviolations]
    · rw [if_neg ‹_›]
      exact h.recorded path entry hget

variable [GeometryFactory G] [MaterialCache M]

/-- **Building keeps the record right.** -/
theorem Checked.grows (hr : r.IsPure) {s' : Scene G M} {parent : Nat} {path : String}
    {nodes : List PlacedNode} {f : SceneForest} (h : Grows s parent path nodes f s')
    (hs : s.Checked r) (hclean : PlacedNode.CleanAll nodes) : s'.Checked r := by
  induction h with
  | done => exact hs
  | unknown _ _ ih => exact ih hs hclean.2
  | refused _ _ _ ih => exact ih ⟨hs.evaluator, hs.clean, hs.recorded⟩ hclean.2
  | leaf _ _ _ _ _ ih => exact ih ⟨hs.evaluator, hs.clean, hs.recorded⟩ hclean.2
  | group _ _ ihBelow ih =>
    exact ih (ihBelow ⟨hs.evaluator, hs.clean, hs.recorded⟩ hclean.1) hclean.2
  | @template s _ _ parent path t ctx transform violations nodes _ ev₁ ev₂ ev₃ _ _ hplacement
      hviolations hexpand _ _ ihBelow ih =>
    obtain ⟨⟨ht, hctx⟩, hcleanRest⟩ := hclean
    have hready : s.Ready ⟨r, s.settings.repeatCap, s.definitions⟩ fun _ _ _ => True :=
      ⟨hs.evaluator, rfl, rfl, fun _ _ => trivial⟩
    obtain ⟨-, hrules, -, hev₃, hcleanNodes⟩ :=
      hready.opens hr ht hctx hplacement hviolations hexpand
    have hstart : ({ s with evaluator := ev₃ } : Scene G M).Checked r :=
      ⟨hev₃, hs.clean, hs.recorded⟩
    have hplanted := hstart.plantContainer parent
      (s.containerSite path t.id transform (s.originOf path t ctx))
      ⟨clean_withEdits ht _, hctx⟩ hrules
    exact ih (ihBelow hplanted hcleanNodes) hcleanRest

/-! ### Edits -/

/-- When everything below the container was pruned, the template that is built next has its rules on
record, and all others that are left still have. -/
theorem Rebuild.checked_reopened {e : SceneEdit} {p q : Scene G M × SceneForest}
    (h : Rebuild r e p q) (hp : p.1.Registers p.2) (hs : p.1.Checked r) :
    (h.written.reopened h.path h.site.slot h.below h.ev
      (value r (Evaluator.violations h.entry.template.toTemplateHeader))).Checked r := by
  have hshows : h.written.graph.Shows (h.gap.fill h.site h.below) := by
    rw [h.amends.frame]
    exact h.before ▸ hp.shows
  have hstays := get?_templates_pruned hshows h.amends.get? h.slot
  have hviolations : h.written.violations = p.1.violations := by rw [h.amends.frame]
  obtain ⟨hcleanOld, hctx⟩ := hs.clean h.path _ h.registered
  -- at other paths nothing is registered but what was registered before
  have hother : ∀ path entry, path ≠ h.path →
      (h.written.pruned h.site.slot h.below).templates.get? path = some entry →
        p.1.templates.get? path = some entry := fun path entry hne hget => by
    rw [pruned, OrderedMap.get?_filter, Option.filter_eq_some_iff] at hget
    rw [← h.amends.get?_of_ne hne]
    exact hget.1
  refine ⟨h.truthful, fun path entry hget => ?_, fun path entry hget => ?_⟩
  · by_cases hpath : path = h.path
    · rw [hpath, reopened, hstays] at hget
      obtain rfl := Option.some.inj hget
      exact ⟨h.amends.clean h.registered hcleanOld, hctx⟩
    · exact hs.clean path entry (hother path entry hpath hget)
  · by_cases hpath : path = h.path
    · rw [hpath, reopened, hstays] at hget
      obtain rfl := Option.some.inj hget
      rw [hpath, reopened, OrderedMap.get?_insert_self]
    · have hpruned : (h.written.pruned h.site.slot h.below).templates.get? path = some entry := hget
      have hkept : (h.written.pruned h.site.slot h.below).violations.get? path =
          (h.written.violations.get? path).filter fun _ =>
            (h.written.pruned h.site.slot h.below).templates.contains path :=
        OrderedMap.get?_filter ..
      have hcontains : (h.written.pruned h.site.slot h.below).templates.contains path = true := by
        rw [OrderedMap.contains, hpruned, Option.isSome_some]
      rw [reopened, OrderedMap.get?_insert_of_ne _ _ hpath, hkept, hviolations,
        hs.recorded path entry (hother path entry hpath hpruned), Option.filter_some, if_pos hcontains]

/-- **An edit keeps the record right.** -/
theorem Rebuild.checked (hr : r.IsPure) {e : SceneEdit} {p q : Scene G M × SceneForest}
    (h : Rebuild r e p q) (hp : p.1.Registers p.2) (hs : p.1.Checked r) : q.1.Checked r := by
  obtain ⟨hcleanOld, hctx⟩ := hs.clean h.path _ h.registered
  have hclean := h.amends.clean h.registered hcleanOld
  exact Checked.grows hr h.grows (h.checked_reopened hp hs)
    (Template.steady_expand hr hclean p.1.settings.repeatCap hctx).2

/-- A run of edits keeps the record right. -/
theorem Checked.run (hr : r.IsPure) (hs : s.Checked r) {f : SceneForest} (hf : s.Registers f)
    (es : List SceneEdit) : (s.run es).Checked r := by
  induction es generalizing s f with
  | nil => exact hs
  | cons e rest ih =>
    obtain hsame | ⟨f', hstep, hregisters⟩ := hf.apply_rebuilds hr hs.evaluator hs.clean e
    · have hrun : s.run (e :: rest) = s.run rest := by
        rw [Scene.run, List.foldl_cons, hsame]
        rfl
      rw [hrun]
      exact ih hs hf
    · exact ih (Rebuild.checked (q := (_, f')) hr hstep hf hs) hregisters

/-! ### The contract -/

/-- The scene of a document has its rules on record. -/
theorem checked_buildWith (geometry : G) (materials : M) (settings : Settings) {d : SceneDocument}
    (hclean : ∀ t ∈ d.templates, t.Clean) :
    (buildWith geometry materials settings.evaluator settings d).Checked Registry.builtin := by
  have hstart : (initial geometry materials (settings.evaluator.setMemoize settings.memoize) settings
      d.materials).Checked Registry.builtin :=
    ⟨(truthful_evaluator settings).setMemoize settings.memoize,
      fun _ _ hget => by simp [initial] at hget, fun _ _ hget => by simp [initial] at hget⟩
  obtain ⟨f, hf⟩ := grows_populate d.templates
    (initial geometry materials (settings.evaluator.setMemoize settings.memoize) settings
      d.materials)
  exact Checked.grows Registry.isPure_builtin hf hstart (cleanAll_roots hclean)

/-- **Violations are never out of date.** In every scene that edits lead to, the violated rules on
record at the path of a registered template are those that checking its rules afresh finds, with its
parameters as they are now. It does not matter whether a new evaluator checks them or the evaluator of
the scene. -/
theorem violationsAt_run_buildWith (geometry : G) (materials : M) (settings : Settings)
    (d : SceneDocument) (hclean : ∀ t ∈ d.templates, t.Clean) (es : List SceneEdit) (path : String)
    (entry : TemplateEntry)
    (hentry : ((buildWith geometry materials settings.evaluator settings d).run es).templates.get? path
      = some entry) :
    ((buildWith geometry materials settings.evaluator settings d).run es).violationsAt path =
        (Evaluator.violations entry.template.toTemplateHeader settings.evaluator).1 ∧
      ((buildWith geometry materials settings.evaluator settings d).run es).violationsAt path =
        (Evaluator.violations entry.template.toTemplateHeader
          ((buildWith geometry materials settings.evaluator settings d).run es).evaluator).1 := by
  obtain ⟨f, hf⟩ := registers_buildWith geometry materials settings.evaluator settings d
  have hchecked := (checked_buildWith geometry materials settings hclean).run
    Registry.isPure_builtin hf es
  have hsteady := Evaluator.steady_violations Registry.isPure_builtin
    (hchecked.clean path entry hentry).1.header
  rw [hchecked.violationsAt_eq hentry]
  exact ⟨(hsteady _ (truthful_evaluator settings)).1.symm, (hsteady _ hchecked.evaluator).1.symm⟩

end Checked

/-! ### A cabinet -/

/-- The door of a cabinet, which should be shut. -/
def cabinetDoor : Template where
  id := "door"
  generator := none
  transform := ⟨none, none, none⟩
  parameters := OrderedMap.insert ∅ "shut" (.bare (.boolean true))
  expressions := ∅
  constraints := OrderedMap.insert ∅ "use"
    (OrderedMap.insert ∅ "shut" ⟨.formula "$shut", some "The door is open", none⟩)
  nodes := []

/-- A cabinet with a door. -/
def cabinet : Template where
  id := "cabinet"
  generator := none
  transform := ⟨none, none, none⟩
  parameters := ∅
  expressions := ∅
  constraints := ∅
  nodes := [.template cabinetDoor.toTemplateHeader cabinetDoor.nodes]

/-- The document of a cabinet. -/
def cabinetDocument : SceneDocument := ⟨Settings.currentVersion, none, none, [cabinet], ∅, none⟩

theorem clean_cabinet : ∀ t ∈ cabinetDocument.templates, t.Clean := by
  have hshut : CleanName "shut" := by
    rw [CleanName]
    decide
  intro t ht
  obtain rfl := List.mem_singleton.mp ht
  refine ⟨⟨fun name hname => absurd hname List.not_mem_nil,
    fun name hname => absurd hname List.not_mem_nil⟩, ⟨⟨fun name hname => ?_,
      fun name hname => absurd hname List.not_mem_nil⟩, trivial⟩, trivial⟩
  obtain rfl := List.mem_singleton.mp hname
  exact hshut

/-- The door is opened and built again, and the record says what its rule comes to. -/
theorem violationsAt_run_buildWith_cabinet :
    (∀ t ∈ cabinetDocument.templates, t.Clean) ∧
      ∃ entry, ((build default cabinetDocument).run
          [.setParameter "cabinet.door" "shut" (.boolean false),
            .regenerate "cabinet.door"]).templates.get? "cabinet.door" = some entry ∧
        ((build default cabinetDocument).run
            [.setParameter "cabinet.door" "shut" (.boolean false),
              .regenerate "cabinet.door"]).violationsAt "cabinet.door" =
          (Evaluator.violations entry.template.toTemplateHeader
            (default : Settings).evaluator).1 := by
  have hbuilt : (build default cabinetDocument).templates.contains "cabinet.door" = true := by
    decide +kernel
  obtain ⟨f, hf⟩ : ∃ f, (build default cabinetDocument).Registers f := registers_buildWith ..
  have hstays := contains_run hf hbuilt [.setParameter "cabinet.door" "shut" (.boolean false),
    .regenerate "cabinet.door"] (by simp [SceneEdit.path])
  obtain ⟨entry, hentry⟩ := Option.isSome_iff_exists.mp hstays
  exact ⟨clean_cabinet, entry, hentry, (violationsAt_run_buildWith MeshFactory.empty
    MaterialLibrary.empty default cabinetDocument clean_cabinet _ "cabinet.door" entry hentry).1⟩

end Scene

end ParametricScene
