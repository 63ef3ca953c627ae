import ParametricScene.Proofs.Amending
import ParametricScene.Proofs.Editing

/-!
# Forests that render placed nodes

What a scene should look like is said by the expansion of its templates, a list of placed nodes. What
it does look like is said by its forest. `Renders` compares the two, node by node: each node that is
built has a site with the right path, placement and form, and the nodes below it are rendered below
that site. Geometry of an unknown kind has no site.

A nested template is compared with the note of its container. The note says what template was built
there and in which context, and what stands below the container has to render *its* expansion.
Whether that template is what the nested one should have become is left to a parameter, `admits`, since
what an edit may do to a template differs from one question to the next.

Expansions are those of an evaluator that has done nothing yet, so a forest does not have to change
when an evaluator has remembered something.

## Main definitions

* `Look` — an object without slots and handles
* `Plan` — what expansions depend on besides templates
* `Renders` — the forest renders the nodes

## Main results

* `Scene.Grows.renders` — building renders the nodes it is given
* `Renders.exists_leaf`, `Renders.exists_group` — what stands for a node
* `Renders.inside` — every container renders the expansion of its template
* `Renders.refill` — what stands below a container can be replaced
-/

namespace ParametricScene

/-! ### Looks -/

/-- What an object is, handles aside. -/
inductive ObjectForm where
  | root
  | container
  | group
  | leaf (kind : GeometryKind) (dimensions : List Float) (material : String)

/-- The form of a kind of object. -/
def ObjectKind.form : ObjectKind → ObjectForm
  | .root => .root
  | .container => .container
  | .group => .group
  | .leaf l => .leaf l.kind l.dimensions l.material

/-- An object without slots and handles. -/
structure Look where
  name : String
  placement : Placement
  form : ObjectForm

/-- The look of an object. -/
def SceneObject.look (o : SceneObject) : Look := ⟨o.name, o.placement, o.kind.form⟩

/-- The look of the object at a site. -/
def Site.look {ρ : Type} (a : Site ρ) : Look := ⟨a.name, a.placement, a.kind.form⟩

/-- The name of the material for a reference: the fallback unless the reference is defined. -/
def materialName (definitions : OrderedMap MaterialDefinition) (name : Option String) : String :=
  (name.filter definitions.contains).getD fallbackName

theorem Scene.resolveMaterial_name {G M : Type} (s : Scene G M) (name : Option String) :
    (s.resolveMaterial name).1 = materialName s.definitions name := by
  rw [resolveMaterial, materialName]
  cases name with
  | none => rfl
  | some n =>
    cases hget : s.definitions.get? n with
    | none => simp [OrderedMap.contains, Option.filter, hget]
    | some d => simp [OrderedMap.contains, Option.filter, hget]

/-! ### Rendering -/

/-- What expansions depend on besides templates. -/
structure Plan where
  functions : Registry
  /-- The largest number of instances of one repetition. -/
  cap : Nat
  definitions : OrderedMap MaterialDefinition

/-- Which templates a nested template may have become, by path. -/
abbrev Admission : Type := String → Template → Template → Prop

open Evaluator (value)
open Scene (leafId groupId)

variable (P : Plan) (admits : Admission) in
/-- **The forest renders the nodes** below an object whose path is `path`. A nested template may have
become any template that is admitted at its path. -/
inductive Renders : String → List PlacedNode → SceneForest → Prop where
  | done {path : String} : Renders path [] .nil
  | unknown {path : String} {piece : PlacedGeometry} {rest : List PlacedNode}
      {beside : SceneForest} (hkind : piece.kind.isKnown = false)
      (hrest : Renders path rest beside) :
      Renders path (.geometry piece :: rest) beside
  | leaf {path : String} {piece : PlacedGeometry} {rest : List PlacedNode}
      {a : Site (Option Origin)} {beside : SceneForest} (hkind : piece.kind.isKnown = true)
      (hlook : a.look = ⟨joinPath path (leafId piece), piece.transform.complete,
        .leaf piece.kind piece.dimensions (materialName P.definitions piece.material)⟩)
      (hnote : a.note = none) (hrest : Renders path rest beside) :
      Renders path (.geometry piece :: rest) (.cons a .nil beside)
  | group {path : String} {id name : Option String} {transform : PartialPlacement}
      {children rest : List PlacedNode} {a : Site (Option Origin)} {below beside : SceneForest}
      (hlook : a.look = ⟨joinPath path (groupId id name), transform.complete, .group⟩)
      (hnote : a.note = none) (hbelow : Renders a.name children below)
      (hrest : Renders path rest beside) :
      Renders path (.group id name transform children :: rest) (.cons a below beside)
  | template {path : String} {t : Template} {ctx : Context} {rest : List PlacedNode}
      {a : Site (Option Origin)} {built : Template} {below beside : SceneForest}
      (hlook : a.look = ⟨joinPath path t.id,
        (value P.functions (Evaluator.placement t.transform ctx)).complete, .container⟩)
      (hnote : a.note = some (built, ctx)) (hadmits : admits a.name t built)
      (hclean : built.Clean ∧ ctx.Clean)
      (hbelow : Renders a.name (value P.functions (built.expand P.cap ctx)) below)
      (hrest : Renders path rest beside) :
      Renders path (.template t ctx :: rest) (.cons a below beside)

/-- What is admitted at the paths of the containers among the sites is still admitted. -/
def StillAdmits (admits admits' : Admission) (sites : List (Site (Option Origin))) : Prop :=
  ∀ a ∈ sites, a.note ≠ none → ∀ t built, admits a.name t built → admits' a.name t built

theorem StillAdmits.subset {admits admits' : Admission} {sites more : List (Site (Option Origin))}
    (h : StillAdmits admits admits' more) (hsub : sites ⊆ more) : StillAdmits admits admits' sites :=
  fun a ha => h a (hsub ha)

/-! ### What stands where nodes are rendered -/

section Inversion

variable {P : Plan} {admits : Admission} {path : String} {rest : List PlacedNode} {f : SceneForest}

/-- Nothing stands for geometry of an unknown kind. -/
theorem Renders.of_unknown {piece : PlacedGeometry} (h : Renders P admits path (.geometry piece :: rest) f)
    (hkind : piece.kind.isKnown = false) : Renders P admits path rest f := by
  cases h with
  | unknown _ hrest => exact hrest
  | leaf hknown => exact absurd (hkind.symm.trans hknown) Bool.false_ne_true

/-- A leaf stands for geometry of a known kind. -/
theorem Renders.exists_leaf {piece : PlacedGeometry}
    (h : Renders P admits path (.geometry piece :: rest) f) (hkind : piece.kind.isKnown = true) :
    ∃ a beside, f = .cons a .nil beside ∧
      a.look = ⟨joinPath path (leafId piece), piece.transform.complete,
        .leaf piece.kind piece.dimensions (materialName P.definitions piece.material)⟩ ∧
      Renders P admits path rest beside := by
  cases h with
  | unknown hunknown => exact absurd (hunknown.symm.trans hkind) Bool.false_ne_true
  | leaf _ hlook _ hrest => exact ⟨_, _, rfl, hlook, hrest⟩

/-- An object stands for a group, with its children below it. -/
theorem Renders.exists_group {id name : Option String} {transform : PartialPlacement}
    {children : List PlacedNode}
    (h : Renders P admits path (.group id name transform children :: rest) f) :
    ∃ a below beside, f = .cons a below beside ∧
      a.look = ⟨joinPath path (groupId id name), transform.complete, .group⟩ ∧
      Renders P admits (joinPath path (groupId id name)) children below ∧
      Renders P admits path rest beside := by
  cases h with
  | group hlook _ hbelow hrest =>
    rw [show Site.name _ = _ from congrArg Look.name hlook] at hbelow
    exact ⟨_, _, _, rfl, hlook, hbelow, hrest⟩

end Inversion

section Rendering

variable {P : Plan} {admits admits' : Admission} {path : String} {nodes : List PlacedNode}

/-- More may be admitted. -/
theorem Renders.mono {f : SceneForest} (h : Renders P admits path nodes f)
    (hmono : StillAdmits admits admits' f.labels) : Renders P admits' path nodes f := by
  induction h with
  | done => exact .done
  | unknown hkind _ ih => exact .unknown hkind (ih hmono)
  | leaf hkind hlook hnote _ ih =>
    exact .leaf hkind hlook hnote (ih (hmono.subset (by simp [Forest.labels])))
  | group hlook hnote _ _ ihBelow ih =>
    exact .group hlook hnote (ihBelow (hmono.subset (by simp [Forest.labels])))
      (ih (hmono.subset (by simp [Forest.labels])))
  | template hlook hnote hadmits hclean _ _ ihBelow ih =>
    have hne : _ ≠ none := fun heq => Option.some_ne_none _ (hnote.symm.trans heq)
    exact .template hlook hnote (hmono _ (by simp [Forest.labels]) hne _ _ hadmits) hclean
      (ihBelow (hmono.subset (by simp [Forest.labels])))
      (ih (hmono.subset (by simp [Forest.labels])))

/-- **Every container renders the expansion of its template.** -/
theorem Renders.inside {gap : Forest.Gap (Site (Option Origin))} {a : Site (Option Origin)}
    {below : SceneForest} (h : Renders P admits path nodes (gap.fill a below)) {built : Template}
    {ctx : Context} (hnote : a.note = some (built, ctx)) :
    (built.Clean ∧ ctx.Clean) ∧
      Renders P admits a.name (value P.functions (built.expand P.cap ctx)) below := by
  generalize hf : gap.fill a below = f at h
  induction h generalizing gap with
  | done => cases gap <;> cases hf
  | unknown _ _ ih => exact ih hf
  | leaf _ _ hnone _ ih =>
    cases gap with
    | here beside =>
      cases hf
      rw [hnote] at hnone
      cases hnone
    | within b gap beside => cases gap <;> cases hf
    | past b under gap =>
      cases hf
      exact ih rfl
  | group _ hnone _ _ ihBelow ih =>
    cases gap with
    | here beside =>
      cases hf
      rw [hnote] at hnone
      cases hnone
    | within b gap beside =>
      cases hf
      exact ihBelow rfl
    | past b under gap =>
      cases hf
      exact ih rfl
  | template _ hnote' _ hclean hbelow _ ihBelow ih =>
    cases gap with
    | here beside =>
      cases hf
      rw [hnote] at hnote'
      cases hnote'
      exact ⟨hclean, hbelow⟩
    | within b gap beside =>
      cases hf
      exact ihBelow rfl
    | past b under gap =>
      cases hf
      exact ih rfl

/-- **What stands below a container can be replaced**, together with the template it was built from,
if the new template is admitted wherever the old one was. What is admitted around the container may
only grow. -/
theorem Renders.refill {gap : Forest.Gap (Site (Option Origin))} {a a' : Site (Option Origin)}
    {below below' : SceneForest} (h : Renders P admits path nodes (gap.fill a below))
    {built built' : Template} {ctx : Context} (hlook : a'.look = a.look)
    (hnote : a.note = some (built, ctx)) (hnote' : a'.note = some (built', ctx))
    (hclean : built'.Clean) (hadmits : ∀ t, admits a.name t built → admits' a.name t built')
    (hmono : StillAdmits admits admits' (gap.before ++ gap.after))
    (hbelow : Renders P admits' a.name (value P.functions (built'.expand P.cap ctx)) below') :
    Renders P admits' path nodes (gap.fill a' below') := by
  have hname : a'.name = a.name := congrArg Look.name hlook
  generalize hf : gap.fill a below = f at h
  induction h generalizing gap with
  | done => cases gap <;> cases hf
  | unknown hkind _ ih => exact .unknown hkind (ih hmono hf)
  | leaf hkind hlook' hnone _ ih =>
    cases gap with
    | here beside =>
      cases hf
      rw [hnote] at hnone
      cases hnone
    | within b gap beside => cases gap <;> cases hf
    | past b under gap =>
      cases hf
      exact .leaf hkind hlook' hnone (ih (hmono.subset (Forest.Gap.subset_past _ _ _)) rfl)
  | group hlook' hnone hunder hrest ihBelow ih =>
    cases gap with
    | here beside =>
      cases hf
      rw [hnote] at hnone
      cases hnone
    | within b gap beside =>
      cases hf
      exact .group hlook' hnone
        (ihBelow (hmono.subset (Forest.Gap.subset_within _ _ _)) rfl)
        (hrest.mono (hmono.subset (by simp [Forest.Gap.after])))
    | past b under gap =>
      cases hf
      exact .group hlook' hnone (hunder.mono (hmono.subset (by simp [Forest.Gap.before])))
        (ih (hmono.subset (Forest.Gap.subset_past _ _ _)) rfl)
  | template hlook' hnote₀ hadmits₀ hclean₀ hunder hrest ihBelow ih =>
    have hne : _ ≠ none := fun heq => Option.some_ne_none _ (hnote₀.symm.trans heq)
    cases gap with
    | here beside =>
      cases hf
      rw [hnote] at hnote₀
      cases hnote₀
      exact .template (hlook.trans hlook') hnote' (hname ▸ hadmits _ hadmits₀)
        ⟨hclean, hclean₀.2⟩ (hname ▸ hbelow) (hrest.mono (hmono.subset (by simp [Forest.Gap.after])))
    | within b gap beside =>
      cases hf
      exact .template hlook' hnote₀ (hmono _ (by simp [Forest.Gap.before]) hne _ _ hadmits₀) hclean₀
        (ihBelow (hmono.subset (Forest.Gap.subset_within _ _ _)) rfl)
        (hrest.mono (hmono.subset (by simp [Forest.Gap.after])))
    | past b under gap =>
      cases hf
      exact .template hlook' hnote₀ (hmono _ (by simp [Forest.Gap.before]) hne _ _ hadmits₀) hclean₀
        (hunder.mono (hmono.subset (by simp [Forest.Gap.before])))
        (ih (hmono.subset (Forest.Gap.subset_past _ _ _)) rfl)

end Rendering

/-! ### Building renders -/

/-- A known kind is never refused. -/
theorem MeshFactory.create_ne_none {kind : GeometryKind} (h : kind.isKnown = true)
    (dimensions : List Float) (f : MeshFactory) : (f.create kind dimensions).1 ≠ none := by
  rw [← Primitive.isSome_ofDimensions? kind dimensions] at h
  obtain ⟨p, hp⟩ := Option.isSome_iff_exists.mp h
  rw [create, hp]
  exact Option.some_ne_none _

namespace Scene

/-- The scene is set up as the plan says, its evaluator remembers nothing wrong, and what its edits
make of a template is admitted. -/
structure Ready {G M : Type} (s : Scene G M) (P : Plan)
    (admits : Admission) : Prop where
  evaluator : s.evaluator.Truthful P.functions
  cap : s.settings.repeatCap = P.cap
  definitions : s.definitions = P.definitions
  admits : ∀ path t, admits path t (withEdits (s.editsAt path) t)

/-- What a scene that is ready asks of its evaluator when it builds a template, and what it hears. -/
theorem Ready.opens {G M : Type} {P : Plan} {admits : Admission}
    (hr : P.functions.IsPure) {s : Scene G M} (hs : s.Ready P admits) {path : String} {t : Template}
    {ctx : Context} (ht : t.Clean) (hctx : ctx.Clean) {transform : PartialPlacement}
    {violations : List Violation} {nodes : List PlacedNode} {ev₁ ev₂ ev₃ : Evaluator}
    (hplacement : Evaluator.placement t.transform ctx s.evaluator = (transform, ev₁))
    (hviolations : Evaluator.violations (s.originOf path t ctx).1.toTemplateHeader ev₁ =
      (violations, ev₂))
    (hexpand : (s.originOf path t ctx).1.expand s.settings.repeatCap ctx ev₂ = (nodes, ev₃)) :
    transform = value P.functions (Evaluator.placement t.transform ctx) ∧
      violations =
        value P.functions (Evaluator.violations (s.originOf path t ctx).1.toTemplateHeader) ∧
      nodes = value P.functions ((s.originOf path t ctx).1.expand P.cap ctx) ∧
      ev₃.Truthful P.functions ∧ PlacedNode.CleanAll nodes := by
  have hbuilt : (s.originOf path t ctx).1.Clean := clean_withEdits ht _
  -- the evaluator is asked three times, and stays truthful each time
  obtain ⟨htransform, hev₁⟩ := Evaluator.steady_placement hr hctx t.transform _ hs.evaluator
  rw [hplacement] at htransform hev₁
  obtain ⟨hrules, hev₂⟩ := Evaluator.steady_violations hr hbuilt.header _ hev₁
  rw [hviolations] at hrules hev₂
  obtain ⟨hsteady, hnodes⟩ := Template.steady_expand hr hbuilt P.cap hctx
  obtain ⟨hvalue, hev₃⟩ := hsteady _ hev₂
  rw [hs.cap] at hexpand
  rw [hexpand] at hvalue hev₃
  refine ⟨htransform, hrules, hvalue, hev₃, ?_⟩
  rw [show nodes = _ from hvalue]
  exact hnodes

/-- **Building renders the nodes it is given.** -/
theorem Grows.renders {M : Type} [MaterialCache M] {P : Plan}
    {admits : Admission} (hr : P.functions.IsPure)
    {s s' : Scene MeshFactory M} {parent : Nat} {path : String} {nodes : List PlacedNode}
    {f : SceneForest} (h : Grows s parent path nodes f s') (hs : s.Ready P admits)
    (hclean : PlacedNode.CleanAll nodes) :
    Renders P admits path nodes f ∧ s'.Ready P admits := by
  induction h with
  | done => exact ⟨.done, hs⟩
  | unknown hkind _ ih =>
    obtain ⟨hrest, hs'⟩ := ih hs hclean.2
    exact ⟨.unknown hkind hrest, hs'⟩
  | @refused s _ _ _ piece _ _ _ hkind hcreate _ _ =>
    exact absurd (congrArg Prod.fst hcreate)
      (MeshFactory.create_ne_none hkind piece.dimensions s.geometry)
  | @leaf s _ _ _ piece _ _ _ _ leaf hkind _ _ hleaf _ ih =>
    obtain ⟨hrest, hs'⟩ := ih ⟨hs.evaluator, hs.cap, hs.definitions, hs.admits⟩ hclean.2
    refine ⟨.leaf hkind ?_ rfl hrest, hs'⟩
    obtain ⟨hk, hd, hm⟩ := hleaf
    rw [resolveMaterial_name, hs.definitions] at hm
    rw [Site.look, leafSite, ObjectKind.form, hk, hd, hm]
  | group _ _ ihBelow ih =>
    obtain ⟨hbelow, hs₁⟩ := ihBelow ⟨hs.evaluator, hs.cap, hs.definitions, hs.admits⟩ hclean.1
    obtain ⟨hrest, hs'⟩ := ih hs₁ hclean.2
    exact ⟨.group rfl rfl hbelow hrest, hs'⟩
  | @template s _ _ _ path t ctx _ _ _ _ _ _ _ _ _ hplacement hviolations hexpand _ _ ihBelow ih =>
    obtain ⟨⟨ht, hctx⟩, hcleanRest⟩ := hclean
    obtain ⟨rfl, -, hnodes, hev₃, hcleanNodes⟩ :=
      hs.opens hr ht hctx hplacement hviolations hexpand
    obtain ⟨hbelow, hs₁⟩ := ihBelow ⟨hev₃, hs.cap, hs.definitions, hs.admits⟩ hcleanNodes
    obtain ⟨hrest, hs'⟩ := ih hs₁ hcleanRest
    rw [hnodes] at hbelow
    exact ⟨.template rfl rfl (hs.admits _ t) ⟨clean_withEdits ht _, hctx⟩ hbelow hrest, hs'⟩

end Scene

end ParametricScene
