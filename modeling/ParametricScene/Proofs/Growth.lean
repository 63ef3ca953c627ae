import Mathlib.Logic.Relation
import ParametricScene.Proofs.Arena
import ParametricScene.Proofs.Nesting
import ParametricScene.Scene.Session

/-!
# What building does to a scene

Building is written as an action on the scene that recurs as deep as templates nest. Here it is said
once, as a relation with one case for every way a placed node is dealt with, and without a bound on
depth. `Scene.Grows` relates a scene, the placed nodes to build and where to build them to the forest
that comes to stand there and the scene afterwards. Everything that is proved about building is proved
by induction on it.

Most of what a scene keeps true is kept by each added object already. For those facts `Scene.Sprouts`
forgets the nodes and keeps the single additions.

## The note of a container

The sites of containers carry the template that the container was built from, with the edits that
counted, and the context it stands in. The registry of a scene loses them when a later template takes
the same path; the forest does not.

## Main definitions

* `SceneForest` — forests of sites that say what containers were built from
* `Scene.plant`, `plantLeaf`, `plantContainer` — the three ways a scene gains an object
* `Scene.Grows` — building placed nodes
* `Scene.Sprouts` — one addition to a scene and its forest

## Main results

* `Scene.grows_buildNodes`, `Scene.grows_populate` — building grows a forest
* `Scene.Grows.sprouts` — growing is a sequence of single additions
-/

namespace ParametricScene

/-- What a container was built from: the template with the edits that counted, and the context it
stands in. -/
abbrev Origin : Type := Template × Context

/-- A forest of the objects of a scene. -/
abbrev SceneForest : Type := Forest (Site (Option Origin))

namespace Scene

variable {G M : Type}

/-! ### Additions -/

/-- The scene with one object more. -/
def plant (s : Scene G M) (parent : Nat) (site : Site (Option Origin)) : Scene G M :=
  { s with graph := (s.graph.insert parent site.name site.placement site.kind).2 }

/-- The scene with one object more, which is registered as a leaf. -/
def plantLeaf (s : Scene G M) (parent : Nat) (site : Site (Option Origin)) : Scene G M :=
  { s.plant parent site with leaves := s.leaves.insert site.name site.slot }

/-- The scene with one object more, which is registered as the container of a template. -/
def plantContainer (s : Scene G M) (parent : Nat) (site : Site (Option Origin)) (origin : Origin)
    (violations : List Violation) : Scene G M :=
  { s.plant parent site with
    templates := s.templates.insert site.name ⟨site.slot, origin.1, origin.2⟩
    violations := s.violations.insert site.name violations }

/-- The site of a group that is built next. -/
def groupSite (s : Scene G M) (path : String) (id name : Option String)
    (transform : PartialPlacement) : Site (Option Origin) :=
  ⟨s.graph.nextSlot, joinPath path (groupId id name), transform.complete, .group, none⟩

/-- The site of a leaf that is built next. -/
def leafSite (s : Scene G M) (path : String) (piece : PlacedGeometry) (leaf : Leaf) :
    Site (Option Origin) :=
  ⟨s.graph.nextSlot, joinPath path (leafId piece), piece.transform.complete, .leaf leaf, none⟩

/-- The site of a container that is built next. -/
def containerSite (s : Scene G M) (path id : String) (transform : PartialPlacement)
    (origin : Origin) : Site (Option Origin) :=
  ⟨s.graph.nextSlot, joinPath path id, transform.complete, .container, some origin⟩

/-- The edits that were made at a path. -/
def editsAt (s : Scene G M) (path : String) : OrderedMap Value := (s.edits.get? path).getD ∅

/-- What the container of a template below `path` is built from. -/
def originOf (s : Scene G M) (path : String) (t : Template) (ctx : Context) : Origin :=
  (withEdits (s.editsAt (joinPath path t.id)) t, ctx)

section Building

variable [GeometryFactory G] [MaterialCache M]

/-! ### Growing -/

/-- Building the nodes below the object in slot `parent`, whose path is `path`, puts the forest there
and leads to the last scene. -/
inductive Grows :
    Scene G M → Nat → String → List PlacedNode → SceneForest → Scene G M → Prop where
  | done {s : Scene G M} {parent : Nat} {path : String} : Grows s parent path [] .nil s
  | unknown {s s' : Scene G M} {parent : Nat} {path : String} {piece : PlacedGeometry}
      {rest : List PlacedNode} {beside : SceneForest}
      (hkind : piece.kind.isKnown = false)
      (hrest : Grows s parent path rest beside s') :
      Grows s parent path (.geometry piece :: rest) beside s'
  | refused {s s' : Scene G M} {parent : Nat} {path : String} {piece : PlacedGeometry}
      {rest : List PlacedNode} {beside : SceneForest} {geometry : G}
      (hkind : piece.kind.isKnown = true)
      (hcreate : GeometryFactory.create piece.kind piece.dimensions s.geometry = (none, geometry))
      (hrest : Grows { s with geometry := geometry } parent path rest beside s') :
      Grows s parent path (.geometry piece :: rest) beside s'
  | leaf {s s' : Scene G M} {parent : Nat} {path : String} {piece : PlacedGeometry}
      {rest : List PlacedNode} {beside : SceneForest} {geometry : G} {materials : M} {leaf : Leaf}
      (hkind : piece.kind.isKnown = true)
      (hcreate : GeometryFactory.create piece.kind piece.dimensions s.geometry =
        (some leaf.geometryHandle, geometry))
      (hacquire : MaterialCache.acquire (s.resolveMaterial piece.material).1
        (s.resolveMaterial piece.material).2 s.materials = (leaf.materialHandle, materials))
      (hleaf : leaf.kind = piece.kind ∧ leaf.dimensions = piece.dimensions ∧
        leaf.material = (s.resolveMaterial piece.material).1)
      (hrest : Grows (({ s with geometry := geometry, materials := materials } : Scene G M).plantLeaf
        parent (s.leafSite path piece leaf)) parent path rest beside s') :
      Grows s parent path (.geometry piece :: rest) (.cons (s.leafSite path piece leaf) .nil beside)
        s'
  | group {s s₁ s₂ : Scene G M} {parent : Nat} {path : String} {id name : Option String}
      {transform : PartialPlacement} {children rest : List PlacedNode} {below beside : SceneForest}
      (hbelow : Grows (s.plant parent (s.groupSite path id name transform)) s.graph.nextSlot
        (joinPath path (groupId id name)) children below s₁)
      (hrest : Grows s₁ parent path rest beside s₂) :
      Grows s parent path (.group id name transform children :: rest)
        (.cons (s.groupSite path id name transform) below beside) s₂
  | template {s s₁ s₂ : Scene G M} {parent : Nat} {path : String} {t : Template} {ctx : Context}
      {transform : PartialPlacement} {violations : List Violation} {nodes rest : List PlacedNode}
      {ev₁ ev₂ ev₃ : Evaluator} {below beside : SceneForest}
      (hplacement : Evaluator.placement t.transform ctx s.evaluator = (transform, ev₁))
      (hviolations : Evaluator.violations (s.originOf path t ctx).1.toTemplateHeader ev₁ =
        (violations, ev₂))
      (hexpand : (s.originOf path t ctx).1.expand s.settings.repeatCap ctx ev₂ = (nodes, ev₃))
      (hbelow : Grows (({ s with evaluator := ev₃ } : Scene G M).plantContainer parent
          (s.containerSite path t.id transform (s.originOf path t ctx)) (s.originOf path t ctx)
          violations)
        s.graph.nextSlot (joinPath path t.id) nodes below s₁)
      (hrest : Grows s₁ parent path rest beside s₂) :
      Grows s parent path (.template t ctx :: rest)
        (.cons (s.containerSite path t.id transform (s.originOf path t ctx)) below beside) s₂

/-- Growing in two goes. -/
theorem Grows.append {s s₁ s₂ : Scene G M} {parent : Nat} {path : String}
    {nodes more : List PlacedNode} {f g : SceneForest} (h : Grows s parent path nodes f s₁)
    (h' : Grows s₁ parent path more g s₂) : Grows s parent path (nodes ++ more) (f ++ g) s₂ := by
  induction h with
  | done => exact h'
  | unknown hkind _ ih => exact .unknown hkind (ih h')
  | refused hkind hcreate _ ih => exact .refused hkind hcreate (ih h')
  | leaf hkind hcreate hacquire hleaf _ ih => exact .leaf hkind hcreate hacquire hleaf (ih h')
  | group hbelow _ _ ih => exact .group hbelow (ih h')
  | template hplacement hviolations hexpand hbelow _ _ ih =>
    exact .template hplacement hviolations hexpand hbelow (ih h')

/-! ### Building grows -/

/-- Opening a registered template: its rules are checked, and its nodes are built. -/
theorem expandWith_of_get? {build : TemplateBuilder G M} {path : String} {s : Scene G M}
    {entry : TemplateEntry} {violations : List Violation} {nodes : List PlacedNode}
    {ev₁ ev₂ : Evaluator} (hentry : s.templates.get? path = some entry)
    (hviolations : Evaluator.violations entry.template.toTemplateHeader s.evaluator =
      (violations, ev₁))
    (hexpand : entry.template.expand s.settings.repeatCap entry.surroundings ev₁ = (nodes, ev₂)) :
    (expandWith build path s).2 = (buildNodes build nodes entry.container path
      { s with evaluator := ev₂, violations := s.violations.insert path violations }).2 := by
  simp only [expandWith, bind, StateT.bind, get, getThe, MonadStateOf.get, StateT.get, pure, hentry,
    evaluating, hviolations, hexpand]
  rfl

/-- Building the template `t` with the action grows a forest, wherever it is built. -/
def BuildsTemplate (build : TemplateBuilder G M) (t : Template) : Prop :=
  ∀ (s : Scene G M) (parent : Nat) (path : String) (ctx : Context),
    ∃ f, Grows s parent path [.template t ctx] f (build t parent path ctx s).2

/-- Building a piece of geometry grows at most one site. -/
theorem grows_buildLeaf (piece : PlacedGeometry) (s : Scene G M) (parent : Nat) (path : String) :
    ∃ f, Grows s parent path [.geometry piece] f (buildLeaf piece parent path s).2 := by
  cases hkind : piece.kind.isKnown with
  | false =>
    have hbuild : (buildLeaf piece parent path s).2 = s := by
      rw [buildLeaf, hkind]
      rfl
    rw [hbuild]
    exact ⟨.nil, .unknown hkind .done⟩
  | true =>
    rcases hcreate : GeometryFactory.create piece.kind piece.dimensions s.geometry with
      ⟨handle, geometry⟩
    cases handle with
    | none =>
      have hbuild : (buildLeaf piece parent path s).2 = { s with geometry := geometry } := by
        simp only [buildLeaf, hkind, if_true, bind, StateT.bind, createGeometry, hcreate]
        rfl
      rw [hbuild]
      exact ⟨.nil, .refused hkind hcreate .done⟩
    | some handle =>
      rcases hacquire : MaterialCache.acquire (s.resolveMaterial piece.material).1
        (s.resolveMaterial piece.material).2 s.materials with ⟨materialHandle, materials⟩
      let leaf : Leaf := ⟨piece.kind, piece.dimensions, handle,
        (s.resolveMaterial piece.material).1, materialHandle⟩
      have hbuild : (buildLeaf piece parent path s).2 =
          ({ s with geometry := geometry, materials := materials } : Scene G M).plantLeaf parent
            (s.leafSite path piece leaf) := by
        have hresolve : ({ s with geometry := geometry } : Scene G M).resolveMaterial piece.material
            = s.resolveMaterial piece.material := rfl
        simp only [buildLeaf, hkind, if_true, bind, StateT.bind, createGeometry, hcreate,
          acquireMaterial, hresolve, hacquire]
        simp only [insertObject, modify, modifyGet, MonadStateOf.modifyGet, StateT.modifyGet, pure,
          SceneGraph.insert_fst]
        rfl
      rw [hbuild]
      exact ⟨_, .leaf hkind hcreate hacquire ⟨rfl, rfl, rfl⟩ .done⟩

mutual

/-- A node grows a forest if the templates in it do. -/
theorem grows_buildNode {build : TemplateBuilder G M} {depth : Nat}
    (hbuild : ∀ t : Template, t.depth ≤ depth → BuildsTemplate build t) :
    ∀ (node : PlacedNode) (s : Scene G M) (parent : Nat) (path : String), node.depth ≤ depth →
      ∃ f, Grows s parent path [node] f (buildNode build node parent path s).2
  | .group id name transform children, s, parent, path, hdepth => by
    rw [PlacedNode.depth] at hdepth
    obtain ⟨below, hbelow⟩ := grows_buildNodes hbuild children
      (s.plant parent (s.groupSite path id name transform)) s.graph.nextSlot
      (joinPath path (groupId id name)) hdepth
    have heq : (buildNode build (.group id name transform children) parent path s).2 =
        (buildNodes build children s.graph.nextSlot (joinPath path (groupId id name))
          (s.plant parent (s.groupSite path id name transform))).2 := by
      rw [buildNode, ← SceneGraph.insert_fst s.graph parent (joinPath path (groupId id name))
        transform.complete .group]
      rfl
    rw [heq]
    exact ⟨_, .group hbelow .done⟩
  | .geometry piece, s, parent, path, _ => grows_buildLeaf piece s parent path
  | .template t ctx, s, parent, path, hdepth => hbuild t hdepth s parent path ctx

/-- Several nodes grow a forest if the templates in them do. -/
theorem grows_buildNodes {build : TemplateBuilder G M} {depth : Nat}
    (hbuild : ∀ t : Template, t.depth ≤ depth → BuildsTemplate build t) :
    ∀ (nodes : List PlacedNode) (s : Scene G M) (parent : Nat) (path : String),
      PlacedNode.depthAll nodes ≤ depth →
        ∃ f, Grows s parent path nodes f (buildNodes build nodes parent path s).2
  | [], s, parent, path, _ => ⟨.nil, .done⟩
  | node :: rest, s, parent, path, hdepth => by
    rw [PlacedNode.depthAll, Nat.max_le] at hdepth
    obtain ⟨f, hf⟩ := grows_buildNode hbuild node s parent path hdepth.1
    obtain ⟨g, hg⟩ := grows_buildNodes hbuild rest (buildNode build node parent path s).2 parent
      path hdepth.2
    exact ⟨f ++ g, hf.append hg⟩

end

/-- Building a template with a bound that its depth respects grows a forest. -/
theorem buildsTemplate_buildWithin (depth : Nat) (t : Template) (h : t.depth ≤ depth) :
    BuildsTemplate (G := G) (M := M) (buildWithin depth) t := by
  induction depth generalizing t with
  | zero => exact absurd h (by rw [Template.depth]; omega)
  | succ depth ih =>
    intro s parent path ctx
    rcases hplacement : Evaluator.placement t.transform ctx s.evaluator with ⟨transform, ev₁⟩
    rcases hviolations : Evaluator.violations (s.originOf path t ctx).1.toTemplateHeader ev₁
      with ⟨violations, ev₂⟩
    rcases hexpand : (s.originOf path t ctx).1.expand s.settings.repeatCap ctx ev₂
      with ⟨nodes, ev₃⟩
    have hdepth : PlacedNode.depthAll nodes < (s.originOf path t ctx).1.depth := by
      have := (s.originOf path t ctx).1.depthAll_expand_lt s.settings.repeatCap ctx ev₂
      rwa [hexpand] at this
    obtain ⟨below, hbelow⟩ := grows_buildNodes ih nodes
      (({ s with evaluator := ev₃ } : Scene G M).plantContainer parent
        (s.containerSite path t.id transform (s.originOf path t ctx)) (s.originOf path t ctx)
        violations) s.graph.nextSlot (joinPath path t.id)
      (Nat.le_of_lt_succ (Nat.lt_of_lt_of_le hdepth h))
    have hbuild : (buildWithin (depth + 1) t parent path ctx s).2 =
        (buildNodes (buildWithin depth) nodes s.graph.nextSlot (joinPath path t.id)
          (({ s with evaluator := ev₃ } : Scene G M).plantContainer parent
            (s.containerSite path t.id transform (s.originOf path t ctx)) (s.originOf path t ctx)
            violations)).2 := by
      have hcontainer := s.graph.insert_fst parent (joinPath path t.id) transform.complete .container
      simp only [buildWithin, evaluating, hplacement, insertObject, modify, modifyGet,
        MonadStateOf.modifyGet, StateT.modifyGet, bind, StateT.bind, get, getThe, MonadStateOf.get,
        StateT.get, pure, hcontainer]
      rw [expandWith_of_get? (OrderedMap.get?_insert_self ..) hviolations hexpand]
      rfl
    rw [hbuild]
    exact ⟨_, .template hplacement hviolations hexpand hbelow .done⟩

theorem buildsTemplate_buildTemplate (t : Template) :
    BuildsTemplate (G := G) (M := M) buildTemplate t :=
  buildsTemplate_buildWithin t.depth t (Nat.le_refl _)

/-- **Building the templates of a document grows a forest below the root.** -/
theorem grows_populate (templates : List Template) (s : Scene G M) :
    ∃ f, Grows s SceneGraph.rootSlot "" (templates.map fun t => .template t ∅) f
      (populate templates s).2 := by
  induction templates generalizing s with
  | nil => exact ⟨.nil, .done⟩
  | cons t rest ih =>
    obtain ⟨f, hf⟩ := buildsTemplate_buildTemplate t s SceneGraph.rootSlot "" ∅
    obtain ⟨g, hg⟩ := ih (buildTemplate t SceneGraph.rootSlot "" ∅ s).2
    exact ⟨f ++ g, hf.append hg⟩

/-! ### Single additions -/

/-- One addition to a scene and to the forest it shows, or a request for geometry that is refused. -/
inductive Sprouts : Scene G M × SceneForest → Scene G M × SceneForest → Prop where
  | refuse {s : Scene G M} {f : SceneForest} {kind : GeometryKind} {dimensions : List Float}
      {geometry : G} (hkind : kind.isKnown = true)
      (hcreate : GeometryFactory.create kind dimensions s.geometry = (none, geometry)) :
      Sprouts (s, f) ({ s with geometry := geometry }, f)
  | leaf {s : Scene G M} {gap : Forest.Gap (Site (Option Origin))} {a site : Site (Option Origin)}
      {below : SceneForest} {leaf : Leaf} {material : Option String} {geometry : G} {materials : M}
      (hslot : site.slot = s.graph.nextSlot) (hsite : site.kind = .leaf leaf)
      (hkind : leaf.kind.isKnown = true)
      (hcreate : GeometryFactory.create leaf.kind leaf.dimensions s.geometry =
        (some leaf.geometryHandle, geometry))
      (hacquire : MaterialCache.acquire (s.resolveMaterial material).1
        (s.resolveMaterial material).2 s.materials = (leaf.materialHandle, materials))
      (hmaterial : leaf.material = (s.resolveMaterial material).1) :
      Sprouts (s, gap.fill a below)
        (({ s with geometry := geometry, materials := materials } : Scene G M).plantLeaf a.slot site,
          gap.fill a (below ++ .cons site .nil .nil))
  | group {s : Scene G M} {gap : Forest.Gap (Site (Option Origin))} {a site : Site (Option Origin)}
      {below : SceneForest} (hslot : site.slot = s.graph.nextSlot) (hsite : site.kind = .group) :
      Sprouts (s, gap.fill a below)
        (s.plant a.slot site, gap.fill a (below ++ .cons site .nil .nil))
  | container {s : Scene G M} {gap : Forest.Gap (Site (Option Origin))}
      {a site : Site (Option Origin)} {below : SceneForest} {origin : Origin}
      {violations : List Violation} {ev : Evaluator} (hslot : site.slot = s.graph.nextSlot)
      (hsite : site.kind = .container) (hnote : site.note = some origin) :
      Sprouts (s, gap.fill a below)
        (({ s with evaluator := ev } : Scene G M).plantContainer a.slot site origin violations,
          gap.fill a (below ++ .cons site .nil .nil))

/-- A site that was just added is left open in its turn while its own forest grows, and then what
stands beside it is added. -/
theorem sprouts_nest {s₁ s₂ s₃ : Scene G M} {under beside : SceneForest}
    (gap : Forest.Gap (Site (Option Origin))) (a : Site (Option Origin)) (below : SceneForest)
    (site : Site (Option Origin))
    (hunder : ∀ (inner : Forest.Gap (Site (Option Origin))) (b : Site (Option Origin))
      (f : SceneForest), b.slot = site.slot →
        Relation.ReflTransGen Sprouts (s₁, inner.fill b f) (s₂, inner.fill b (f ++ under)))
    (hbeside : Relation.ReflTransGen Sprouts (s₂, gap.fill a (below ++ .cons site under .nil))
      (s₃, gap.fill a (below ++ .cons site under .nil ++ beside))) :
    Relation.ReflTransGen Sprouts (s₁, gap.fill a (below ++ .cons site .nil .nil))
      (s₃, gap.fill a (below ++ .cons site under beside)) := by
  obtain ⟨inner, hinner⟩ := gap.exists_into a below
  have hgrown := hunder inner site .nil rfl
  rw [hinner, hinner, Forest.nil_append] at hgrown
  rw [Forest.append_assoc, Forest.cons_append, Forest.nil_append] at hbeside
  exact hgrown.trans hbeside

/-- **Growing is a sequence of single additions** at the end of what stands below the parent. -/
theorem Grows.sprouts {s s' : Scene G M} {parent : Nat} {path : String} {nodes : List PlacedNode}
    {f : SceneForest} (h : Grows s parent path nodes f s') :
    ∀ (gap : Forest.Gap (Site (Option Origin))) (a : Site (Option Origin)) (below : SceneForest),
      a.slot = parent →
        Relation.ReflTransGen Sprouts (s, gap.fill a below) (s', gap.fill a (below ++ f)) := by
  induction h with
  | done =>
    intro gap a below _
    rw [Forest.append_nil]
  | unknown _ _ ih => exact ih
  | refused hkind hcreate _ ih =>
    exact fun gap a below ha => (ih gap a below ha).head (.refuse hkind hcreate)
  | @leaf s _ _ path piece _ _ _ _ leaf hkind hcreate hacquire hleaf _ ih =>
    intro gap a below ha
    obtain ⟨hk, hd, hm⟩ := hleaf
    have hrest := ih gap a (below ++ .cons (s.leafSite path piece leaf) .nil .nil) ha
    rw [Forest.append_assoc, Forest.cons_append, Forest.nil_append] at hrest
    rw [← hk] at hkind
    rw [← hk, ← hd] at hcreate
    subst ha
    exact hrest.head (.leaf rfl rfl hkind hcreate hacquire hm)
  | @group s _ _ _ path id name transform _ _ _ _ _ _ ihBelow ih =>
    intro gap a below ha
    have hrest := sprouts_nest gap a below (s.groupSite path id name transform) ihBelow
      (ih gap a _ ha)
    subst ha
    exact hrest.head (.group rfl rfl)
  | @template s _ _ _ path t ctx transform _ _ _ _ _ _ _ _ _ _ _ _ _ ihBelow ih =>
    intro gap a below ha
    have hrest := sprouts_nest gap a below
      (s.containerSite path t.id transform (s.originOf path t ctx)) ihBelow (ih gap a _ ha)
    subst ha
    exact hrest.head (.container rfl rfl rfl)

end Building

end Scene

end ParametricScene
