import ParametricScene.Proofs.Editing

/-!
# Scenes over other factories

A scene only passes handles on. So a factory that stands for another one, and answers as it does, can
take its place, and the scene is the same up to the factory. The same holds for keepers of materials.

The use of this is that a factory can be watched. A factory that keeps books about its requests stands
for the one inside it, and what the books say after a run is said about runs of the bare factory.

## Main definitions

* `FactoryMap`, `CacheMap` — one factory or keeper of materials stands for another
* `Scene.mapStores` — the scene with the factory and the keeper that are stood for

## Main results

* `Scene.run_mapStores` — a run of edits is the same up to the factories
-/

namespace ParametricScene

/-- The first factory stands for the second: it gives the same answers, and does the same. -/
structure FactoryMap {G H : Type} [GeometryFactory G] [GeometryFactory H] (φ : G → H) : Prop where
  create : ∀ kind dimensions g, GeometryFactory.create kind dimensions (φ g) =
    ((GeometryFactory.create kind dimensions g).1, φ (GeometryFactory.create kind dimensions g).2)
  release : ∀ handle g, GeometryFactory.release handle (φ g) = φ (GeometryFactory.release handle g)

/-- The first keeper of materials stands for the second. -/
structure CacheMap {M N : Type} [MaterialCache M] [MaterialCache N] (ψ : M → N) : Prop where
  acquire : ∀ name definition m, MaterialCache.acquire name definition (ψ m) =
    ((MaterialCache.acquire name definition m).1, ψ (MaterialCache.acquire name definition m).2)
  release : ∀ handle m, MaterialCache.release handle (ψ m) = ψ (MaterialCache.release handle m)

namespace Scene

variable {G H M N : Type}

/-- The scene with the factory and the keeper of materials that its own stand for. -/
def mapStores (φ : G → H) (ψ : M → N) (s : Scene G M) : Scene H N where
  evaluator := s.evaluator
  geometry := φ s.geometry
  materials := ψ s.materials
  definitions := s.definitions
  settings := s.settings
  graph := s.graph
  templates := s.templates
  leaves := s.leaves
  violations := s.violations
  edits := s.edits

/-- Two actions do the same up to the factories. -/
def Follows {α : Type} (φ : G → H) (ψ : M → N) (x : StateM (Scene G M) α)
    (y : StateM (Scene H N) α) : Prop :=
  ∀ s, y (s.mapStores φ ψ) = ((x s).1, (x s).2.mapStores φ ψ)

section Follows

variable {φ : G → H} {ψ : M → N} {α β : Type}

theorem Follows.pure (a : α) : Follows φ ψ (Pure.pure a) (Pure.pure a) := fun _ => rfl

theorem Follows.bind {x : StateM (Scene G M) α} {y : StateM (Scene H N) α}
    {f : α → StateM (Scene G M) β} {g : α → StateM (Scene H N) β} (hx : Follows φ ψ x y)
    (hf : ∀ a, Follows φ ψ (f a) (g a)) : Follows φ ψ (x >>= f) (y >>= g) := by
  intro s
  have hstep : (y >>= g) (s.mapStores φ ψ) = g (y (s.mapStores φ ψ)).1 (y (s.mapStores φ ψ)).2 :=
    rfl
  rw [hstep, hx s]
  exact hf (x s).1 (x s).2

/-- Looking at a part of the scene that is not a factory. -/
theorem Follows.get_bind {f : Scene G M → StateM (Scene G M) β}
    {g : Scene H N → StateM (Scene H N) β}
    (h : ∀ s, Follows φ ψ (f s) (g (s.mapStores φ ψ))) :
    Follows φ ψ (get >>= f) (get >>= g) :=
  fun s => h s s

theorem Follows.evaluating (action : StateM Evaluator α) :
    Follows φ ψ (evaluating action) (evaluating action) :=
  fun _ => rfl

theorem Follows.insertObject (parent : Nat) (path : String) (placement : Placement)
    (kind : ObjectKind) :
    Follows φ ψ (insertObject parent path placement kind)
      (insertObject parent path placement kind) :=
  fun _ => rfl

/-- Changing a part of the scene that is not a factory. -/
theorem Follows.modify {f : Scene G M → Scene G M} {g : Scene H N → Scene H N}
    (h : ∀ s, g (s.mapStores φ ψ) = (f s).mapStores φ ψ) :
    Follows φ ψ (modify f) (modify g) :=
  fun s => congrArg (Prod.mk ()) (h s)

end Follows

section Building

variable [GeometryFactory G] [GeometryFactory H] [MaterialCache M] [MaterialCache N]
  {φ : G → H} {ψ : M → N}

theorem Follows.buildLeaf (hφ : FactoryMap φ) (hψ : CacheMap ψ) (piece : PlacedGeometry)
    (parent : Nat) (path : String) :
    Follows φ ψ (buildLeaf piece parent path) (buildLeaf piece parent path) := by
  rw [Scene.buildLeaf, Scene.buildLeaf]
  cases piece.kind.isKnown with
  | false => exact .pure ()
  | true =>
    refine .bind (fun s => ?_) fun handle => ?_
    · simp only [createGeometry, mapStores, hφ.create]
    cases handle with
    | none => exact .pure ()
    | some handle =>
      refine .bind (fun s => ?_) fun _ => .bind (.insertObject _ _ _ _) fun _ => .modify fun _ => rfl
      have hresolve : (s.mapStores φ ψ).resolveMaterial piece.material =
          s.resolveMaterial piece.material := rfl
      simp only [acquireMaterial, hresolve]
      simp only [mapStores, hψ.acquire]

mutual

theorem Follows.buildNode {build : TemplateBuilder G M} {build' : TemplateBuilder H N}
    (hφ : FactoryMap φ) (hψ : CacheMap ψ)
    (hbuild : ∀ t parent path ctx, Follows φ ψ (build t parent path ctx) (build' t parent path ctx)) :
    ∀ (node : PlacedNode) (parent : Nat) (path : String),
      Follows φ ψ (buildNode build node parent path) (buildNode build' node parent path)
  | .group _ _ _ children, parent, path => by
    rw [Scene.buildNode, Scene.buildNode]
    exact .bind (.insertObject _ _ _ _) fun slot => Follows.buildNodes hφ hψ hbuild children slot _
  | .geometry piece, parent, path => .buildLeaf hφ hψ piece parent path
  | .template t ctx, parent, path => hbuild t parent path ctx

theorem Follows.buildNodes {build : TemplateBuilder G M} {build' : TemplateBuilder H N}
    (hφ : FactoryMap φ) (hψ : CacheMap ψ)
    (hbuild : ∀ t parent path ctx, Follows φ ψ (build t parent path ctx) (build' t parent path ctx)) :
    ∀ (nodes : List PlacedNode) (parent : Nat) (path : String),
      Follows φ ψ (buildNodes build nodes parent path) (buildNodes build' nodes parent path)
  | [], _, _ => .pure ()
  | node :: rest, parent, path => by
    rw [Scene.buildNodes, Scene.buildNodes]
    exact .bind (Follows.buildNode hφ hψ hbuild node parent path) fun _ =>
      Follows.buildNodes hφ hψ hbuild rest parent path

end

theorem Follows.expandWith {build : TemplateBuilder G M} {build' : TemplateBuilder H N}
    (hφ : FactoryMap φ) (hψ : CacheMap ψ)
    (hbuild : ∀ t parent path ctx, Follows φ ψ (build t parent path ctx) (build' t parent path ctx))
    (path : String) : Follows φ ψ (expandWith build path) (expandWith build' path) := by
  refine .get_bind fun s => ?_
  have htemplates : (s.mapStores φ ψ).templates = s.templates := rfl
  rw [htemplates]
  cases s.templates.get? path with
  | none => exact .pure ()
  | some entry =>
    exact .bind (.evaluating _) fun _ => .get_bind fun s => .bind (.evaluating _) fun _ =>
      .bind (.modify fun _ => rfl) fun _ => Follows.buildNodes hφ hψ hbuild _ _ _

theorem Follows.buildWithin (hφ : FactoryMap φ) (hψ : CacheMap ψ) (depth : Nat) (t : Template)
    (parent : Nat) (path : String) (ctx : Context) :
    Follows φ ψ (buildWithin depth t parent path ctx) (buildWithin depth t parent path ctx) := by
  induction depth generalizing t parent path ctx with
  | zero => exact .pure ()
  | succ depth ih =>
    refine .bind (.evaluating _) fun _ => .get_bind fun s => .bind (.insertObject _ _ _ _) fun _ =>
      .bind (.modify fun _ => rfl) fun _ => .expandWith hφ hψ ih _

theorem Follows.populate (hφ : FactoryMap φ) (hψ : CacheMap ψ) (templates : List Template) :
    Follows φ ψ (populate templates) (populate templates) := by
  induction templates with
  | nil => exact .pure ()
  | cons t rest ih => exact .bind (.buildWithin hφ hψ _ t _ _ _) fun _ => ih

theorem buildWith_mapStores (hφ : FactoryMap φ) (hψ : CacheMap ψ) (geometry : G) (materials : M)
    (evaluator : Evaluator) (settings : Settings) (d : SceneDocument) :
    buildWith (φ geometry) (ψ materials) evaluator settings d =
      (buildWith geometry materials evaluator settings d).mapStores φ ψ :=
  congrArg Prod.snd (Follows.populate hφ hψ d.templates
    (initial geometry materials (evaluator.setMemoize settings.memoize) settings d.materials))

/-! ### Edits -/

theorem releaseObject_mapStores (hφ : FactoryMap φ) (hψ : CacheMap ψ) (o : SceneObject)
    (s : Scene G M) :
    releaseObject o (s.mapStores φ ψ) = (s.releaseObject o).mapStores φ ψ := by
  rw [releaseObject, releaseObject]
  cases o.leaf? with
  | none => rfl
  | some leaf => simp only [mapStores, hφ.release, hψ.release]

theorem releaseChildren_mapStores (hφ : FactoryMap φ) (hψ : CacheMap ψ) (container : Nat)
    (s : Scene G M) :
    (s.mapStores φ ψ).releaseChildren container = (s.releaseChildren container).mapStores φ ψ := by
  have hfold : ∀ (removed : List (Nat × SceneObject)) (s : Scene G M),
      removed.foldl (fun s r => releaseObject r.2 s) (s.mapStores φ ψ) =
        (removed.foldl (fun s r => releaseObject r.2 s) s).mapStores φ ψ := by
    intro removed
    induction removed with
    | nil => exact fun _ => rfl
    | cons r rest ih =>
      intro s
      rw [List.foldl_cons, releaseObject_mapStores hφ hψ, ih, List.foldl_cons]
  have hstart : ({ s.mapStores φ ψ with graph := (s.graph.clearChildren container).2 } : Scene H N) =
      ({ s with graph := (s.graph.clearChildren container).2 } : Scene G M).mapStores φ ψ := rfl
  have hgraph : (s.mapStores φ ψ).graph = s.graph := rfl
  simp only [releaseChildren, hgraph]
  rw [hstart, hfold]
  rfl

theorem regenerate_mapStores (hφ : FactoryMap φ) (hψ : CacheMap ψ) (path : String)
    (s : Scene G M) :
    ((s.mapStores φ ψ).regenerate path).2 = (s.regenerate path).2.mapStores φ ψ := by
  have htemplates : (s.mapStores φ ψ).templates = s.templates := rfl
  rw [regenerate, regenerate, htemplates]
  cases s.templates.get? path with
  | none => rfl
  | some entry =>
    have hrelease := releaseChildren_mapStores hφ hψ entry.container
      { s with evaluator := s.evaluator.clearCache }
    have hexpand := Follows.expandWith hφ hψ
      (fun t parent path ctx => .buildWithin hφ hψ t.depth t parent path ctx) path
      ({ s with evaluator := s.evaluator.clearCache }.releaseChildren entry.container)
    exact (congrArg (fun s' => (expandTemplate path s').2) hrelease).trans
      (congrArg Prod.snd hexpand)

theorem apply_mapStores (hφ : FactoryMap φ) (hψ : CacheMap ψ) (e : SceneEdit) (s : Scene G M) :
    (s.mapStores φ ψ).apply e = (s.apply e).mapStores φ ψ := by
  cases e with
  | regenerate path => exact regenerate_mapStores hφ hψ path s
  | setParameter path name v =>
    have htemplates : (s.mapStores φ ψ).templates = s.templates := rfl
    rw [apply, apply, setParameter, setParameter, htemplates]
    cases s.templates.get? path with
    | none => rfl
    | some entry =>
      simp only
      cases entry.template.parameters.get? name with
      | none => rfl
      | some p =>
        simp only
        cases p.set v with
        | error cause => rfl
        | ok accepted => exact regenerate_mapStores hφ hψ path (s.recordEdit path name entry _ _)

/-- **A run of edits is the same up to the factories.** -/
theorem run_mapStores (hφ : FactoryMap φ) (hψ : CacheMap ψ) (es : List SceneEdit)
    (s : Scene G M) : (s.mapStores φ ψ).run es = (s.run es).mapStores φ ψ := by
  induction es generalizing s with
  | nil => rfl
  | cons e rest ih =>
    rw [run, List.foldl_cons, apply_mapStores hφ hψ]
    exact ih (s.apply e)

end Building

end Scene

end ParametricScene
