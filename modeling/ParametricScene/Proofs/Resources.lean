import ParametricScene.Proofs.Factories
import ParametricScene.Proofs.Registry

/-!
# Meshes and materials are accounted for

Leaves are acquired one by one while a template is built, and given back together when it is built
again. Here the books are balanced: after any run of edits the meshes in use are those of the leaves in
the graph, each the mesh of one leaf, and the uses of a material are the leaves that have it.

The books are kept over the graph and not over the registry of leaves, in which a leaf may have been
overwritten by another with the same path.

## Auditors

That nothing is given back twice is a statement about what happens on the way, and the scene at the end
does not show it. So a run is also made with `MeshAuditor` and `LibraryAuditor` in place of the
factory and the library: they do the same and count the requests to give back what is not in use.

## Main definitions

* `MeshAuditor`, `LibraryAuditor` — stores that count unjustified releases
* `SceneGraph.leaves` — the leaves in a graph, whether they are registered or not
* `Scene.Accounts` — the books are balanced

## Main results

* `MeshAuditor.Balanced.release`, `LibraryAuditor.Balanced.release` — giving back what is in use
  keeps the books balanced and is no fault
* `Scene.accounts_run_buildWith` — after every run the books are balanced, and no release was a fault
-/

namespace ParametricScene

/-! ### Auditors -/

/-- A factory of meshes that counts how often it was given back a mesh that was not in use. -/
structure MeshAuditor where
  meshes : MeshFactory
  faults : Nat

namespace MeshAuditor

/-- Nothing built and no fault. -/
def empty : MeshAuditor := ⟨.empty, 0⟩

/-- Builds a mesh. -/
def create (kind : GeometryKind) (dimensions : List Float) (a : MeshAuditor) :
    Option Nat × MeshAuditor :=
  ((a.meshes.create kind dimensions).1, { a with meshes := (a.meshes.create kind dimensions).2 })

/-- Gives a mesh back, which is a fault if it is not in use. -/
def release (handle : Nat) (a : MeshAuditor) : MeshAuditor where
  meshes := a.meshes.release handle
  faults := if (a.meshes.mesh? handle).isSome then a.faults else a.faults + 1

instance : GeometryFactory MeshAuditor := ⟨create, release, fun handle a => a.meshes.bounds? handle⟩

/-- An auditor stands for the factory inside it. -/
theorem factoryMap_meshes : FactoryMap meshes := ⟨fun _ _ _ => rfl, fun _ _ => rfl⟩

/-- The meshes in use are exactly those of the given handles, each given once, and there was no
fault. -/
structure Balanced (a : MeshAuditor) (handles : List Nat) : Prop where
  faults : a.faults = 0
  nodup : handles.Nodup
  isSome_iff : ∀ handle, (a.meshes.mesh? handle).isSome = true ↔ handle ∈ handles

theorem balanced_empty : empty.Balanced [] :=
  ⟨rfl, List.nodup_nil, fun handle => by simp [empty, MeshFactory.mesh?, MeshFactory.empty]⟩

namespace Balanced

variable {a b : MeshAuditor} {handles more : List Nat} {handle : Nat}

theorem perm (h : a.Balanced handles) (hperm : handles.Perm more) : a.Balanced more :=
  ⟨h.faults, hperm.nodup_iff.mp h.nodup, fun handle =>
    (h.isSome_iff handle).trans hperm.mem_iff⟩

/-- A new mesh has a handle of its own. -/
theorem create (h : a.Balanced handles) {kind : GeometryKind} {dimensions : List Float}
    (hcreate : a.create kind dimensions = (some handle, b)) : b.Balanced (handle :: handles) := by
  rw [MeshAuditor.create, MeshFactory.create, Prod.mk.injEq] at hcreate
  cases hp : Primitive.ofDimensions? kind dimensions with
  | none => simp [hp] at hcreate
  | some p =>
    simp only [hp, Option.some.injEq] at hcreate
    obtain ⟨rfl, rfl⟩ := hcreate
    have hmesh : ∀ k, (MeshFactory.mk (a.meshes.meshes.push (some p.mesh))).mesh? k =
        if k = a.meshes.meshes.size then some p.mesh else a.meshes.mesh? k := fun k => by
      rw [MeshFactory.mesh?, Array.getElem?_push, MeshFactory.mesh?]
      split <;> rfl
    have hfresh : a.meshes.meshes.size ∉ handles := by
      rw [← h.isSome_iff, MeshFactory.mesh?, Array.getElem?_eq_none (Nat.le_refl _)]
      exact Bool.false_ne_true
    refine ⟨h.faults, List.nodup_cons.mpr ⟨hfresh, h.nodup⟩, fun k => ?_⟩
    rw [hmesh, List.mem_cons]
    by_cases hk : k = a.meshes.meshes.size
    · simp [hk]
    · rw [if_neg hk, h.isSome_iff]
      exact ⟨Or.inr, fun hor => hor.resolve_left hk⟩

/-- A request that is refused changes nothing. -/
theorem create_none (h : a.Balanced handles) {kind : GeometryKind} {dimensions : List Float}
    (hcreate : a.create kind dimensions = (none, b)) : b.Balanced handles := by
  rw [MeshAuditor.create, MeshFactory.create, Prod.mk.injEq] at hcreate
  cases hp : Primitive.ofDimensions? kind dimensions with
  | none =>
    simp only [hp] at hcreate
    rw [← hcreate.2]
    exact h
  | some p => simp [hp] at hcreate

/-- **Giving back a mesh that is in use** takes its handle away and is no fault. -/
theorem release (h : a.Balanced (handle :: handles)) : (a.release handle).Balanced handles := by
  obtain ⟨hnot, hnodup⟩ := List.nodup_cons.mp h.nodup
  refine ⟨?_, hnodup, fun k => ?_⟩
  · rw [MeshAuditor.release, if_pos ((h.isSome_iff handle).mpr (List.mem_cons_self ..))]
    exact h.faults
  · rw [MeshAuditor.release, MeshFactory.mesh?_release]
    by_cases hk : handle = k
    · subst hk
      simp [hnot]
    · rw [if_neg hk, h.isSome_iff, List.mem_cons]
      exact ⟨fun hor => hor.resolve_left (Ne.symm hk), Or.inr⟩

/-- Giving back several meshes one after another. -/
theorem releaseAll {leaves : List Leaf} (h : a.Balanced (leaves.map Leaf.geometryHandle ++ handles)) :
    (leaves.foldl (fun a l => MeshAuditor.release l.geometryHandle a) a).Balanced handles := by
  induction leaves generalizing a with
  | nil => exact h
  | cons l rest ih => exact ih (release h)

end Balanced

end MeshAuditor

/-- A library of materials that counts how often a use was ended of a material without uses. -/
structure LibraryAuditor where
  library : MaterialLibrary
  faults : Nat

namespace LibraryAuditor

/-- No materials and no fault. -/
def empty : LibraryAuditor := ⟨.empty, 0⟩

/-- The handle of a name, which is used once more. -/
def acquire (name : String) (definition : MaterialDefinition) (a : LibraryAuditor) :
    Nat × LibraryAuditor :=
  ((a.library.acquire name definition).1, { a with library := (a.library.acquire name definition).2 })

/-- Ends one use, which is a fault if there are none. -/
def release (handle : Nat) (a : LibraryAuditor) : LibraryAuditor where
  library := a.library.release handle
  faults := if 0 < a.library.uses handle then a.faults else a.faults + 1

instance : MaterialCache LibraryAuditor := ⟨acquire, release⟩

/-- An auditor stands for the library inside it. -/
theorem cacheMap_library : CacheMap library := ⟨fun _ _ _ => rfl, fun _ _ => rfl⟩

/-- The uses of every material are those of the given leaves, whose materials are in the library under
their names, and there was no fault. -/
structure Balanced (a : LibraryAuditor) (leaves : List Leaf) : Prop where
  faults : a.faults = 0
  uses : ∀ handle, a.library.uses handle = leaves.countP (·.materialHandle == handle)
  named : ∀ leaf ∈ leaves, (a.library.get? leaf.materialHandle).map Material.name = some leaf.material

theorem balanced_empty : empty.Balanced [] :=
  ⟨rfl, fun handle => by simp [empty, MaterialLibrary.uses, MaterialLibrary.empty],
    fun leaf hleaf => by simp at hleaf⟩

end LibraryAuditor

namespace MaterialLibrary

variable {l : MaterialLibrary}

/-- Changing the number of uses at one handle, by any function of it. -/
theorem uses_modify (f : MaterialEntry → MaterialEntry) (handle k : Nat)
    (hzero : (l.entries[handle]?).isSome = true) :
    (MaterialLibrary.mk (l.entries.modify handle f)).uses k =
      if k = handle then ((l.entries[handle]?).map fun e => (f e).uses).getD 0 else l.uses k := by
  obtain ⟨e, he⟩ := Option.isSome_iff_exists.mp hzero
  rw [uses, Array.getElem?_modify]
  by_cases hk : handle = k
  · subst hk
    rw [if_pos rfl, if_pos rfl, he]
    rfl
  · rw [if_neg hk, if_neg (Ne.symm hk)]
    rfl

/-- Materials are not changed by counting their uses. -/
theorem get?_modify (f : MaterialEntry → MaterialEntry) (hf : ∀ e, (f e).material = e.material)
    (handle k : Nat) : (MaterialLibrary.mk (l.entries.modify handle f)).get? k = l.get? k := by
  rw [get?, Array.getElem?_modify, get?]
  split
  · rw [Option.map_map]
    exact Option.map_congr fun e _ => hf e
  · rfl

end MaterialLibrary

namespace LibraryAuditor.Balanced

variable {a b : LibraryAuditor} {leaves more : List Leaf} {leaf : Leaf}

theorem perm (h : a.Balanced leaves) (hperm : leaves.Perm more) : a.Balanced more :=
  ⟨h.faults, fun handle => (h.uses handle).trans (hperm.countP_eq _), fun leaf hleaf =>
    h.named leaf (hperm.mem_iff.mpr hleaf)⟩

/-- A leaf that asks for a material that is known uses it once more. -/
theorem use (h : a.Balanced leaves)
    (hhandle : a.library.handle? leaf.material = some leaf.materialHandle) :
    LibraryAuditor.Balanced { a with
      library := ⟨a.library.entries.modify leaf.materialHandle MaterialEntry.use⟩ }
      (leaf :: leaves) := by
  rw [MaterialLibrary.handle?, Array.findIdx?_eq_some_iff_getElem] at hhandle
  obtain ⟨hlt, hname, -⟩ := hhandle
  have hget := Array.getElem?_eq_getElem hlt
  have hmaterial : ∀ k, (MaterialLibrary.mk (a.library.entries.modify leaf.materialHandle
      MaterialEntry.use)).get? k = a.library.get? k :=
    MaterialLibrary.get?_modify MaterialEntry.use (fun _ => rfl) _
  refine ⟨h.faults, fun k => ?_, fun leaf' hleaf' => ?_⟩
  · rw [MaterialLibrary.uses_modify _ _ _ (by rw [hget]; rfl), List.countP_cons]
    by_cases hk : k = leaf.materialHandle
    · subst hk
      have huses := h.uses leaf.materialHandle
      rw [MaterialLibrary.uses, hget] at huses
      simp only [MaterialEntry.use, hget, Option.map_some, Option.getD_some, if_true, huses,
        beq_self_eq_true]
    · rw [if_neg hk, h.uses, if_neg (by simpa using Ne.symm hk)]
      rfl
  · rw [hmaterial]
    rcases List.mem_cons.mp hleaf' with rfl | hmem
    · rw [MaterialLibrary.get?, hget]
      exact congrArg some (eq_of_beq hname)
    · exact h.named leaf' hmem

/-- A leaf that asks for a material that is not known brings it in. -/
theorem add (h : a.Balanced leaves) (definition : MaterialDefinition)
    (hhandle : a.library.entries.size = leaf.materialHandle) :
    LibraryAuditor.Balanced { a with
      library := ⟨a.library.entries.push ⟨Material.ofDefinition leaf.material definition, 1⟩⟩ }
      (leaf :: leaves) := by
  have hget : ∀ k, (a.library.entries.push ⟨Material.ofDefinition leaf.material definition, 1⟩)[k]?
      = if k = leaf.materialHandle then some ⟨Material.ofDefinition leaf.material definition, 1⟩
        else a.library.entries[k]? := fun k => by
    rw [Array.getElem?_push, hhandle]
  -- no leaf had the handle that was not given out
  have hnone : leaves.countP (·.materialHandle == leaf.materialHandle) = 0 := by
    rw [← h.uses, MaterialLibrary.uses, ← hhandle, Array.getElem?_eq_none (Nat.le_refl _)]
  refine ⟨h.faults, fun k => ?_, fun leaf' hleaf' => ?_⟩
  · rw [MaterialLibrary.uses, hget, List.countP_cons]
    by_cases hk : k = leaf.materialHandle
    · subst hk
      simp [hnone]
    · rw [if_neg hk, if_neg (by simpa using Ne.symm hk), ← h.uses]
      rfl
  · rw [MaterialLibrary.get?, hget]
    rcases List.mem_cons.mp hleaf' with rfl | hmem
    · rw [if_pos rfl]
      rfl
    · have hne : leaf'.materialHandle ≠ leaf.materialHandle := fun heq => by
        rw [List.countP_eq_zero] at hnone
        exact hnone leaf' hmem (by simp [heq])
      rw [if_neg hne]
      exact h.named leaf' hmem

/-- **A leaf that asks for its material** keeps the books balanced. -/
theorem acquire (h : a.Balanced leaves) {definition : MaterialDefinition}
    (hacquire : a.acquire leaf.material definition = (leaf.materialHandle, b)) :
    b.Balanced (leaf :: leaves) := by
  rw [LibraryAuditor.acquire, MaterialLibrary.acquire, Prod.mk.injEq] at hacquire
  cases hhandle : a.library.handle? leaf.material with
  | some handle =>
    simp only [hhandle] at hacquire
    obtain ⟨rfl, rfl⟩ := hacquire
    exact h.use hhandle
  | none =>
    simp only [hhandle] at hacquire
    obtain ⟨hsize, rfl⟩ := hacquire
    exact h.add definition hsize

/-- **Ending the use of a leaf** takes one use away and is no fault. -/
theorem release (h : a.Balanced (leaf :: leaves)) :
    (a.release leaf.materialHandle).Balanced leaves := by
  have huses := h.uses leaf.materialHandle
  rw [List.countP_cons, if_pos (by simp)] at huses
  obtain ⟨e, he⟩ : ∃ e, a.library.entries[leaf.materialHandle]? = some e := by
    rw [← Option.isSome_iff_exists, ← Option.not_isNone, Bool.not_eq_true']
    cases he : a.library.entries[leaf.materialHandle]? with
    | none =>
      rw [MaterialLibrary.uses, he] at huses
      exact absurd huses (Nat.succ_ne_zero _).symm
    | some e => rfl
  refine ⟨?_, fun k => ?_, fun leaf' hleaf' => ?_⟩
  · rw [LibraryAuditor.release, if_pos (by rw [huses]; omega)]
    exact h.faults
  · rw [LibraryAuditor.release, MaterialLibrary.release,
      MaterialLibrary.uses_modify _ _ _ (by rw [he]; rfl)]
    by_cases hk : k = leaf.materialHandle
    · subst hk
      rw [MaterialLibrary.uses, he] at huses
      simp only [if_true, he, MaterialEntry.leave, Option.map_some, Option.getD_some] at huses ⊢
      omega
    · rw [if_neg hk, h.uses, List.countP_cons, if_neg (by simpa using Ne.symm hk)]
      rfl
  · rw [LibraryAuditor.release, MaterialLibrary.release,
      MaterialLibrary.get?_modify MaterialEntry.leave fun _ => rfl]
    exact h.named leaf' (List.mem_cons_of_mem _ hleaf')

/-- Ending the uses of several leaves one after another. -/
theorem releaseAll {gone : List Leaf} (h : a.Balanced (gone ++ leaves)) :
    (gone.foldl (fun a l => LibraryAuditor.release l.materialHandle a) a).Balanced leaves := by
  induction gone generalizing a with
  | nil => exact h
  | cons l rest ih => exact ih (release h)

end LibraryAuditor.Balanced

/-! ### The leaves of a graph -/

/-- The leaves in a graph in the order of their slots, whether they are registered or not. -/
def SceneGraph.leaves (g : SceneGraph) : List Leaf :=
  g.slots.toList.filterMap fun cell => cell.bind SceneObject.leaf?

/-- The objects of a forest that a graph shows, in the order of their slots. -/
theorem SceneGraph.Shows.objects_perm {ρ : Type} {g : SceneGraph} {f : Forest (Site ρ)}
    (h : g.Shows f) : (f.objects none).Perm
      ((List.range g.slots.size).filterMap fun slot => (g.get? slot).map (Prod.mk slot)) := by
  have hnodup : (f.objects none).Nodup := by
    have hslots := h.nodup
    rw [← Forest.map_fst_objects none] at hslots
    exact hslots.of_map
  refine (List.perm_ext_iff_of_nodup hnodup ?_).mpr fun r => ?_
  · refine List.nodup_range.filterMap fun slot slot' r hr hr' => ?_
    obtain ⟨o, -, rfl⟩ := Option.map_eq_some_iff.mp hr
    obtain ⟨o', -, heq⟩ := Option.map_eq_some_iff.mp hr'
    exact (congrArg Prod.fst heq).symm
  · obtain ⟨slot, o⟩ := r
    rw [← h.get?_eq_some_iff, List.mem_filterMap]
    constructor
    · intro hget
      exact ⟨slot, List.mem_range.mpr (SceneGraph.lt_of_get? hget), by rw [hget]; rfl⟩
    · rintro ⟨slot', -, heq⟩
      obtain ⟨o', hget, hpair⟩ := Option.map_eq_some_iff.mp heq
      obtain ⟨rfl, rfl⟩ := Prod.mk.inj hpair
      exact hget

/-- The leaves in a graph, slot by slot. -/
theorem SceneGraph.leaves_eq (g : SceneGraph) :
    g.leaves = (List.range g.slots.size).filterMap fun slot => (g.get? slot).bind SceneObject.leaf? := by
  have hcells : g.slots.toList = (List.range g.slots.size).map g.get? := by
    refine List.ext_getElem (by simp) fun i hi _ => ?_
    have hlt : i < g.slots.size := by simpa using hi
    simp [SceneGraph.get?, Array.getElem?_eq_getElem hlt]
  rw [SceneGraph.leaves, hcells, List.filterMap_map]
  rfl

/-- A graph has the leaves of the forest that it shows. -/
theorem SceneGraph.Shows.leaves_perm {ρ : Type} {g : SceneGraph} {f : Forest (Site ρ)}
    (h : g.Shows f) : f.leaves.Perm g.leaves := by
  have hleaves : g.leaves = ((List.range g.slots.size).filterMap fun slot =>
      (g.get? slot).map (Prod.mk slot)).filterMap fun r => r.2.leaf? := by
    rw [SceneGraph.leaves_eq, List.filterMap_filterMap]
    refine List.filterMap_congr fun slot _ => ?_
    cases g.get? slot <;> rfl
  rw [hleaves, ← f.filterMap_leaf?_objects none]
  exact h.objects_perm.filterMap _

/-- What is put last below an open site adds its leaves. -/
theorem Forest.Gap.leaves_fill_append {ρ : Type} (gap : Forest.Gap (Site ρ)) (a : Site ρ)
    (below more : Forest (Site ρ)) :
    (gap.fill a (below ++ more)).leaves.Perm (more.leaves ++ (gap.fill a below).leaves) := by
  have hperm := (gap.labels_fill_append a below more).filterMap Site.leaf?
  rwa [List.filterMap_append] at hperm

/-! ### The books of a scene -/

namespace Scene

/-- The meshes in use are those of the leaves in the graph, each of one leaf; the uses of a material
are the leaves that have it, under the name it has in the library; and this name is defined or that of
the fallback. -/
structure Accounts (definitions : OrderedMap MaterialDefinition)
    (s : Scene MeshFactory MaterialLibrary) : Prop where
  isSome_mesh?_iff : ∀ handle, (s.geometry.mesh? handle).isSome = true ↔
    ∃ leaf ∈ s.graph.leaves, leaf.geometryHandle = handle
  nodup_handles : (s.graph.leaves.map Leaf.geometryHandle).Nodup
  uses : ∀ handle, s.materials.uses handle = s.graph.leaves.countP (·.materialHandle == handle)
  named : ∀ leaf ∈ s.graph.leaves,
    ∃ m, s.materials.get? leaf.materialHandle = some m ∧ m.name = leaf.material
  defined : ∀ leaf ∈ s.graph.leaves, leaf.material ∈ definitions.keys ∨ leaf.material = "default"

/-- The books of the auditors are balanced for the leaves of the forest that the graph shows. -/
structure Audited (definitions : OrderedMap MaterialDefinition)
    (s : Scene MeshAuditor LibraryAuditor) (f : SceneForest) : Prop where
  geometry : s.geometry.Balanced (f.leaves.map Leaf.geometryHandle)
  materials : s.materials.Balanced f.leaves
  defined : ∀ leaf ∈ f.leaves, leaf.material ∈ definitions.keys ∨ leaf.material = fallbackName
  definitions_eq : s.definitions = definitions

/-- A leaf has a material that is defined, or the fallback. -/
theorem resolveMaterial_fst {G M : Type} (s : Scene G M) (name : Option String) :
    (s.resolveMaterial name).1 ∈ s.definitions.keys ∨
      (s.resolveMaterial name).1 = fallbackName := by
  rw [resolveMaterial]
  cases h : name.bind fun n => (s.definitions.get? n).map fun d => (n, d) with
  | none => exact Or.inr rfl
  | some named =>
    obtain ⟨n, -, hdefinition⟩ := Option.bind_eq_some_iff.mp h
    obtain ⟨d, hd, rfl⟩ := Option.map_eq_some_iff.mp hdefinition
    exact Or.inl (OrderedMap.mem_keys_iff.mpr (by rw [hd]; rfl))

section Audit

variable {definitions : OrderedMap MaterialDefinition} {s : Scene MeshAuditor LibraryAuditor}
  {gap : Forest.Gap (Site (Option Origin))} {a site : Site (Option Origin)} {below : SceneForest}

/-- The books depend on the leaves only, in any order. -/
theorem Audited.perm {f f' : SceneForest} (h : s.Audited definitions f)
    (hperm : f.leaves.Perm f'.leaves) : s.Audited definitions f' :=
  ⟨h.geometry.perm (hperm.map _), h.materials.perm hperm, fun leaf hleaf =>
    h.defined leaf (hperm.mem_iff.mpr hleaf), h.definitions_eq⟩

/-- An addition that is no leaf does not touch the books. -/
theorem Audited.plant (h : s.Audited definitions (gap.fill a below)) (hsite : site.leaf? = none) :
    (s.plant a.slot site).Audited definitions (gap.fill a (below ++ .cons site .nil .nil)) := by
  have hperm := gap.leaves_fill_append a below (.cons site .nil .nil)
  rw [Forest.leaves_singleton, hsite, Option.toList_none, List.nil_append] at hperm
  have hs := h.perm hperm.symm
  exact ⟨hs.geometry, hs.materials, hs.defined, hs.definitions_eq⟩

theorem Audited.sprout {p q : Scene MeshAuditor LibraryAuditor × SceneForest}
    (h : p.1.Audited definitions p.2) (hstep : Sprouts p q) : q.1.Audited definitions q.2 := by
  cases hstep with
  | refuse _ hcreate =>
    exact ⟨h.geometry.create_none hcreate, h.materials, h.defined, h.definitions_eq⟩
  | @leaf s gap a site below leaf material geometry materials _ hsite _ hcreate hacquire hmaterial =>
    have hleaf : site.leaf? = some leaf := by rw [Site.leaf?, hsite]
    have hperm := gap.leaves_fill_append a below (.cons site .nil .nil)
    rw [Forest.leaves_singleton, hleaf, Option.toList_some, List.singleton_append] at hperm
    have hdefined := s.resolveMaterial_fst material
    rw [← hmaterial] at hacquire hdefined
    refine ⟨(h.geometry.create hcreate).perm (hperm.symm.map _),
      (h.materials.acquire hacquire).perm hperm.symm, fun leaf' hleaf' => ?_, h.definitions_eq⟩
    rcases List.mem_cons.mp (hperm.mem_iff.mp hleaf') with rfl | hmem
    · rw [← h.definitions_eq]
      exact hdefined
    · exact h.defined leaf' hmem
  | group _ hsite => exact Audited.plant h (by rw [Site.leaf?, hsite])
  | container _ hsite _ =>
    have hplant := Audited.plant h (by rw [Site.leaf?, hsite])
    exact ⟨hplant.geometry, hplant.materials, hplant.defined, hplant.definitions_eq⟩

/-- **Pruning gives back exactly what the forest below had in use.** -/
theorem Audited.reopened (h : s.Audited definitions (gap.fill a below)) (path : String)
    (ev : Evaluator) (violations : List Violation) :
    (s.reopened path a.slot below ev violations).Audited definitions (gap.fill a .nil) := by
  have hperm := gap.leaves_fill_append a .nil below
  rw [Forest.nil_append] at hperm
  have hgeometry := h.geometry.perm (hperm.map Leaf.geometryHandle)
  rw [List.map_append] at hgeometry
  exact ⟨hgeometry.releaseAll, (h.materials.perm hperm).releaseAll, fun leaf hleaf =>
    h.defined leaf (hperm.mem_iff.mpr (List.mem_append_right _ hleaf)), h.definitions_eq⟩

/-- **Every single change keeps the books balanced.** -/
theorem Audited.turn {p q : Scene MeshAuditor LibraryAuditor × SceneForest}
    (h : p.1.Audited definitions p.2) (hstep : Turns p q) : q.1.Audited definitions q.2 := by
  cases hstep with
  | sprout hsprout => exact h.sprout hsprout
  | prune _ _ => exact Audited.reopened h _ _ _
  | @record s gap a below path name entry p stored _ _ =>
    have hsame := gap.leaves_fill_renote a
      (some ((editedEntry name p entry).template, entry.surroundings)) below
    have hs := Audited.perm h (List.Perm.of_eq hsame.symm)
    exact ⟨hs.geometry, hs.materials, hs.defined, hs.definitions_eq⟩

theorem Audited.turns {p q : Scene MeshAuditor LibraryAuditor × SceneForest}
    (h : p.1.Audited definitions p.2) (hsteps : Relation.ReflTransGen Turns p q) :
    q.1.Audited definitions q.2 := by
  induction hsteps with
  | refl => exact h
  | tail _ hstep ih => exact ih.turn hstep

/-- Balanced books of the auditors are balanced books of the stores inside them. -/
theorem Audited.accounts {f : SceneForest} (h : s.Audited definitions f) (hshows : s.graph.Shows f) :
    (s.mapStores MeshAuditor.meshes LibraryAuditor.library).Accounts definitions := by
  have hperm := hshows.leaves_perm
  obtain ⟨hgeometry, hmaterials, hdefined, -⟩ := h
  refine ⟨fun handle => ?_, (hperm.map _).nodup_iff.mp hgeometry.nodup, fun handle => ?_,
    fun leaf hleaf => ?_, fun leaf hleaf => hdefined leaf (hperm.mem_iff.mpr hleaf)⟩
  · rw [mapStores, hgeometry.isSome_iff, (hperm.map _).mem_iff, List.mem_map]
  · exact (hmaterials.uses handle).trans (hperm.countP_eq _)
  · exact Option.map_eq_some_iff.mp (hmaterials.named leaf (hperm.mem_iff.mpr hleaf))

theorem audited_initial (evaluator : Evaluator) (settings : Settings)
    (definitions : OrderedMap MaterialDefinition) :
    (initial MeshAuditor.empty LibraryAuditor.empty evaluator settings definitions).Audited
      definitions (.cons rootSite .nil .nil) :=
  ⟨MeshAuditor.balanced_empty, LibraryAuditor.balanced_empty, fun leaf hleaf => by
    simp [Forest.leaves, Forest.labels, Site.leaf?, rootSite] at hleaf, rfl⟩

end Audit

/-- A run with auditors leads to the same scene. -/
theorem mapStores_run_auditors (evaluator : Evaluator) (settings : Settings) (d : SceneDocument)
    (es : List SceneEdit) :
    ((buildWith MeshAuditor.empty LibraryAuditor.empty evaluator settings d).run es).mapStores
        MeshAuditor.meshes LibraryAuditor.library =
      (buildWith MeshFactory.empty MaterialLibrary.empty evaluator settings d).run es := by
  rw [← run_mapStores MeshAuditor.factoryMap_meshes LibraryAuditor.cacheMap_library,
    ← buildWith_mapStores MeshAuditor.factoryMap_meshes LibraryAuditor.cacheMap_library]
  rfl

/-- **Meshes and materials are accounted for.** After any run of edits the books of the scene are
balanced. The same run with auditors leads to the same scene, and they find that no mesh was given
back that was not in use, and that no use was ended of a material without uses. -/
theorem accounts_run_buildWith (evaluator : Evaluator) (settings : Settings) (d : SceneDocument)
    (es : List SceneEdit) :
    ((buildWith MeshFactory.empty MaterialLibrary.empty evaluator settings d).run es).Accounts
        d.materials ∧
      ∃ audited : Scene MeshAuditor LibraryAuditor,
        audited = (buildWith MeshAuditor.empty LibraryAuditor.empty evaluator settings d).run es ∧
        audited.mapStores MeshAuditor.meshes LibraryAuditor.library =
          (buildWith MeshFactory.empty MaterialLibrary.empty evaluator settings d).run es ∧
        audited.geometry.faults = 0 ∧ audited.materials.faults = 0 := by
  obtain ⟨f, hf⟩ := run_turns MeshAuditor.empty LibraryAuditor.empty evaluator settings d es
  have hregisters := (registers_initial MeshAuditor.empty LibraryAuditor.empty
    (evaluator.setMemoize settings.memoize) settings d.materials).turns hf
  have haudited := (audited_initial (evaluator.setMemoize settings.memoize) settings
    d.materials).turns hf
  have hsame := mapStores_run_auditors evaluator settings d es
  refine ⟨?_, _, rfl, hsame, haudited.geometry.faults, haudited.materials.faults⟩
  rw [← hsame]
  exact haudited.accounts hregisters.shows

end Scene

end ParametricScene
