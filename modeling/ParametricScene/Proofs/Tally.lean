import ParametricScene.Proofs.Rebuilding
import ParametricScene.Proofs.Resources

/-!
# Counting meshes and uses

Where the books are balanced, the counters of the factory and of the library are counts of leaves. So
they do not depend on how the leaves came about: two scenes with the same leaves have the same number
of meshes, and the same number of uses of every material, whatever handles these have.

## Main definitions

* `MaterialLibrary.usesOf` — the number of uses of a name

## Main results

* `Scene.Accounts.live_eq` — there are as many meshes as leaves
* `Scene.Accounts.totalUses_eq` — there are as many uses of materials as leaves
* `Scene.Accounts.usesOf_eq` — a name has as many uses as leaves
* `Scene.accounts_run_with` — the books are balanced after every run of edits
-/

namespace ParametricScene

/-- The number of uses of a name: those of all handles whose material has it. -/
def MaterialLibrary.usesOf (l : MaterialLibrary) (name : String) : Nat :=
  (((List.range l.size).filter fun h => (l.get? h).map Material.name == some name).map l.uses).sum

/-- Counting in two goes what cannot be counted twice. -/
theorem countP_add_countP {α : Type} {p q : α → Bool} (h : ∀ a, p a = true → q a = false)
    (l : List α) : l.countP p + l.countP q = l.countP fun a => p a || q a := by
  induction l with
  | nil => rfl
  | cons a rest ih =>
    rw [List.countP_cons, List.countP_cons, List.countP_cons, ← ih]
    cases hp : p a with
    | true =>
      rw [h a hp, Bool.true_or, if_pos rfl, if_neg Bool.false_ne_true]
      omega
    | false =>
      rw [Bool.false_or, if_neg Bool.false_ne_true]
      omega

/-- Leaves with one of several handles, counted handle by handle. -/
theorem sum_countP_materialHandle (leaves : List Leaf) {handles : List Nat}
    (hnodup : handles.Nodup) :
    (handles.map fun h => leaves.countP (·.materialHandle == h)).sum =
      leaves.countP fun l => handles.contains l.materialHandle := by
  induction handles with
  | nil => simp
  | cons h rest ih =>
    obtain ⟨hnot, hrest⟩ := List.nodup_cons.mp hnodup
    rw [List.map_cons, List.sum_cons, ih hrest, countP_add_countP fun l hl => ?_]
    · simp only [List.contains_cons]
    · rw [eq_of_beq hl, List.contains_eq_mem, decide_eq_false hnot]

namespace Scene

namespace Accounts

variable {definitions : OrderedMap MaterialDefinition} {s : Scene MeshFactory MaterialLibrary}

/-- **There are as many meshes as leaves.** -/
theorem live_eq (h : s.Accounts definitions) : s.geometry.live = s.graph.leaves.length := by
  have hlive : s.geometry.live =
      ((List.range s.geometry.meshes.size).filter fun k => (s.geometry.mesh? k).isSome).length := by
    have hmeshes : s.geometry.meshes.toList =
        (List.range s.geometry.meshes.size).map fun k => s.geometry.meshes[k]?.join := by
      refine List.ext_getElem (by simp) fun k hk _ => ?_
      have hlt : k < s.geometry.meshes.size := by simpa using hk
      simp [Array.getElem?_eq_getElem hlt]
    rw [MeshFactory.live, ← Array.countP_toList, hmeshes, List.countP_map,
      List.countP_eq_length_filter]
    rfl
  have hperm : ((List.range s.geometry.meshes.size).filter fun k =>
      (s.geometry.mesh? k).isSome).Perm (s.graph.leaves.map Leaf.geometryHandle) := by
    refine (List.perm_ext_iff_of_nodup (List.nodup_range.filter _) h.nodup_handles).mpr fun k => ?_
    rw [List.mem_filter, List.mem_range, h.isSome_mesh?_iff, List.mem_map, and_iff_right_iff_imp]
    intro hleaf
    have hsome := (h.isSome_mesh?_iff k).mpr hleaf
    by_contra hge
    rw [MeshFactory.mesh?, Array.getElem?_eq_none (Nat.le_of_not_lt hge)] at hsome
    exact Bool.false_ne_true hsome
  rw [hlive, hperm.length_eq, List.length_map]

/-- The material of a leaf is in the library. -/
theorem materialHandle_lt (h : s.Accounts definitions) {l : Leaf} (hl : l ∈ s.graph.leaves) :
    l.materialHandle < s.materials.size := by
  obtain ⟨m, hget, -⟩ := h.named l hl
  by_contra hge
  rw [MaterialLibrary.get?, Array.getElem?_eq_none (Nat.le_of_not_lt hge)] at hget
  cases hget

/-- **A name has as many uses as leaves.** -/
theorem usesOf_eq (h : s.Accounts definitions) (name : String) :
    s.materials.usesOf name = s.graph.leaves.countP (·.material == name) := by
  have huses : s.materials.uses = fun k => s.graph.leaves.countP (·.materialHandle == k) :=
    funext h.uses
  rw [MaterialLibrary.usesOf, huses, sum_countP_materialHandle _ (List.nodup_range.filter _)]
  refine List.countP_congr fun l hl => ?_
  obtain ⟨m, hget, hname⟩ := h.named l hl
  simp [hget, h.materialHandle_lt hl, hname]

/-- **There are as many uses as leaves.** -/
theorem totalUses_eq (h : s.Accounts definitions) :
    s.materials.totalUses = s.graph.leaves.length := by
  have hentries : s.materials.entries.toList.map MaterialEntry.uses =
      (List.range s.materials.size).map s.materials.uses := by
    refine List.ext_getElem (by simp [MaterialLibrary.size]) fun k hk _ => ?_
    have hlt : k < s.materials.entries.size := by simpa using hk
    simp [MaterialLibrary.uses, Array.getElem?_eq_getElem hlt]
  have htotal : s.materials.totalUses = ((List.range s.materials.size).map s.materials.uses).sum := by
    rw [MaterialLibrary.totalUses, ← Array.foldl_toList, ← hentries, List.sum_eq_foldl,
      List.foldl_map]
  have huses : s.materials.uses = fun k => s.graph.leaves.countP (·.materialHandle == k) :=
    funext h.uses
  rw [htotal, huses, sum_countP_materialHandle _ List.nodup_range, List.countP_eq_length]
  intro l hl
  rw [List.contains_eq_mem, decide_eq_true_eq, List.mem_range]
  exact h.materialHandle_lt hl

end Accounts

/-- The books of a scene that comes from the root alone by single changes are balanced. -/
theorem accounts_of_turns {settings : Settings} {d : SceneDocument}
    {edits : OrderedMap (OrderedMap Value)} {s : Scene MeshAuditor LibraryAuditor} {f : SceneForest}
    (h : Relation.ReflTransGen Turns (start settings d MeshAuditor.empty LibraryAuditor.empty edits,
      .cons rootSite .nil .nil) (s, f)) :
    (s.mapStores MeshAuditor.meshes LibraryAuditor.library).Accounts d.materials := by
  obtain ⟨hgeometry, hmaterials, hdefined, hdefinitions⟩ := audited_initial
    (settings.evaluator.setMemoize settings.memoize) settings d.materials
  have hshows := Registers.turns (q := (s, f)) (registers_start settings d _ _ edits) h
  have haudited : s.Audited d.materials f := Audited.turns (q := (s, f))
    ⟨hgeometry, hmaterials, hdefined, hdefinitions⟩ h
  exact haudited.accounts hshows.shows

/-- The books are balanced after every run of edits, whatever evaluator the scene was built with. -/
theorem accounts_run_with (evaluator : Evaluator) (settings : Settings) (d : SceneDocument)
    (es : List SceneEdit) :
    ((buildWith MeshFactory.empty MaterialLibrary.empty evaluator settings d).run es).Accounts
      d.materials := by
  obtain ⟨f, hf⟩ := run_turns MeshAuditor.empty LibraryAuditor.empty evaluator settings d es
  have hregisters := (registers_initial MeshAuditor.empty LibraryAuditor.empty
    (evaluator.setMemoize settings.memoize) settings d.materials).turns hf
  have haudited := (audited_initial (evaluator.setMemoize settings.memoize) settings
    d.materials).turns hf
  rw [← mapStores_run_auditors]
  exact haudited.accounts hregisters.shows

/-- The books are balanced after every run of edits. -/
theorem accounts_run (settings : Settings) (d : SceneDocument) (es : List SceneEdit) :
    ((build settings d).run es).Accounts d.materials :=
  accounts_run_with settings.evaluator settings d es

end Scene

end ParametricScene
