import ParametricScene.Proofs.Fingerprint

/-!
# Fingerprints as canonical keys

A fingerprint should be equal for two contexts exactly when they bind the same names to the same
values, in whatever order the names arrived. One half holds for all contexts: contexts that agree on
every name have the same bindings in another order, and sorting by name undoes the order, since no name
is bound twice.

The other half is the one the memory of an evaluator rests on, and it needs names without an equals
sign. A name with one can spell out a whole binding and the beginning of the next, so that two
different contexts share a fingerprint. Nothing else has to be asked for: an empty name, names with
semicolons and texts made of any characters are fine.

## Main definitions

* `Context.pair` — a context of two bindings

## Main results

* `Context.fingerprint_congr` — contexts that agree on every name have one fingerprint
* `Context.fingerprint_eq_iff` — clean contexts have one fingerprint exactly when they agree on every
  name
* `Context.fingerprint_eq_and_get?_ne` — without the proviso they may disagree
-/

namespace ParametricScene

namespace Context

/-! ### Sorting forgets the order of arrival -/

theorem nameLE_iff {a b : String × Value} : nameLE a b = true ↔ a.1 ≤ b.1 := decide_eq_true_iff

/-- The sorted bindings stand in the order of their names. -/
theorem pairwise_sorted (ctx : Context) :
    (ctx.entries.mergeSort nameLE).Pairwise fun a b => nameLE a b = true := by
  refine List.pairwise_mergeSort (fun a b c hab hbc => ?_) (fun a b => ?_) ctx.entries
  · rw [nameLE_iff] at *
    exact String.le_trans hab hbc
  · rw [Bool.or_eq_true, nameLE_iff, nameLE_iff]
    exact String.le_total a.1 b.1

/-- A map has no entry twice. -/
theorem nodup_entries (ctx : Context) : ctx.entries.Nodup := ctx.nodup.of_map Prod.fst

/-- Contexts that agree on every name have the same bindings, in some order. -/
theorem perm_entries {ctx ctx' : Context} (h : ∀ name, ctx.get? name = ctx'.get? name) :
    ctx.entries.Perm ctx'.entries := by
  refine (List.perm_ext_iff_of_nodup ctx.nodup_entries ctx'.nodup_entries).mpr fun e => ?_
  rw [← OrderedMap.get?_eq_some_iff, ← OrderedMap.get?_eq_some_iff, h]

/-- **Contexts that agree on every name have one fingerprint.** -/
theorem fingerprint_congr {ctx ctx' : Context} (h : ∀ name, ctx.get? name = ctx'.get? name) :
    ctx.fingerprint = ctx'.fingerprint := by
  have hperm : (ctx.entries.mergeSort nameLE).Perm (ctx'.entries.mergeSort nameLE) :=
    (List.mergeSort_perm _ _).trans ((perm_entries h).trans (List.mergeSort_perm _ _).symm)
  -- bindings of one name are equal, since both are what the context gives to the name
  have hantisymm : ∀ a b, a ∈ ctx.entries.mergeSort nameLE → b ∈ ctx'.entries.mergeSort nameLE →
      nameLE a b = true → nameLE b a = true → a = b := by
    intro a b ha hb hab hba
    have hname : a.1 = b.1 := String.le_antisymm (nameLE_iff.mp hab) (nameLE_iff.mp hba)
    have hleft : ctx.get? a.1 = some a.2 :=
      OrderedMap.get?_eq_some_iff.mpr (List.mem_mergeSort.mp ha)
    have hright : ctx'.get? b.1 = some b.2 :=
      OrderedMap.get?_eq_some_iff.mpr (List.mem_mergeSort.mp hb)
    rw [h, hname, hright] at hleft
    exact Prod.ext hname (Option.some.inj hleft).symm
  have hsorted := List.Perm.eq_of_pairwise hantisymm ctx.pairwise_sorted ctx'.pairwise_sorted hperm
  rw [fingerprint, fingerprint, hsorted]

/-! ### The contract -/

/-- **Clean contexts have one fingerprint exactly when they agree on every name**, whatever the order
their names arrived in. -/
theorem fingerprint_eq_iff {ctx ctx' : Context} (hctx : ctx.Clean) (hctx' : ctx'.Clean) :
    ctx.fingerprint = ctx'.fingerprint ↔ ∀ name, ctx.get? name = ctx'.get? name :=
  ⟨get?_eq_of_fingerprint_eq hctx hctx', fingerprint_congr⟩

/-- Two bindings, one after the other. -/
def pair (first second : String × Value) : Context :=
  OrderedMap.insert (OrderedMap.insert ∅ first.1 first.2) second.1 second.2

/-- Two bindings that arrive in either order, with texts that look like the end of a binding. -/
theorem fingerprint_eq_iff_pair :
    (pair ("a", .boolean true) ("b;", .text "c;")).Clean ∧
      (pair ("b;", .text "c;") ("a", .boolean true)).Clean ∧
      (pair ("a", .boolean true) ("b;", .text "c;")).fingerprint =
        (pair ("b;", .text "c;") ("a", .boolean true)).fingerprint := by
  have hleft : (pair ("a", .boolean true) ("b;", .text "c;")).Clean := by
    simp only [Clean, CleanName]
    decide
  have hright : (pair ("b;", .text "c;") ("a", .boolean true)).Clean := by
    simp only [Clean, CleanName]
    decide
  refine ⟨hleft, hright, (fingerprint_eq_iff hleft hright).mpr fun name => ?_⟩
  simp only [pair, OrderedMap.get?_insert, OrderedMap.get?_empty]
  by_cases ha : name = "a"
  · simp [ha]
  · simp [ha]

/-- **A name can spell out a binding.** Two bindings and a single one have one fingerprint, though
the contexts disagree on what the second name is. -/
theorem fingerprint_eq_and_get?_ne :
    (pair ("a", .number 1.0) ("b", .number 2.0)).fingerprint =
        Context.fingerprint (OrderedMap.insert ∅ "a=n1.0;b" (.number 2.0)) ∧
      (pair ("a", .number 1.0) ("b", .number 2.0)).get? "b" ≠
        OrderedMap.get? (OrderedMap.insert ∅ "a=n1.0;b" (.number 2.0)) "b" := by
  have hpair : (pair ("a", .number 1.0) ("b", .number 2.0)).entries.mergeSort nameLE =
      [("a", .number 1.0), ("b", .number 2.0)] :=
    List.mergeSort_of_pairwise (by decide)
  have hsingle : (OrderedMap.insert (∅ : Context) "a=n1.0;b" (.number 2.0)).entries.mergeSort
      nameLE = [("a=n1.0;b", .number 2.0)] := List.mergeSort_singleton _
  refine ⟨?_, ?_⟩
  · rw [fingerprint, fingerprint, hpair, hsingle]
    decide +kernel
  · simp [pair, OrderedMap.get?_insert]

end Context

end ParametricScene
