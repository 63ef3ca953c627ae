import ParametricScene.Proofs.Maps
import ParametricScene.Proofs.Transparency
import ParametricScene.Scene.Build

/-!
# Templates with edited parameters

The edits of a template are kept by name, and count again whenever the template is built from what
surrounds it. `Scene.withEdits` writes them into the parameters one after another. Here it is read
name by name: each parameter is revised by the edit of its own name, if there is one, and neither
names nor their order change.

What an edit stores need not be what it was offered, so offering the stored value again is another
edit. Where that changes nothing, writing an edit down and writing it into the template agree.

## Main definitions

* `Parameter.revised` — a parameter after an edit, if there is one

## Main results

* `Parameter.set_set` — only the last edit of a parameter counts
* `Scene.get?_withEdits`, `Scene.keys_withEdits` — a template with edits, name by name
* `Scene.withEdits_insert` — an edit that is written down counts when the template is built again
-/

namespace ParametricScene

namespace Parameter

/-- **Only the last edit counts.** What a parameter makes of an offer does not depend on the value it
has. -/
theorem set_set {p p' : Parameter} {v stored : Value} (h : p.set v = .ok (p', stored)) (w : Value) :
    p'.set w = p.set w := by
  cases p with
  | bare source =>
    obtain ⟨rfl, -⟩ := Prod.mk.inj (Except.ok.inj h)
    rfl
  | defined d =>
    rw [set] at h
    cases haccept : d.accept v with
    | error e => simp [haccept] at h
    | ok accepted =>
      simp only [haccept, Except.ok.injEq, Prod.mk.injEq] at h
      obtain ⟨rfl, -⟩ := h
      rfl

/-- If the value that an edit stores is stored again when it is offered, then offering it is the same
edit. -/
theorem set_stored {p p' : Parameter} {v stored : Value} (hset : p.set v = .ok (p', stored))
    (hfixed : (p.set stored).map Prod.snd = .ok stored) : p.set stored = .ok (p', stored) := by
  cases p with
  | bare source =>
    obtain ⟨rfl, rfl⟩ := Prod.mk.inj (Except.ok.inj hset)
    rfl
  | defined d =>
    rw [set] at hset hfixed ⊢
    cases haccept : d.accept v with
    | error e => simp [haccept] at hset
    | ok accepted =>
      simp only [haccept, Except.ok.injEq, Prod.mk.injEq] at hset
      obtain ⟨rfl, rfl⟩ := hset
      cases hagain : d.accept accepted with
      | error e => simp [hagain, Except.map] at hfixed
      | ok again =>
        simp only [hagain, Except.map, Except.ok.injEq] at hfixed
        rw [hfixed]

/-- The parameter after an edit, if there is one. An edit that is refused is passed over. -/
def revised (p : Parameter) : Option Value → Parameter
  | none => p
  | some v =>
    match p.set v with
    | .ok accepted => accepted.1
    | .error _ => p

/-- An edit does not change what a parameter makes of an offer. -/
theorem set_revised (p : Parameter) (edit : Option Value) (w : Value) :
    (p.revised edit).set w = p.set w := by
  cases edit with
  | none => rfl
  | some v =>
    rw [revised]
    cases hset : p.set v with
    | error e => rfl
    | ok accepted => exact set_set hset w

/-- An edit gives a defined parameter another value, and changes nothing else of it. -/
theorem eq_of_set {p : Parameter} {v stored : Value} {d : ParameterDefinition}
    (h : p.set v = .ok (.defined d, stored)) :
    ∃ q, p = .defined q ∧ d = { q with value := stored } := by
  cases p with
  | bare source => cases h
  | defined q =>
    rw [set] at h
    cases haccept : q.accept v with
    | error e => simp [haccept] at h
    | ok accepted =>
      simp only [haccept, Except.ok.injEq, Prod.mk.injEq, defined.injEq] at h
      obtain ⟨rfl, rfl⟩ := h
      exact ⟨q, rfl, rfl⟩

theorem eq_of_revised {p : Parameter} {edit : Option Value} {d : ParameterDefinition}
    (h : p.revised edit = .defined d) :
    ∃ q value, p = .defined q ∧ d = { q with value := value } := by
  cases edit with
  | none => exact ⟨d, d.value, h, rfl⟩
  | some v =>
    rw [revised] at h
    cases hset : p.set v with
    | error e =>
      rw [hset] at h
      exact ⟨d, d.value, h, rfl⟩
    | ok accepted =>
      obtain ⟨p', stored⟩ := accepted
      rw [hset] at h
      obtain rfl : p' = .defined d := h
      obtain ⟨q, hq, hd⟩ := eq_of_set hset
      exact ⟨q, stored, hq, hd⟩

end Parameter

namespace Scene

/-- One edit written into parameters. -/
def revise (ps : OrderedMap Parameter) (e : String × Value) : OrderedMap Parameter :=
  match ps.get? e.1 with
  | some p =>
    match p.set e.2 with
    | .ok (p', _) => ps.insert e.1 p'
    | .error _ => ps
  | none => ps

theorem get?_revise (ps : OrderedMap Parameter) (name : String) (v : Value) (k : String) :
    (revise ps (name, v)).get? k =
      if k = name then (ps.get? k).map (·.revised (some v)) else ps.get? k := by
  rw [revise]
  by_cases hk : k = name
  · subst hk
    rw [if_pos rfl]
    cases hp : ps.get? k with
    | none => simp only [hp, Option.map_none]
    | some p =>
      cases hset : p.set v with
      | error e => simp only [hset, hp, Option.map_some, Parameter.revised]
      | ok accepted =>
        simp only [hset, OrderedMap.get?_insert_self, Option.map_some, Parameter.revised]
  · rw [if_neg hk]
    split
    · split
      · exact OrderedMap.get?_insert_of_ne _ _ hk
      · rfl
    · rfl

theorem keys_revise (ps : OrderedMap Parameter) (e : String × Value) :
    (revise ps e).keys = ps.keys := by
  rw [revise]
  split
  · rename_i p hp
    split
    · exact OrderedMap.keys_insert_of_mem _ _ (OrderedMap.mem_keys_iff.mpr (by rw [hp]; rfl))
    · rfl
  · rfl

/-- Edits of different names written one after another. -/
theorem get?_foldl_revise {es : List (String × Value)} (hnodup : (es.map Prod.fst).Nodup)
    (ps : OrderedMap Parameter) (k : String) :
    (es.foldl revise ps).get? k =
      (ps.get? k).map (·.revised (OrderedMap.lookup k es)) := by
  induction es generalizing ps with
  | nil => exact Option.map_id'.symm ▸ rfl
  | cons e rest ih =>
    obtain ⟨name, v⟩ := e
    rw [List.map_cons, List.nodup_cons] at hnodup
    rw [List.foldl_cons, ih hnodup.2, get?_revise, OrderedMap.lookup]
    by_cases hk : k = name
    · -- no later edit has this name
      subst hk
      have hnone : OrderedMap.lookup k rest = none := by
        cases hlookup : OrderedMap.lookup k rest with
        | none => rfl
        | some w =>
          rw [OrderedMap.lookup_eq_some_iff hnodup.2] at hlookup
          exact absurd (List.mem_map.mpr ⟨_, hlookup, rfl⟩) hnodup.1
      rw [if_pos rfl, if_pos rfl, hnone, Option.map_map]
      rfl
    · rw [if_neg hk, if_neg (Ne.symm hk)]

/-- **Each parameter is revised by the edit of its own name.** -/
theorem get?_withEdits (edits : OrderedMap Value) (t : Template) (k : String) :
    (withEdits edits t).parameters.get? k =
      (t.parameters.get? k).map (·.revised (edits.get? k)) :=
  get?_foldl_revise edits.nodup t.parameters k

/-- Edits bring no new names. -/
theorem keys_withEdits (edits : OrderedMap Value) (t : Template) :
    (withEdits edits t).parameters.keys = t.parameters.keys := by
  have hfold : ∀ (es : List (String × Value)) (ps : OrderedMap Parameter),
      (es.foldl revise ps).keys = ps.keys := by
    intro es
    induction es with
    | nil => exact fun _ => rfl
    | cons e rest ih => exact fun ps => (ih (revise ps e)).trans (keys_revise ps e)
  exact hfold edits.entries t.parameters

/-- **An edit that is written down counts when the template is built again**, in the same way as it
counted at first, if the stored value is stored again when it is offered. -/
theorem withEdits_insert {edits : OrderedMap Value} {t : Template} {name : String}
    {p p' : Parameter} {stored : Value}
    (hp : (withEdits edits t).parameters.get? name = some p)
    (hfixed : p.set stored = .ok (p', stored)) :
    withEdits (edits.insert name stored) t =
      { withEdits edits t with parameters := (withEdits edits t).parameters.insert name p' } := by
  have hmem : name ∈ (withEdits edits t).parameters.keys :=
    OrderedMap.mem_keys_iff.mpr (by rw [hp]; rfl)
  have hparameters : (withEdits (edits.insert name stored) t).parameters =
      (withEdits edits t).parameters.insert name p' := by
    refine OrderedMap.ext ?_ fun k => ?_
    · rw [OrderedMap.keys_insert_of_mem _ _ hmem, keys_withEdits, keys_withEdits]
    · rw [get?_withEdits, OrderedMap.get?_insert, OrderedMap.get?_insert, get?_withEdits]
      by_cases hk : k = name
      · subst hk
        rw [if_pos rfl, if_pos rfl]
        rw [get?_withEdits, Option.map_eq_some_iff] at hp
        obtain ⟨p₀, hp₀, rfl⟩ := hp
        rw [Parameter.set_revised] at hfixed
        rw [hp₀, Option.map_some, Parameter.revised, hfixed]
      · rw [if_neg hk, if_neg hk]
  exact congrArg (fun ps => ({ t with parameters := ps } : Template)) hparameters

/-! ### Clean names -/

/-- Other parameters with the same names are as clean. -/
theorem clean_of_keys_eq {t : Template} (ht : t.Clean) {ps : OrderedMap Parameter}
    (hkeys : ps.keys = t.parameters.keys) : ({ t with parameters := ps } : Template).Clean := by
  refine ⟨⟨fun name hname => ?_, ht.header.expressions⟩, ht.nodes⟩
  rw [hkeys] at hname
  exact ht.header.parameters name hname

theorem clean_withEdits {t : Template} (ht : t.Clean) (edits : OrderedMap Value) :
    (withEdits edits t).Clean :=
  clean_of_keys_eq ht (keys_withEdits edits t)

end Scene

end ParametricScene
