import ParametricScene.OrderedMap

/-!
# Reading ordered maps

What a map says about a name after it was written to or filtered. The order of arrival plays no part
here: two maps that answer every question the same way may still list their names differently.

## Main results

* `OrderedMap.get?_insert`, `OrderedMap.get?_filter` — reading after writing and filtering
* `OrderedMap.mem_keys_iff` — the names of a map are those it has values for
* `OrderedMap.ext` — the order of the names and the values they have are all there is to a map
-/

namespace ParametricScene

namespace OrderedMap

variable {α : Type}

@[simp] theorem get?_empty (key : String) : (∅ : OrderedMap α).get? key = none := rfl

theorem get?_insert (m : OrderedMap α) (key : String) (value : α) (k : String) :
    (m.insert key value).get? k = if k = key then some value else m.get? k := by
  by_cases h : k = key
  · rw [if_pos h, h, get?_insert_self]
  · rw [if_neg h, get?_insert_of_ne m value h]

theorem lookup_eq_some_iff {key : String} {value : α} {es : List (String × α)}
    (hnodup : (es.map Prod.fst).Nodup) : lookup key es = some value ↔ (key, value) ∈ es := by
  induction es with
  | nil => simp [lookup]
  | cons e es ih =>
    obtain ⟨k, v⟩ := e
    rw [List.map_cons, List.nodup_cons] at hnodup
    rw [lookup, List.mem_cons, Prod.mk.injEq]
    by_cases h : k = key
    · subst h
      have hnot : (k, value) ∉ es := fun hmem => hnodup.1 (List.mem_map.mpr ⟨_, hmem, rfl⟩)
      rw [if_pos rfl, Option.some.injEq]
      exact ⟨fun hv => Or.inl ⟨rfl, hv.symm⟩, fun hv => hv.elim (fun hv => hv.2.symm) (absurd · hnot)⟩
    · rw [if_neg h, ih hnodup.2]
      exact ⟨Or.inr, fun hv => hv.elim (fun hv => absurd hv.1.symm h) id⟩

theorem get?_eq_some_iff {m : OrderedMap α} {key : String} {value : α} :
    m.get? key = some value ↔ (key, value) ∈ m.entries :=
  lookup_eq_some_iff m.nodup

/-- The names of a map are those it has values for. -/
theorem mem_keys_iff {m : OrderedMap α} {key : String} : key ∈ m.keys ↔ (m.get? key).isSome := by
  rw [keys, List.mem_map, Option.isSome_iff_exists]
  constructor
  · rintro ⟨⟨k, v⟩, hmem, rfl⟩
    exact ⟨v, get?_eq_some_iff.mpr hmem⟩
  · rintro ⟨v, hv⟩
    exact ⟨(key, v), get?_eq_some_iff.mp hv, rfl⟩

theorem get?_eq_none_iff {m : OrderedMap α} {key : String} : m.get? key = none ↔ key ∉ m.keys := by
  rw [mem_keys_iff, Option.not_isSome_iff_eq_none]

theorem get?_filter (m : OrderedMap α) (keep : String → α → Bool) (key : String) :
    (m.filter keep).get? key = (m.get? key).filter (keep key) := by
  refine Option.ext fun v => ?_
  rw [get?_eq_some_iff, Option.filter_eq_some_iff, get?_eq_some_iff, filter, List.mem_filter]

theorem contains_filter_keys (m : OrderedMap α) (keep : String → Bool) (key : String) :
    (m.filter fun k _ => keep k).contains key = (m.contains key && keep key) := by
  rw [contains, contains, get?_filter]
  cases m.get? key <;> simp

/-- Filtering finds no new names. -/
theorem contains_of_filter {m : OrderedMap α} {keep : String → α → Bool} {key : String}
    (h : (m.filter keep).contains key = true) : m.contains key = true := by
  rw [contains, get?_filter] at h
  rw [contains]
  cases hget : m.get? key with
  | none => rw [hget] at h; exact h
  | some _ => rfl

/-- Two maps are equal if they have the same names in the same order and the same values for them. -/
theorem ext {m m' : OrderedMap α} (hkeys : m.keys = m'.keys)
    (hget : ∀ key, m.get? key = m'.get? key) : m = m' := by
  have hlength : m.entries.length = m'.entries.length := by
    simpa [keys] using congrArg List.length hkeys
  have hentries : m.entries = m'.entries := by
    refine List.ext_getElem hlength fun i hi hi' => ?_
    have hname := List.getElem_of_eq hkeys (by rw [keys, List.length_map]; exact hi)
    simp only [keys, List.getElem_map] at hname
    have hleft : m.get? m.entries[i].1 = some m.entries[i].2 :=
      get?_eq_some_iff.mpr (List.getElem_mem hi)
    have hright : m'.get? m'.entries[i].1 = some m'.entries[i].2 :=
      get?_eq_some_iff.mpr (List.getElem_mem hi')
    rw [hget, hname, hright] at hleft
    exact Prod.ext hname (Option.some.inj hleft).symm
  cases m
  cases m'
  cases hentries
  rfl

theorem contains_insert (m : OrderedMap α) (key : String) (value : α) (k : String) :
    (m.insert key value).contains k = (decide (k = key) || m.contains k) := by
  rw [contains, contains, get?_insert]
  by_cases h : k = key <;> simp [h]

end OrderedMap

end ParametricScene
