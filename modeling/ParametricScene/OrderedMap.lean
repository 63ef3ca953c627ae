/-!
# Maps that remember the order of arrival

A map from names to values as the list of its entries. A name that is new goes to the end; writing to
a name that is present changes its value and moves nothing. Every name occurs once, which is part of
the type, so looking a name up and walking the entries never disagree.

## Main definitions

* `OrderedMap` — entries in order of arrival
* `get?`, `contains`, `insert`, `filter` — reading and writing

## Main results

* `get?_insert_self`, `get?_insert_of_ne` — reading after writing
* `keys_insert_of_mem` — a known name keeps its place
-/

namespace ParametricScene

/-- Entries in order of arrival, each name once. -/
structure OrderedMap (α : Type) where
  entries : List (String × α)
  nodup : (entries.map Prod.fst).Nodup

namespace OrderedMap

variable {α : Type}

/-- No entries. -/
def empty : OrderedMap α := ⟨[], List.nodup_nil⟩

instance : EmptyCollection (OrderedMap α) := ⟨empty⟩

instance : Inhabited (OrderedMap α) := ⟨empty⟩

/-- The names in order of arrival. -/
def keys (m : OrderedMap α) : List String := m.entries.map Prod.fst

/-- The number of names. -/
def size (m : OrderedMap α) : Nat := m.entries.length

/-! ### Entries as plain lists -/

/-- The value an entry list gives to a name. -/
def lookup (key : String) : List (String × α) → Option α
  | [] => none
  | (k, v) :: rest => if k = key then some v else lookup key rest

/-- Writes a value in place, or at the end if the name is new. -/
def write (key : String) (value : α) : List (String × α) → List (String × α)
  | [] => [(key, value)]
  | (k, v) :: rest => if k = key then (k, value) :: rest else (k, v) :: write key value rest

theorem mem_keys_write {key k : String} {value : α} {es : List (String × α)} :
    k ∈ (write key value es).map Prod.fst ↔ k = key ∨ k ∈ es.map Prod.fst := by
  induction es with
  | nil => simp [write]
  | cons e es ih =>
    obtain ⟨k', v'⟩ := e
    by_cases h : k' = key
    · subst h; simp [write]
    · simp only [write, h, if_false, List.map_cons, List.mem_cons, ih]
      constructor
      · rintro (h1 | h1 | h1)
        · exact Or.inr (Or.inl h1)
        · exact Or.inl h1
        · exact Or.inr (Or.inr h1)
      · rintro (h1 | h1 | h1)
        · exact Or.inr (Or.inl h1)
        · exact Or.inl h1
        · exact Or.inr (Or.inr h1)

theorem nodup_write {key : String} {value : α} {es : List (String × α)}
    (h : (es.map Prod.fst).Nodup) : ((write key value es).map Prod.fst).Nodup := by
  induction es with
  | nil => simp [write]
  | cons e es ih =>
    obtain ⟨k', v'⟩ := e
    simp only [List.map_cons, List.nodup_cons] at h
    by_cases hk : k' = key
    · subst hk; simpa [write] using h
    · simp only [write, hk, if_false, List.map_cons, List.nodup_cons]
      refine ⟨?_, ih h.2⟩
      rw [mem_keys_write]
      rintro (h1 | h1)
      · exact hk h1
      · exact h.1 h1

theorem lookup_write_self (key : String) (value : α) (es : List (String × α)) :
    lookup key (write key value es) = some value := by
  induction es with
  | nil => simp [write, lookup]
  | cons e es ih =>
    obtain ⟨k', v'⟩ := e
    by_cases h : k' = key <;> simp [write, lookup, h, ih]

theorem lookup_write_of_ne {key k : String} (value : α) (es : List (String × α)) (h : k ≠ key) :
    lookup k (write key value es) = lookup k es := by
  induction es with
  | nil => simp [write, lookup, Ne.symm h]
  | cons e es ih =>
    obtain ⟨k', v'⟩ := e
    by_cases hk : k' = key
    · subst hk; simp [write, lookup, Ne.symm h]
    · simp [write, lookup, hk, ih]

/-! ### Reading and writing -/

/-- The value of a name. -/
def get? (m : OrderedMap α) (key : String) : Option α := lookup key m.entries

/-- Some entry has this name. -/
def contains (m : OrderedMap α) (key : String) : Bool := (m.get? key).isSome

/-- Gives a name a value, in place if the name is present and at the end if not. -/
def insert (m : OrderedMap α) (key : String) (value : α) : OrderedMap α :=
  ⟨write key value m.entries, nodup_write m.nodup⟩

@[simp] theorem get?_insert_self (m : OrderedMap α) (key : String) (value : α) :
    (m.insert key value).get? key = some value :=
  lookup_write_self key value m.entries

theorem get?_insert_of_ne (m : OrderedMap α) {key k : String} (value : α) (h : k ≠ key) :
    (m.insert key value).get? k = m.get? k :=
  lookup_write_of_ne value m.entries h

/-- A present name keeps its place, and so do all others. -/
theorem keys_insert_of_mem (m : OrderedMap α) {key : String} (value : α) (h : key ∈ m.keys) :
    (m.insert key value).keys = m.keys := by
  have main : ∀ es : List (String × α), key ∈ es.map Prod.fst →
      (write key value es).map Prod.fst = es.map Prod.fst := by
    intro es
    induction es with
    | nil => simp
    | cons e es ih =>
      obtain ⟨k', v'⟩ := e
      intro hmem
      by_cases hk : k' = key
      · simp [write, hk]
      · have : key ∈ es.map Prod.fst := by
          rcases List.mem_cons.mp hmem with h1 | h1
          · exact absurd h1.symm hk
          · exact h1
        simp [write, hk, ih this]
  exact main m.entries h

/-- Only the entries that pass the test, in their order. -/
def filter (m : OrderedMap α) (keep : String → α → Bool) : OrderedMap α :=
  ⟨m.entries.filter fun e => keep e.1 e.2, m.nodup.sublist (List.filter_sublist.map Prod.fst)⟩

/-- Entries written one after another, so that a repeated name keeps its first place and has its
last value. -/
def ofList (es : List (String × α)) : OrderedMap α :=
  es.foldl (fun m e => m.insert e.1 e.2) empty

end OrderedMap

end ParametricScene
