import Mathlib.Data.List.Nodup
import ParametricScene.Scene.Graph

/-!
# Forests of labels, and forests with a gap

The objects of a scene hang together as trees, and this file holds the trees themselves: a forest is
nothing, or a label with the forest below it, beside another forest.

## Forests with a gap

Every change to a scene happens below one object and leaves the rest alone. So the rest is a thing of
its own: a `Gap` is a forest in which one label and what stands below it are left open. A forest
before the change and the forest after it fill the *same* gap, and whatever the two have in common is
read off the gap. No theorem below needs a function that searches a forest and rewrites it.

## Main definitions

* `Forest` — trees side by side
* `Forest.labels`, `Forest.roots` — all labels in depth-first order, and those of the topmost trees
* `Forest.Gap`, `Forest.Gap.fill` — a forest with one tree left open, and how it is closed

## Main results

* `Forest.Gap.exists_fill` — every label of a forest stands in a gap
* `Forest.Gap.labels_fill` — the labels around a gap do not depend on what fills it
* `Forest.Gap.exists_into` — what was put below the open label is a gap again
-/

namespace ParametricScene

/-- Trees side by side: none, or a label with the forest below it, beside another forest. -/
inductive Forest (α : Type) where
  | nil
  | cons (label : α) (below beside : Forest α)

namespace Forest

variable {α : Type}

/-- All labels, each before those below it, and these before those beside it. -/
def labels : Forest α → List α
  | nil => []
  | cons a below beside => a :: (below.labels ++ beside.labels)

/-- The labels of the topmost trees, in order. -/
def roots : Forest α → List α
  | nil => []
  | cons a _ beside => a :: beside.roots

/-- One forest beside another. -/
def append : Forest α → Forest α → Forest α
  | nil, more => more
  | cons a below beside, more => cons a below (beside.append more)

instance : Append (Forest α) := ⟨append⟩

@[simp] theorem nil_append (f : Forest α) : nil ++ f = f := rfl

@[simp] theorem cons_append (a : α) (below beside more : Forest α) :
    cons a below beside ++ more = cons a below (beside ++ more) := rfl

@[simp] theorem append_nil (f : Forest α) : f ++ nil = f := by
  induction f with
  | nil => rfl
  | cons a below beside _ ih => rw [cons_append, ih]

theorem append_assoc (f g h : Forest α) : f ++ g ++ h = f ++ (g ++ h) := by
  induction f with
  | nil => rfl
  | cons a below beside _ ih => rw [cons_append, cons_append, cons_append, ih]

@[simp] theorem labels_append (f g : Forest α) : (f ++ g).labels = f.labels ++ g.labels := by
  induction f with
  | nil => rfl
  | cons a below beside _ ih => simp [labels, ih]

@[simp] theorem roots_append (f g : Forest α) : (f ++ g).roots = f.roots ++ g.roots := by
  induction f with
  | nil => rfl
  | cons a below beside _ ih => simp [roots, ih]

/-- The same trees with other labels. -/
def map {β : Type} (φ : α → β) : Forest α → Forest β
  | nil => nil
  | cons a below beside => cons (φ a) (below.map φ) (beside.map φ)

theorem labels_map {β : Type} (φ : α → β) (f : Forest α) : (f.map φ).labels = f.labels.map φ := by
  induction f with
  | nil => rfl
  | cons a below beside ihBelow ihBeside =>
    rw [map, labels, labels, List.map_cons, List.map_append, ihBelow, ihBeside]

/-! ### Gaps -/

/-- A forest in which one label and what stands below it are left open: at the front, somewhere below
the first label, or somewhere beside the first tree. -/
inductive Gap (α : Type) where
  | here (beside : Forest α)
  | within (label : α) (gap : Gap α) (beside : Forest α)
  | past (label : α) (below : Forest α) (gap : Gap α)

namespace Gap

/-- Closes the gap. -/
def fill : Gap α → α → Forest α → Forest α
  | here beside, a, below => cons a below beside
  | within b gap beside, a, below => cons b (gap.fill a below) beside
  | past b under gap, a, below => cons b under (gap.fill a below)

/-- The labels around the gap that come before the open one. -/
def before : Gap α → List α
  | here _ => []
  | within b gap _ => b :: gap.before
  | past b under gap => b :: (under.labels ++ gap.before)

/-- The labels around the gap that come after the open one and all below it. -/
def after : Gap α → List α
  | here beside => beside.labels
  | within _ gap beside => gap.after ++ beside.labels
  | past _ _ gap => gap.after

theorem labels_fill (gap : Gap α) (a : α) (below : Forest α) :
    (gap.fill a below).labels = gap.before ++ a :: (below.labels ++ gap.after) := by
  induction gap with
  | here beside => rfl
  | within b gap beside ih => simp [fill, labels, before, after, ih]
  | past b under gap ih => simp [fill, labels, before, after, ih]

theorem mem_labels_fill {gap : Gap α} {a : α} {below : Forest α} {x : α} :
    x ∈ (gap.fill a below).labels ↔
      x = a ∨ x ∈ below.labels ∨ x ∈ gap.before ++ gap.after := by
  rw [labels_fill]
  simp only [List.mem_append, List.mem_cons]
  constructor
  · rintro (h | h | h | h)
    · exact Or.inr (Or.inr (Or.inl h))
    · exact Or.inl h
    · exact Or.inr (Or.inl h)
    · exact Or.inr (Or.inr (Or.inr h))
  · rintro (h | h | h | h)
    · exact Or.inr (Or.inl h)
    · exact Or.inr (Or.inr (Or.inl h))
    · exact Or.inl h
    · exact Or.inr (Or.inr (Or.inr h))

/-- The labels around a gap are around it from further out as well, from above. -/
theorem subset_within (b : α) (gap : Gap α) (beside : Forest α) :
    gap.before ++ gap.after ⊆ (within b gap beside).before ++ (within b gap beside).after := by
  intro x hx
  simp only [before, after, List.mem_append, List.mem_cons] at hx ⊢
  exact hx.elim (fun h => Or.inl (Or.inr h)) fun h => Or.inr (Or.inl h)

/-- The labels around a gap are around it from further out as well, from the side. -/
theorem subset_past (b : α) (under : Forest α) (gap : Gap α) :
    gap.before ++ gap.after ⊆ (past b under gap).before ++ (past b under gap).after := by
  intro x hx
  simp only [before, after, List.mem_append, List.mem_cons] at hx ⊢
  exact hx.elim (fun h => Or.inl (Or.inr (Or.inr h))) Or.inr

/-- What is put last below the open label adds its labels and moves no others. -/
theorem labels_fill_append (gap : Gap α) (a : α) (below more : Forest α) :
    (gap.fill a (below ++ more)).labels.Perm (more.labels ++ (gap.fill a below).labels) := by
  have hleft : (gap.fill a (below ++ more)).labels =
      (gap.before ++ a :: below.labels) ++ (more.labels ++ gap.after) := by
    rw [labels_fill, labels_append]
    simp
  have hright : (gap.fill a below).labels = (gap.before ++ a :: below.labels) ++ gap.after := by
    rw [labels_fill]
    simp
  rw [hleft, hright]
  exact List.perm_append_comm_assoc _ _ _

/-- Where no two labels of a forest agree on something, what fills a gap does not agree with what is
around it. -/
theorem around_of_nodup {β : Type} {φ : α → β} {gap : Gap α} {a : α} {below : Forest α}
    (h : ((gap.fill a below).labels.map φ).Nodup) :
    (below.labels.map φ).Nodup ∧ (∀ b ∈ gap.before ++ gap.after, φ b ≠ φ a) ∧
      List.Disjoint ((a :: (gap.before ++ gap.after)).map φ) (below.labels.map φ) := by
  have hperm : (gap.fill a below).labels.Perm
      (below.labels ++ a :: (gap.before ++ gap.after)) := by
    have hmove := gap.labels_fill_append a nil below
    rw [nil_append, gap.labels_fill a nil] at hmove
    exact hmove.trans (List.perm_middle.append_left _)
  rw [(hperm.map φ).nodup_iff, List.map_append, List.nodup_append'] at h
  refine ⟨h.1, fun b hb heq => ?_, List.disjoint_comm.mp h.2.2⟩
  have ha := (List.nodup_cons.mp (List.map_cons .. ▸ h.2.1)).1
  exact ha (List.mem_map.mpr ⟨b, hb, heq⟩)

/-- **Every label stands in a gap.** -/
theorem exists_fill {f : Forest α} {a : α} (h : a ∈ f.labels) :
    ∃ gap below, f = Gap.fill gap a below := by
  induction f with
  | nil => simp [labels] at h
  | cons b under beside ihUnder ihBeside =>
    rw [labels, List.mem_cons, List.mem_append] at h
    rcases h with rfl | h | h
    · exact ⟨here beside, under, rfl⟩
    · obtain ⟨gap, below, rfl⟩ := ihUnder h
      exact ⟨within b gap beside, below, rfl⟩
    · obtain ⟨gap, below, rfl⟩ := ihBeside h
      exact ⟨past b under gap, below, rfl⟩

/-- The gap of a tree that stands last in a forest. -/
theorem exists_last (f : Forest α) :
    ∃ gap : Gap α, ∀ a below, gap.fill a below = f ++ cons a below nil := by
  induction f with
  | nil => exact ⟨here nil, fun _ _ => rfl⟩
  | cons b under beside _ ih =>
    obtain ⟨gap, hgap⟩ := ih
    exact ⟨past b under gap, fun a below => by rw [fill, hgap, cons_append]⟩

/-- **A gap inside a gap.** A tree put last below the open label can be left open in its turn. -/
theorem exists_into (gap : Gap α) (b : α) (f : Forest α) :
    ∃ inner : Gap α, ∀ a below, inner.fill a below = gap.fill b (f ++ cons a below nil) := by
  induction gap with
  | here beside =>
    obtain ⟨last, hlast⟩ := exists_last f
    exact ⟨within b last beside, fun a below => by rw [fill, fill, hlast]⟩
  | within c gap beside ih =>
    obtain ⟨inner, hinner⟩ := ih
    exact ⟨within c inner beside, fun a below => by rw [fill, fill, hinner]⟩
  | past c under gap ih =>
    obtain ⟨inner, hinner⟩ := ih
    exact ⟨past c under inner, fun a below => by rw [fill, fill, hinner]⟩

end Gap

end Forest

end ParametricScene
