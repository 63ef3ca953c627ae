import Mathlib.Order.Bounds.Defs
import ParametricScene.Proofs.Enclosure
import ParametricScene.Proofs.Ordering
import ParametricScene.Scene.Build

/-!
# The extent of a scene

The bounds of a scene are the union of the boxes of its leaves, taken one after another in the order of
the registry. Building a template again moves its leaves to the end of the registry. This does not change
the bounds, for the union of boxes is the least box around them, and to be the least is not a matter of
order.

All of it is about doubles as they are, infinities included. NaN is left out: it does not compare, and
nothing encloses it. What is least is so only up to the sign of zero, since the two zeros are equal for
every comparison, and which of them is kept does depend on the order.

## Implementation notes

Unions can also be grouped in many ways. A `Box.Grouping` is any way to put boxes together two at a time,
with empty boxes anywhere; the fold over a list is one of them. `Box.Grouping.spans` describes the outcome
by the boxes that are not empty, and by nothing else.

## Main definitions

* `Box.IsNumeric`, `Box.Same` — boxes without NaN, and equality up to the sign of zero
* `Box.Grouping` — boxes put together two at a time
* `Box.Spans` — the least box around those boxes of a list that are not empty

## Main results

* `Box.Grouping.spans` — every grouping gives the least box
* `Box.isLeast_around` — so does taking point after point
* `Scene.bounds_same_of_perm` — the order of leaves does not show in the bounds
-/

namespace ParametricScene

/-! ### Coordinates without NaN -/

namespace Double

variable {a : Float}

theorem le_top (h : a.isNaN = false) : a ≤ Scalar.top := by
  have htop : (Scalar.top : Float).toModel.unpack = .infinity .positive := rfl
  rw [le_iff, Float.Model.UnpackedFloat.le, htop]
  rw [Float.isNaN, Float.Model.isNaN] at h
  cases hu : a.toModel.unpack with
  | notANumber =>
    rw [hu] at h
    cases h
  | infinity s => cases s <;> rfl
  | zero s => rfl
  | finite s m e hm => rfl

theorem bottom_le (h : a.isNaN = false) : Scalar.bottom ≤ a := by
  have hbottom : (Scalar.bottom : Float).toModel.unpack = .infinity .negative := rfl
  rw [le_iff, Float.Model.UnpackedFloat.le, hbottom]
  rw [Float.isNaN, Float.Model.isNaN] at h
  cases hu : a.toModel.unpack with
  | notANumber =>
    rw [hu] at h
    cases h
  | infinity s => cases s <;> rfl
  | zero s => rfl
  | finite s m e hm => rfl

end Double

namespace Vec3

/-- No coordinate is NaN. -/
def IsNumeric (v : Vec3 Float) : Prop :=
  v.x.isNaN = false ∧ v.y.isNaN = false ∧ v.z.isNaN = false

instance (v : Vec3 Float) : Decidable v.IsNumeric := inferInstanceAs (Decidable (_ ∧ _ ∧ _))

/-- Equal coordinates, where the two zeros are equal. -/
def Same (v w : Vec3 Float) : Prop :=
  (v.x == w.x) = true ∧ (v.y == w.y) = true ∧ (v.z == w.z) = true

variable {u v w : Vec3 Float}

theorem IsNumeric.le_refl (h : v.IsNumeric) : v ≤ v :=
  ⟨Double.le_self h.1, Double.le_self h.2.1, Double.le_self h.2.2⟩

theorem le_trans (huv : u ≤ v) (hvw : v ≤ w) : u ≤ w :=
  ⟨Double.le_trans huv.1 hvw.1, Double.le_trans huv.2.1 hvw.2.1, Double.le_trans huv.2.2 hvw.2.2⟩

theorem same_of_le_of_le (hvw : v ≤ w) (hwv : w ≤ v) : v.Same w :=
  ⟨Double.beq_of_le_of_le hvw.1 hwv.1, Double.beq_of_le_of_le hvw.2.1 hwv.2.1,
    Double.beq_of_le_of_le hvw.2.2 hwv.2.2⟩

end Vec3

namespace Box

/-- A box is below the boxes that it is inside of. -/
instance {α : Type} [LE α] : LE (Box α) := ⟨fun b c => c.min ≤ b.min ∧ b.max ≤ c.max⟩

theorem le_iff {α : Type} [LE α] {b c : Box α} : b ≤ c ↔ c.min ≤ b.min ∧ b.max ≤ c.max := Iff.rfl

/-- No coordinate is NaN. -/
def IsNumeric (b : Box Float) : Prop := b.min.IsNumeric ∧ b.max.IsNumeric

instance (b : Box Float) : Decidable b.IsNumeric := inferInstanceAs (Decidable (_ ∧ _))

/-- Equal corners, where the two zeros are equal. -/
def Same (b c : Box Float) : Prop := b.min.Same c.min ∧ b.max.Same c.max

variable {a b c : Box Float}

theorem IsNumeric.le_refl (h : b.IsNumeric) : b ≤ b := ⟨h.1.le_refl, h.2.le_refl⟩

theorem same_of_le_of_le (hbc : b ≤ c) (hcb : c ≤ b) : b.Same c :=
  ⟨Vec3.same_of_le_of_le hcb.1 hbc.1, Vec3.same_of_le_of_le hbc.2 hcb.2⟩

/-- A box is not empty if its corners are the right way round. -/
theorem IsNumeric.isEmpty_eq_false_iff (h : b.IsNumeric) : b.isEmpty = false ↔ b.min ≤ b.max := by
  rw [isEmpty, Bool.or_eq_false_iff, Bool.or_eq_false_iff, decide_eq_false_iff_not,
    decide_eq_false_iff_not, decide_eq_false_iff_not, Double.not_lt_iff h.2.1 h.1.1,
    Double.not_lt_iff h.2.2.1 h.1.2.1, Double.not_lt_iff h.2.2.2 h.1.2.2, Vec3.le_iff, and_assoc]

/-! ### The box around two boxes -/

section Hull

variable {x y z : Float}

theorem isNaN_lesser (hx : x.isNaN = false) (hy : y.isNaN = false) : (lesser x y).isNaN = false := by
  rw [lesser]
  split <;> assumption

theorem isNaN_greater (hx : x.isNaN = false) (hy : y.isNaN = false) :
    (greater x y).isNaN = false := by
  rw [greater]
  split <;> assumption

theorem le_lesser_iff (hx : x.isNaN = false) (hy : y.isNaN = false) :
    z ≤ lesser x y ↔ z ≤ x ∧ z ≤ y := by
  rw [lesser]
  split
  · rename_i hxy
    exact ⟨fun h => ⟨h, Double.le_trans h hxy⟩, And.left⟩
  · rename_i hxy
    have hyx := (Double.le_or_le hx hy).resolve_left hxy
    exact ⟨fun h => ⟨Double.le_trans h hyx, h⟩, And.right⟩

theorem greater_le_iff (hx : x.isNaN = false) (hy : y.isNaN = false) :
    greater x y ≤ z ↔ x ≤ z ∧ y ≤ z := by
  rw [greater]
  split
  · rename_i hyx
    exact ⟨fun h => ⟨h, Double.le_trans hyx h⟩, And.left⟩
  · rename_i hyx
    have hxy := (Double.le_or_le hx hy).resolve_right hyx
    exact ⟨fun h => ⟨Double.le_trans hxy h, h⟩, And.right⟩

end Hull

theorem IsNumeric.hull (ha : a.IsNumeric) (hb : b.IsNumeric) : (a.hull b).IsNumeric :=
  ⟨⟨isNaN_lesser ha.1.1 hb.1.1, isNaN_lesser ha.1.2.1 hb.1.2.1, isNaN_lesser ha.1.2.2 hb.1.2.2⟩,
    isNaN_greater ha.2.1 hb.2.1, isNaN_greater ha.2.2.1 hb.2.2.1, isNaN_greater ha.2.2.2 hb.2.2.2⟩

/-- The box around two boxes is inside of the boxes that both are inside of. -/
theorem hull_le_iff (ha : a.IsNumeric) (hb : b.IsNumeric) : a.hull b ≤ c ↔ a ≤ c ∧ b ≤ c := by
  obtain ⟨⟨hax, hay, haz⟩, hax', hay', haz'⟩ := ha
  obtain ⟨⟨hbx, hby, hbz⟩, hbx', hby', hbz'⟩ := hb
  simp only [le_iff, Box.hull, Vec3.zipWith, Vec3.le_iff, le_lesser_iff hax hbx, le_lesser_iff hay hby,
    le_lesser_iff haz hbz, greater_le_iff hax' hbx', greater_le_iff hay' hby', greater_le_iff haz' hbz']
  tauto

/-- The box around two boxes is not empty if the first is not. -/
theorem isEmpty_hull (ha : a.IsNumeric) (hb : b.IsNumeric) (h : a.isEmpty = false) :
    (a.hull b).isEmpty = false := by
  have hinside := ((hull_le_iff ha hb).mp (ha.hull hb).le_refl).1
  have hcorners := ha.isEmpty_eq_false_iff.mp h
  exact (ha.hull hb).isEmpty_eq_false_iff.mpr
    (Vec3.le_trans hinside.1 (Vec3.le_trans hcorners hinside.2))

/-! ### Unions -/

/-- The box is the least around those boxes of the list that are not empty. It is empty itself if there
are none. -/
structure Spans (bs : List (Box Float)) (c : Box Float) : Prop where
  numeric : c.IsNumeric
  isEmpty_iff : c.isEmpty = true ↔ ∀ b ∈ bs, b.isEmpty = true
  le_iff : c.isEmpty = false → ∀ d, c ≤ d ↔ ∀ b ∈ bs, b.isEmpty = false → b ≤ d

theorem isEmpty_empty : (empty : Box Float).isEmpty = true := by decide

theorem spans_empty : Spans [] empty where
  numeric := by decide
  isEmpty_iff := by simp [isEmpty_empty]
  le_iff h := absurd (isEmpty_empty.symm.trans h) nofun

theorem spans_single (hb : b.IsNumeric) : Spans [b] b where
  numeric := hb
  isEmpty_iff := by simp
  le_iff h d := by simp [h]

/-- Empty boxes do not count, nor does the order of the others. -/
theorem Spans.congr {as bs : List (Box Float)} (h : Spans as c)
    (hmem : ∀ x : Box Float, x.isEmpty = false → (x ∈ as ↔ x ∈ bs)) : Spans bs c := by
  have hall : ∀ P : Box Float → Prop,
      (∀ x ∈ as, x.isEmpty = false → P x) ↔ ∀ x ∈ bs, x.isEmpty = false → P x := fun P =>
    forall_congr' fun x =>
      ⟨fun hP hx hfull => hP ((hmem x hfull).mpr hx) hfull,
        fun hP hx hfull => hP ((hmem x hfull).mp hx) hfull⟩
  refine ⟨h.numeric, ?_, fun hfull d => (h.le_iff hfull d).trans (hall _)⟩
  have hempty := hall fun _ => False
  simp only [imp_false, Bool.not_eq_false] at hempty
  exact h.isEmpty_iff.trans hempty

/-- **The union spans what its two parts span**, whichever of them are empty. -/
theorem Spans.union {as bs : List (Box Float)} (ha : Spans as a) (hb : Spans bs b) :
    Spans (as ++ bs) (a.union b) := by
  have hnone : ∀ {cs : List (Box Float)} {c x : Box Float}, Spans cs c → c.isEmpty = true →
      x.isEmpty = false → x ∉ cs := fun hc hempty hx hmem =>
    Bool.eq_false_iff.mp hx (hc.isEmpty_iff.mp hempty _ hmem)
  rw [Box.union]
  split
  · rename_i hempty
    exact hb.congr fun x hx => by rw [List.mem_append, or_iff_right (hnone ha hempty hx)]
  · rename_i hfull
    split
    · rename_i hempty
      exact ha.congr fun x hx => by rw [List.mem_append, or_iff_left (hnone hb hempty hx)]
    · rename_i hfull'
      have hea := Bool.eq_false_iff.mpr hfull
      have heb := Bool.eq_false_iff.mpr hfull'
      refine ⟨ha.numeric.hull hb.numeric, ?_, fun _ d => ?_⟩
      · rw [isEmpty_hull ha.numeric hb.numeric hea, List.forall_mem_append, ← ha.isEmpty_iff, hea]
        simp
      · rw [hull_le_iff ha.numeric hb.numeric, ha.le_iff hea, hb.le_iff heb, List.forall_mem_append]

/-- A list spans one box only, if that is not empty. -/
theorem Spans.same {bs : List (Box Float)} (hb : Spans bs b) (hc : Spans bs c)
    (hfull : b.isEmpty = false) : c.Same b := by
  have hfull' : c.isEmpty = false := by
    rw [Bool.eq_false_iff, ne_eq, hc.isEmpty_iff, ← hb.isEmpty_iff, hfull]
    exact Bool.false_ne_true
  have hle : ∀ d, b ≤ d ↔ c ≤ d := fun d =>
    (hb.le_iff hfull d).trans (hc.le_iff hfull' d).symm
  exact same_of_le_of_le ((hle b).mp hb.numeric.le_refl) ((hle c).mpr hc.numeric.le_refl)

/-- Boxes put together two at a time, in any way. -/
inductive Grouping where
  | none
  | one (b : Box Float)
  | both (g h : Grouping)

namespace Grouping

/-- The boxes from left to right. -/
def boxes : Grouping → List (Box Float)
  | none => []
  | one b => [b]
  | both g h => g.boxes ++ h.boxes

/-- The union, taken as the grouping says. -/
def union : Grouping → Box Float
  | none => Box.empty
  | one b => b
  | both g h => g.union.union h.union

/-- **Every grouping gives the least box.** -/
theorem spans (g : Grouping) (hg : ∀ b ∈ g.boxes, b.IsNumeric) : Spans g.boxes g.union := by
  induction g with
  | none => exact spans_empty
  | one b => exact spans_single (hg b (List.mem_singleton_self b))
  | both g h ihg ihh =>
    obtain ⟨hleft, hright⟩ := List.forall_mem_append.mp hg
    exact (ihg hleft).union (ihh hright)

/-- One box after another, beginning with a grouping. -/
def andThen (g : Grouping) (bs : List (Box Float)) : Grouping :=
  bs.foldl (fun g b => g.both (one b)) g

theorem union_andThen (g : Grouping) (bs : List (Box Float)) :
    (g.andThen bs).union = bs.foldl Box.union g.union := by
  induction bs generalizing g with
  | nil => rfl
  | cons b rest ih => exact ih (g.both (one b))

theorem boxes_andThen (g : Grouping) (bs : List (Box Float)) :
    (g.andThen bs).boxes = g.boxes ++ bs := by
  induction bs generalizing g with
  | nil => exact (List.append_nil _).symm
  | cons b rest ih => exact (ih (g.both (one b))).trans (List.append_assoc ..)

end Grouping

/-- The fold over a list is one of the groupings. -/
theorem spans_foldl {bs : List (Box Float)} (hbs : ∀ b ∈ bs, b.IsNumeric) :
    Spans bs (bs.foldl Box.union empty) := by
  have hboxes : (Grouping.none.andThen bs).boxes = bs := Grouping.boxes_andThen .none bs
  have hspans := (Grouping.none.andThen bs).spans (by rwa [hboxes])
  rwa [hboxes, Grouping.union_andThen] at hspans

/-- The empty box is inside of every box. -/
theorem empty_le (hb : b.IsNumeric) : empty ≤ b :=
  ⟨⟨Double.le_top hb.1.1, Double.le_top hb.1.2.1, Double.le_top hb.1.2.2⟩,
    Double.bottom_le hb.2.1, Double.bottom_le hb.2.2.1, Double.bottom_le hb.2.2.2⟩

/-- The union of boxes of which none is empty is the least box that all of them are inside of. -/
theorem isLeast_foldl {bs : List (Box Float)} (hbs : ∀ b ∈ bs, b.IsNumeric ∧ b.isEmpty = false) :
    IsLeast {c : Box Float | c.IsNumeric ∧ ∀ b ∈ bs, b ≤ c} (bs.foldl union empty) := by
  have hspans := spans_foldl fun b hb => (hbs b hb).1
  cases hempty : (bs.foldl union empty).isEmpty with
  | true =>
    -- there are no boxes at all
    obtain rfl : bs = [] := by
      refine List.eq_nil_iff_forall_not_mem.mpr fun b hb => ?_
      exact Bool.eq_false_iff.mp (hbs b hb).2 (hspans.isEmpty_iff.mp hempty b hb)
    exact ⟨⟨hspans.numeric, nofun⟩, fun c hc => empty_le hc.1⟩
  | false =>
    have hle := hspans.le_iff hempty
    constructor
    · exact ⟨hspans.numeric, fun b hb => (hle _).mp hspans.numeric.le_refl b hb (hbs b hb).2⟩
    · intro c hc
      exact (hle c).mpr fun b hb _ => hc.2 b hb

/-! ### Points -/

theorem foldl_enclose_spec {ps : List (Vec3 Float)} (hps : ∀ p ∈ ps, p.IsNumeric)
    (hb : b.IsNumeric) :
    (ps.foldl enclose b).IsNumeric ∧
      ∀ c, ps.foldl enclose b ≤ c ↔ b ≤ c ∧ ∀ p ∈ ps, c.min ≤ p ∧ p ≤ c.max := by
  induction ps generalizing b with
  | nil => exact ⟨hb, fun c => by simp⟩
  | cons p rest ih =>
    obtain ⟨hp, hrest⟩ := List.forall_mem_cons.mp hps
    have hpoint : (point p).IsNumeric := ⟨hp, hp⟩
    obtain ⟨hnumeric, hle⟩ := ih hrest (hb.hull hpoint)
    refine ⟨hnumeric, fun c => ?_⟩
    rw [List.foldl_cons, enclose, hle, hull_le_iff hb hpoint, List.forall_mem_cons, and_assoc]
    exact Iff.rfl

/-- **The box around points** is the least that contains them. -/
theorem isLeast_around {ps : List (Vec3 Float)} (hne : ps ≠ []) (hps : ∀ p ∈ ps, p.IsNumeric) :
    IsLeast {c : Box Float | c.IsNumeric ∧ ∀ p ∈ ps, c.min ≤ p ∧ p ≤ c.max} (around ps) := by
  cases ps with
  | nil => exact absurd rfl hne
  | cons p rest =>
    obtain ⟨hp, hrest⟩ := List.forall_mem_cons.mp hps
    obtain ⟨hnumeric, hle⟩ := foldl_enclose_spec hrest (b := point p) ⟨hp, hp⟩
    have hle' : ∀ c, around (p :: rest) ≤ c ↔ ∀ q ∈ p :: rest, c.min ≤ q ∧ q ≤ c.max := by
      intro c
      rw [around, hle, List.forall_mem_cons]
      exact Iff.rfl
    constructor
    · exact ⟨hnumeric, (hle' _).mp hnumeric.le_refl⟩
    · intro c hc
      exact (hle' c).mpr hc.2

/-- Two boxes that are the least of the same boxes are the same. -/
theorem same_of_isLeast {s : Set (Box Float)} (hb : IsLeast s b) (hc : IsLeast s c) : b.Same c :=
  same_of_le_of_le (hb.2 hc.1) (hc.2 hb.1)

end Box

/-! ### Scenes -/

namespace Scene

variable {G M : Type} [GeometryFactory G]

/-- The boxes of the leaves that the factory measures, in the order of the registry. -/
def leafBoxes (s : Scene G M) : List (Box Float) :=
  s.leaves.entries.filterMap fun e => s.leafBounds? e.2

theorem bounds_eq_foldl (s : Scene G M) : s.bounds = s.leafBoxes.foldl Box.union Box.empty := rfl

/-- **The order of leaves does not show in the bounds.** -/
theorem bounds_same_of_perm {s s' : Scene G M} (hgraph : s'.graph = s.graph)
    (hgeometry : s'.geometry = s.geometry)
    (hperm : (s'.leaves.entries.map Prod.snd).Perm (s.leaves.entries.map Prod.snd))
    (hnumeric : ∀ b ∈ s.leafBoxes, b.IsNumeric) :
    s'.bounds.isEmpty = s.bounds.isEmpty ∧ (s.bounds.isEmpty = false → s'.bounds.Same s.bounds) := by
  have hboxes : s'.leafBoxes.Perm s.leafBoxes := by
    have hleaf : s'.leafBounds? = s.leafBounds? := by
      funext slot
      rw [leafBounds?, leafBounds?, hgraph, hgeometry]
    have hboxes := hperm.filterMap s.leafBounds?
    rw [List.filterMap_map, List.filterMap_map] at hboxes
    rw [leafBoxes, leafBoxes, hleaf]
    exact hboxes
  have hspans : Box.Spans s.leafBoxes s.bounds := Box.spans_foldl hnumeric
  have hspans' : Box.Spans s.leafBoxes s'.bounds :=
    (Box.spans_foldl fun b hb => hnumeric b (hboxes.mem_iff.mp hb)).congr fun _ _ => hboxes.mem_iff
  constructor
  · rw [Bool.eq_iff_iff, hspans.isEmpty_iff, hspans'.isEmpty_iff]
  · exact hspans.same hspans'

/-- **The extent of a scene does not depend on the order of its leaves.** The union of boxes is the least
box around them, however they are ordered and grouped and wherever empty boxes stand among them; the box
around points is the least that contains them, in whatever order they come; and so the bounds of a scene
are the same, up to the sign of zero, for every order of its leaves. -/
theorem extent_isLeast :
    (∀ bs : List (Box Float), (∀ b ∈ bs, b.IsNumeric ∧ b.isEmpty = false) →
      IsLeast {c : Box Float | c.IsNumeric ∧ ∀ b ∈ bs, b ≤ c} (bs.foldl Box.union Box.empty) ∧
        (bs ≠ [] →
          (∀ cs : List (Box Float), (∀ b ∈ cs, b.IsNumeric) →
            (cs.filter fun b => !b.isEmpty).Perm bs →
              (cs.foldl Box.union Box.empty).Same (bs.foldl Box.union Box.empty)) ∧
          ∀ g : Box.Grouping, (∀ b ∈ g.boxes, b.IsNumeric) →
            (g.boxes.filter fun b => !b.isEmpty).Perm bs →
              g.union.Same (bs.foldl Box.union Box.empty))) ∧
    (∀ ps : List (Vec3 Float), ps ≠ [] → (∀ p ∈ ps, p.IsNumeric) →
      IsLeast {c : Box Float | c.IsNumeric ∧ ∀ p ∈ ps, c.min ≤ p ∧ p ≤ c.max} (Box.around ps) ∧
        ∀ qs : List (Vec3 Float), qs.Perm ps → (Box.around qs).Same (Box.around ps)) ∧
    ∀ s s' : Scene G M, s'.graph = s.graph → s'.geometry = s.geometry →
      (s'.leaves.entries.map Prod.snd).Perm (s.leaves.entries.map Prod.snd) →
      (∀ b ∈ s.leafBoxes, b.IsNumeric) →
        s'.bounds.isEmpty = s.bounds.isEmpty ∧
          (s.bounds.isEmpty = false → s'.bounds.Same s.bounds) := by
  refine ⟨fun bs hbs => ⟨Box.isLeast_foldl hbs, fun hne => ?_⟩, fun ps hne hps => ?_,
    fun s s' hgraph hgeometry hperm hnumeric => bounds_same_of_perm hgraph hgeometry hperm hnumeric⟩
  · have hspans := Box.spans_foldl fun b hb => (hbs b hb).1
    have hfull : (bs.foldl Box.union Box.empty).isEmpty = false := by
      obtain ⟨b, hb⟩ := List.exists_mem_of_ne_nil bs hne
      refine Bool.eq_false_iff.mpr fun hempty => ?_
      exact Bool.eq_false_iff.mp (hbs b hb).2 (hspans.isEmpty_iff.mp hempty b hb)
    have hsame : ∀ {cs : List (Box Float)} {c : Box Float}, Box.Spans cs c →
        (cs.filter fun b => !b.isEmpty).Perm bs → c.Same (bs.foldl Box.union Box.empty) := by
      intro cs c hc hperm
      refine hspans.same (hc.congr fun b hb => ?_) hfull
      rw [← hperm.mem_iff, List.mem_filter, hb]
      simp
    constructor
    · intro cs hcs
      exact hsame (Box.spans_foldl hcs)
    · intro g hg
      exact hsame (g.spans hg)
  · refine ⟨Box.isLeast_around hne hps, fun qs hperm => ?_⟩
    have hne' : qs ≠ [] := fun h => hne (by simpa [h] using hperm.symm)
    have hqs := Box.isLeast_around hne' fun q hq => hps q (hperm.mem_iff.mp hq)
    simp only [hperm.mem_iff] at hqs
    exact Box.same_of_isLeast hqs (Box.isLeast_around hne hps)

/-! ### Two panels -/

/-- A panel of unit size beside the origin. -/
def panel (id : String) (x : Float) : BuildNode :=
  .geometry ⟨.box, some id, none, [], ⟨some [.number x], none, none⟩, none⟩

/-- Two panels side by side, as they are built. -/
def panels : Scene MeshFactory MaterialLibrary :=
  build default ⟨Settings.currentVersion, none, none,
    [⟨⟨"panels", none, ⟨none, none, none⟩, ∅, ∅, ∅⟩, [panel "left" (-2.0), panel "right" 3.0]⟩], ∅, none⟩

/-- The scene with its registry of leaves turned round. -/
def withLeavesReversed (s : Scene G M) : Scene G M :=
  { s with leaves := OrderedMap.ofList s.leaves.entries.reverse }

/-- The boxes of the panels. -/
def panelBoxes : List (Box Float) :=
  [⟨⟨-2.5, -0.5, -0.5⟩, ⟨-1.5, 0.5, 0.5⟩⟩, ⟨⟨2.5, -0.5, -0.5⟩, ⟨3.5, 0.5, 0.5⟩⟩]

/-- The boxes of the panels the other way round, with an empty box between them, and put together from
the right. -/
def panelGrouping : Box.Grouping :=
  .both (.one ⟨⟨2.5, -0.5, -0.5⟩, ⟨3.5, 0.5, 0.5⟩⟩)
    (.both (.one Box.empty) (.one ⟨⟨-2.5, -0.5, -0.5⟩, ⟨-1.5, 0.5, 0.5⟩⟩))

/-- The panels have one extent, whichever comes first. -/
theorem extent_isLeast_panels :
    (∀ b ∈ panelBoxes, b.IsNumeric ∧ b.isEmpty = false) ∧ panelBoxes ≠ [] ∧
      (∀ b ∈ panelGrouping.boxes, b.IsNumeric) ∧
      (panelGrouping.boxes.filter fun b => !b.isEmpty).Perm panelBoxes ∧
      IsLeast {c : Box Float | c.IsNumeric ∧ ∀ b ∈ panelBoxes, b ≤ c}
        (panelBoxes.foldl Box.union Box.empty) ∧
      (panelGrouping.boxes.foldl Box.union Box.empty).Same (panelBoxes.foldl Box.union Box.empty) ∧
      panelGrouping.union.Same (panelBoxes.foldl Box.union Box.empty) ∧
      (Box.around (panelBoxes.map Box.min).reverse).Same (Box.around (panelBoxes.map Box.min)) ∧
      (∀ b ∈ panels.leafBoxes, b.IsNumeric) ∧ panels.bounds.isEmpty = false ∧
      panels.withLeavesReversed.bounds.Same panels.bounds := by
  obtain ⟨hunion, hpoints, hscenes⟩ := extent_isLeast (G := MeshFactory) (M := MaterialLibrary)
  have hboxes : ∀ b ∈ panelBoxes, b.IsNumeric ∧ b.isEmpty = false := by decide
  have hne : panelBoxes ≠ [] := nofun
  have hgrouping : ∀ b ∈ panelGrouping.boxes, b.IsNumeric := by decide
  have hperm : (panelGrouping.boxes.filter fun b => !b.isEmpty).Perm panelBoxes := by decide
  obtain ⟨hleast, hsame⟩ := hunion panelBoxes hboxes
  obtain ⟨hlists, hgroupings⟩ := hsame hne
  have haround := (hpoints (panelBoxes.map Box.min) nofun (by decide)).2 _
    (List.reverse_perm _)
  have hleaves : panels.leafBoxes = panelBoxes := by decide +kernel
  have hnumeric : ∀ b ∈ panels.leafBoxes, b.IsNumeric := by
    rw [hleaves]
    exact fun b hb => (hboxes b hb).1
  have hfull : panels.bounds.isEmpty = false := by
    rw [bounds_eq_foldl, hleaves]
    decide +kernel
  have hkept : ∀ s : Scene MeshFactory MaterialLibrary,
      s.withLeavesReversed.graph = s.graph ∧ s.withLeavesReversed.geometry = s.geometry :=
    fun _ => ⟨rfl, rfl⟩
  have hslots : (panels.withLeavesReversed.leaves.entries.map Prod.snd).Perm
      (panels.leaves.entries.map Prod.snd) := by decide +kernel
  have hbounds := (hscenes panels panels.withLeavesReversed (hkept panels).1 (hkept panels).2 hslots
    hnumeric).2 hfull
  exact ⟨hboxes, hne, hgrouping, hperm, hleast, hlists _ hgrouping hperm,
    hgroupings _ hgrouping hperm, haround, hnumeric, hfull, hbounds⟩

end Scene

end ParametricScene
