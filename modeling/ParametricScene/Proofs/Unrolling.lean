import ParametricScene.Proofs.Finiteness
import ParametricScene.Proofs.Forgetting
import ParametricScene.Proofs.Truncation

/-!
# Unrolling repetitions

A repetition becomes as many groups as its count says, one after another, and this file says
exactly which. The count loses what is behind its point and is cut at the cap. Instance `i` has the
index in its identifier and in its context, stands where the distribution puts it, and holds what
the body expands to there.

Distributions differ in how many positions they have. A line and a circle have one for each
instance, a list of positions may be too short or too long, and a kind that is not known has none.
Whatever is missing is the origin, and nothing that is left over shows. The positions of a circle
depend on how many there are, which is the number of instances after the cut.

The theorem is about evaluators with the memory for results turned off, so it holds for all names.
It says of each instance by itself what it holds, although one evaluator expands them in turn: that
is where `Evaluator.Settles` is needed.

## Main definitions

* `Distribution.positionIn?` — the position of one instance
* `RepeatHeader.countIn`, `RepeatHeader.positionIn`, `RepeatHeader.contextIn` — an instance

## Main results

* `Distribution.finds_positions?` — positions one by one
* `BuildNode.settles_expandAll` — expansions do not depend on what was expanded before
* `BuildNode.expand_repetition` — the contract
-/

namespace ParametricScene

open Evaluator

variable {r : Registry}

/-! ### Positions -/

namespace Distribution

/-- The position of instance `i` of `count`, if the distribution has one for it. -/
def positionIn? (r : Registry) (ctx : Context) (count i : Nat) : Distribution → Option (Vec3 Float)
  | linear axis start step =>
    some ((Axis.direction axis).vector
      (Source.coordinateIn r ctx start 0.0 + Float.ofNat i * Source.coordinateIn r ctx step 1.0))
  | grid positions => positions[i]?.map fun p => Source.vectorIn r ctx p 0.0
  | radial radius startAngle height =>
    let angle := Source.coordinateIn r ctx startAngle 0.0 +
      Float.ofNat i * (Double.tau / Float.ofNat count)
    some ⟨angle.cos * Source.coordinateIn r ctx radius 0.0, Source.coordinateIn r ctx height 0.0,
      angle.sin * Source.coordinateIn r ctx radius 0.0⟩
  | unknown => none

/-- **Positions one by one.** -/
theorem finds_positions? (hr : r.IsPure) (ctx : Context) (d : Distribution) (count : Nat) :
    ∃ given, Finds r given (d.positions? count ctx) ∧
      ∀ i < count, (given.getD [])[i]? = d.positionIn? r ctx count i := by
  cases d with
  | linear axis start step =>
    refine ⟨_, (finds_coordinate hr ctx start _).bind
      ((finds_coordinate hr ctx step _).bind (.pure _)), fun i hi => ?_⟩
    rw [Option.getD_some, List.getElem?_map, List.getElem?_range hi]
    rfl
  | grid positions =>
    refine ⟨_, (Finds.mapM (fun p => finds_vector hr ctx p 0.0) _).bind (.pure _), fun i hi => ?_⟩
    rw [Option.getD_some, List.getElem?_map, List.getElem?_take_of_lt hi]
    rfl
  | radial radius startAngle height =>
    by_cases hcount : count = 0
    · refine ⟨some [], ?_, fun i hi => by omega⟩
      rw [positions?, if_pos hcount]
      exact .pure _
    · rw [positions?, if_neg hcount]
      refine ⟨_, (finds_coordinate hr ctx radius _).bind
        ((finds_coordinate hr ctx startAngle _).bind
          ((finds_coordinate hr ctx height _).bind (.pure _))), fun i hi => ?_⟩
      rw [Option.getD_some, List.getElem?_map, List.getElem?_range hi]
      rfl
  | unknown => exact ⟨none, .pure none, fun i hi => rfl⟩

end Distribution

/-! ### Instances -/

namespace RepeatHeader

/-- The number of instances: the truncated count, at most `cap`, and none if it is not positive. -/
def countIn (r : Registry) (ctx : Context) (cap : Nat) (header : RepeatHeader) : Nat :=
  if header.count.numberIn r ctx ≤ 0.0 then 0
  else min cap (truncation (Double.value (header.count.numberIn r ctx))).toNat

/-- Where instance `i` of `count` stands: in the origin, unless the distribution has a position. -/
def positionIn (r : Registry) (ctx : Context) (count i : Nat) (header : RepeatHeader) :
    Vec3 Float :=
  (header.distribution.bind fun d => d.positionIn? r ctx count i).getD Vec3.zero

/-- The context of instance `i`: its index, then its bindings, each seeing those before it. -/
def contextIn (r : Registry) (ctx : Context) (i : Nat) (header : RepeatHeader) : Context :=
  Context.layer (Source.valueIn r) header.instanceParameters.entries
    (OrderedMap.insert ctx "index" (.number (Float.ofNat i)))

variable (hr : r.IsPure) (ctx : Context) (header : RepeatHeader)

include hr

theorem finds_instanceCount {cap : Nat} (hcap : cap ≤ countLimit) :
    Finds r (header.countIn r ctx cap) (header.instanceCount cap ctx) := by
  have hfinite : (header.count.numberIn r ctx).isFinite = true := Double.isFinite_orZero _
  have hcount : header.countIn r ctx cap =
      if header.count.numberIn r ctx ≤ 0.0 then 0
      else min cap (Double.toNat countLimit (header.count.numberIn r ctx)) := by
    rw [countIn, Double.toNat_eq_truncation countLimit hfinite, ← Nat.min_assoc,
      Nat.min_eq_left hcap]
  rw [hcount]
  exact (finds_evaluateNumber hr ctx header.count).bind (.pure _)

omit hr in
/-- Positions that are given come first, and the origin stands in for those that are missing. -/
theorem getElem?_padded (given : List (Vec3 Float)) {count i : Nat} (hi : i < count) :
    (given.take count ++ List.replicate (count - given.length) Vec3.zero)[i]? =
      some (given[i]?.getD Vec3.zero) := by
  by_cases hgiven : i < given.length
  · have htaken : i < (given.take count).length := by
      rw [List.length_take]
      omega
    rw [List.getElem?_append_left htaken, List.getElem?_take_of_lt hi,
      List.getElem?_eq_getElem hgiven, Option.getD_some]
  · have htaken : (given.take count).length ≤ i := by
      rw [List.length_take]
      omega
    rw [List.getElem?_append_right htaken, List.getElem?_replicate,
      if_pos (by rw [List.length_take]; omega), List.getElem?_eq_none (by omega), Option.getD_none]

/-- The positions of all instances. -/
theorem finds_positions (count : Nat) :
    Finds r ((List.range count).map fun i => header.positionIn r ctx count i)
      (header.positions count ctx) := by
  have hpadded : ∀ given : List (Vec3 Float),
      (∀ i < count, given[i]?.getD Vec3.zero = header.positionIn r ctx count i) →
        given.take count ++ List.replicate (count - given.length) Vec3.zero =
          (List.range count).map fun i => header.positionIn r ctx count i := by
    intro given hgiven
    refine List.ext_getElem? fun i => ?_
    by_cases hi : i < count
    · rw [getElem?_padded given hi, hgiven i hi, List.getElem?_map, List.getElem?_range hi,
        Option.map_some]
    · rw [List.getElem?_eq_none, List.getElem?_eq_none]
      · rw [List.length_map, List.length_range]
        omega
      · rw [List.length_append, List.length_take, List.length_replicate]
        omega
  rw [positions]
  cases hd : header.distribution with
  | none =>
    rw [← hpadded [] fun i _ => by rw [positionIn, hd]; rfl]
    exact .pure _
  | some d =>
    obtain ⟨given, hfinds, hgiven⟩ := d.finds_positions? hr ctx count
    rw [← hpadded (given.getD []) fun i hi => by rw [positionIn, hd, hgiven i hi]; rfl]
    exact (hfinds.bind (.pure _)).bind (.pure _)

/-- **The instances**, one after another, if the body has one expansion in every context. -/
theorem finds_instances {body : Context → StateM Evaluator (List PlacedNode)}
    {content : Context → List PlacedNode} (hbody : ∀ inner, Finds r (content inner) (body inner))
    (position : Nat → Vec3 Float) (first n : Nat) :
    Finds r
      ((List.range' first n).map fun i =>
        .group (some (header.instanceId i)) none (.atPosition (position i))
          (content (header.contextIn r ctx i)))
      (header.instances body ctx first ((List.range' first n).map position)) := by
  induction n generalizing first with
  | zero => exact .pure []
  | succ n ih =>
    rw [List.range'_succ, List.map_cons, List.map_cons]
    exact (finds_bindSources hr _ _).bind ((hbody _).bind ((ih (first + 1)).bind (.pure _)))

end RepeatHeader

/-! ### Expansions -/

theorem GeometryNode.settles_expand (hr : r.IsPure) (ctx : Context) (g : GeometryNode) :
    Settles r (g.expand ctx) :=
  (settles_label hr ctx g.id).bind fun _ => (settles_label hr ctx g.name).bind fun _ =>
    (Finds.mapM (fun d => finds_evaluateNumber hr ctx d) g.dimensions).settles.bind fun _ =>
      (settles_placement hr ctx g.transform).bind fun _ =>
        (settles_label hr ctx g.material).bind fun _ => .pure _

namespace BuildNode

/-- A repetition is unrolled instance by instance if its body has one expansion in every context. -/
theorem finds_expand_repetition (hr : r.IsPure) {cap : Nat} (hcap : cap ≤ RepeatHeader.countLimit)
    (header : RepeatHeader) (body : List BuildNode) {content : Context → List PlacedNode}
    (hbody : ∀ inner, Finds r (content inner) (expandAll cap body inner)) (ctx : Context) :
    Finds r
      ((List.range (header.countIn r ctx cap)).map fun i =>
        .group (some (header.instanceId i)) none
          (.atPosition (header.positionIn r ctx (header.countIn r ctx cap) i))
          (content (header.contextIn r ctx i)))
      (expand cap (.repetition header body) ctx) := by
  rw [expand]
  refine (header.finds_instanceCount hr ctx hcap).bind ((header.finds_positions hr ctx _).bind ?_)
  rw [List.range_eq_range']
  exact header.finds_instances hr ctx hbody _ 0 _

mutual

/-- What a node expands to does not depend on what was expanded before. -/
theorem settles_expand (hr : r.IsPure) {cap : Nat} (hcap : cap ≤ RepeatHeader.countLimit) :
    ∀ (node : BuildNode) (ctx : Context), Settles r (node.expand cap ctx)
  | .geometry g, ctx => by
    rw [expand]
    exact (g.settles_expand hr ctx).bind fun piece => .pure _
  | .group header children, ctx => by
    rw [expand]
    exact (settles_label hr ctx header.id).bind fun _ =>
      (settles_label hr ctx header.name).bind fun _ =>
        (settles_placement hr ctx header.transform).bind fun _ =>
          (settles_expandAll hr hcap children ctx).bind fun _ => .pure _
  | .repetition header body, ctx => by
    choose content hcontent using settles_expandAll hr hcap body
    exact (finds_expand_repetition hr hcap header body hcontent ctx).settles
  | .template header nodes, ctx => by
    rw [expand]
    exact .pure _

/-- What several nodes expand to does not depend on what was expanded before. -/
theorem settles_expandAll (hr : r.IsPure) {cap : Nat} (hcap : cap ≤ RepeatHeader.countLimit) :
    ∀ (nodes : List BuildNode) (ctx : Context), Settles r (expandAll cap nodes ctx)
  | [], ctx => by
    rw [expandAll]
    exact .pure []
  | node :: rest, ctx => by
    rw [expandAll]
    exact (settles_expand hr hcap node ctx).bind fun _ =>
      (settles_expandAll hr hcap rest ctx).bind fun _ => .pure _

end

/-- **A repetition is unrolled exactly**: as many groups as its count says, and each of them by
itself. The second part says that the positions are those which the distribution generates. -/
theorem expand_repetition (hr : r.IsPure) {ev : Evaluator} (hev : ev.Forgets r) (cap : Nat)
    (hcap : cap ≤ RepeatHeader.countLimit) (header : RepeatHeader) (body : List BuildNode)
    (ctx : Context) :
    (expand cap (.repetition header body) ctx ev).1 =
        ((List.range (header.countIn r ctx cap)).map fun i =>
          .group (some (header.id.getD "repeat" ++ "_" ++ toString i)) none
            ⟨some (header.positionIn r ctx (header.countIn r ctx cap) i), none, none⟩
            (expandAll cap body (header.contextIn r ctx i) ev).1) ∧
      ∀ d ∈ header.distribution, ∀ i < header.countIn r ctx cap,
        ((d.positions? (header.countIn r ctx cap) ctx ev).1.getD [])[i]? =
          d.positionIn? r ctx (header.countIn r ctx cap) i := by
  have hbody := fun inner => (settles_expandAll hr hcap body inner).finds hev
  refine ⟨(finds_expand_repetition hr hcap header body hbody ctx ev hev).1, fun d _ => ?_⟩
  obtain ⟨given, hfinds, hgiven⟩ := d.finds_positions? hr ctx (header.countIn r ctx cap)
  rw [(hfinds ev hev).1]
  exact hgiven

/-! ### A row of drawers -/

/-- A drawer, as a template of its own. -/
def drawer : TemplateHeader := ⟨"drawer", none, ⟨none, none, none⟩, ∅, ∅, ∅⟩

/-- Drawers in a row. The count is not whole, and a position is given for the first one only. -/
def drawerRow : RepeatHeader :=
  ⟨some "row", .number 2.9, some (.grid [[.number 1.0, .number 0.5]]),
    OrderedMap.insert ∅ "width" (.number 0.4)⟩

/-- What is bound where a drawer stands. -/
def drawerContext (i : Nat) : Context :=
  (OrderedMap.insert ∅ "index" (.number (Float.ofNat i))).insert "width" (.number 0.4)

/-- Two drawers, the second one in the origin. -/
theorem expand_repetition_drawerRow :
    Registry.builtin.IsPure ∧ (Evaluator.new.setMemoize false).Forgets Registry.builtin ∧
      10 ≤ RepeatHeader.countLimit ∧
      (expand 10 (.repetition drawerRow [.template drawer []]) ∅
          (Evaluator.new.setMemoize false)).1 =
        [.group (some "row_0") none ⟨some ⟨1.0, 0.5, 0.0⟩, none, none⟩
            [.template ⟨drawer, []⟩ (drawerContext 0)],
          .group (some "row_1") none ⟨some ⟨0.0, 0.0, 0.0⟩, none, none⟩
            [.template ⟨drawer, []⟩ (drawerContext 1)]] := by
  have hforgets : (Evaluator.new.setMemoize false).Forgets Registry.builtin :=
    (truthful_ofRegistry _).forgets
  have hcount : drawerRow.countIn Registry.builtin ∅ 10 = 2 := by
    show (if Double.orZero 2.9 ≤ 0.0 then 0
      else min 10 (truncation (Double.value (Double.orZero 2.9))).toNat) = 2
    decide +kernel
  have hfirst : drawerRow.positionIn Registry.builtin ∅ 2 0 = ⟨1.0, 0.5, 0.0⟩ := by
    have hx : Double.orZero 1.0 = 1.0 := by decide +kernel
    have hy : Double.orZero 0.5 = 0.5 := by decide +kernel
    show (⟨Double.orZero 1.0, Double.orZero 0.5, 0.0⟩ : Vec3 Float) = ⟨1.0, 0.5, 0.0⟩
    rw [hx, hy]
  have hexpand := (expand_repetition Registry.isPure_builtin hforgets 10 (by decide) drawerRow
    [.template drawer []] ∅).1
  rw [hcount, List.range_succ, List.range_succ, List.map_append, List.map_append] at hexpand
  refine ⟨Registry.isPure_builtin, hforgets, by decide, hexpand.trans ?_⟩
  show [PlacedNode.group (some "row_0") none
      ⟨some (drawerRow.positionIn Registry.builtin ∅ 2 0), none, none⟩ _, _] = _
  rw [hfirst]
  rfl

end BuildNode

end ParametricScene
