import ParametricScene.Proofs.Magnitude
import ParametricScene.Template.Expansion

/-!
# The numbers of an expanded template

Every number that a formula gives is finite when it gets into an expanded template: what is not finite
counts as zero. So all dimensions are finite, and so are all positions, angles and stretches that a
document gives by itself.

The positions of a repetition are computed from such numbers, and here lies the one exception. A line
adds multiples of its step to its start, and if these get too large the coordinate is an infinity, and
stays one. A circle does not have this problem: angles around it are finite wherever it starts, and a
finite radius times a cosine is finite again.

The last step rests on sines and cosines that lie between minus one and one. They are taken as they
come, and nothing is known about them here, so this is kept as a condition.

The exception is made for single instances. Start and step are formulas, which give other numbers in
other instances of a repetition around this one, so whether an instance strays can be said only
where it is expanded. The predicate for settled nodes follows the nodes of the document for this reason,
with the context and the state of the evaluator that each of them meets. Everything that is not the
position of an instance has to be finite, and that position too if its line does not overflow there.

## Main definitions

* `Yields` — what an action gives, whatever the evaluator remembers
* `Distribution.Strays` — the exception
* `BuildNode.SettledAll` — all numbers are finite, apart from the exception
* `PlacedNode.AllFinite` — all numbers are finite

## Main results

* `Distribution.isFinite_or_strays` — the positions of a distribution
* `BuildNode.settledAll_expandAll` — nodes, one after another
* `Template.settledAll_expand` — the contract
-/

namespace ParametricScene

/-! ### Actions -/

/-- What the action gives has the property, whatever the evaluator remembers. -/
def Yields {α : Type} (P : α → Prop) (action : StateM Evaluator α) : Prop :=
  ∀ ev, P (action ev).1

namespace Yields

variable {α β : Type} {P : α → Prop} {Q : β → Prop}

/-- Nothing is said about what the action gives. -/
theorem any (action : StateM Evaluator α) : Yields (fun _ => True) action := fun _ => trivial

theorem pure {a : α} (h : P a) : Yields P (Pure.pure a) := fun _ => h

theorem bind {action : StateM Evaluator α} {next : α → StateM Evaluator β} (h : Yields P action)
    (hnext : ∀ a, P a → Yields Q (next a)) : Yields Q (action >>= next) :=
  fun ev => hnext _ (h ev) _

theorem mapM {f : β → StateM Evaluator α} (h : ∀ b, Yields P (f b)) (bs : List β) :
    Yields (fun as => ∀ a ∈ as, P a) (bs.mapM f) := by
  induction bs with
  | nil => exact pure fun _ ha => absurd ha List.not_mem_nil
  | cons b rest ih =>
    rw [List.mapM_cons]
    refine (h b).bind fun a ha => ih.bind fun as has => pure ?_
    exact List.forall_mem_cons.mpr ⟨ha, has⟩

end Yields

/-! ### Finite numbers -/

/-- All coordinates are finite. -/
def Vec3.IsFinite (v : Vec3 Float) : Prop :=
  v.x.isFinite = true ∧ v.y.isFinite = true ∧ v.z.isFinite = true

/-- All coordinates of all parts that are given are finite. -/
structure PartialPlacement.IsFinite (t : PartialPlacement) : Prop where
  position : ∀ v, t.position = some v → v.IsFinite
  rotation : ∀ v, t.rotation = some v → v.IsFinite
  scale : ∀ v, t.scale = some v → v.IsFinite

theorem Double.isFinite_orZero (x : Float) : (orZero x).isFinite = true := by
  rw [orZero]
  split
  · assumption
  · rfl

namespace Evaluator

theorem yields_evaluateNumber (source : Source) (ctx : Context) :
    Yields (fun x => x.isFinite = true) (evaluateNumber source ctx) :=
  fun _ => Double.isFinite_orZero _

theorem yields_coordinate (source : Option Source) {fill : Float} (hfill : fill.isFinite = true)
    (ctx : Context) : Yields (fun x => x.isFinite = true) (coordinate source fill ctx) := by
  cases source with
  | none => exact .pure hfill
  | some s => exact yields_evaluateNumber s ctx

theorem yields_vector (components : List Source) {fill : Float} (hfill : fill.isFinite = true)
    (ctx : Context) : Yields Vec3.IsFinite (vector components fill ctx) := by
  refine (yields_coordinate components[0]? hfill ctx).bind fun x hx => ?_
  refine (yields_coordinate components[1]? hfill ctx).bind fun y hy => ?_
  refine (yields_coordinate components[2]? hfill ctx).bind fun z hz => ?_
  exact .pure ⟨hx, hy, hz⟩

theorem yields_part (components : Option (List Source)) {fill : Float} (hfill : fill.isFinite = true)
    (ctx : Context) : Yields (fun p => ∀ v, p = some v → v.IsFinite) (part components fill ctx) := by
  cases components with
  | none => exact .pure nofun
  | some cs =>
    refine (yields_vector cs hfill ctx).bind fun v hv => .pure ?_
    rintro _ ⟨⟩
    exact hv

theorem yields_placement (spec : PlacementSpec) (ctx : Context) :
    Yields PartialPlacement.IsFinite (placement spec ctx) := by
  refine (yields_part spec.position (by decide) ctx).bind fun position hposition => ?_
  refine (yields_part spec.rotation (by decide) ctx).bind fun rotation hrotation => ?_
  refine (yields_part spec.scale (by decide) ctx).bind fun scale hscale => ?_
  exact .pure ⟨hposition, hrotation, hscale⟩

end Evaluator

/-! ### Positions -/

/-- The cosine and the sine of the angle lie between minus one and one. -/
def Double.IsTurn (angle : Float) : Prop :=
  (-1.0 ≤ angle.cos ∧ angle.cos ≤ 1.0) ∧ -1.0 ≤ angle.sin ∧ angle.sin ≤ 1.0

/-- An entry of a list that is computed from indices. -/
theorem lt_and_eq_of_getElem?_map_range {α : Type} {f : Nat → α} {n i : Nat} {a : α}
    (h : ((List.range n).map f)[i]? = some a) : i < n ∧ a = f i := by
  obtain ⟨hi, rfl⟩ := List.getElem?_eq_some_iff.mp h
  rw [List.length_map, List.length_range] at hi
  rw [List.getElem_map, List.getElem_range]
  exact ⟨hi, rfl⟩

namespace Distribution

/-- The start and the step of a line. -/
def lineNumbers (start step : Option Source) (ctx : Context) : StateM Evaluator (Float × Float) := do
  let start ← numberOr start 0.0 ctx
  let step ← numberOr step 1.0 ctx
  pure (start, step)

/-- The radius, the first angle and the height of a circle. -/
def circleNumbers (radius startAngle height : Option Source) (ctx : Context) :
    StateM Evaluator (Float × Float × Float) := do
  let radius ← numberOr radius 0.0 ctx
  let start ← numberOr startAngle 0.0 ctx
  let height ← numberOr height 0.0 ctx
  pure (radius, start, height)

/-- The position is where the distribution puts instance `i` of `count`, and it is not finite although
it is computed from finite numbers: too far along a line, or at an angle whose cosine or sine is too
large. The numbers are those that the distribution has in this context, for an evaluator in this
state. -/
def Strays (count : Nat) (ctx : Context) (ev : Evaluator) (i : Nat) :
    Distribution → Vec3 Float → Prop
  | linear axis start step, p =>
    let (a, b) := (lineNumbers start step ctx ev).1
    a.isFinite = true ∧ b.isFinite = true ∧ (a + Float.ofNat i * b).isFinite = false ∧
      p = (Axis.direction axis).vector (a + Float.ofNat i * b)
  | radial radius startAngle height, p =>
    let (r, a, y) := (circleNumbers radius startAngle height ctx ev).1
    let angle := a + Float.ofNat i * (Double.tau / Float.ofNat count)
    r.isFinite = true ∧ angle.isFinite = true ∧ y.isFinite = true ∧ ¬Double.IsTurn angle ∧
      p = ⟨angle.cos * r, y, angle.sin * r⟩
  | grid _, _ | unknown, _ => False

theorem yields_lineNumbers (start step : Option Source) (ctx : Context) :
    Yields (fun n => n.1.isFinite = true ∧ n.2.isFinite = true) (lineNumbers start step ctx) := by
  refine (Evaluator.yields_coordinate start (by decide) ctx).bind fun a ha => ?_
  refine (Evaluator.yields_coordinate step (by decide) ctx).bind fun b hb => ?_
  exact .pure ⟨ha, hb⟩

theorem yields_circleNumbers (radius startAngle height : Option Source) (ctx : Context) :
    Yields (fun n => n.1.isFinite = true ∧ n.2.1.isFinite = true ∧ n.2.2.isFinite = true)
      (circleNumbers radius startAngle height ctx) := by
  refine (Evaluator.yields_coordinate radius (by decide) ctx).bind fun r hr => ?_
  refine (Evaluator.yields_coordinate startAngle (by decide) ctx).bind fun a ha => ?_
  refine (Evaluator.yields_coordinate height (by decide) ctx).bind fun y hy => ?_
  exact .pure ⟨hr, ha, hy⟩

theorem isFinite_vector (direction : Direction) {a : Float} (h : a.isFinite = true) :
    (direction.vector a).IsFinite := by
  have hzero : (0.0 : Float).isFinite = true := by decide
  cases direction with
  | x => exact ⟨h, hzero, hzero⟩
  | y => exact ⟨hzero, h, hzero⟩
  | z => exact ⟨hzero, hzero, h⟩

section Positions

variable {count i : Nat} {ctx : Context} {ev : Evaluator} {ps : List (Vec3 Float)} {p : Vec3 Float}

theorem isFinite_or_strays_linear {axis : Option Axis} {start step : Option Source}
    (hgiven : ((linear axis start step).positions? count ctx ev).1 = some ps)
    (hp : ps[i]? = some p) :
    p.IsFinite ∨ i < count ∧ (linear axis start step).Strays count ctx ev i p := by
  obtain rfl := Option.some.inj hgiven
  obtain ⟨hi, hplace⟩ := lt_and_eq_of_getElem?_map_range hp
  obtain ⟨ha, hb⟩ := yields_lineNumbers start step ctx ev
  cases hsum : ((lineNumbers start step ctx ev).1.1 +
      Float.ofNat i * (lineNumbers start step ctx ev).1.2).isFinite with
  | true => exact Or.inl (hplace ▸ isFinite_vector _ hsum)
  | false => exact Or.inr ⟨hi, ha, hb, hsum, hplace⟩

theorem isFinite_or_strays_radial {radius startAngle height : Option Source}
    (hcount : count < 2 ^ 64)
    (hgiven : ((radial radius startAngle height).positions? count ctx ev).1 = some ps)
    (hp : ps[i]? = some p) :
    p.IsFinite ∨ i < count ∧ (radial radius startAngle height).Strays count ctx ev i p := by
  rw [positions?] at hgiven
  split at hgiven
  · obtain rfl := Option.some.inj hgiven
    cases hp
  · obtain rfl := Option.some.inj hgiven
    obtain ⟨hi, hplace⟩ := lt_and_eq_of_getElem?_map_range hp
    obtain ⟨hr, ha, hy⟩ := yields_circleNumbers radius startAngle height ctx ev
    have hangle := Double.isFinite_add_turns hi hcount ha
    by_cases hturn : Double.IsTurn ((circleNumbers radius startAngle height ctx ev).1.2.1 +
        Float.ofNat i * (Double.tau / Float.ofNat count))
    · obtain ⟨⟨hcos, hcos'⟩, hsin, hsin'⟩ := hturn
      rw [hplace]
      exact Or.inl ⟨Double.isFinite_mul_of_unit hcos hcos' hr, hy,
        Double.isFinite_mul_of_unit hsin hsin' hr⟩
    · exact Or.inr ⟨hi, hr, hangle, hy, hturn, hplace⟩

/-- **The positions of a distribution** are finite, or stray. -/
theorem isFinite_or_strays (d : Distribution) (hcount : count < 2 ^ 64)
    (hgiven : (d.positions? count ctx ev).1 = some ps) (hp : ps[i]? = some p) :
    p.IsFinite ∨ i < count ∧ d.Strays count ctx ev i p := by
  cases d with
  | linear axis start step => exact isFinite_or_strays_linear hgiven hp
  | grid positions =>
    obtain rfl := Option.some.inj hgiven
    exact Or.inl (Yields.mapM (fun p => Evaluator.yields_vector p (by decide) ctx) _ ev p
      (List.mem_of_getElem? hp))
  | radial radius startAngle height => exact isFinite_or_strays_radial hcount hgiven hp
  | unknown => cases hgiven

end Positions

end Distribution

namespace RepeatHeader

/-- Instances are counted with sixty-four digits. -/
theorem yields_instanceCount (r : RepeatHeader) (cap : Nat) (ctx : Context) :
    Yields (fun count => count < 2 ^ 64) (r.instanceCount cap ctx) := by
  refine (Evaluator.yields_evaluateNumber r.count ctx).bind fun x _ => .pure ?_
  have hcount : Double.toNat countLimit x ≤ countLimit := by
    rw [Double.toNat, Double.toInt]
    have hlimit : (0 : Int) ≤ countLimit := by decide
    split
    · omega
    · split
      · exact Nat.zero_le _
      · split <;> omega
  split
  · decide
  · exact Nat.lt_of_le_of_lt ((Nat.min_le_right cap _).trans hcount) (by decide)

/-- The position is where the repetition puts instance `i` of `count`, and strays. -/
def Strays (r : RepeatHeader) (count : Nat) (ctx : Context) (ev : Evaluator) (i : Nat)
    (p : Vec3 Float) : Prop :=
  i < count ∧ ∃ d, r.distribution = some d ∧ d.Strays count ctx ev i p

/-- An instance without a position of its own stands in the origin. -/
theorem getElem?_given_or_eq_zero {given : List (Vec3 Float)} {count i : Nat} {p : Vec3 Float}
    (hp : (given.take count ++ List.replicate (count - given.length) Vec3.zero)[i]? = some p) :
    given[i]? = some p ∨ p = Vec3.zero := by
  rw [List.getElem?_append] at hp
  split at hp
  · rw [List.getElem?_take] at hp
    split at hp
    · exact Or.inl hp
    · cases hp
  · exact Or.inr (List.eq_of_mem_replicate (List.mem_of_getElem? hp))

/-- The positions of a repetition are finite, or stray. -/
theorem isFinite_or_strays (r : RepeatHeader) {count : Nat} (hcount : count < 2 ^ 64)
    (ctx : Context) (ev : Evaluator) {i : Nat} {p : Vec3 Float}
    (hp : (r.positions count ctx ev).1[i]? = some p) :
    p.IsFinite ∨ r.Strays count ctx ev i p := by
  have hzero : (Vec3.zero : Vec3 Float).IsFinite := ⟨rfl, rfl, rfl⟩
  rw [positions] at hp
  cases hd : r.distribution with
  | none =>
    rw [hd] at hp
    rcases getElem?_given_or_eq_zero hp with hgiven | rfl
    · cases hgiven
    · exact Or.inl hzero
  | some d =>
    rw [hd] at hp
    rcases getElem?_given_or_eq_zero hp with hgiven | rfl
    · change ((d.positions? count ctx ev).1.getD [])[i]? = some p at hgiven
      cases hps : (d.positions? count ctx ev).1 with
      | none =>
        rw [hps] at hgiven
        cases hgiven
      | some ps =>
        rw [hps] at hgiven
        exact (d.isFinite_or_strays hcount hps hgiven).imp_right fun ⟨hi, hstrays⟩ =>
          ⟨hi, d, hd, hstrays⟩
    · exact Or.inl hzero

end RepeatHeader

/-! ### Nodes -/

/-- All numbers of the piece are finite. -/
structure PlacedGeometry.IsFinite (g : PlacedGeometry) : Prop where
  dimensions : ∀ x ∈ g.dimensions, x.isFinite = true
  transform : g.transform.IsFinite

namespace PlacedNode

mutual

/-- All numbers in the node are finite. -/
def IsFinite : PlacedNode → Prop
  | .group _ _ transform children => transform.IsFinite ∧ AllFinite children
  | .geometry piece => piece.IsFinite
  | .template _ _ => True

/-- All numbers in the nodes are finite. -/
def AllFinite : List PlacedNode → Prop
  | [] => True
  | node :: rest => IsFinite node ∧ AllFinite rest

end

end PlacedNode

/-- Where a group stands. Its labels are evaluated before. -/
def GroupHeader.place (g : GroupHeader) (ctx : Context) : StateM Evaluator PartialPlacement := do
  let _ ← Evaluator.label g.id ctx
  let _ ← Evaluator.label g.name ctx
  Evaluator.placement g.transform ctx

/-- The placed nodes are the instances of a repetition at the positions, counted from `i` on, for an
evaluator that comes to them in the state `ev`. The positions are finite or stray, and what an instance
holds is settled in its context. -/
def RepeatHeader.SettledInstances (r : RepeatHeader) (strays : Nat → Vec3 Float → Prop)
    (body : Context → StateM Evaluator (List PlacedNode))
    (settled : Context → Evaluator → List PlacedNode → Prop) (ctx : Context) :
    Nat → Evaluator → List (Vec3 Float) → List PlacedNode → Prop
  | _, _, [], placed => placed = []
  | i, ev, position :: positions, placed =>
    let (inner, ev') := r.instanceContext i ctx ev
    (position.IsFinite ∨ strays i position) ∧
    ∃ children others,
      placed = .group (some (r.instanceId i)) none (.atPosition position) children :: others ∧
      settled inner ev' children ∧
      SettledInstances r strays body settled ctx (i + 1) (body inner ev').2 positions others

namespace BuildNode

mutual

/-- The placed nodes are those of the node in this context, for an evaluator in this state, and all
numbers in them are finite, apart from positions of instances that stray. -/
def Settled (cap : Nat) : BuildNode → Context → Evaluator → List PlacedNode → Prop
  | .geometry _, _, _, placed => ∃ piece, placed = [.geometry piece] ∧ piece.IsFinite
  | .group header children, ctx, ev, placed =>
    let (transform, ev') := header.place ctx ev
    transform.IsFinite ∧
    ∃ id name inner, placed = [.group id name transform inner] ∧
      SettledAll cap children ctx ev' inner
  | .repetition header body, ctx, ev, placed =>
    let (count, ev₁) := header.instanceCount cap ctx ev
    let (positions, ev₂) := header.positions count ctx ev₁
    header.SettledInstances (header.Strays count ctx ev₁) (expandAll cap body)
      (SettledAll cap body) ctx 0 ev₂ positions placed
  | .template header nodes, ctx, _, placed => placed = [.template ⟨header, nodes⟩ ctx]

/-- The placed nodes are those of the nodes, one after another, and all numbers in them are finite,
apart from positions of instances that stray. -/
def SettledAll (cap : Nat) : List BuildNode → Context → Evaluator → List PlacedNode → Prop
  | [], _, _, placed => placed = []
  | node :: rest, ctx, ev, placed =>
    ∃ first others, placed = first ++ others ∧ Settled cap node ctx ev first ∧
      SettledAll cap rest ctx (node.expand cap ctx ev).2 others

end

end BuildNode

theorem GeometryNode.yields_expand (g : GeometryNode) (ctx : Context) :
    Yields PlacedGeometry.IsFinite (g.expand ctx) := by
  refine (Yields.any (Evaluator.label g.id ctx)).bind fun id _ => ?_
  refine (Yields.any (Evaluator.label g.name ctx)).bind fun name _ => ?_
  refine (Yields.mapM (fun d => Evaluator.yields_evaluateNumber d ctx) g.dimensions).bind
    fun dimensions hdimensions => ?_
  refine (Evaluator.yields_placement g.transform ctx).bind fun transform htransform => ?_
  refine (Yields.any (Evaluator.label g.material ctx)).bind fun material _ => ?_
  exact .pure ⟨hdimensions, htransform⟩

theorem GroupHeader.yields_place (g : GroupHeader) (ctx : Context) :
    Yields PartialPlacement.IsFinite (g.place ctx) :=
  (Yields.any (Evaluator.label g.id ctx)).bind fun _ _ =>
    (Yields.any (Evaluator.label g.name ctx)).bind fun _ _ =>
      Evaluator.yields_placement g.transform ctx

/-- The instances of a repetition are settled if its body is, in whatever context. -/
theorem RepeatHeader.settledInstances_instances (r : RepeatHeader)
    {strays : Nat → Vec3 Float → Prop} {body : Context → StateM Evaluator (List PlacedNode)}
    {settled : Context → Evaluator → List PlacedNode → Prop}
    (hbody : ∀ ctx ev, settled ctx ev (body ctx ev).1) (ctx : Context) (first : Nat)
    (ev : Evaluator) {positions : List (Vec3 Float)}
    (hpositions : ∀ i p, positions[i]? = some p → p.IsFinite ∨ strays (first + i) p) :
    r.SettledInstances strays body settled ctx first ev positions
      (r.instances body ctx first positions ev).1 := by
  induction positions generalizing first ev with
  | nil => rfl
  | cons position rest ih =>
    refine ⟨hpositions 0 position rfl, _, _, rfl, hbody _ _, ih _ _ fun i p hp => ?_⟩
    rw [Nat.add_right_comm]
    exact hpositions (i + 1) p hp

namespace BuildNode

mutual

/-- A node expands to nodes whose numbers are finite, unless one of its instances strays. -/
theorem settled_expand (cap : Nat) : ∀ (node : BuildNode) (ctx : Context) (ev : Evaluator),
    node.Settled cap ctx ev (node.expand cap ctx ev).1
  | .geometry g, ctx, ev => ⟨_, rfl, g.yields_expand ctx ev⟩
  | .group header children, ctx, ev =>
    ⟨header.yields_place ctx ev, _, _, _, rfl, settledAll_expandAll cap children ctx _⟩
  | .repetition header body, ctx, ev =>
    header.settledInstances_instances (settledAll_expandAll cap body) ctx 0 _ fun i p hp => by
      rw [Nat.zero_add]
      exact header.isFinite_or_strays (header.yields_instanceCount cap ctx ev) ctx _ hp
  | .template _ _, _, _ => rfl

/-- Several nodes expand to nodes whose numbers are finite, unless one of their instances strays. -/
theorem settledAll_expandAll (cap : Nat) :
    ∀ (nodes : List BuildNode) (ctx : Context) (ev : Evaluator),
      SettledAll cap nodes ctx ev (expandAll cap nodes ctx ev).1
  | [], _, _ => rfl
  | node :: rest, ctx, ev =>
    ⟨_, _, rfl, settled_expand cap node ctx ev, settledAll_expandAll cap rest ctx _⟩

end

end BuildNode

/-- **The numbers of an expanded template are finite**, apart from positions that stray. -/
theorem Template.settledAll_expand (t : Template) (cap : Nat) (surroundings : Context)
    (ev : Evaluator) :
    let (ctx, ev') := Evaluator.templateContext t.toTemplateHeader surroundings ev
    BuildNode.SettledAll cap t.nodes ctx ev' (t.expand cap surroundings ev).1 :=
  BuildNode.settledAll_expandAll cap t.nodes _ _

/-- Two posts in a line, as far apart as the first one is away. -/
def farPosts : Template :=
  ⟨⟨"row", none, ⟨none, none, none⟩, ∅, ∅, ∅⟩,
    [.repetition ⟨some "post", .number 2.0,
      some (.linear none (some (.number 1e308)) (some (.number 1e308))), ∅⟩ []]⟩

/-- **The exception is needed.** The second post does not stand at a finite distance. -/
theorem not_allFinite_expand_farPosts :
    ¬PlacedNode.AllFinite (farPosts.expand 10 ∅ Evaluator.new).1 := by
  have hlarge : Double.orZero 1e308 = 1e308 := by decide +kernel
  have hsum : (1e308 + Float.ofNat 1 * 1e308 : Float).isFinite = false := by decide +kernel
  have hexpand : (farPosts.expand 10 ∅ Evaluator.new).1 =
      [.group (some "post_0") none
          (.atPosition ⟨0.0, Double.orZero 1e308 + Float.ofNat 0 * Double.orZero 1e308, 0.0⟩) [],
        .group (some "post_1") none
          (.atPosition ⟨0.0, Double.orZero 1e308 + Float.ofNat 1 * Double.orZero 1e308, 0.0⟩) []] := rfl
  rw [hexpand, hlarge]
  rintro ⟨-, ⟨hfinite, -⟩, -⟩
  exact ne_true_of_eq_false hsum (hfinite.position _ rfl).2.1

end ParametricScene
