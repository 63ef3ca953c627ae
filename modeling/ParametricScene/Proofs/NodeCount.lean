import ParametricScene.Proofs.Finiteness

/-!
# How many nodes an expansion has

A repetition makes one group for each instance and puts all that its body expands to into it.
Inside another repetition this happens again for each instance of the outer one, and a count may be
a formula over outer indices, so the numbers of instances are not known before the nodes are
expanded. What is known is the cap, which holds for each repetition by itself.

So the size of an expansion is bounded by what can be read off the document: one factor of the cap
for each repetition that a node stands in. Nothing is asked about counts, contexts or functions. A
cap of zero removes repetitions and what is in them, but nodes outside repetitions stay, which is
why the factor is at least one.

## Main definitions

* `BuildNode.nodeCount`, `BuildNode.repeatDepth` — how many nodes are written, and how deep
  repetitions nest among them
* `PlacedNode.nodeCount` — the size of an expansion

## Main results

* `RepeatHeader.yields_nodeCount_instances` — one repetition
* `BuildNode.nodeCountAll_expandAll_le` — the bound
-/

namespace ParametricScene

/-! ### Sizes -/

namespace BuildNode

mutual

/-- The number of nodes, this one included. Templates inside it count as one node each. -/
def nodeCount : BuildNode → Nat
  | .geometry _ | .template _ _ => 1
  | .group _ children => nodeCountAll children + 1
  | .repetition _ body => nodeCountAll body + 1

/-- The number of nodes in several nodes. -/
def nodeCountAll : List BuildNode → Nat
  | [] => 0
  | node :: rest => nodeCount node + nodeCountAll rest

end

mutual

/-- How deep repetitions nest, those in templates inside the node not counted. -/
def repeatDepth : BuildNode → Nat
  | .geometry _ | .template _ _ => 0
  | .group _ children => repeatDepthAll children
  | .repetition _ body => repeatDepthAll body + 1

/-- How deep repetitions nest in several nodes. -/
def repeatDepthAll : List BuildNode → Nat
  | [] => 0
  | node :: rest => max (repeatDepth node) (repeatDepthAll rest)

end

end BuildNode

namespace PlacedNode

mutual

/-- The number of nodes, this one included. Closed templates count as one node each. -/
def nodeCount : PlacedNode → Nat
  | .geometry _ | .template _ _ => 1
  | .group _ _ _ children => nodeCountAll children + 1

/-- The number of nodes in several nodes. -/
def nodeCountAll : List PlacedNode → Nat
  | [] => 0
  | node :: rest => nodeCount node + nodeCountAll rest

end

theorem nodeCountAll_append (l m : List PlacedNode) :
    nodeCountAll (l ++ m) = nodeCountAll l + nodeCountAll m := by
  induction l with
  | nil => rw [List.nil_append, nodeCountAll, Nat.zero_add]
  | cons node rest ih => rw [List.cons_append, nodeCountAll, nodeCountAll, ih, Nat.add_assoc]

/-- One node by itself. -/
theorem nodeCountAll_singleton (node : PlacedNode) : nodeCountAll [node] = node.nodeCount := by
  rw [nodeCountAll, nodeCountAll, Nat.add_zero]

end PlacedNode

open PlacedNode

/-! ### One repetition -/

namespace RepeatHeader

variable (header : RepeatHeader) (ctx : Context)

/-- There are no more instances than the cap allows, whatever the count is. -/
theorem yields_instanceCount_le (cap : Nat) :
    Yields (fun count => count ≤ cap) (header.instanceCount cap ctx) := by
  refine (Yields.any (Evaluator.evaluateNumber header.count ctx)).bind fun count _ => .pure ?_
  split
  · exact Nat.zero_le cap
  · exact Nat.min_le_left cap _

/-- Every instance has a position, and no others are there. -/
theorem yields_length_positions (count : Nat) :
    Yields (fun positions => positions.length = count) (header.positions count ctx) := by
  have hlength : ∀ given : List (Vec3 Float),
      (given.take count ++ List.replicate (count - given.length) Vec3.zero).length = count := by
    intro given
    rw [List.length_append, List.length_take, List.length_replicate]
    omega
  rw [positions]
  cases header.distribution with
  | none => exact .pure (hlength [])
  | some d =>
    refine (Yields.any (d.positions? count ctx)).bind fun given _ => .pure ?_
    exact hlength (given.getD [])

/-- **One repetition.** Each instance is a group around what the body expands to. -/
theorem yields_nodeCount_instances {body : Context → StateM Evaluator (List PlacedNode)}
    {bound : Nat} (hbody : ∀ inner, Yields (fun placed => nodeCountAll placed ≤ bound) (body inner))
    (first : Nat) (positions : List (Vec3 Float)) :
    Yields (fun placed => nodeCountAll placed ≤ positions.length * (bound + 1))
      (header.instances body ctx first positions) := by
  induction positions generalizing first with
  | nil => exact .pure (Nat.zero_le _)
  | cons position rest ih =>
    refine (Yields.any (header.instanceContext first ctx)).bind fun inner _ => ?_
    refine (hbody inner).bind fun children hchildren => ?_
    refine (ih (first + 1)).bind fun others hothers => .pure ?_
    rw [nodeCountAll, nodeCount, List.length_cons, Nat.succ_mul]
    omega

end RepeatHeader

/-! ### The bound -/

namespace BuildNode

/-- A repetition multiplies the bound for its body by the cap, with one group for each instance. -/
theorem mul_le_mul_pow_succ {instances factor size depth : Nat} (hinstances : instances ≤ factor)
    (hfactor : 1 ≤ factor) :
    instances * (size * factor ^ depth + 1) ≤ (size + 1) * factor ^ (depth + 1) :=
  calc instances * (size * factor ^ depth + 1)
      ≤ factor * (size * factor ^ depth + factor ^ depth) :=
        Nat.mul_le_mul hinstances (Nat.add_le_add_left (Nat.one_le_pow _ _ hfactor) _)
    _ = (size + 1) * factor ^ (depth + 1) := by ring

mutual

/-- A node expands to at most its size times the cap for each level of repetitions. -/
theorem yields_nodeCount_expand (cap : Nat) : ∀ (node : BuildNode) (ctx : Context),
    Yields (fun placed => PlacedNode.nodeCountAll placed ≤
        node.nodeCount * max 1 cap ^ node.repeatDepth)
      (node.expand cap ctx)
  | .geometry g, ctx => by
    rw [expand]
    refine (Yields.any (g.expand ctx)).bind fun piece _ => .pure ?_
    rw [nodeCountAll_singleton, PlacedNode.nodeCount, nodeCount, repeatDepth, pow_zero, Nat.mul_one]
  | .group header children, ctx => by
    rw [expand]
    refine (Yields.any (Evaluator.label header.id ctx)).bind fun id _ => ?_
    refine (Yields.any (Evaluator.label header.name ctx)).bind fun name _ => ?_
    refine (Yields.any (Evaluator.placement header.transform ctx)).bind fun transform _ => ?_
    refine (yields_nodeCount_expandAll cap children ctx).bind fun placed hplaced => .pure ?_
    have hgroup : 1 ≤ max 1 cap ^ repeatDepthAll children :=
      Nat.one_le_pow _ _ (Nat.le_max_left 1 cap)
    rw [nodeCountAll_singleton, PlacedNode.nodeCount, nodeCount, repeatDepth, Nat.succ_mul]
    exact Nat.add_le_add hplaced hgroup
  | .repetition header body, ctx => by
    rw [expand]
    refine (header.yields_instanceCount_le ctx cap).bind fun count hcount => ?_
    refine (header.yields_length_positions ctx count).bind fun positions hlength => ?_
    intro ev
    have hinstances := header.yields_nodeCount_instances ctx (yields_nodeCount_expandAll cap body) 0
      positions ev
    have hfactor : positions.length ≤ max 1 cap := by omega
    exact hinstances.trans (mul_le_mul_pow_succ hfactor (Nat.le_max_left 1 cap))
  | .template header nodes, ctx => by
    rw [expand]
    refine .pure ?_
    rw [nodeCountAll_singleton, PlacedNode.nodeCount, nodeCount, repeatDepth, pow_zero, Nat.mul_one]

/-- Several nodes expand to at most their size times the cap for each level of repetitions. -/
theorem yields_nodeCount_expandAll (cap : Nat) : ∀ (nodes : List BuildNode) (ctx : Context),
    Yields (fun placed => PlacedNode.nodeCountAll placed ≤
        nodeCountAll nodes * max 1 cap ^ repeatDepthAll nodes)
      (expandAll cap nodes ctx)
  | [], ctx => by
    rw [expandAll]
    exact .pure (Nat.zero_le _)
  | node :: rest, ctx => by
    rw [expandAll]
    refine (yields_nodeCount_expand cap node ctx).bind fun placed hplaced => ?_
    refine (yields_nodeCount_expandAll cap rest ctx).bind fun others hothers => .pure ?_
    have hdeepen : ∀ {d : Nat}, d ≤ max node.repeatDepth (repeatDepthAll rest) →
        max 1 cap ^ d ≤ max 1 cap ^ max node.repeatDepth (repeatDepthAll rest) :=
      fun hd => Nat.pow_le_pow_right (Nat.le_max_left 1 cap) hd
    rw [PlacedNode.nodeCountAll_append, nodeCountAll, repeatDepthAll, Nat.add_mul]
    exact Nat.add_le_add
      (hplaced.trans (Nat.mul_le_mul_left _ (hdeepen (Nat.le_max_left _ _))))
      (hothers.trans (Nat.mul_le_mul_left _ (hdeepen (Nat.le_max_right _ _))))

end

/-- **The cap bounds the whole expansion**: the nodes that nodes expand to, at all depths, are at
most as many as the nodes times one factor of the cap for each level of repetitions. -/
theorem nodeCountAll_expandAll_le (cap : Nat) (nodes : List BuildNode) (ctx : Context)
    (ev : Evaluator) :
    PlacedNode.nodeCountAll (expandAll cap nodes ctx ev).1 ≤
      nodeCountAll nodes * max 1 cap ^ repeatDepthAll nodes :=
  yields_nodeCount_expandAll cap nodes ctx ev

end BuildNode

end ParametricScene
