import ParametricScene.Template.Expansion

/-!
# How deep expanded templates nest

Expanding a template leaves the templates inside it closed, and building opens them one after another.
That this ends is a matter of depth: whatever formulas evaluate to, the templates left closed in an
expansion nest less deep than the template that was expanded.

## Main definitions

* `PlacedNode.depth` — how deep closed templates nest below a placed node

## Main results

* `Template.depthAll_expand_lt` — expanding a template takes one level of nesting away
-/

namespace ParametricScene

namespace PlacedNode

mutual

/-- How deep templates nest below a placed node, closed ones included. -/
def depth : PlacedNode → Nat
  | .group _ _ _ children => depthAll children
  | .geometry _ => 0
  | .template t _ => t.depth

/-- How deep templates nest below several placed nodes. -/
def depthAll : List PlacedNode → Nat
  | [] => 0
  | node :: rest => max (depth node) (depthAll rest)

end

theorem depthAll_append (l r : List PlacedNode) :
    depthAll (l ++ r) = max (depthAll l) (depthAll r) := by
  induction l with
  | nil => simp [depthAll]
  | cons node rest ih => rw [List.cons_append, depthAll, depthAll, ih, Nat.max_assoc]

end PlacedNode

open PlacedNode

/-- The instances of a repetition nest no deeper than its body. -/
theorem RepeatHeader.depthAll_instances_le (r : RepeatHeader)
    {body : Context → StateM Evaluator (List PlacedNode)} {bound : Nat}
    (hbody : ∀ ctx ev, depthAll (body ctx ev).1 ≤ bound) (ctx : Context) (first : Nat)
    (positions : List (Vec3 Float)) (ev : Evaluator) :
    depthAll (r.instances body ctx first positions ev).1 ≤ bound := by
  induction positions generalizing first ev with
  | nil => exact Nat.zero_le _
  | cons position rest ih => exact Nat.max_le.mpr ⟨hbody _ _, ih _ _⟩

namespace BuildNode

mutual

/-- A node expands to nodes that nest no deeper. -/
theorem depthAll_expand_le (cap : Nat) : ∀ (node : BuildNode) (ctx : Context) (ev : Evaluator),
    PlacedNode.depthAll (node.expand cap ctx ev).1 ≤ node.depth
  | .geometry _, _, _ => Nat.le_refl _
  | .group _ children, ctx, ev => by
    rw [depth]
    exact Nat.max_le.mpr ⟨depthAll_expandAll_le cap children ctx _, Nat.zero_le _⟩
  | .repetition header body, ctx, ev => by
    rw [depth]
    exact header.depthAll_instances_le (depthAll_expandAll_le cap body) _ _ _ _
  | .template header nodes, _, _ => by
    rw [depth]
    exact Nat.max_le.mpr ⟨Nat.le_refl _, Nat.zero_le _⟩

/-- Several nodes expand to nodes that nest no deeper. -/
theorem depthAll_expandAll_le (cap : Nat) :
    ∀ (nodes : List BuildNode) (ctx : Context) (ev : Evaluator),
      PlacedNode.depthAll (expandAll cap nodes ctx ev).1 ≤ depthAll nodes
  | [], _, _ => Nat.le_refl _
  | node :: rest, ctx, ev => by
    have happend : (expandAll cap (node :: rest) ctx ev).1 =
        (node.expand cap ctx ev).1 ++ (expandAll cap rest ctx (node.expand cap ctx ev).2).1 := rfl
    rw [happend, PlacedNode.depthAll_append, depthAll]
    have hnode := depthAll_expand_le cap node ctx ev
    have hrest := depthAll_expandAll_le cap rest ctx (node.expand cap ctx ev).2
    omega

end

end BuildNode

/-- **Expanding a template takes one level of nesting away.** -/
theorem Template.depthAll_expand_lt (t : Template) (cap : Nat) (surroundings : Context)
    (ev : Evaluator) : PlacedNode.depthAll (t.expand cap surroundings ev).1 < t.depth :=
  Nat.lt_succ_of_le (BuildNode.depthAll_expandAll_le cap t.nodes _ _)

end ParametricScene
