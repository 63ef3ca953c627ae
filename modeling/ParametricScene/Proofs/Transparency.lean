import ParametricScene.Proofs.Memory
import ParametricScene.Template.Constraint

/-!
# Expanding templates is steady

Everything a template asks of an evaluator is steady: its context, its expansion, its placement and the
rules it violates are the same whatever the evaluator remembers. Names that contexts come to bind are
names of the document, so the one proviso is that the document has no equals sign in a name.

The file follows the definitions of the actions one by one. Each is a few steady steps, and the only
thing to watch is that contexts stay clean from one step to the next.

## Main definitions

* `TemplateHeader.Clean`, `BuildNode.Clean`, `Template.Clean` — no name that is bound has an equals sign
* `PlacedNode.Clean` — nor has any in the templates left closed, or in their contexts

## Main results

* `Template.steady_expand`, `Template.value_expand` — expanding a template
* `Evaluator.steady_placement`, `Evaluator.steady_violations` — what else building a template asks
-/

namespace ParametricScene

/-! ### Clean names -/

theorem Context.clean_empty : Context.Clean ∅ := fun _ h => by simp [OrderedMap.mem_keys_iff] at h

theorem Context.Clean.insert {ctx : Context} (h : ctx.Clean) {name : String} (hname : CleanName name)
    (v : Value) : Context.Clean (OrderedMap.insert ctx name v) := by
  intro k hk
  rw [OrderedMap.mem_keys_iff, OrderedMap.get?_insert] at hk
  split at hk
  · rename_i heq
    exact heq ▸ hname
  · exact h k (OrderedMap.mem_keys_iff.mpr hk)

/-- The parameters and expressions of a template have clean names. -/
structure TemplateHeader.Clean (t : TemplateHeader) : Prop where
  parameters : ∀ name ∈ t.parameters.keys, CleanName name
  expressions : ∀ name ∈ t.expressions.keys, CleanName name

namespace BuildNode

mutual

/-- All names that are bound in the node are clean. -/
def Clean : BuildNode → Prop
  | .geometry _ => True
  | .group _ children => CleanAll children
  | .repetition header body =>
    (∀ name ∈ header.instanceParameters.keys, CleanName name) ∧ CleanAll body
  | .template header nodes => header.Clean ∧ CleanAll nodes

/-- All names that are bound in the nodes are clean. -/
def CleanAll : List BuildNode → Prop
  | [] => True
  | node :: rest => Clean node ∧ CleanAll rest

end

end BuildNode

/-- All names that are bound in the template are clean. -/
structure Template.Clean (t : Template) : Prop where
  header : t.toTemplateHeader.Clean
  nodes : BuildNode.CleanAll t.nodes

namespace PlacedNode

mutual

/-- The templates left closed in the node are clean, and so are the contexts they stand in. -/
def Clean : PlacedNode → Prop
  | .group _ _ _ children => CleanAll children
  | .geometry _ => True
  | .template t ctx => t.Clean ∧ ctx.Clean

/-- The templates left closed in the nodes are clean, and so are the contexts they stand in. -/
def CleanAll : List PlacedNode → Prop
  | [] => True
  | node :: rest => Clean node ∧ CleanAll rest

end

theorem cleanAll_append {l m : List PlacedNode} (hl : CleanAll l) (hm : CleanAll m) :
    CleanAll (l ++ m) := by
  induction l with
  | nil => exact hm
  | cons node rest ih => exact ⟨hl.1, ih hl.2⟩

end PlacedNode

/-! ### Sources -/

namespace Evaluator

section Sources

variable {r : Registry} {ctx : Context}

theorem steady_evaluateText (hr : r.IsPure) (hctx : ctx.Clean) (text : String) :
    Steady r (evaluateText text ctx) := by
  refine (steady_tryEvaluate hr text hctx).1.bind ?_
  cases value r (tryEvaluate text ctx) with
  | ok v => exact .pure v
  | error e => exact .pure Value.zero

/-- The value of a formula text is its answer, or zero. -/
theorem value_evaluateText (hr : r.IsPure) (hctx : ctx.Clean) (text : String) :
    value r (evaluateText text ctx) = (match answerOf r text ctx with
      | .ok v => v
      | .error _ => Value.zero) := by
  rw [value, evaluateText_eq, ← (steady_tryEvaluate hr text hctx).2]
  rfl

theorem steady_evaluate (hr : r.IsPure) (hctx : ctx.Clean) (source : Source) :
    Steady r (evaluate source ctx) := by
  cases source with
  | number n => exact .pure _
  | boolean b => exact .pure _
  | formula text => exact steady_evaluateText hr hctx text

theorem steady_evaluateNumber (hr : r.IsPure) (hctx : ctx.Clean) (source : Source) :
    Steady r (evaluateNumber source ctx) :=
  (steady_evaluate hr hctx source).bind (.pure _)

theorem steady_label (hr : r.IsPure) (hctx : ctx.Clean) (text : Option String) :
    Steady r (label text ctx) := by
  cases text with
  | none => exact .pure none
  | some s =>
    rw [label]
    split
    · exact (steady_evaluateText hr hctx s).bind (.pure _)
    · exact .pure (some s)

theorem steady_coordinate (hr : r.IsPure) (hctx : ctx.Clean) (source : Option Source)
    (fill : Float) : Steady r (coordinate source fill ctx) := by
  cases source with
  | none => exact .pure fill
  | some s => exact steady_evaluateNumber hr hctx s

theorem steady_vector (hr : r.IsPure) (hctx : ctx.Clean) (components : List Source) (fill : Float) :
    Steady r (vector components fill ctx) :=
  (steady_coordinate hr hctx _ fill).bind <| (steady_coordinate hr hctx _ fill).bind <|
    (steady_coordinate hr hctx _ fill).bind (.pure _)

theorem steady_part (hr : r.IsPure) (hctx : ctx.Clean) (components : Option (List Source))
    (fill : Float) : Steady r (part components fill ctx) := by
  cases components with
  | none => exact .pure none
  | some cs => exact (steady_vector hr hctx cs fill).bind (.pure _)

/-- **Placing a template is steady.** -/
theorem steady_placement (hr : r.IsPure) (hctx : ctx.Clean) (spec : PlacementSpec) :
    Steady r (placement spec ctx) :=
  (steady_part hr hctx _ _).bind <| (steady_part hr hctx _ _).bind <|
    (steady_part hr hctx _ _).bind (.pure _)

theorem steady_positions? (hr : r.IsPure) (hctx : ctx.Clean) (d : Distribution) (count : Nat) :
    Steady r (d.positions? count ctx) := by
  cases d with
  | linear axis start step =>
    exact (steady_coordinate hr hctx start _).bind <| (steady_coordinate hr hctx step _).bind (.pure _)
  | grid positions =>
    exact (Steady.mapM (fun p => steady_vector hr hctx p 0.0) _).bind (.pure _)
  | radial radius startAngle height =>
    rw [Distribution.positions?]
    split
    · exact .pure _
    · exact (steady_coordinate hr hctx radius _).bind <|
        (steady_coordinate hr hctx startAngle _).bind <|
          (steady_coordinate hr hctx height _).bind (.pure _)
  | unknown => exact .pure none

/-! ### Contexts -/

/-- Binding sources with clean names is steady and leads to a clean context. -/
theorem steady_bindSources (hr : r.IsPure) {sources : List (String × Source)}
    (hsources : ∀ e ∈ sources, CleanName e.1) (hctx : ctx.Clean) :
    Steady r (bindSources sources ctx) ∧ (value r (bindSources sources ctx)).Clean := by
  induction sources generalizing ctx with
  | nil => exact ⟨.pure ctx, hctx⟩
  | cons e rest ih =>
    obtain ⟨name, source⟩ := e
    have hv := steady_evaluate hr hctx source
    obtain ⟨hrest, hclean⟩ := ih (fun e he => hsources e (List.mem_cons_of_mem _ he))
      (hctx.insert (hsources _ (List.mem_cons_self ..)) (value r (evaluate source ctx)))
    refine ⟨hv.bind hrest, ?_⟩
    rw [bindSources, value_bind hv hrest]
    exact hclean

theorem steady_parameterValue (hr : r.IsPure) (hctx : ctx.Clean) (p : Parameter) :
    Steady r (parameterValue p ctx) := by
  cases p with
  | defined d => exact .pure d.value
  | bare source => exact steady_evaluate hr hctx source

/-- Binding parameters with clean names is steady and leads to a clean context. -/
theorem steady_bindParameters (hr : r.IsPure) {parameters : List (String × Parameter)}
    (hparameters : ∀ e ∈ parameters, CleanName e.1) (hctx : ctx.Clean) :
    Steady r (bindParameters parameters ctx) ∧ (value r (bindParameters parameters ctx)).Clean := by
  induction parameters generalizing ctx with
  | nil => exact ⟨.pure ctx, hctx⟩
  | cons e rest ih =>
    obtain ⟨name, p⟩ := e
    have hv := steady_parameterValue hr hctx p
    obtain ⟨hrest, hclean⟩ := ih (fun e he => hparameters e (List.mem_cons_of_mem _ he))
      (hctx.insert (hparameters _ (List.mem_cons_self ..)) (value r (parameterValue p ctx)))
    refine ⟨hv.bind hrest, ?_⟩
    rw [bindParameters, value_bind hv hrest]
    exact hclean

/-- The entries of a map with clean names. -/
theorem cleanName_of_mem_entries {α : Type} {m : OrderedMap α}
    (h : ∀ name ∈ m.keys, CleanName name) : ∀ e ∈ m.entries, CleanName e.1 := fun e he =>
  h e.1 (List.mem_map.mpr ⟨e, he, rfl⟩)

/-- The context of a template is steady and clean. -/
theorem steady_templateContext (hr : r.IsPure) {t : TemplateHeader} (ht : t.Clean)
    (hctx : ctx.Clean) :
    Steady r (templateContext t ctx) ∧ (value r (templateContext t ctx)).Clean := by
  obtain ⟨hparameters, hinner⟩ := steady_bindParameters hr (cleanName_of_mem_entries ht.parameters)
    hctx
  obtain ⟨hsources, hclean⟩ := steady_bindSources hr (cleanName_of_mem_entries ht.expressions) hinner
  refine ⟨hparameters.bind hsources, ?_⟩
  rw [templateContext, value_bind hparameters hsources]
  exact hclean

/-! ### Rules -/

theorem steady_ruleAnswer (hr : r.IsPure) (hctx : ctx.Clean) (rule : ConstraintRule) :
    Steady r (ruleAnswer rule ctx) := by
  rw [ruleAnswer]
  split
  · exact (steady_tryEvaluate hr _ hctx).1
  · exact (steady_evaluate hr hctx _).bind (.pure _)

theorem steady_categoryViolations (hr : r.IsPure) (hctx : ctx.Clean) (category : String)
    (rules : List (String × ConstraintRule)) : Steady r (categoryViolations category ctx rules) := by
  induction rules with
  | nil => exact .pure []
  | cons e rest ih => exact (steady_ruleAnswer hr hctx e.2).bind (ih.bind (.pure _))

theorem steady_allViolations (hr : r.IsPure) (hctx : ctx.Clean)
    (categories : List (String × OrderedMap ConstraintRule)) :
    Steady r (allViolations ctx categories) := by
  induction categories with
  | nil => exact .pure []
  | cons e rest ih =>
    exact (steady_categoryViolations hr hctx e.1 e.2.entries).bind (ih.bind (.pure _))

/-- **Checking the rules of a template is steady.** -/
theorem steady_violations (hr : r.IsPure) {t : TemplateHeader} (ht : t.Clean) :
    Steady r (violations t) := by
  rw [violations]
  split
  · exact .pure []
  · obtain ⟨hparameters, hclean⟩ := steady_bindParameters hr
      (cleanName_of_mem_entries ht.parameters) Context.clean_empty
    exact hparameters.bind (steady_allViolations hr hclean _)

end Sources

end Evaluator

/-! ### Repetitions -/

open Evaluator

section Expansion

variable {r : Registry} {ctx : Context}

theorem RepeatHeader.steady_instanceCount (hr : r.IsPure) (hctx : ctx.Clean) (header : RepeatHeader)
    (cap : Nat) : Steady r (header.instanceCount cap ctx) :=
  (steady_evaluateNumber hr hctx header.count).bind (.pure _)

theorem RepeatHeader.steady_positions (hr : r.IsPure) (hctx : ctx.Clean) (header : RepeatHeader)
    (count : Nat) : Steady r (header.positions count ctx) := by
  rw [RepeatHeader.positions]
  cases header.distribution with
  | none => exact (Steady.pure []).bind (.pure _)
  | some d => exact ((steady_positions? hr hctx d count).bind (.pure _)).bind (.pure _)

/-- The instances of a repetition are steady and clean if its body is in every clean context. -/
theorem RepeatHeader.steady_instances (hr : r.IsPure) (hctx : ctx.Clean) {header : RepeatHeader}
    (hheader : ∀ name ∈ header.instanceParameters.keys, CleanName name)
    {body : Context → StateM Evaluator (List PlacedNode)}
    (hbody : ∀ inner : Context, inner.Clean →
      Steady r (body inner) ∧ PlacedNode.CleanAll (value r (body inner)))
    (first : Nat) (positions : List (Vec3 Float)) :
    Steady r (header.instances body ctx first positions) ∧
      PlacedNode.CleanAll (value r (header.instances body ctx first positions)) := by
  induction positions generalizing first with
  | nil => exact ⟨.pure [], trivial⟩
  | cons position rest ih =>
    have hindex : CleanName "index" := by
      rw [CleanName]
      decide
    obtain ⟨hinner, hinnerClean⟩ : Steady r (header.instanceContext first ctx) ∧
        (value r (header.instanceContext first ctx)).Clean :=
      steady_bindSources hr (cleanName_of_mem_entries hheader)
        (hctx.insert hindex (.number (Float.ofNat first)))
    obtain ⟨hchildren, hchildrenClean⟩ := hbody _ hinnerClean
    obtain ⟨hothers, hothersClean⟩ := ih (first + 1)
    have hlast := hothers.map fun others => PlacedNode.group (some (header.instanceId first)) none
      (.atPosition position) (value r (body (value r (header.instanceContext first ctx)))) :: others
    refine ⟨hinner.bind (hchildren.bind hlast), ?_⟩
    rw [instances, value_bind hinner (hchildren.bind hlast), value_bind hchildren hlast,
      value_map hothers]
    exact ⟨hchildrenClean, hothersClean⟩

/-! ### Nodes -/

theorem GeometryNode.steady_expand (hr : r.IsPure) (hctx : ctx.Clean) (g : GeometryNode) :
    Steady r (g.expand ctx) :=
  (steady_label hr hctx g.id).bind <| (steady_label hr hctx g.name).bind <|
    (Steady.mapM (fun d => steady_evaluateNumber hr hctx d) g.dimensions).bind <|
      (steady_placement hr hctx g.transform).bind <|
        (steady_label hr hctx g.material).bind (.pure _)

namespace BuildNode

mutual

/-- Expanding a clean node is steady and leads to clean nodes. -/
theorem steady_expand (hr : r.IsPure) (cap : Nat) : ∀ node : BuildNode, node.Clean →
    ∀ ctx : Context, ctx.Clean →
      Steady r (node.expand cap ctx) ∧ PlacedNode.CleanAll (value r (node.expand cap ctx))
  | .geometry g => fun _ ctx hctx => by
    have hpiece := g.steady_expand hr hctx
    refine ⟨hpiece.map fun piece => [PlacedNode.geometry piece], ?_⟩
    rw [expand, value_map hpiece]
    exact ⟨trivial, trivial⟩
  | .group header children => fun hclean ctx hctx => by
    obtain ⟨hplaced, hplacedClean⟩ := steady_expandAll hr cap children hclean ctx hctx
    have hid := steady_label hr hctx header.id
    have hname := steady_label hr hctx header.name
    have htransform := steady_placement hr hctx header.transform
    have hlast := hplaced.map fun placed => [PlacedNode.group (value r (label header.id ctx))
      (value r (label header.name ctx)) (value r (placement header.transform ctx)) placed]
    refine ⟨hid.bind (hname.bind (htransform.bind hlast)), ?_⟩
    rw [expand, value_bind hid (hname.bind (htransform.bind hlast)),
      value_bind hname (htransform.bind hlast), value_bind htransform hlast, value_map hplaced]
    exact ⟨hplacedClean, trivial⟩
  | .repetition header body => fun hclean ctx hctx => by
    have hcount := header.steady_instanceCount hr hctx cap
    have hpositions := header.steady_positions hr hctx (value r (header.instanceCount cap ctx))
    obtain ⟨hinstances, hinstancesClean⟩ := RepeatHeader.steady_instances hr hctx hclean.1
      (steady_expandAll hr cap body hclean.2) 0
      (value r (header.positions (value r (header.instanceCount cap ctx)) ctx))
    refine ⟨hcount.bind (hpositions.bind hinstances), ?_⟩
    rw [expand, value_bind hcount (hpositions.bind hinstances), value_bind hpositions hinstances]
    exact hinstancesClean
  | .template header nodes => fun hclean ctx hctx =>
    ⟨.pure _, ⟨⟨hclean.1, hclean.2⟩, hctx⟩, trivial⟩

/-- Expanding clean nodes is steady and leads to clean nodes. -/
theorem steady_expandAll (hr : r.IsPure) (cap : Nat) : ∀ nodes : List BuildNode, CleanAll nodes →
    ∀ ctx : Context, ctx.Clean →
      Steady r (expandAll cap nodes ctx) ∧ PlacedNode.CleanAll (value r (expandAll cap nodes ctx))
  | [] => fun _ _ _ => ⟨.pure [], trivial⟩
  | node :: rest => fun hclean ctx hctx => by
    obtain ⟨hplaced, hplacedClean⟩ := steady_expand hr cap node hclean.1 ctx hctx
    obtain ⟨hothers, hothersClean⟩ := steady_expandAll hr cap rest hclean.2 ctx hctx
    have hlast := hothers.map fun others => value r (expand cap node ctx) ++ others
    refine ⟨hplaced.bind hlast, ?_⟩
    rw [expandAll, value_bind hplaced hlast, value_map hothers]
    exact PlacedNode.cleanAll_append hplacedClean hothersClean

end

end BuildNode

/-- The expansion of a clean template is that of its nodes in its context. -/
theorem Template.value_expand (hr : r.IsPure) {t : Template} (ht : t.Clean) (cap : Nat)
    (hctx : ctx.Clean) : value r (t.expand cap ctx) =
      value r (BuildNode.expandAll cap t.nodes (value r (templateContext t.toTemplateHeader ctx))) := by
  obtain ⟨hinner, hinnerClean⟩ := steady_templateContext hr ht.header hctx
  exact value_bind hinner (BuildNode.steady_expandAll hr cap t.nodes ht.nodes _ hinnerClean).1

/-- **Expanding a clean template is steady**, and what it leads to is clean. -/
theorem Template.steady_expand (hr : r.IsPure) {t : Template} (ht : t.Clean) (cap : Nat)
    (hctx : ctx.Clean) :
    Steady r (t.expand cap ctx) ∧ PlacedNode.CleanAll (value r (t.expand cap ctx)) := by
  obtain ⟨hinner, hinnerClean⟩ := steady_templateContext hr ht.header hctx
  obtain ⟨hnodes, hnodesClean⟩ := BuildNode.steady_expandAll hr cap t.nodes ht.nodes _ hinnerClean
  rw [value_expand hr ht cap hctx]
  exact ⟨hinner.bind hnodes, hnodesClean⟩

end Expansion

end ParametricScene
