import ParametricScene.Proofs.Acceptance
import ParametricScene.Proofs.Rebuilding

/-!
# Edits survive rebuilding

An edit of a parameter is kept beside the scene, and counts again whenever the template is built anew,
also when it is built as part of a template around it. So a parameter that was given a value keeps it,
whatever is built again afterwards and in whatever order.

Building anew starts from the template as the document has it, and offers it the value that was stored.
Two things have to be asked for.

* The stored value has to be stored again as it is. This is so if the bounds of the parameter are
  numbers of its kind; a whole number with a bound that is not whole is rounded away from the bound.
* Whatever template comes to stand at the path has to take the value as the edited one did. Where the
  templates of a document have identifiers of their own there is only one that can. Elsewhere another
  template may take the path, and then the edit is offered to that one.

Which templates can stand at a path is read off the document. A path consists of the identifiers of the
templates, groups and instances around a template and of its own. All of them are given in the document,
except where a formula stands for the identifier of a group, which may then be any text.

Nothing is asked of the names, the formulas, the factory or the keeper of materials, and other
parameters may be edited before.

## Main definitions

* `BuildNode.Leads`, `PlacedNode.Leads` — the paths of the templates in a document and in an expansion
* `SceneDocument.CanStandAt` — the templates of a document that can stand at a path
* `SceneDocument.DefinesAlike` — all of these take the same values
* `Template.DrawnFrom`, `Scene.Draws` — the templates of a scene are those of a document
* `Scene.Holds` — an edit is on record, and the registered template has its value

## Main results

* `BuildNode.leads_of_expandAll` — expanding makes up no templates and no paths
* `Scene.Holds.grows`, `Scene.Holds.regenerate` — building keeps the value of an edit
* `Scene.parameter?_run_regenerate` — an edit survives rebuilding
* `Scene.parameter?_regenerate_ne_shelf` — but not if a whole number has half a one as its bound
-/

namespace ParametricScene

/-! ### The templates in a document -/

/-- What can come of a label: the text as it stands, and any text where it looks like a formula. -/
def CanRead (text label : Option String) : Prop :=
  match text with
  | none => label = none
  | some s => if isFormulaText s then label.isSome = true else label = some s

theorem canRead_label (text : Option String) (ctx : Context) (ev : Evaluator) :
    CanRead text (Evaluator.label text ctx ev).1 := by
  cases text with
  | none => rfl
  | some s =>
    rw [CanRead, Evaluator.label]
    split
    · rfl
    · rfl

/-- The group can have the identifier in a path. -/
def GroupHeader.CanBe (g : GroupHeader) (id : String) : Prop :=
  ∃ own name, CanRead g.id own ∧ CanRead g.name name ∧ Scene.groupId own name = id

/-- Expanding the nodes below an object whose path is `above` can bring the template to the path. -/
inductive BuildNode.Leads (t : TemplateHeader) (path : String) : List BuildNode → String → Prop where
  | here {nodes rest : List BuildNode} {above : String} (hpath : joinPath above t.id = path) :
      Leads t path (.template t nodes :: rest) above
  | inside {u : TemplateHeader} {nodes rest : List BuildNode} {above : String}
      (h : Leads t path nodes (joinPath above u.id)) : Leads t path (.template u nodes :: rest) above
  | group {header : GroupHeader} {children rest : List BuildNode} {above id : String}
      (hid : header.CanBe id) (h : Leads t path children (joinPath above id)) :
      Leads t path (.group header children :: rest) above
  | unrolled {header : RepeatHeader} {body rest : List BuildNode} {above : String} (i : Nat)
      (h : Leads t path body (joinPath above (header.instanceId i))) :
      Leads t path (.repetition header body :: rest) above
  | next {node : BuildNode} {rest : List BuildNode} {above : String} (h : Leads t path rest above) :
      Leads t path (node :: rest) above

/-- A template as a node. -/
def Template.node (t : Template) : BuildNode := .template t.toTemplateHeader t.nodes

/-- The template is one of the document that can stand at the path. -/
def SceneDocument.CanStandAt (d : SceneDocument) (t : TemplateHeader) (path : String) : Prop :=
  BuildNode.Leads t path (d.templates.map Template.node) ""

/-- If one of the templates of the document that can stand at the path defines the parameter, all of
them do, and take the same values. -/
def SceneDocument.DefinesAlike (d : SceneDocument) (path name : String) : Prop :=
  ∀ t u, d.CanStandAt t path → d.CanStandAt u path →
    ∀ p, t.parameters.get? name = some (.defined p) →
      ∃ q, u.parameters.get? name = some (.defined q) ∧ ∀ v, q.accept v = p.accept v

/-- This is so where only one template can stand at the path. -/
theorem SceneDocument.definesAlike_of_unique {d : SceneDocument} {path : String}
    (hunique : ∀ t u, d.CanStandAt t path → d.CanStandAt u path → t = u) (name : String) :
    d.DefinesAlike path name := by
  intro t u ht hu p hp
  obtain rfl := hunique t u ht hu
  exact ⟨p, hp, fun _ => rfl⟩

/-- Templates, each of which can stand at some paths. -/
abbrev Standing : Type := TemplateHeader → String → Prop

/-- The templates in a template, at the paths they can have below it, are of the given ones, and its
defined parameters are those of a given one for its path. Only their values may be others. -/
structure Template.DrawnFrom (t : Template) (stands : Standing) (path : String) : Prop where
  nested : ∀ u k, BuildNode.Leads u k t.nodes path → stands u k
  source : ∃ u, stands u path ∧
    ∀ name p, t.parameters.get? name = some (.defined p) →
      ∃ q value, u.parameters.get? name = some (.defined q) ∧ p = { q with value := value }

/-- Building the placed nodes below an object whose path is `above` can bring the template to the
path. -/
inductive PlacedNode.Leads (t : TemplateHeader) (path : String) : List PlacedNode → String → Prop where
  | template {u : Template} {ctx : Context} {rest : List PlacedNode} {above : String}
      (h : BuildNode.Leads t path [u.node] above) : Leads t path (.template u ctx :: rest) above
  | group {id name : Option String} {transform : PartialPlacement} {children rest : List PlacedNode}
      {above : String} (h : Leads t path children (joinPath above (Scene.groupId id name))) :
      Leads t path (.group id name transform children :: rest) above
  | next {node : PlacedNode} {rest : List PlacedNode} {above : String} (h : Leads t path rest above) :
      Leads t path (node :: rest) above

section Leads

variable {t : TemplateHeader} {path above : String}

/-- What a node leads to, it leads to in front of other nodes. -/
theorem BuildNode.Leads.cons_of_singleton {node : BuildNode} {rest : List BuildNode}
    (h : Leads t path [node] above) : Leads t path (node :: rest) above := by
  cases h with
  | here hpath => exact .here hpath
  | inside h => exact .inside h
  | group hid h => exact .group hid h
  | unrolled i h => exact .unrolled i h
  | next h => cases h

theorem PlacedNode.leads_append {l r : List PlacedNode} (h : Leads t path (l ++ r) above) :
    Leads t path l above ∨ Leads t path r above := by
  induction l with
  | nil => exact Or.inr h
  | cons node rest ih =>
    cases h with
    | template h => exact Or.inl (.template h)
    | group h => exact Or.inl (.group h)
    | next h => exact (ih h).imp_left .next

/-- The instances of a repetition lead where its body leads below one of them. -/
theorem RepeatHeader.leads_of_instances (r : RepeatHeader) {body : List BuildNode}
    {expanded : Context → StateM Evaluator (List PlacedNode)}
    (hbody : ∀ ctx ev above, PlacedNode.Leads t path (expanded ctx ev).1 above →
      BuildNode.Leads t path body above)
    (ctx : Context) (first : Nat) (positions : List (Vec3 Float)) (ev : Evaluator)
    (h : PlacedNode.Leads t path (r.instances expanded ctx first positions ev).1 above) :
    BuildNode.Leads t path [.repetition r body] above := by
  induction positions generalizing first ev with
  | nil => cases h
  | cons position rest ih =>
    cases h with
    | group h => exact .unrolled first (hbody _ _ _ h)
    | next h => exact ih _ _ h

namespace BuildNode

mutual

/-- An expanded node leads where the node leads. -/
theorem leads_of_expand (cap : Nat) : ∀ (node : BuildNode) (ctx : Context) (ev : Evaluator)
    (above : String), PlacedNode.Leads t path (node.expand cap ctx ev).1 above →
      Leads t path [node] above
  | .geometry _, _, _, _, h => by
    cases h with
    | next h => cases h
  | .group header children, ctx, _, _, h => by
    cases h with
    | group h =>
      exact .group ⟨_, _, canRead_label _ _ _, canRead_label _ _ _, rfl⟩
        (leads_of_expandAll cap children ctx _ _ h)
    | next h => cases h
  | .repetition header body, _, _, _, h =>
    header.leads_of_instances (leads_of_expandAll cap body) _ _ _ _ h
  | .template _ _, _, _, _, h => by
    cases h with
    | template h => exact h
    | next h => cases h

/-- **Expanding makes up no templates and no paths.** -/
theorem leads_of_expandAll (cap : Nat) : ∀ (nodes : List BuildNode) (ctx : Context)
    (ev : Evaluator) (above : String), PlacedNode.Leads t path (expandAll cap nodes ctx ev).1 above →
      Leads t path nodes above
  | [], _, _, _, h => by cases h
  | node :: rest, ctx, ev, above, h => by
    have happend : (expandAll cap (node :: rest) ctx ev).1 =
        (node.expand cap ctx ev).1 ++ (expandAll cap rest ctx (node.expand cap ctx ev).2).1 := rfl
    rw [happend] at h
    rcases PlacedNode.leads_append h with h | h
    · exact (leads_of_expand cap node ctx ev above h).cons_of_singleton
    · exact .next (leads_of_expandAll cap rest ctx _ above h)

end

end BuildNode

/-- The nodes of a document lead where the document does. -/
theorem leads_of_roots {ts : List Template}
    (h : PlacedNode.Leads t path (ts.map fun t => .template t ∅) above) :
    BuildNode.Leads t path (ts.map Template.node) above := by
  induction ts with
  | nil => cases h
  | cons u rest ih =>
    cases h with
    | template h => exact h.cons_of_singleton
    | next h => exact .next (ih h)

end Leads

theorem Template.expand_of_empty (t : Template) (ht : t.nodes = []) (cap : Nat)
    (surroundings : Context) (ev : Evaluator) : (t.expand cap surroundings ev).1 = [] := by
  rw [expand, ht]
  rfl

theorem Template.expand_of_nested (t : Template) {u : TemplateHeader}
    (ht : t.nodes = [.template u []]) (cap : Nat) (surroundings : Context) (ev : Evaluator) :
    ∃ ctx, (t.expand cap surroundings ev).1 = [.template ⟨u, []⟩ ctx] := by
  rw [expand, ht]
  exact ⟨_, rfl⟩

namespace Scene

variable {G M : Type}

variable {stands : Standing} {path name : String} {stored : Value}

/-! ### Templates of a document -/

/-- Every registered template is one that can stand at its path. -/
def Draws (s : Scene G M) (stands : Standing) : Prop :=
  ∀ path entry, s.templates.get? path = some entry → entry.template.DrawnFrom stands path

/-- What an edit writes down is drawn from the same templates. -/
theorem Draws.recordEdit {s : Scene G M} (h : s.Draws stands) {path name : String}
    {entry : TemplateEntry} (hentry : s.templates.get? path = some entry) {p p' : Parameter}
    (hp : entry.template.parameters.get? name = some p) {v stored : Value}
    (hset : p.set v = .ok (p', stored)) :
    (s.recordEdit path name entry p' stored).Draws stands := by
  intro k other hget
  rw [Scene.recordEdit, OrderedMap.get?_insert] at hget
  split at hget
  · rename_i hk
    subst hk
    obtain rfl := Option.some.inj hget
    obtain ⟨hnested, u, hu, hsource⟩ := h k entry hentry
    refine ⟨hnested, u, hu, fun n d hd => ?_⟩
    change (entry.template.parameters.insert name p').get? n = _ at hd
    rw [OrderedMap.get?_insert] at hd
    split at hd
    · rename_i hn
      subst hn
      obtain rfl := Option.some.inj hd
      obtain ⟨q, rfl, rfl⟩ := Parameter.eq_of_set hset
      obtain ⟨r, _, hr, rfl⟩ := hsource n q hp
      exact ⟨r, stored, hr, rfl⟩
    · exact hsource n d hd
  · exact h k other hget

/-- A template that can stand at the path can do so with edits. -/
theorem drawnFrom_withEdits {t : Template} {path : String} (ht : stands t.toTemplateHeader path)
    (hnested : ∀ u k, BuildNode.Leads u k t.nodes path → stands u k) (edits : OrderedMap Value) :
    (withEdits edits t).DrawnFrom stands path := by
  refine ⟨hnested, t.toTemplateHeader, ht, fun name p hp => ?_⟩
  rw [get?_withEdits, Option.map_eq_some_iff] at hp
  obtain ⟨p₀, hp₀, hrevised⟩ := hp
  obtain ⟨q, value, rfl, rfl⟩ := Parameter.eq_of_revised hrevised
  exact ⟨q, value, hp₀, rfl⟩

/-! ### Edits on record -/

/-- The value is on record for the parameter, and the template registered at the path has it. -/
structure Holds (s : Scene G M) (path name : String) (stored : Value) : Prop where
  recorded : (s.editsAt path).get? name = some stored
  registered : ∀ entry, s.templates.get? path = some entry →
    ∃ q, entry.template.parameters.get? name = some (.defined q) ∧ q.value = stored

/-- What is read of the parameter. -/
theorem Holds.parameter?_eq {s : Scene G M} (h : s.Holds path name stored)
    (hregistered : s.templates.contains path = true) : s.parameter? path name = some stored := by
  obtain ⟨entry, hentry⟩ := Option.isSome_iff_exists.mp hregistered
  obtain ⟨q, hq, rfl⟩ := h.registered entry hentry
  rw [parameter?, hentry]
  simp [hq, Parameter.literal?]

theorem contains_of_parameter?_eq_some {s : Scene G M} (h : s.parameter? path name = some stored) :
    s.templates.contains path = true := by
  rw [OrderedMap.contains]
  cases hentry : s.templates.get? path with
  | none =>
    rw [parameter?, hentry] at h
    cases h
  | some entry => rfl

/-- All templates that can stand at the path store the value as it is. -/
def StoredBy (stands : Standing) (path name : String) (stored : Value) : Prop :=
  ∀ t, stands t path →
    ∃ q, t.parameters.get? name = some (.defined q) ∧ q.accept stored = .ok stored

/-- What an edit writes down holds. -/
theorem holds_recordEdit {s : Scene G M} {entry : TemplateEntry} {p : ParameterDefinition}
    (hvalue : p.value = stored) :
    (s.recordEdit path name entry (.defined p) stored).Holds path name stored := by
  refine ⟨?_, fun other hget => ?_⟩
  · rw [editsAt, Scene.recordEdit, OrderedMap.get?_insert_self, Option.getD_some,
      OrderedMap.get?_insert_self]
  · rw [Scene.recordEdit, OrderedMap.get?_insert_self] at hget
    obtain rfl := Option.some.inj hget
    exact ⟨p, OrderedMap.get?_insert_self .., hvalue⟩

/-! ### Building again -/

section Steps

variable [GeometryFactory G] [MaterialCache M]

/-- Building a registered template again, with everything that does not matter for what is built kept
out of sight. -/
theorem Registers.grows_regenerate {s : Scene G M} {f : SceneForest} (h : s.Registers f)
    {path : String} {entry : TemplateEntry} (hentry : s.templates.get? path = some entry) :
    ∃ (gap : Forest.Gap (Site (Option Origin))) (a : Site (Option Origin)) (below grown : SceneForest)
      (violations : List Violation) (ev₁ ev₂ : Evaluator),
      f = gap.fill a below ∧ entry.container = a.slot ∧
        Grows (s.reopened path a.slot below ev₂ violations) a.slot path
          (entry.template.expand s.settings.repeatCap entry.surroundings ev₁).1 grown
          (s.regenerate path).2 := by
  obtain ⟨gap, a, below, rfl, hslot, -⟩ := h.exists_fill hentry
  obtain ⟨grown, violations, ev₁, ev₂, hgrows⟩ := exists_regenerate_grows h.shows hentry hslot
  exact ⟨gap, a, below, grown, violations, ev₁, ev₂, rfl, hslot, hgrows⟩

/-- Pruning registers nothing. -/
theorem get?_templates_of_reopened {s : Scene G M} {path : String} {slot : Nat}
    {below : SceneForest} {ev : Evaluator} {violations : List Violation} {k : String}
    {entry : TemplateEntry}
    (h : (s.reopened path slot below ev violations).templates.get? k = some entry) :
    s.templates.get? k = some entry := by
  rw [reopened, pruned, OrderedMap.get?_filter, Option.filter_eq_some_iff] at h
  exact h.1

/-- An edit that is accepted is written down, and the template is built again. -/
theorem setParameter_of_set {s : Scene G M} {path name : String} {v stored : Value}
    {entry : TemplateEntry} {p p' : Parameter} (hentry : s.templates.get? path = some entry)
    (hp : entry.template.parameters.get? name = some p) (hset : p.set v = .ok (p', stored)) :
    s.setParameter path name v =
      (.ok (((s.recordEdit path name entry p' stored).regenerate path).2.violationsAt path),
        ((s.recordEdit path name entry p' stored).regenerate path).2) := by
  rw [setParameter, hentry]
  simp only [hp, hset]

/-! ### Building keeps what is drawn and what holds -/

omit [GeometryFactory G] [MaterialCache M] in
/-- What an expanded template leads to, the template leads to. -/
theorem leads_of_expand_originOf {s : Scene G M} {above : String} {t : Template} {ctx : Context}
    {ev ev' : Evaluator} {nodes : List PlacedNode}
    (hexpand : (s.originOf above t ctx).1.expand s.settings.repeatCap ctx ev = (nodes, ev'))
    {u : TemplateHeader} {k : String} (h : PlacedNode.Leads u k nodes (joinPath above t.id)) :
    BuildNode.Leads u k t.nodes (joinPath above t.id) := by
  obtain rfl : _ = nodes := congrArg Prod.fst hexpand
  exact BuildNode.leads_of_expandAll _ _ _ _ _ h

theorem Draws.grows {s s' : Scene G M} {parent : Nat} {above : String} {nodes : List PlacedNode}
    {f : SceneForest} (h : Grows s parent above nodes f s') (hdraws : s.Draws stands)
    (hnodes : ∀ u k, PlacedNode.Leads u k nodes above → stands u k) : s'.Draws stands := by
  induction h with
  | done => exact hdraws
  | unknown _ _ ih => exact ih hdraws fun u k h => hnodes u k (.next h)
  | refused _ _ _ ih => exact ih hdraws fun u k h => hnodes u k (.next h)
  | leaf _ _ _ _ _ ih => exact ih hdraws fun u k h => hnodes u k (.next h)
  | group _ _ ihBelow ih =>
    exact ih (ihBelow hdraws fun u k h => hnodes u k (.group h)) fun u k h => hnodes u k (.next h)
  | @template s _ _ parent above t ctx transform violations nodes _ ev₁ ev₂ ev₃ _ _ _ _ hexpand _ _
      ihBelow ih =>
    have hbelow : ∀ u k, BuildNode.Leads u k t.nodes (joinPath above t.id) → stands u k :=
      fun u k h => hnodes u k (.template (.inside h))
    refine ih (ihBelow (fun k entry hget => ?_) fun u k h => hbelow u k (leads_of_expand_originOf hexpand h))
      fun u k h => hnodes u k (.next h)
    rw [plantContainer, OrderedMap.get?_insert] at hget
    split at hget
    · rename_i hk
      obtain rfl := Option.some.inj hget
      subst hk
      exact drawnFrom_withEdits (hnodes _ _ (.template (.here rfl))) hbelow _
    · exact hdraws k entry hget

theorem Draws.regenerate {s : Scene G M} {f : SceneForest} (h : s.Draws stands) (hf : s.Registers f)
    (path : String) : (s.regenerate path).2.Draws stands := by
  cases hentry : s.templates.get? path with
  | none =>
    rw [regenerate_of_get?_none hentry]
    exact h
  | some entry =>
    obtain ⟨gap, a, below, grown, violations, ev₁, ev₂, -, -, hgrows⟩ := hf.grows_regenerate hentry
    exact Draws.grows hgrows (fun k other hget => h k other (get?_templates_of_reopened hget))
      fun u k hleads => (h path entry hentry).nested u k (BuildNode.leads_of_expandAll _ _ _ _ _ hleads)

theorem Draws.apply {s : Scene G M} {f : SceneForest} (h : s.Draws stands) (hf : s.Registers f)
    (e : SceneEdit) : (s.apply e).Draws stands := by
  cases e with
  | regenerate path => exact h.regenerate hf path
  | setParameter path name v =>
    obtain hsame | ⟨entry, p, p', stored, hentry, hp, hset, happly⟩ :=
      s.setParameter_cases path name v
    · rw [Scene.apply, hsame]
      exact h
    · obtain ⟨gap, a, below, rfl, ha, -⟩ := hf.exists_fill hentry
      rw [Scene.apply, happly]
      exact (h.recordEdit hentry hp hset).regenerate (hf.recordEdit hentry ha p' stored) path

theorem Draws.run {s : Scene G M} {f : SceneForest} (h : s.Draws stands) (hf : s.Registers f)
    (es : List SceneEdit) : (s.run es).Draws stands := by
  induction es generalizing s f with
  | nil => exact h
  | cons e rest ih =>
    obtain ⟨f', hf'⟩ := hf.apply_turns e
    exact ih (h.apply hf e) (hf.turns hf')

/-- The scene of a document is made of the templates of the document. -/
theorem draws_buildWith (geometry : G) (materials : M) (evaluator : Evaluator)
    (settings : Settings) (d : SceneDocument) :
    (buildWith geometry materials evaluator settings d).Draws d.CanStandAt := by
  obtain ⟨f, hf⟩ := grows_populate d.templates
    (initial geometry materials (evaluator.setMemoize settings.memoize) settings d.materials)
  exact Draws.grows hf (fun _ _ hget => by simp [initial] at hget) fun u k h => leads_of_roots h

/-- **Building keeps the value of an edit.** -/
theorem Holds.grows (hstored : StoredBy stands path name stored) {s s' : Scene G M} {parent : Nat}
    {above : String} {nodes : List PlacedNode} {f : SceneForest} (h : Grows s parent above nodes f s')
    (hholds : s.Holds path name stored)
    (hnodes : ∀ u k, PlacedNode.Leads u k nodes above → stands u k) :
    s'.Holds path name stored := by
  induction h with
  | done => exact hholds
  | unknown _ _ ih => exact ih hholds fun u k h => hnodes u k (.next h)
  | refused _ _ _ ih =>
    exact ih ⟨hholds.recorded, hholds.registered⟩ fun u k h => hnodes u k (.next h)
  | leaf _ _ _ _ _ ih =>
    exact ih ⟨hholds.recorded, hholds.registered⟩ fun u k h => hnodes u k (.next h)
  | group _ _ ihBelow ih =>
    exact ih (ihBelow ⟨hholds.recorded, hholds.registered⟩ fun u k h => hnodes u k (.group h))
      fun u k h => hnodes u k (.next h)
  | @template s _ _ parent above t ctx transform violations nodes _ ev₁ ev₂ ev₃ _ _ _ _ hexpand _ _
      ihBelow ih =>
    refine ih (ihBelow ⟨hholds.recorded, fun entry hget => ?_⟩
      fun u k h => hnodes u k (.template (.inside (leads_of_expand_originOf hexpand h))))
        fun u k h => hnodes u k (.next h)
    rw [plantContainer, OrderedMap.get?_insert] at hget
    split at hget
    · -- the new container takes the path, and the edit on record is offered to its template
      rename_i hpath
      change path = joinPath above t.id at hpath
      obtain rfl := Option.some.inj hget
      obtain ⟨q, hq, haccept⟩ := hstored _ (hnodes _ _ (.template (.here hpath.symm)))
      refine ⟨{ q with value := stored }, ?_, rfl⟩
      have hrecorded := hholds.recorded
      rw [hpath] at hrecorded
      rw [originOf, get?_withEdits, hq, hrecorded, Option.map_some, Parameter.revised, Parameter.set,
        haccept]
    · exact hholds.registered entry hget

/-- Building a template again keeps the value of an edit, whichever template it is. -/
theorem Holds.regenerate (hstored : StoredBy stands path name stored) {s : Scene G M}
    {f : SceneForest} (h : s.Holds path name stored) (hf : s.Registers f) (hdraws : s.Draws stands)
    (k : String) : (s.regenerate k).2.Holds path name stored := by
  cases hentry : s.templates.get? k with
  | none =>
    rw [regenerate_of_get?_none hentry]
    exact h
  | some entry =>
    obtain ⟨gap, a, below, grown, violations, ev₁, ev₂, -, -, hgrows⟩ := hf.grows_regenerate hentry
    refine Holds.grows hstored hgrows ⟨h.recorded, fun other hget => ?_⟩ fun u k' hleads =>
      (hdraws k entry hentry).nested u k' (BuildNode.leads_of_expandAll _ _ _ _ _ hleads)
    exact h.registered other (get?_templates_of_reopened hget)

/-- Building templates again one after another keeps the value of an edit. -/
theorem Holds.run_regenerate (hstored : StoredBy stands path name stored) {s : Scene G M}
    {f : SceneForest} (h : s.Holds path name stored) (hf : s.Registers f) (hdraws : s.Draws stands)
    (paths : List String) : (s.run (paths.map SceneEdit.regenerate)).Holds path name stored := by
  induction paths generalizing s f with
  | nil => exact h
  | cons k rest ih =>
    obtain ⟨f', hf'⟩ := hf.apply_turns (.regenerate k)
    exact ih (h.regenerate hstored hf hdraws k) (hf.turns hf') (hdraws.regenerate hf k)

/-! ### A template inside a template -/

/-- A template without nodes is registered when it is built, with the edits on record, and nothing else
is. -/
theorem Grows.templates_of_empty {s s' : Scene G M} {parent : Nat} {above : String} {t : Template}
    {ctx : Context} {f : SceneForest} (h : Grows s parent above [.template t ctx] f s')
    (ht : t.nodes = []) :
    ∃ slot, s'.templates = s.templates.insert (joinPath above t.id)
      ⟨slot, withEdits (s.editsAt (joinPath above t.id)) t, ctx⟩ := by
  cases h with
  | @template _ _ _ _ _ _ _ _ _ nodes _ _ ev₂ _ _ _ _ _ hexpand hbelow hrest =>
    have hnodes := (s.originOf above t ctx).1.expand_of_empty ht s.settings.repeatCap ctx ev₂
    rw [hexpand] at hnodes
    obtain rfl : nodes = [] := hnodes
    cases hbelow
    cases hrest
    exact ⟨_, rfl⟩

/-- A template that holds nothing but a template without nodes is registered, and so is the other. -/
theorem Grows.templates_of_nested {s s' : Scene G M} {parent : Nat} {above : String} {t : Template}
    {u : TemplateHeader} {ctx : Context} {f : SceneForest}
    (h : Grows s parent above [.template t ctx] f s') (ht : t.nodes = [.template u []]) :
    ∃ slot slot' ctx', s'.templates =
      (s.templates.insert (joinPath above t.id)
        ⟨slot, withEdits (s.editsAt (joinPath above t.id)) t, ctx⟩).insert
          (joinPath (joinPath above t.id) u.id)
          ⟨slot', withEdits (s.editsAt (joinPath (joinPath above t.id) u.id)) ⟨u, []⟩, ctx'⟩ := by
  cases h with
  | @template _ _ _ _ _ _ _ _ _ nodes _ _ ev₂ _ _ _ _ _ hexpand hbelow hrest =>
    obtain ⟨ctx', hnodes⟩ := (s.originOf above t ctx).1.expand_of_nested ht s.settings.repeatCap ctx
      ev₂
    rw [hexpand] at hnodes
    obtain rfl : nodes = [.template ⟨u, []⟩ ctx'] := hnodes
    cases hrest
    obtain ⟨slot', htemplates⟩ := hbelow.templates_of_empty rfl
    exact ⟨_, slot', ctx', htemplates⟩

/-- The templates in the scene of a document with one template, which holds nothing but a template
without nodes. -/
theorem templates_buildWith_of_nested (geometry : G) (materials : M) (evaluator : Evaluator)
    (settings : Settings) {d : SceneDocument} {t : Template} {u : TemplateHeader}
    (hd : d.templates = [t]) (ht : t.nodes = [.template u []]) :
    ∃ slot slot' ctx, (buildWith geometry materials evaluator settings d).templates =
      (OrderedMap.insert ∅ t.id ⟨slot, t, ∅⟩).insert (joinPath t.id u.id)
        ⟨slot', ⟨u, []⟩, ctx⟩ := by
  obtain ⟨f, hf⟩ := grows_populate d.templates
    (initial geometry materials (evaluator.setMemoize settings.memoize) settings d.materials)
  rw [hd] at hf
  obtain ⟨slot, slot', ctx, htemplates⟩ := hf.templates_of_nested ht
  have hroot : joinPath "" t.id = t.id := if_pos rfl
  rw [hroot] at htemplates
  rw [buildWith, StateT.run, hd]
  exact ⟨slot, slot', ctx, htemplates⟩

/-- A template that nothing stands below is built again without touching any other. -/
theorem get?_regenerate_of_empty {s : Scene G M} {f : SceneForest} (h : s.Registers f)
    {path : String} {entry : TemplateEntry} (hentry : s.templates.get? path = some entry)
    (hnodes : entry.template.nodes = []) {o : SceneObject}
    (ho : s.graph.get? entry.container = some o) (hchildren : o.children = #[]) :
    (∀ k, (s.regenerate path).2.templates.get? k = s.templates.get? k) ∧
      (s.regenerate path).2.edits = s.edits := by
  obtain ⟨gap, a, below, grown, violations, ev₁, ev₂, rfl, hslot, hgrows⟩ :=
    h.grows_regenerate hentry
  obtain rfl : below = .nil := by
    obtain ⟨q, hget, -⟩ := h.shows.get?_fill
    rw [← hslot, ho, Option.some.injEq] at hget
    rw [hget] at hchildren
    cases below with
    | nil => rfl
    | cons b under beside =>
      exact absurd hchildren (by simp [Site.object, Forest.rootSlots, Forest.roots])
  rw [entry.template.expand_of_empty hnodes] at hgrows
  generalize (s.regenerate path).2 = s' at hgrows
  cases hgrows
  refine ⟨fun k => ?_, rfl⟩
  rw [reopened, pruned, OrderedMap.get?_filter]
  cases s.templates.get? k <;> rfl

/-- A template that holds nothing but a template without nodes is built again. A parameter of the inner
one has what it makes of the edit on record. -/
theorem parameter?_regenerate_of_nested {s : Scene G M} {f : SceneForest} (h : s.Registers f)
    {path name : String} {entry : TemplateEntry} (hentry : s.templates.get? path = some entry)
    {u : TemplateHeader} (hnodes : entry.template.nodes = [.template u []])
    {p : ParameterDefinition} (hp : u.parameters.get? name = some (.defined p))
    {stored again : Value} (hrecorded : (s.editsAt (joinPath path u.id)).get? name = some stored)
    (hagain : p.accept stored = .ok again) :
    (s.regenerate path).2.parameter? (joinPath path u.id) name = some again := by
  obtain ⟨gap, a, below, grown, violations, ev₁, ev₂, -, -, hgrows⟩ := h.grows_regenerate hentry
  obtain ⟨ctx, hone⟩ := entry.template.expand_of_nested hnodes s.settings.repeatCap
    entry.surroundings ev₁
  rw [hone] at hgrows
  obtain ⟨slot', htemplates⟩ := hgrows.templates_of_empty rfl
  have hoffered : (withEdits (s.editsAt (joinPath path u.id)) ⟨u, []⟩).parameters.get? name =
      some (.defined { p with value := again }) := by
    rw [get?_withEdits, hp, hrecorded, Option.map_some, Parameter.revised, Parameter.set, hagain]
  have hget : (s.regenerate path).2.templates.get? (joinPath path u.id) =
      some ⟨slot', withEdits (s.editsAt (joinPath path u.id)) ⟨u, []⟩, ctx⟩ := by
    rw [htemplates]
    exact OrderedMap.get?_insert_self ..
  rw [parameter?, hget]
  exact congrArg (·.bind Parameter.literal?) hoffered

end Steps

/-! ### A shelf with hooks -/

/-- A whole number of hooks, with a lower bound. -/
def hookCount (least : Float) : ParameterDefinition :=
  ⟨.number 2.0, .integer, some least, none, none, [], none, none, none⟩

theorem accept_hookCount (least : Float) {n : Float} (hn : n.isFinite = true) :
    (hookCount least).accept (.number n) =
      .ok (.number (Double.larger (Double.roundHalfAway n) least)) :=
  if_pos hn

theorem boundsFit_hookCount {least : Float} (hleast : Double.isWhole least = true) :
    (hookCount least).BoundsFit := by
  rintro bound (hmin | hmax)
  · obtain rfl := Option.some.inj hmin
    exact hleast
  · cases hmax

/-- Some hooks. -/
def hooks (least : Float) : TemplateHeader :=
  ⟨"hook", none, ⟨none, none, none⟩, OrderedMap.insert ∅ "count" (.defined (hookCount least)), ∅, ∅⟩

/-- A shelf with some hooks. -/
def shelf (least : Float) : Template :=
  ⟨⟨"shelf", none, ⟨none, none, none⟩, ∅, ∅, ∅⟩, [.template (hooks least) []]⟩

/-- The document of a shelf. -/
def shelfDocument (least : Float) : SceneDocument :=
  ⟨Settings.currentVersion, none, none, [shelf least], ∅, none⟩

/-- Only the hooks can stand where the hooks do. -/
theorem eq_hooks_of_canStandAt {least : Float} {t : TemplateHeader}
    (ht : (shelfDocument least).CanStandAt t "shelf.hook") : t = hooks least := by
  have hpath : joinPath "" (shelf least).id ≠ "shelf.hook" := by
    rw [show (shelf least).id = "shelf" from rfl]
    decide
  cases ht with
  | here h => exact absurd h hpath
  | inside h =>
    cases h with
    | here _ => rfl
    | inside h => cases h
    | next h => cases h
  | next h => cases h

theorem definesAlike_shelf (least : Float) :
    (shelfDocument least).DefinesAlike "shelf.hook" "count" :=
  SceneDocument.definesAlike_of_unique (fun _ _ ht hu =>
    (eq_hooks_of_canStandAt ht).trans (eq_hooks_of_canStandAt hu).symm) "count"

/-- The templates of a shelf and its hooks. -/
theorem templates_build_shelf (least : Float) :
    ∃ slot slot' ctx,
      (build default (shelfDocument least)).templates.get? "shelf" = some ⟨slot, shelf least, ∅⟩ ∧
        (build default (shelfDocument least)).templates.get? "shelf.hook" =
          some ⟨slot', ⟨hooks least, []⟩, ctx⟩ := by
  obtain ⟨slot, slot', ctx, htemplates⟩ := templates_buildWith_of_nested MeshFactory.empty
    MaterialLibrary.empty (default : Settings).evaluator default (d := shelfDocument least) rfl rfl
  rw [build, htemplates]
  refine ⟨slot, slot', ctx, ?_, OrderedMap.get?_insert_self ..⟩
  have hne : "shelf" ≠ "shelf.hook" := by decide
  exact (OrderedMap.get?_insert_of_ne _ _ hne).trans (OrderedMap.get?_insert_self ..)

/-- The number of hooks is edited, and then the shelf is built again. The value that was stored is
offered again. -/
theorem parameter?_shelf {least : Float} {v stored again : Value}
    (hchildless : ((build default (shelfDocument least)).templates.get? "shelf.hook").bind (fun e =>
      ((build default (shelfDocument least)).graph.get? e.container).map fun o => o.children.size) =
        some 0)
    (hstored : (hookCount least).accept v = .ok stored)
    (hagain : (hookCount least).accept stored = .ok again) :
    ∃ violations s,
      (build default (shelfDocument least)).setParameter "shelf.hook" "count" v =
        (.ok violations, s) ∧
      s.parameter? "shelf.hook" "count" = some stored ∧
      (s.regenerate "shelf").2.parameter? "shelf.hook" "count" = some again := by
  obtain ⟨slot, slot', ctx, hshelf, hhook⟩ := templates_build_shelf least
  obtain ⟨f, hf⟩ : ∃ f, (build default (shelfDocument least)).Registers f := registers_buildWith ..
  generalize build default (shelfDocument least) = s at *
  have hset : Parameter.set (.defined (hookCount least)) v =
      .ok (.defined { hookCount least with value := stored }, stored) := by
    rw [Parameter.set, hstored]
  have hcount : (hooks least).parameters.get? "count" = some (.defined (hookCount least)) :=
    OrderedMap.get?_insert_self ..
  refine ⟨_, _, setParameter_of_set hhook hcount hset, ?_⟩
  obtain ⟨o, ho, hchildren⟩ : ∃ o, s.graph.get? slot' = some o ∧ o.children.size = 0 := by
    rw [hhook] at hchildless
    exact Option.map_eq_some_iff.mp hchildless
  obtain ⟨gap, a, below, rfl, ha, -⟩ := hf.exists_fill hhook
  have hwritten : (s.recordEdit "shelf.hook" "count" ⟨slot', ⟨hooks least, []⟩, ctx⟩
      (.defined { hookCount least with value := stored }) stored).Registers _ :=
    hf.recordEdit hhook ha _ _
  obtain ⟨htemplates, hedits⟩ := get?_regenerate_of_empty hwritten
    (OrderedMap.get?_insert_self ..) rfl ho (Array.eq_empty_of_size_eq_zero hchildren)
  obtain ⟨f', hsteps⟩ := hwritten.apply_turns (.regenerate "shelf.hook")
  have hne : "shelf" ≠ "shelf.hook" := by decide
  refine ⟨?_, ?_⟩
  · rw [parameter?, htemplates, Scene.recordEdit, OrderedMap.get?_insert_self]
    simp [Parameter.literal?]
  · refine parameter?_regenerate_of_nested (hwritten.turns hsteps)
      (((htemplates "shelf").trans (OrderedMap.get?_insert_of_ne _ _ hne)).trans hshelf) rfl hcount
        ?_ hagain
    change ((regenerate "shelf.hook" _).2.editsAt "shelf.hook").get? "count" = some stored
    rw [editsAt, hedits, Scene.recordEdit, OrderedMap.get?_insert_self, Option.getD_some,
      OrderedMap.get?_insert_self]

/-! ### The contract -/

variable [GeometryFactory G] [MaterialCache M]

/-- An edit that is accepted leaves a value that stays, and a template at the path. -/
theorem Holds.setParameter {s : Scene G M} {f : SceneForest} (hf : s.Registers f)
    (hdraws : s.Draws stands) {entry : TemplateEntry} (hentry : s.templates.get? path = some entry)
    {p : ParameterDefinition} (hp : entry.template.parameters.get? name = some (.defined p))
    {v : Value} (haccept : p.accept v = .ok stored) (hstored : StoredBy stands path name stored) :
    (s.setParameter path name v).2.Holds path name stored := by
  have hset : Parameter.set (.defined p) v = .ok (.defined { p with value := stored }, stored) := by
    rw [Parameter.set, haccept]
  obtain ⟨gap, a, below, rfl, ha, -⟩ := hf.exists_fill hentry
  rw [setParameter_of_set hentry hp hset]
  exact (holds_recordEdit rfl).regenerate hstored (hf.recordEdit hentry ha _ _)
    (hdraws.recordEdit hentry hp hset) path

/-- **An edit survives rebuilding.** A defined parameter whose bounds are numbers of its kind, where
the templates that can stand at its path take the same values: if an edit of it is accepted in some
scene that edits lead to, it has a value right after, and it has this value after building again any
templates in any order, as long as there is a template at its path. -/
theorem parameter?_run_regenerate (geometry : G) (materials : M) (evaluator : Evaluator)
    (settings : Settings) (d : SceneDocument) (es : List SceneEdit) (path name : String)
    (entry : TemplateEntry) (p : ParameterDefinition) (v : Value) (violations : List Violation)
    (s : Scene G M) (hs : s = (buildWith geometry materials evaluator settings d).run es)
    (hentry : s.templates.get? path = some entry)
    (hp : entry.template.parameters.get? name = some (.defined p))
    (hbounds : p.BoundsFit) (halike : d.DefinesAlike path name)
    (hset : (s.setParameter path name v).1 = .ok violations) :
    ∃ stored, (s.setParameter path name v).2.parameter? path name = some stored ∧
      ∀ paths : List String,
        ((s.setParameter path name v).2.run (paths.map .regenerate)).templates.contains path = true →
          ((s.setParameter path name v).2.run (paths.map .regenerate)).parameter? path name =
            some stored := by
  obtain ⟨f₀, hf₀⟩ := registers_buildWith geometry materials evaluator settings d
  obtain ⟨f, hsteps⟩ := hf₀.run_turns es
  have hf := hf₀.turns hsteps
  have hdraws := (draws_buildWith geometry materials evaluator settings d).run hf₀ es
  rw [← hs] at hf hdraws
  obtain ⟨stored, haccept⟩ : ∃ stored, p.accept v = .ok stored := by
    cases haccept : p.accept v with
    | ok stored => exact ⟨stored, rfl⟩
    | error cause =>
      rw [setParameter, hentry] at hset
      simp [hp, Parameter.set, haccept] at hset
  have hstored : StoredBy d.CanStandAt path name stored := fun t ht => by
    obtain ⟨-, u, hu, hsource⟩ := hdraws path entry hentry
    obtain ⟨r, value, hr, rfl⟩ := hsource name p hp
    obtain ⟨q, hq, hsame⟩ := halike u t hu ht r hr
    exact ⟨q, hq, (hsame stored).trans (ParameterDefinition.accept_stored hbounds haccept)⟩
  have hholds := Holds.setParameter hf hdraws hentry hp haccept hstored
  obtain ⟨f', hsteps'⟩ := hf.apply_turns (.setParameter path name v)
  have hdraws' := hdraws.apply hf (.setParameter path name v)
  have hregistered := contains_apply hf (.setParameter path name v)
    (by rw [SceneEdit.path, OrderedMap.contains, hentry]; rfl)
  exact ⟨stored, hholds.parameter?_eq hregistered, fun paths hpath =>
    (hholds.run_regenerate hstored (hf.turns hsteps') hdraws' paths).parameter?_eq hpath⟩

/-- There has to be one hook at least, and there are to be three. -/
theorem parameter?_run_regenerate_shelf :
    ∃ violations s,
      (build default (shelfDocument 1.0)).setParameter "shelf.hook" "count" (.number 3) =
        (.ok violations, s) ∧
      s.parameter? "shelf.hook" "count" = some (.number 3) ∧
      (s.run [.regenerate "shelf"]).parameter? "shelf.hook" "count" = some (.number 3) := by
  have haccept : (hookCount 1.0).accept (.number 3) = .ok (.number 3) :=
    (accept_hookCount 1.0 (by decide +kernel)).trans (by
      rw [show Double.larger (Double.roundHalfAway 3) 1.0 = 3 by decide +kernel])
  obtain ⟨violations, s, hset, hnow, hlater⟩ :=
    parameter?_shelf (by decide +kernel) haccept haccept
  obtain ⟨slot, slot', ctx, -, hhook⟩ := templates_build_shelf 1.0
  obtain ⟨stored, hstored, hkept⟩ := parameter?_run_regenerate MeshFactory.empty
    MaterialLibrary.empty (default : Settings).evaluator default (shelfDocument 1.0) [] "shelf.hook"
    "count" _ (hookCount 1.0) (.number 3) violations _ (by rw [run, List.foldl_nil, build]) hhook
    (OrderedMap.get?_insert_self ..) (boundsFit_hookCount (by decide +kernel))
    (definesAlike_shelf 1.0) (congrArg Prod.fst hset)
  rw [hset] at hstored hkept
  obtain rfl : stored = .number 3 := Option.some.inj (hstored.symm.trans hnow)
  exact ⟨violations, s, hset, hnow, hkept ["shelf"] (contains_of_parameter?_eq_some hlater)⟩

/-- There has to be half a hook at least. No hooks become half a hook, and then one. -/
theorem parameter?_regenerate_ne_shelf :
    ∃ violations s,
      (build default (shelfDocument 0.5)).setParameter "shelf.hook" "count" (.number 0) =
        (.ok violations, s) ∧
      s.parameter? "shelf.hook" "count" = some (.number 0.5) ∧
      (s.regenerate "shelf").2.parameter? "shelf.hook" "count" = some (.number 1.0) ∧
      (0.5 : Float) ≠ 1.0 := by
  have hfirst : (hookCount 0.5).accept (.number 0) = .ok (.number 0.5) :=
    (accept_hookCount 0.5 (by decide +kernel)).trans (by
      rw [show Double.larger (Double.roundHalfAway 0) 0.5 = 0.5 by decide +kernel])
  have hsecond : (hookCount 0.5).accept (.number 0.5) = .ok (.number 1.0) :=
    (accept_hookCount 0.5 (by decide +kernel)).trans (by
      rw [show Double.larger (Double.roundHalfAway 0.5) 0.5 = 1.0 by decide +kernel])
  obtain ⟨violations, s, hset, hnow, hlater⟩ :=
    parameter?_shelf (by decide +kernel) hfirst hsecond
  exact ⟨violations, s, hset, hnow, hlater, by decide +kernel⟩

end Scene

end ParametricScene
