import ParametricScene.Proofs.Canonical
import ParametricScene.Proofs.Forgetting
import ParametricScene.Proofs.Surroundings

/-!
# What a formula does not mention does not matter

A formula reads its context by name, and which names these are can be told from the formula before
it is evaluated. Two contexts that agree on them lead to the same answer, whether that is a value or
an error, and to the same evaluator afterwards. So neither other bindings nor the order of bindings
can be seen from inside a formula. Nothing is asked of the functions here: called in the same order
with the same arguments, even one that counts its calls gives the same answers.

Expressions of a template are evaluated one after another, and each is bound for those that follow.
Two that stand next to each other and do not mention each other's names may trade places. Each of
them has the value it had, though it may shadow a parameter, a binding of the surroundings or both,
and all that comes later finds the same values. Only the order of arrival may be another one. Here
functions may not count their calls, since the two orders call them in different orders, and the
memory for results is off, so that names need not be clean.

## Main definitions

* `Source.Mentions` — the names that a source reads from its context

## Main results

* `Evaluator.compute_congr_of_mentions` — answers depend on the names that are mentioned
* `Context.get?_layer_congr`, `Context.get?_layer_swap` — entries written to contexts that agree
* `Evaluator.templateContext_swap` — independent expressions commute
-/

namespace ParametricScene

/-! ### Answers -/

namespace Evaluator

variable {text : String} {ctx ctx' : Context}

/-- Two actions that begin alike are equal on an evaluator if they go on alike from there. -/
theorem bind_congr_at {α β : Type} {x : StateM Evaluator α} {f f' : α → StateM Evaluator β}
    {ev : Evaluator} (h : f (x ev).1 = f' (x ev).1) : (x >>= f) ev = (x >>= f') ev :=
  congrFun h (x ev).2

/-- Contexts that agree on what is mentioned are one and the same to the evaluator. -/
theorem ReadsTruly.compute_eq_of_mentions {ev : Evaluator} (hev : ev.ReadsTruly)
    (h : ∀ f, Formula.compile text = .ok f →
      ∀ name, f.Mentions name → ctx.get? name = ctx'.get? name) :
    Evaluator.compute text ctx ev = Evaluator.compute text ctx' ev := by
  obtain ⟨parsed, hcompile, -⟩ := hev.compile text
  rw [Evaluator.compute, Evaluator.compute]
  refine bind_congr_at ?_
  rw [hcompile]
  cases hf : Formula.compile text with
  | error e => rfl
  | ok f =>
    show run f ctx = run f ctx'
    funext inner
    rw [run, run, f.evaluate_congr_of_mentions (h f hf)]

/-- **Answers depend on the names that are mentioned.** The two contexts may be given to two
evaluators that have the same functions and have read anything before, or to the same one, and then
even the evaluators that are left behind are equal. -/
theorem compute_congr_of_mentions {ev ev' : Evaluator} (hev : ev.ReadsTruly)
    (hev' : ev'.ReadsTruly) (hfunctions : ev'.functions = ev.functions) (text : String)
    {ctx ctx' : Context}
    (h : ∀ f, Formula.compile text = .ok f →
      ∀ name, f.Mentions name → ctx.get? name = ctx'.get? name) :
    (compute text ctx ev).1 = (compute text ctx' ev').1 ∧
      compute text ctx ev = compute text ctx' ev := by
  refine ⟨?_, hev.compute_eq_of_mentions h⟩
  obtain ⟨_, hleft, -⟩ := hev.compute text ctx
  obtain ⟨_, hright, -⟩ := hev'.compute text ctx'
  rw [hleft, hright, hfunctions]
  exact answerOf_congr h

/-- A corner of the wall: something else is bound first, and the width as before. -/
def corner : Context :=
  (OrderedMap.insert ∅ "height" (.number 2.5)).insert "width" (.number 4.0)

/-- The width is what it was, on a new evaluator and on one that has been used, though the corner
has a height. -/
theorem compute_congr_of_mentions_width :
    Evaluator.new.ReadsTruly ∧ (compute "1 +" ∅ Evaluator.new).2.ReadsTruly ∧
      (compute "1 +" ∅ Evaluator.new).2.functions = Evaluator.new.functions ∧
      (∀ f, Formula.compile "$width" = .ok f →
        ∀ name, f.Mentions name → wall.get? name = corner.get? name) ∧
      wall.get? "height" ≠ corner.get? "height" ∧
      (compute "$width" wall Evaluator.new).1 =
        (compute "$width" corner (compute "1 +" ∅ Evaluator.new).2).1 := by
  have hnew : Evaluator.new.Truthful Registry.builtin := truthful_ofRegistry _
  have hused := (hnew.compute Registry.isPure_builtin "1 +" ∅).2
  have hfunctions : (compute "1 +" ∅ Evaluator.new).2.functions = Evaluator.new.functions :=
    hused.functions
  have hagree : ∀ f, Formula.compile "$width" = .ok f →
      ∀ name, f.Mentions name → wall.get? name = corner.get? name := by
    intro f hf name hname
    rw [compile_width] at hf
    obtain rfl := Except.ok.inj hf
    obtain rfl : "width" = name := hname
    rfl
  exact ⟨hnew.parsed, hused.parsed, hfunctions, hagree, nofun,
    (compute_congr_of_mentions hnew.parsed hused.parsed hfunctions "$width" hagree).1⟩

end Evaluator

/-! ### Entries -/

/-- The source is a formula that reads the name from its context. -/
def Source.Mentions (name : String) : Source → Prop
  | .formula text => ∃ f, Formula.compile text = .ok f ∧ f.Mentions name
  | .number _ | .boolean _ => False

section Entries

variable {r : Registry} {ctx ctx' : Context}

/-- A source has the same value in contexts that agree on what it mentions. -/
theorem Source.valueIn_congr {source : Source}
    (h : ∀ name, source.Mentions name → ctx.get? name = ctx'.get? name) :
    source.valueIn r ctx = source.valueIn r ctx' := by
  cases source with
  | number n => rfl
  | boolean b => rfl
  | formula text =>
    have hanswer : Evaluator.answerOf r text ctx = Evaluator.answerOf r text ctx' :=
      Evaluator.answerOf_congr fun f hf name hname => h name ⟨f, hf, hname⟩
    rw [valueIn, valueIn, hanswer]

/-- A source that does not mention a name does not see what is bound to it. -/
theorem Source.valueIn_insert {source : Source} {name : String} (h : ¬source.Mentions name)
    (v : Value) : source.valueIn r (OrderedMap.insert ctx name v) = source.valueIn r ctx :=
  valueIn_congr fun _ hn =>
    OrderedMap.get?_insert_of_ne ctx v fun hname => h (hname ▸ hn)

namespace Context

theorem layer_append {α : Type} (value : Context → α → Value) (es es' : List (String × α))
    (ctx : Context) : layer value (es ++ es') ctx = layer value es' (layer value es ctx) := by
  induction es generalizing ctx with
  | nil => rfl
  | cons e rest ih => exact ih _

/-- Contexts that agree go on agreeing when the same sources are written to them. -/
theorem get?_layer_congr (h : ∀ name, ctx.get? name = ctx'.get? name)
    (es : List (String × Source)) (name : String) :
    (layer (Source.valueIn r) es ctx).get? name = (layer (Source.valueIn r) es ctx').get? name := by
  induction es generalizing ctx ctx' with
  | nil => exact h name
  | cons e rest ih =>
    refine ih fun n => ?_
    rw [OrderedMap.get?_insert, OrderedMap.get?_insert, h n, Source.valueIn_congr fun n' _ => h n']

/-- Two sources that do not mention each other's names may trade places. -/
theorem get?_layer_swap {a b : String × Source} (hne : a.1 ≠ b.1) (hab : ¬a.2.Mentions b.1)
    (hba : ¬b.2.Mentions a.1) (before after : List (String × Source)) (ctx : Context)
    (name : String) :
    (layer (Source.valueIn r) (before ++ a :: b :: after) ctx).get? name =
      (layer (Source.valueIn r) (before ++ b :: a :: after) ctx).get? name := by
  rw [layer_append, layer_append]
  refine get?_layer_congr (fun n => ?_) after name
  -- each of the two has the value it has without the other, and different names do not interfere
  rw [Source.valueIn_insert hab, Source.valueIn_insert hba, OrderedMap.get?_insert,
    OrderedMap.get?_insert, OrderedMap.get?_insert, OrderedMap.get?_insert]
  by_cases ha : n = a.1
  · rw [if_pos ha, if_pos ha, if_neg (ha ▸ hne)]
  · rw [if_neg ha, if_neg ha]

end Context

end Entries

/-! ### Expressions -/

/-- Entries that stand next to each other in a map have different names. -/
theorem OrderedMap.ne_of_entries_eq {α : Type} {m : OrderedMap α}
    {before after : List (String × α)} {a b : String × α}
    (h : m.entries = before ++ a :: b :: after) : a.1 ≠ b.1 := by
  have hnodup := m.nodup
  rw [h, List.map_append, List.nodup_append] at hnodup
  intro hname
  exact (List.nodup_cons.mp hnodup.2.1).1 (hname ▸ List.mem_cons_self ..)

namespace Evaluator

/-- **Independent expressions commute.** Two that are next to each other and do not mention each
other's names may be written in either order: the context of the template binds the same names to
the same values, and at most the order of its bindings is another one. -/
theorem templateContext_swap {r : Registry} (hr : r.IsPure) {ev ev' : Evaluator}
    (hev : ev.Forgets r) (hev' : ev'.Forgets r) (t : TemplateHeader)
    (expressions : OrderedMap Source) (surroundings : Context)
    (before after : List (String × Source)) (a b : String × Source)
    (ht : t.expressions.entries = before ++ a :: b :: after)
    (hswapped : expressions.entries = before ++ b :: a :: after) (hab : ¬a.2.Mentions b.1)
    (hba : ¬b.2.Mentions a.1) :
    (∀ name, (templateContext t surroundings ev).1.get? name =
        (templateContext { t with expressions := expressions } surroundings ev').1.get? name) ∧
      (templateContext t surroundings ev).1.entries.Perm
        (templateContext { t with expressions := expressions } surroundings ev').1.entries := by
  have hget : ∀ name, (templateContext t surroundings ev).1.get? name =
      (templateContext { t with expressions := expressions } surroundings ev').1.get? name := by
    intro name
    rw [(finds_templateContext hr surroundings t ev hev).1,
      (finds_templateContext hr surroundings _ ev' hev').1, ht, hswapped]
    exact Context.get?_layer_swap (OrderedMap.ne_of_entries_eq ht) hab hba before after _ name
  exact ⟨hget, Context.perm_entries hget⟩

/-- Expressions of a window: its depth, two that take its width, and a new width. -/
def sillFirst : OrderedMap Source :=
  (((OrderedMap.insert ∅ "depth" (.number 0.2)).insert "sill" (.formula "$width")).insert "head"
    (.formula "$width")).insert "width" (.number 1.0)

/-- The same with the two in the middle the other way round. -/
def headFirst : OrderedMap Source :=
  (((OrderedMap.insert ∅ "depth" (.number 0.2)).insert "head" (.formula "$width")).insert "sill"
    (.formula "$width")).insert "width" (.number 1.0)

/-- A window with a width of its own that gets another one at the end. -/
def window : TemplateHeader := ⟨"window", none, ⟨none, none, none⟩, framed, sillFirst, ∅⟩

theorem mentions_width_iff (name : String) :
    (Source.formula "$width").Mentions name ↔ "width" = name := by
  rw [Source.Mentions, compile_width]
  refine ⟨?_, fun h => ⟨_, rfl, h⟩⟩
  rintro ⟨f, hf, hname⟩
  obtain rfl := Except.ok.inj hf
  exact hname

/-- The sill and the head of a window are found in either order, before the width changes. -/
theorem templateContext_swap_window :
    Registry.builtin.IsPure ∧ (Evaluator.new.setMemoize false).Forgets Registry.builtin ∧
      window.expressions.entries = [("depth", .number 0.2)] ++
        ("sill", .formula "$width") :: ("head", .formula "$width") :: [("width", .number 1.0)] ∧
      headFirst.entries = [("depth", .number 0.2)] ++
        ("head", .formula "$width") :: ("sill", .formula "$width") :: [("width", .number 1.0)] ∧
      ¬(Source.formula "$width").Mentions "head" ∧ ¬(Source.formula "$width").Mentions "sill" ∧
      ∀ name, (templateContext window wall (Evaluator.new.setMemoize false)).1.get? name =
        (templateContext { window with expressions := headFirst } wall
          (Evaluator.new.setMemoize false)).1.get? name := by
  have hforgets : (Evaluator.new.setMemoize false).Forgets Registry.builtin :=
    (truthful_ofRegistry _).forgets
  have hhead : ¬(Source.formula "$width").Mentions "head" := by
    rw [mentions_width_iff]
    decide
  have hsill : ¬(Source.formula "$width").Mentions "sill" := by
    rw [mentions_width_iff]
    decide
  exact ⟨Registry.isPure_builtin, hforgets, rfl, rfl, hhead, hsill,
    (templateContext_swap Registry.isPure_builtin hforgets hforgets window headFirst wall
      [("depth", .number 0.2)] [("width", .number 1.0)] ("sill", .formula "$width")
      ("head", .formula "$width") rfl rfl hhead hsill).1⟩

end Evaluator

end ParametricScene
