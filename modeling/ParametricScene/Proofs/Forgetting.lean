import ParametricScene.Proofs.Transparency

/-!
# Evaluators that keep no results

With the memory for results turned off, an evaluator works every formula out again. It still
remembers how formulas read, and that never shows. So everything that is asked of it has one value,
which the functions and the context alone determine, and this file says what that value is: for
sources, for coordinates, and for contexts that are written entry by entry.

This is the same contract as `Evaluator.Steady` gives with the memory turned on, but under weaker
conditions. Results are not looked up by fingerprint, so it does not matter whether two contexts
have the same one, and names need not be clean.

## Main definitions

* `Evaluator.Forgets` — the memory for results is off
* `Evaluator.Finds`, `Evaluator.Settles` — the value of an action, and that there is one
* `Source.valueIn`, `Source.numberIn`, `Parameter.valueIn` — what stands for what in a context
* `Context.layer` — a context with entries written to it, each seeing those before it

## Main results

* `Evaluator.Forgets.tryEvaluate` — one answer
* `Evaluator.finds_bindSources`, `Evaluator.finds_templateContext` — contexts
-/

namespace ParametricScene

/-! ### Actions with one value -/

namespace Evaluator

variable {r : Registry}

/-- The evaluator has the given functions, reads formulas as they are spelled, and keeps no
results. -/
structure Forgets (r : Registry) (ev : Evaluator) : Prop where
  functions : ev.functions = r
  reads : ev.ReadsTruly
  memoize : ev.memoize = false

/-- Any evaluator with a truthful memory forgets once its memory for results is turned off. -/
theorem Truthful.forgets {ev : Evaluator} (h : ev.Truthful r) : (ev.setMemoize false).Forgets r :=
  ⟨h.functions, h.parsed, rfl⟩

/-- The action gives `a` on every evaluator that forgets, which goes on forgetting. -/
def Finds (r : Registry) {α : Type} (a : α) (x : StateM Evaluator α) : Prop :=
  ∀ ev : Evaluator, ev.Forgets r → (x ev).1 = a ∧ (x ev).2.Forgets r

/-- The action gives the same on all evaluators that forget. -/
def Settles (r : Registry) {α : Type} (x : StateM Evaluator α) : Prop := ∃ a, Finds r a x

section Actions

variable {α β : Type}

theorem Finds.pure (a : α) : Finds r a (Pure.pure a) := fun _ hev => ⟨rfl, hev⟩

theorem Finds.bind {x : StateM Evaluator α} {f : α → StateM Evaluator β} {a : α} {b : β}
    (hx : Finds r a x) (hf : Finds r b (f a)) : Finds r b (x >>= f) := by
  intro ev hev
  obtain ⟨hvalue, hforgets⟩ := hx ev hev
  have hstep : (x >>= f) ev = f (x ev).1 (x ev).2 := rfl
  rw [hstep, hvalue]
  exact hf _ hforgets

theorem Finds.settles {x : StateM Evaluator α} {a : α} (h : Finds r a x) : Settles r x := ⟨a, h⟩

/-- What an action that settles gives on one evaluator, it gives on all. -/
theorem Settles.finds {x : StateM Evaluator α} (h : Settles r x) {ev : Evaluator}
    (hev : ev.Forgets r) : Finds r (x ev).1 x := by
  obtain ⟨a, ha⟩ := h
  rw [(ha ev hev).1]
  exact ha

theorem Settles.pure (a : α) : Settles r (Pure.pure a : StateM Evaluator α) :=
  (Finds.pure a).settles

theorem Settles.bind {x : StateM Evaluator α} {f : α → StateM Evaluator β} (hx : Settles r x)
    (hf : ∀ a, Settles r (f a)) : Settles r (x >>= f) := by
  obtain ⟨a, ha⟩ := hx
  obtain ⟨b, hb⟩ := hf a
  exact (ha.bind hb).settles

theorem Finds.mapM {f : α → StateM Evaluator β} {g : α → β} (h : ∀ a, Finds r (g a) (f a))
    (l : List α) : Finds r (l.map g) (l.mapM f) := by
  induction l with
  | nil => exact .pure []
  | cons a rest ih =>
    rw [List.mapM_cons]
    exact (h a).bind (ih.bind (.pure _))

end Actions

end Evaluator

open Evaluator

/-! ### Values -/

/-- What a source stands for in a context; a formula that fails stands for zero. -/
def Source.valueIn (r : Registry) (ctx : Context) : Source → Value
  | .number n => .number n
  | .boolean b => .boolean b
  | .formula text =>
    match answerOf r text ctx with
    | .ok v => v
    | .error _ => .zero

/-- The finite numeric view of what a source stands for. -/
def Source.numberIn (r : Registry) (ctx : Context) (source : Source) : Float :=
  (source.valueIn r ctx).toFinite

/-- The number of a source, or the filling if there is none. -/
def Source.coordinateIn (r : Registry) (ctx : Context) (source : Option Source) (fill : Float) :
    Float :=
  source.elim fill (Source.numberIn r ctx)

/-- The first three sources as coordinates; `fill` stands in for missing ones. -/
def Source.vectorIn (r : Registry) (ctx : Context) (components : List Source) (fill : Float) :
    Vec3 Float :=
  ⟨coordinateIn r ctx components[0]? fill, coordinateIn r ctx components[1]? fill,
    coordinateIn r ctx components[2]? fill⟩

/-- The value of a parameter in a context. -/
def Parameter.valueIn (r : Registry) (ctx : Context) : Parameter → Value
  | .defined d => d.value
  | .bare source => source.valueIn r ctx

/-- The context with entries written to it in order; the value of each is taken in the context that
those before it have made. -/
def Context.layer {α : Type} (value : Context → α → Value) : List (String × α) → Context → Context
  | [], ctx => ctx
  | (name, a) :: rest, ctx => layer value rest (OrderedMap.insert ctx name (value ctx a))

namespace Evaluator

variable {r : Registry}

/-- **One answer** is that of the functions, and nothing is kept of it. -/
theorem Forgets.tryEvaluate (hr : r.IsPure) {ev : Evaluator} (h : ev.Forgets r) (text : String)
    (ctx : Context) :
    (Evaluator.tryEvaluate text ctx ev).1 = answerOf r text ctx ∧
      (Evaluator.tryEvaluate text ctx ev).2.Forgets r := by
  obtain ⟨parsed, hcompute, hreads⟩ := h.reads.compute text ctx
  rw [h.functions, functionsAfter_of_isPure hr] at hcompute hreads
  rw [tryEvaluate_of_memoize_eq_false h.memoize, hcompute]
  exact ⟨rfl, rfl, hreads, h.memoize⟩

variable (hr : r.IsPure) (ctx : Context)

include hr

theorem finds_evaluateText (text : String) :
    Finds r ((Source.formula text).valueIn r ctx) (evaluateText text ctx) := by
  intro ev hev
  obtain ⟨hanswer, hforgets⟩ := hev.tryEvaluate hr text ctx
  rw [evaluateText_eq, hanswer]
  exact ⟨rfl, hforgets⟩

theorem finds_evaluate (source : Source) :
    Finds r (source.valueIn r ctx) (evaluate source ctx) := by
  cases source with
  | number n => exact .pure _
  | boolean b => exact .pure _
  | formula text => exact finds_evaluateText hr ctx text

theorem finds_evaluateNumber (source : Source) :
    Finds r (source.numberIn r ctx) (evaluateNumber source ctx) :=
  (finds_evaluate hr ctx source).bind (.pure _)

theorem finds_coordinate (source : Option Source) (fill : Float) :
    Finds r (Source.coordinateIn r ctx source fill) (coordinate source fill ctx) := by
  cases source with
  | none => exact .pure fill
  | some s => exact finds_evaluateNumber hr ctx s

theorem finds_parameterValue (p : Parameter) :
    Finds r (p.valueIn r ctx) (parameterValue p ctx) := by
  cases p with
  | defined d => exact .pure d.value
  | bare source => exact finds_evaluate hr ctx source

/-- Binding sources writes their values one after another. -/
theorem finds_bindSources (sources : List (String × Source)) :
    Finds r (Context.layer (Source.valueIn r) sources ctx) (bindSources sources ctx) := by
  induction sources generalizing ctx with
  | nil => exact .pure ctx
  | cons e rest ih => exact (finds_evaluate hr ctx e.2).bind (ih _)

/-- Binding parameters writes their values one after another. -/
theorem finds_bindParameters (parameters : List (String × Parameter)) :
    Finds r (Context.layer (Parameter.valueIn r) parameters ctx)
      (bindParameters parameters ctx) := by
  induction parameters generalizing ctx with
  | nil => exact .pure ctx
  | cons e rest ih => exact (finds_parameterValue hr ctx e.2).bind (ih _)

/-- **The context of a template** is that of its surroundings with its parameters and then its
expressions written to it. -/
theorem finds_templateContext (t : TemplateHeader) :
    Finds r
      (Context.layer (Source.valueIn r) t.expressions.entries
        (Context.layer (Parameter.valueIn r) t.parameters.entries ctx))
      (templateContext t ctx) :=
  (finds_bindParameters hr ctx t.parameters.entries).bind (finds_bindSources hr _ _)

/-! ### Labels and placements -/

theorem finds_vector (components : List Source) (fill : Float) :
    Finds r (Source.vectorIn r ctx components fill) (vector components fill ctx) :=
  (finds_coordinate hr ctx _ fill).bind <| (finds_coordinate hr ctx _ fill).bind <|
    (finds_coordinate hr ctx _ fill).bind (.pure _)

theorem settles_label (text : Option String) : Settles r (label text ctx) := by
  cases text with
  | none => exact .pure none
  | some s =>
    rw [label]
    split
    · exact (finds_evaluateText hr ctx s).settles.bind fun _ => .pure _
    · exact .pure (some s)

theorem settles_part (components : Option (List Source)) (fill : Float) :
    Settles r (part components fill ctx) := by
  cases components with
  | none => exact .pure none
  | some cs => exact (finds_vector hr ctx cs fill).settles.bind fun _ => .pure _

theorem settles_placement (spec : PlacementSpec) : Settles r (placement spec ctx) :=
  (settles_part hr ctx _ _).bind fun _ => (settles_part hr ctx _ _).bind fun _ =>
    (settles_part hr ctx _ _).bind fun _ => .pure _

end Evaluator

end ParametricScene
