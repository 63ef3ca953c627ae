import ParametricScene.Evaluator
import ParametricScene.Proofs.Fingerprint

/-!
# What an evaluator remembers does not show

An evaluator remembers how formulas read and what they came to, and answers from memory where it can.
With functions that depend on their arguments only, this changes no answer: an action of the evaluator
gives the value that it gives on an evaluator that has done nothing yet, whatever was done before.

The contract is `Evaluator.Steady`. It is stated for evaluators with a truthful memory and says that
the memory stays truthful, so steady actions can be done one after another, and a whole computation
is steady if its steps are.

Memory is kept by fingerprint. So all of this is about contexts that are clean, which have different
fingerprints if they differ.

## Main definitions

* `Evaluator.answerOf` — the answer to a formula text that the functions alone give
* `Evaluator.ReadsTruly` — every formula remembered is the one that its text spells
* `Evaluator.Truthful` — everything remembered is as it would be found again
* `Evaluator.value`, `Evaluator.Steady` — what an action gives, whatever was done before

## Main results

* `Formula.evaluate_congr_of_mentions` — a formula sees nothing of a context but the values of the
  names it mentions
* `Evaluator.steady_tryEvaluate` — answers from memory are the answers
-/

namespace ParametricScene

namespace Formula

/-! ### Formulas -/

mutual

/-- A formula sees nothing of a context but the values of the names it mentions. -/
theorem evaluate_congr_of_mentions {ctx ctx' : Context} : ∀ f : Formula,
    (∀ name, f.Mentions name → ctx.get? name = ctx'.get? name) → f.evaluate ctx = f.evaluate ctx'
  | .number _, _ | .boolean _, _ | .text _, _ => rfl
  | .reference name, h => by rw [evaluate, evaluate, h name rfl]
  | .identifier name, h => by
    rw [evaluate, evaluate, identifierValue, identifierValue, h name rfl]
  | .list items, h => by rw [evaluate, evaluate, evaluateAll_congr_of_mentions items h]
  | .unary op operand, h => by rw [evaluate, evaluate, evaluate_congr_of_mentions operand h]
  | .binary op left right, h => by
    rw [evaluate, evaluate, evaluate_congr_of_mentions left fun name hn => h name (.inl hn),
      evaluate_congr_of_mentions right fun name hn => h name (.inr hn)]
  | .logical op left right, h => by
    rw [evaluate, evaluate, evaluate_congr_of_mentions left fun name hn => h name (.inl hn),
      evaluate_congr_of_mentions right fun name hn => h name (.inr hn)]
  | .conditional condition yes no, h => by
    rw [evaluate, evaluate, evaluate_congr_of_mentions condition fun name hn => h name (.inl hn),
      evaluate_congr_of_mentions yes fun name hn => h name (.inr (.inl hn)),
      evaluate_congr_of_mentions no fun name hn => h name (.inr (.inr hn))]
  | .call function arguments, h => by
    rw [evaluate, evaluate, evaluateAll_congr_of_mentions arguments h]

theorem evaluateAll_congr_of_mentions {ctx ctx' : Context} : ∀ fs : List Formula,
    (∀ name, MentionsAny name fs → ctx.get? name = ctx'.get? name) →
      evaluateAll ctx fs = evaluateAll ctx' fs
  | [], _ => rfl
  | f :: rest, h => by
    rw [evaluateAll, evaluateAll, evaluate_congr_of_mentions f fun name hn => h name (.inl hn),
      evaluateAll_congr_of_mentions rest fun name hn => h name (.inr hn)]

end

/-- The evaluation leaves the functions as they are. -/
def Keeps (r : Registry) {α : Type} (x : Evaluation α) : Prop := (x.run r).2 = r

section Keeps

variable {r : Registry} {α β : Type}

theorem Keeps.pure (a : α) : Keeps r (Pure.pure a) := rfl

theorem Keeps.answer (e : Except EvalError Value) : Keeps r (answer e) := rfl

theorem Keeps.bind {x : Evaluation α} {f : α → Evaluation β} (hx : Keeps r x)
    (hf : ∀ a, Keeps r (f a)) : Keeps r (x >>= f) := by
  have hrun : ((x >>= f).run r) = match x.run r with
      | (.ok a, r') => (f a).run r'
      | (.error e, r') => (.error e, r') := by
    simp only [Bind.bind, ExceptT.bind, ExceptT.run, ExceptT.mk, StateT.bind, ExceptT.bindCont]
    rcases x r with ⟨a | e, r'⟩ <;> rfl
  rw [Keeps] at hx
  rw [Keeps, hrun]
  rcases hstep : x.run r with ⟨e | a, r'⟩
  · rw [hstep] at hx
    exact hx
  · rw [hstep] at hx
    obtain rfl := hx
    exact hf a

theorem Keeps.call (hr : r.IsPure) (name : String) (arguments : List Value) :
    Keeps r (ExceptT.mk (Registry.call name arguments)) := by
  have hcall : (Registry.call name arguments r).2 = r := by
    rw [Registry.call]
    cases hf : r.get? name with
    | none => rfl
    | some f =>
      obtain ⟨apply, rfl⟩ := hr name f hf
      rfl
  exact hcall

mutual

/-- Pure functions are not changed by being called. -/
theorem keeps_evaluate (hr : r.IsPure) (ctx : Context) : ∀ f : Formula, Keeps r (f.evaluate ctx)
  | .number x => .pure _
  | .boolean b => .pure _
  | .text s => .pure _
  | .reference name => .pure _
  | .identifier name => .answer _
  | .list items => .bind (keeps_evaluateAll hr ctx items) fun _ => .pure _
  | .unary op operand => .bind (keeps_evaluate hr ctx operand) fun _ => .pure _
  | .binary op left right =>
    .bind (keeps_evaluate hr ctx left) fun _ =>
      .bind (keeps_evaluate hr ctx right) fun _ => .answer _
  | .logical op left right => by
    refine .bind (keeps_evaluate hr ctx left) fun a => ?_
    split
    · exact .pure a
    · exact keeps_evaluate hr ctx right
  | .conditional condition yes no => by
    refine .bind (keeps_evaluate hr ctx condition) fun c => ?_
    split
    · exact keeps_evaluate hr ctx yes
    · exact keeps_evaluate hr ctx no
  | .call function arguments =>
    .bind (keeps_evaluateAll hr ctx arguments) fun values => .call hr function values

theorem keeps_evaluateAll (hr : r.IsPure) (ctx : Context) :
    ∀ fs : List Formula, Keeps r (evaluateAll ctx fs)
  | [] => .pure _
  | f :: rest =>
    .bind (keeps_evaluate hr ctx f) fun _ => .bind (keeps_evaluateAll hr ctx rest) fun _ => .pure _

end

end Keeps

end Formula

/-- Registering a pure function keeps a registry pure. -/
theorem Registry.IsPure.register {r : Registry} (h : r.IsPure) (name : String)
    (apply : List Value → Except EvalError Value) : (r.register name (.pure apply)).IsPure := by
  intro k f hf
  rw [get?, Registry.register, Std.HashMap.getElem?_insert] at hf
  split at hf
  · exact ⟨apply, (Option.some.inj hf).symm⟩
  · exact h k f hf

/-- The answers of the function depend on its arguments only. -/
def Function.isPure : Function → Bool
  | .pure _ => true
  | .counted _ _ => false

/-- Registering pure functions one after another keeps a registry pure. -/
theorem Registry.IsPure.foldl_register {r : Registry} (h : r.IsPure) {fs : List (String × Function)}
    (hfs : (fs.all fun f => f.2.isPure) = true) :
    (fs.foldl (fun r f => r.register f.1 f.2) r).IsPure := by
  induction fs generalizing r with
  | nil => exact h
  | cons f rest ih =>
    obtain ⟨name, f⟩ := f
    rw [List.all_cons, Bool.and_eq_true] at hfs
    cases f with
    | pure apply => exact ih (h.register name apply) hfs.2
    | counted _ _ => exact absurd hfs.1 Bool.false_ne_true

/-- The standard functions depend on their arguments only. -/
theorem Registry.isPure_builtin : Registry.builtin.IsPure := by
  have hempty : Registry.empty.IsPure := fun name f h => by
    simp [Registry.get?, Registry.empty] at h
  exact hempty.foldl_register rfl

namespace Evaluator

/-! ### Truthful memory -/

/-- The answer to a formula text that the functions alone give. -/
def answerOf (r : Registry) (text : String) (ctx : Context) : Answer :=
  match Formula.compile text with
  | .ok f => ((f.evaluate ctx).run r).1
  | .error e => .error e

/-- Everything remembered is as it would be found again with the given functions. -/
structure Truthful (r : Registry) (ev : Evaluator) : Prop where
  functions : ev.functions = r
  parsed : ∀ text f, ev.parsed[text]? = some f → f = Formula.compile text
  results : ∀ text (ctx : Context) answer, ctx.Clean →
    ev.results[(text, ctx.fingerprint)]? = some answer → answer = answerOf r text ctx

theorem truthful_ofRegistry (r : Registry) : (ofRegistry r).Truthful r :=
  ⟨rfl, fun _ _ h => by simp [ofRegistry] at h, fun _ _ _ _ h => by simp [ofRegistry] at h⟩

theorem Truthful.clearCache {r : Registry} {ev : Evaluator} (h : ev.Truthful r) :
    ev.clearCache.Truthful r :=
  ⟨h.functions, h.parsed, fun _ _ _ _ hget => by simp [Evaluator.clearCache] at hget⟩

theorem Truthful.setMemoize {r : Registry} {ev : Evaluator} (h : ev.Truthful r) (on : Bool) :
    (ev.setMemoize on).Truthful r := by
  refine ⟨h.functions, h.parsed, fun text ctx answer hctx hget => ?_⟩
  cases on with
  | true => exact h.results text ctx answer hctx hget
  | false => simp [Evaluator.setMemoize] at hget

/-! ### Steady actions -/

/-- What an action gives on an evaluator that has done nothing yet. -/
def value (r : Registry) {α : Type} (x : StateM Evaluator α) : α := (x (ofRegistry r)).1

/-- The action gives its value on every evaluator with these functions and a truthful memory, which
stays truthful. -/
def Steady (r : Registry) {α : Type} (x : StateM Evaluator α) : Prop :=
  ∀ ev : Evaluator, ev.Truthful r → (x ev).1 = value r x ∧ (x ev).2.Truthful r

section Steady

variable {r : Registry} {α β : Type}

theorem Steady.pure (a : α) : Steady r (Pure.pure a) := fun _ hev => ⟨rfl, hev⟩

theorem value_bind {x : StateM Evaluator α} {f : α → StateM Evaluator β} (hx : Steady r x)
    (hf : Steady r (f (value r x))) : value r (x >>= f) = value r (f (value r x)) :=
  (hf _ (hx _ (truthful_ofRegistry r)).2).1

theorem Steady.bind {x : StateM Evaluator α} {f : α → StateM Evaluator β} (hx : Steady r x)
    (hf : Steady r (f (value r x))) : Steady r (x >>= f) := by
  intro ev hev
  obtain ⟨hvalue, htruthful⟩ := hx ev hev
  have hstep : (x >>= f) ev = f (x ev).1 (x ev).2 := rfl
  rw [hstep, hvalue, value_bind hx hf]
  exact hf _ htruthful

/-- An action is steady that gives a known value on every evaluator with a truthful memory. -/
theorem Steady.of_eq {x : StateM Evaluator α} {a : α}
    (h : ∀ ev : Evaluator, ev.Truthful r → (x ev).1 = a ∧ (x ev).2.Truthful r) :
    Steady r x ∧ value r x = a := by
  have ha : value r x = a := (h _ (truthful_ofRegistry r)).1
  exact ⟨fun ev hev => ⟨(h ev hev).1.trans ha.symm, (h ev hev).2⟩, ha⟩

theorem Steady.map {x : StateM Evaluator α} (hx : Steady r x) (f : α → β) :
    Steady r (x >>= fun a => Pure.pure (f a)) :=
  hx.bind (.pure _)

theorem value_map {x : StateM Evaluator α} (hx : Steady r x) (f : α → β) :
    value r (x >>= fun a => Pure.pure (f a)) = f (value r x) :=
  value_bind hx (.pure _)

theorem Steady.mapM {f : α → StateM Evaluator β} (hf : ∀ a, Steady r (f a)) (l : List α) :
    Steady r (l.mapM f) := by
  induction l with
  | nil => exact .pure []
  | cons a rest ih =>
    rw [List.mapM_cons]
    exact (hf a).bind (ih.bind (.pure _))

end Steady

/-! ### What an action does to an evaluator -/

/-- Every formula remembered is the one that its text spells. -/
def ReadsTruly (ev : Evaluator) : Prop :=
  ∀ text f, ev.parsed[text]? = some f → f = Formula.compile text

/-- The functions after answering a formula text, with the calls counted. -/
def functionsAfter (r : Registry) (text : String) (ctx : Context) : Registry :=
  match Formula.compile text with
  | .ok f => ((f.evaluate ctx).run r).2
  | .error _ => r

section Steps

variable {ev : Evaluator} {text : String} {ctx : Context}

theorem ReadsTruly.compile (h : ev.ReadsTruly) (text : String) :
    ∃ parsed, Evaluator.compile text ev = (Formula.compile text, { ev with parsed := parsed }) ∧
      ({ ev with parsed := parsed } : Evaluator).ReadsTruly := by
  rw [Evaluator.compile]
  cases hget : ev.parsed[text]? with
  | some f => exact ⟨ev.parsed, by rw [h text f hget], h⟩
  | none =>
    refine ⟨_, rfl, fun text' f hf => ?_⟩
    rw [Std.HashMap.getElem?_insert] at hf
    split at hf
    · rename_i heq
      rw [← eq_of_beq heq]
      exact (Option.some.inj hf).symm
    · exact h text' f hf

/-- Computing an answer reads the formula and asks the functions. -/
theorem ReadsTruly.compute (h : ev.ReadsTruly) (text : String) (ctx : Context) :
    ∃ parsed, Evaluator.compute text ctx ev = (answerOf ev.functions text ctx,
        { ev with functions := functionsAfter ev.functions text ctx, parsed := parsed }) ∧
      ({ ev with functions := functionsAfter ev.functions text ctx, parsed := parsed } :
        Evaluator).ReadsTruly := by
  obtain ⟨parsed, hcompile, hreads⟩ := h.compile text
  have hstep : Evaluator.compute text ctx ev = (match (Evaluator.compile text ev).1 with
      | .ok f => run f ctx
      | .error e => Pure.pure (.error e)) (Evaluator.compile text ev).2 := rfl
  refine ⟨parsed, ?_, hreads⟩
  rw [hstep, hcompile, answerOf, functionsAfter]
  cases Formula.compile text <;> rfl

theorem tryEvaluate_of_memoize_eq_false (h : ev.memoize = false) (text : String) (ctx : Context) :
    tryEvaluate text ctx ev = compute text ctx ev := by
  simp only [tryEvaluate, bind, StateT.bind, get, getThe, MonadStateOf.get, StateT.get, Pure.pure, h]
  rfl

/-- A hit: the answer is on record, and nothing is computed. -/
theorem tryEvaluate_of_hit (h : ev.memoize = true) {a : Answer}
    (hget : ev.results[(text, ctx.fingerprint)]? = some a) :
    tryEvaluate text ctx ev = (a, { ev with hits := ev.hits + 1 }) := by
  simp only [tryEvaluate, bind, StateT.bind, get, getThe, MonadStateOf.get, StateT.get, Pure.pure,
    if_pos h, hget]
  rfl

/-- A miss: the answer is computed and put on record. -/
theorem tryEvaluate_of_miss (h : ev.memoize = true)
    (hget : ev.results[(text, ctx.fingerprint)]? = none) :
    tryEvaluate text ctx ev =
      ((compute text ctx { ev with misses := ev.misses + 1 }).1,
        { (compute text ctx { ev with misses := ev.misses + 1 }).2 with
          results := (compute text ctx { ev with misses := ev.misses + 1 }).2.results.insert
            (text, ctx.fingerprint) (compute text ctx { ev with misses := ev.misses + 1 }).1 }) := by
  simp only [tryEvaluate, bind, StateT.bind, get, getThe, MonadStateOf.get, StateT.get, Pure.pure,
    if_pos h, hget]
  rfl

/-- The value of a formula text is its answer, or zero. -/
theorem evaluateText_eq (text : String) (ctx : Context) (ev : Evaluator) :
    evaluateText text ctx ev = ((match (tryEvaluate text ctx ev).1 with
      | .ok v => v
      | .error _ => Value.zero), (tryEvaluate text ctx ev).2) := by
  have hstep : evaluateText text ctx ev = (match (tryEvaluate text ctx ev).1 with
      | .ok v => (Pure.pure v : StateM Evaluator Value)
      | .error _ => Pure.pure Value.zero) (tryEvaluate text ctx ev).2 := rfl
  rw [hstep]
  cases (tryEvaluate text ctx ev).1 <;> rfl

end Steps

/-! ### Answers -/

section Answers

variable {r : Registry}

theorem functionsAfter_of_isPure (hr : r.IsPure) (text : String) (ctx : Context) :
    functionsAfter r text ctx = r := by
  rw [functionsAfter]
  cases Formula.compile text with
  | error e => rfl
  | ok f => exact Formula.keeps_evaluate hr ctx f

theorem Truthful.compute (hr : r.IsPure) {ev : Evaluator} (h : ev.Truthful r) (text : String)
    (ctx : Context) :
    (Evaluator.compute text ctx ev).1 = answerOf r text ctx ∧
      (Evaluator.compute text ctx ev).2.Truthful r := by
  obtain ⟨parsed, hcompute, hreads⟩ := ReadsTruly.compute h.parsed text ctx
  rw [h.functions, functionsAfter_of_isPure hr] at hcompute hreads
  rw [hcompute]
  exact ⟨rfl, rfl, hreads, h.results⟩

/-- An answer depends on the names that the formula mentions. -/
theorem answerOf_congr {text : String} {ctx ctx' : Context}
    (h : ∀ f, Formula.compile text = .ok f →
      ∀ name, f.Mentions name → ctx.get? name = ctx'.get? name) :
    answerOf r text ctx = answerOf r text ctx' := by
  rw [answerOf, answerOf]
  cases hcompile : Formula.compile text with
  | error e => rfl
  | ok f => simp only [f.evaluate_congr_of_mentions (h f hcompile)]

/-- Contexts with one fingerprint have the same answers. -/
theorem answerOf_eq_of_fingerprint_eq {ctx ctx' : Context} (hctx : ctx.Clean) (hctx' : ctx'.Clean)
    (h : ctx.fingerprint = ctx'.fingerprint) (text : String) :
    answerOf r text ctx = answerOf r text ctx' :=
  answerOf_congr fun _ _ name _ => Context.get?_eq_of_fingerprint_eq hctx hctx' h name

theorem Truthful.tryEvaluate (hr : r.IsPure) {ev : Evaluator} (h : ev.Truthful r) (text : String)
    {ctx : Context} (hctx : ctx.Clean) :
    (Evaluator.tryEvaluate text ctx ev).1 = answerOf r text ctx ∧
      (Evaluator.tryEvaluate text ctx ev).2.Truthful r := by
  cases hmemoize : ev.memoize with
  | false =>
    rw [tryEvaluate_of_memoize_eq_false hmemoize]
    exact h.compute hr text ctx
  | true =>
    cases hget : ev.results[(text, ctx.fingerprint)]? with
    | some answer =>
      rw [tryEvaluate_of_hit hmemoize hget]
      exact ⟨h.results text ctx answer hctx hget, h.functions, h.parsed, h.results⟩
    | none =>
      have hmiss : ({ ev with misses := ev.misses + 1 } : Evaluator).Truthful r :=
        ⟨h.functions, h.parsed, h.results⟩
      obtain ⟨hanswer, htruthful⟩ := hmiss.compute hr text ctx
      rw [tryEvaluate_of_miss hmemoize hget]
      refine ⟨hanswer, htruthful.functions, htruthful.parsed, fun text' ctx' answer' hctx' hget' => ?_⟩
      rw [Std.HashMap.getElem?_insert] at hget'
      split at hget'
      · rename_i heq
        obtain ⟨rfl, hprint⟩ := Prod.mk.inj (eq_of_beq heq)
        rw [← Option.some.inj hget', hanswer]
        exact answerOf_eq_of_fingerprint_eq hctx hctx' hprint text
      · exact htruthful.results text' ctx' answer' hctx' hget'

/-- **Answers from memory are the answers.** -/
theorem steady_tryEvaluate (hr : r.IsPure) (text : String) {ctx : Context} (hctx : ctx.Clean) :
    Steady r (tryEvaluate text ctx) ∧ value r (tryEvaluate text ctx) = answerOf r text ctx :=
  Steady.of_eq fun _ hev => hev.tryEvaluate hr text hctx

end Answers

end Evaluator

end ParametricScene
