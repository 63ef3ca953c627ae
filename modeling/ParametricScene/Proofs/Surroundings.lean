import ParametricScene.Proofs.Scanning
import ParametricScene.Proofs.Transparency

/-!
# Parameters inside and outside their surroundings

The parameters of a template are bound twice. Its rules are checked on the parameters alone, and its
nodes are expanded in a context in which the parameters are written on top of the surroundings. A
bare parameter may mention names, and a name that only the surroundings bind is zero where rules are
checked. So the two contexts need not agree, not even on the parameters themselves.

They agree on every name on which the surroundings have no bearing. The surroundings bear on what
they bind, until a parameter of that name takes its place, and on a bare parameter whose formula
mentions a name on which they bear at that point. They never have a bearing on a definition or a
literal, nor on formulas over these.

Both contexts may be found by any evaluators with a truthful memory, in particular by one evaluator
that checks the rules first and expands the template then. As everywhere with such evaluators, names
have to be clean and functions may not count their calls.

## Main definitions

* `Context.AgreesOff` — two contexts give the same values to all names but some
* `Parameter.Reads` — the parameter is a formula that mentions one of some names
* `Parameter.BearsOn` — the names on which the surroundings have a bearing after binding parameters

## Main results

* `Evaluator.agreesOff_bindParameters` — binding parameters keeps contexts in agreement
* `Evaluator.get?_bindParameters_empty_eq` — rules and nodes see the same parameters
* `Evaluator.get?_bindParameters_frameOnly_ne` — but not where the surroundings have a bearing
* `Evaluator.get?_bindParameters_asking_ne` — nor where a function counts its calls
-/

namespace ParametricScene

/-- Names without the property have the same values in both contexts. -/
def Context.AgreesOff (B : String → Prop) (ctx ctx' : Context) : Prop :=
  ∀ name, ¬B name → ctx.get? name = ctx'.get? name

/-- Both contexts get a value for a name, which is the same or else the name joins those that
differ. -/
theorem Context.AgreesOff.insert {B : String → Prop} {ctx ctx' : Context} (h : ctx.AgreesOff B ctx')
    (name : String) {v v' : Value} {P : Prop} (hv : ¬P → v = v') :
    Context.AgreesOff (fun n => if n = name then P else B n) (OrderedMap.insert ctx name v)
      (OrderedMap.insert ctx' name v') := by
  intro n hn
  rw [OrderedMap.get?_insert, OrderedMap.get?_insert]
  by_cases hname : n = name
  · simp only [if_pos hname] at hn
    rw [if_pos hname, if_pos hname, hv hn]
  · simp only [if_neg hname] at hn
    rw [if_neg hname, if_neg hname, h n hn]

namespace Parameter

/-- The parameter is a formula that mentions a name with the property. -/
def Reads (B : String → Prop) : Parameter → Prop
  | .bare (.formula text) =>
    ∃ f, Formula.compile text = .ok f ∧ ∃ name, f.Mentions name ∧ B name
  | .bare _ | .defined _ => False

/-- The names on which the surroundings have a bearing after the parameters were bound, given those
on which they had one before. -/
def BearsOn (B : String → Prop) : List (String × Parameter) → String → Prop
  | [] => B
  | (name, p) :: rest => BearsOn (fun n => if n = name then p.Reads B else B n) rest

end Parameter

namespace Evaluator

section AgreesOff

variable {r : Registry} {B : String → Prop} {ctx ctx' : Context}

/-- A parameter that reads no name on which two contexts differ has the same value in both. -/
theorem value_parameterValue_congr (hr : r.IsPure) (hctx : ctx.Clean) (hctx' : ctx'.Clean)
    (h : ctx.AgreesOff B ctx') {p : Parameter} (hp : ¬p.Reads B) :
    value r (parameterValue p ctx) = value r (parameterValue p ctx') := by
  cases p with
  | defined d => rfl
  | bare source =>
    cases source with
    | number n => rfl
    | boolean b => rfl
    | formula text =>
      have hanswer : answerOf r text ctx = answerOf r text ctx' :=
        answerOf_congr fun f hf name hname => h name fun hB => hp ⟨f, hf, name, hname, hB⟩
      change value r (evaluateText text ctx) = value r (evaluateText text ctx')
      rw [value_evaluateText hr hctx, value_evaluateText hr hctx', hanswer]

/-- **Binding parameters keeps contexts in agreement**, off the names on which the difference has a
bearing then. -/
theorem agreesOff_bindParameters (hr : r.IsPure) {ps : List (String × Parameter)}
    (hps : ∀ e ∈ ps, CleanName e.1) (hctx : ctx.Clean) (hctx' : ctx'.Clean)
    (h : ctx.AgreesOff B ctx') :
    Context.AgreesOff (Parameter.BearsOn B ps) (value r (bindParameters ps ctx))
      (value r (bindParameters ps ctx')) := by
  induction ps generalizing B ctx ctx' with
  | nil => exact h
  | cons e rest ih =>
    obtain ⟨name, p⟩ := e
    have hname : CleanName name := hps _ (List.mem_cons_self ..)
    have hrest : ∀ e ∈ rest, CleanName e.1 := fun e he => hps e (List.mem_cons_of_mem _ he)
    have hinner := hctx.insert hname (value r (parameterValue p ctx))
    have hinner' := hctx'.insert hname (value r (parameterValue p ctx'))
    have hstep := h.insert name fun hp => value_parameterValue_congr hr hctx hctx' h (p := p) hp
    rw [bindParameters, bindParameters,
      value_bind (steady_parameterValue hr hctx p) (steady_bindParameters hr hrest hinner).1,
      value_bind (steady_parameterValue hr hctx' p) (steady_bindParameters hr hrest hinner').1]
    exact ih hrest hinner hinner' hstep

/-- **Rules and nodes see the same parameters**, off the names on which the surroundings have a
bearing. On the left is the context in which the rules of a template are checked, and on the right
the one in which its nodes are expanded, before expressions are written to it. -/
theorem get?_bindParameters_empty_eq (hr : r.IsPure) (parameters : OrderedMap Parameter)
    (hparameters : ∀ name ∈ parameters.keys, CleanName name) (surroundings : Context)
    (hsurroundings : surroundings.Clean) (ev ev' : Evaluator) (hev : ev.Truthful r)
    (hev' : ev'.Truthful r) (name : String)
    (hname : ¬Parameter.BearsOn (· ∈ surroundings.keys) parameters.entries name) :
    (bindParameters parameters.entries OrderedMap.empty ev).1.get? name =
      (bindParameters parameters.entries surroundings ev').1.get? name := by
  have hps := cleanName_of_mem_entries hparameters
  have hstart : Context.AgreesOff (· ∈ surroundings.keys) OrderedMap.empty surroundings := by
    intro n (hn : n ∉ surroundings.keys)
    rw [OrderedMap.mem_keys_iff, Bool.not_eq_true, Option.isSome_eq_false_iff,
      Option.isNone_iff_eq_none] at hn
    exact hn.symm
  have hempty : Context.Clean OrderedMap.empty := Context.clean_empty
  rw [((steady_bindParameters hr hps hempty).1 ev hev).1,
    ((steady_bindParameters hr hps hsurroundings).1 ev' hev').1]
  exact agreesOff_bindParameters hr hps hempty hsurroundings hstart name hname

end AgreesOff

/-! ### A window in a wall -/

/-- What stands around a window: the wall has a width. -/
def wall : Context := OrderedMap.insert ∅ "width" (.number 4.0)

/-- A window whose frame is as wide as whatever `width` is. -/
def frameOnly : OrderedMap Parameter := OrderedMap.insert ∅ "frame" (.bare (.formula "$width"))

/-- A window with a width of its own, and a frame of that width. -/
def framed : OrderedMap Parameter :=
  (OrderedMap.insert ∅ "width" (.bare (.number 1.5))).insert "frame" (.bare (.formula "$width"))

theorem compile_width : Formula.compile "$width" = .ok (.reference "width") := by
  have hwords : Token.readAll? "$width".toList = some [.reference "width"] := by
    rw [Formula.readAll?_of_read? rfl rfl, Formula.readAll?_of_dropWhile_nil rfl]
    rfl
  exact Formula.compile_of_readAll? (by decide) hwords rfl

theorem cleanName_width : CleanName "width" := by
  rw [CleanName]
  decide

theorem cleanName_frame : CleanName "frame" := by
  rw [CleanName]
  decide

theorem clean_wall : wall.Clean := Context.clean_empty.insert cleanName_width _

theorem cleanName_of_mem_framed : ∀ name ∈ framed.keys, CleanName name := by
  have hkeys : framed.keys = ["width", "frame"] := by decide
  rw [hkeys]
  simp [cleanName_width, cleanName_frame]

/-- The width of the wall has no bearing on the frame of a window with a width of its own: one
evaluator that checks the rules and expands the nodes then finds the same value both times. -/
theorem get?_bindParameters_empty_eq_framed :
    Registry.builtin.IsPure ∧ (∀ name ∈ framed.keys, CleanName name) ∧ wall.Clean ∧
      ¬Parameter.BearsOn (· ∈ wall.keys) framed.entries "frame" ∧
      (bindParameters framed.entries OrderedMap.empty Evaluator.new).1.get? "frame" =
        (bindParameters framed.entries wall
          (bindParameters framed.entries OrderedMap.empty Evaluator.new).2).1.get? "frame" := by
  have hnew : Evaluator.new.Truthful Registry.builtin := truthful_ofRegistry _
  have hchecked := ((steady_bindParameters Registry.isPure_builtin
    (cleanName_of_mem_entries cleanName_of_mem_framed) Context.clean_empty).1 _ hnew).2
  have hframe : ¬Parameter.BearsOn (· ∈ wall.keys) framed.entries "frame" := by
    rintro ⟨f, hf, name, hname, hbears⟩
    rw [compile_width] at hf
    obtain rfl := Except.ok.inj hf
    obtain rfl : "width" = name := hname
    exact hbears
  exact ⟨Registry.isPure_builtin, cleanName_of_mem_framed, clean_wall, hframe,
    get?_bindParameters_empty_eq Registry.isPure_builtin framed cleanName_of_mem_framed wall
      clean_wall Evaluator.new _ hnew hchecked "frame" hframe⟩

/-- **Rules do not see the surroundings.** A frame that takes its width from the wall is zero where
rules are checked, and as wide as the wall where nodes are expanded. -/
theorem get?_bindParameters_frameOnly_ne :
    (bindParameters frameOnly.entries OrderedMap.empty Evaluator.new).1.get? "frame" =
        some (.number 0.0) ∧
      (bindParameters frameOnly.entries wall Evaluator.new).1.get? "frame" = some (.number 4.0) ∧
      (0.0 : Float) ≠ 4.0 := by
  have hvalue : ∀ ctx : Context, ctx.Clean →
      (bindParameters frameOnly.entries ctx Evaluator.new).1.get? "frame" =
        some ((ctx.get? "width").getD .zero) := fun ctx hctx => by
    have hbound : (bindParameters frameOnly.entries ctx Evaluator.new).1 =
        ctx.insert "frame" (value Registry.builtin (evaluateText "$width" ctx)) := rfl
    rw [hbound, OrderedMap.get?_insert_self,
      value_evaluateText Registry.isPure_builtin hctx, answerOf, compile_width]
    rfl
  exact ⟨hvalue _ Context.clean_empty, hvalue _ clean_wall, by decide +kernel⟩

/-! ### A function that counts -/

/-- The only function is true when it is called for the first time, and no results are kept. -/
def countingEvaluator : Evaluator :=
  (ofRegistry (Registry.empty.register "first"
    (.counted 0 fun calls _ => .ok (.boolean (calls == 0))))).setMemoize false

/-- A window whose frame is what that function says. -/
def asking : OrderedMap Parameter := OrderedMap.insert ∅ "frame" (.bare (.formula "first()"))

theorem compile_first : Formula.compile "first()" = .ok (.call "first" []) := by
  have hname : Token.read? "first()".toList = some (.name "first", ['(', ')']) := rfl
  have hopen : Token.read? ['(', ')'] = some (.mark .openParen, [')']) := rfl
  have hclose : Token.read? [')'] = some (.mark .closeParen, []) := rfl
  have hwords : Token.readAll? "first()".toList =
      some [.name "first", .mark .openParen, .mark .closeParen] := by
    rw [Formula.readAll?_of_read? rfl hname, Formula.readAll?_of_read? rfl hopen,
      Formula.readAll?_of_read? rfl hclose, Formula.readAll?_of_dropWhile_nil rfl]
    rfl
  exact Formula.compile_of_readAll? (by decide) hwords rfl

/-- Without memory for results, the function is asked and the call is counted. -/
theorem evaluateText_first {ev : Evaluator} (hreads : ev.ReadsTruly) (hmemoize : ev.memoize = false)
    {calls : Nat} {apply : Nat → List Value → Except EvalError Value}
    (hget : ev.functions.get? "first" = some (.counted calls apply)) {v : Value}
    (hv : apply calls [] = .ok v) (ctx : Context) :
    ∃ ev', evaluateText "first()" ctx ev = (v, ev') ∧ ev'.ReadsTruly ∧ ev'.memoize = false ∧
      ev'.functions.get? "first" = some (.counted (calls + 1) apply) := by
  have hcall : Registry.call "first" [] ev.functions =
      (.ok v, ev.functions.register "first" (.counted (calls + 1) apply)) := by
    rw [Registry.call, hget, ← hv]
  have hanswer : answerOf ev.functions "first()" ctx = .ok v := by
    rw [answerOf, compile_first]
    exact congrArg Prod.fst hcall
  have hafter : functionsAfter ev.functions "first()" ctx =
      ev.functions.register "first" (.counted (calls + 1) apply) := by
    rw [functionsAfter, compile_first]
    exact congrArg Prod.snd hcall
  obtain ⟨parsed, hcompute, hreads'⟩ := hreads.compute "first()" ctx
  rw [evaluateText_eq, tryEvaluate_of_memoize_eq_false hmemoize, hcompute, hanswer]
  refine ⟨_, rfl, hreads', hmemoize, ?_⟩
  rw [hafter]
  exact Std.HashMap.getElem?_insert_self

/-- **Two evaluations of one parameter may differ** where a function counts its calls, also if
nothing surrounds the template. -/
theorem get?_bindParameters_asking_ne :
    (bindParameters asking.entries OrderedMap.empty countingEvaluator).1.get? "frame" =
        some (.boolean true) ∧
      (bindParameters asking.entries OrderedMap.empty
          (bindParameters asking.entries OrderedMap.empty countingEvaluator).2).1.get? "frame" =
        some (.boolean false) := by
  have hbound : ∀ ev, bindParameters asking.entries OrderedMap.empty ev =
      (OrderedMap.empty.insert "frame" (evaluateText "first()" OrderedMap.empty ev).1,
        (evaluateText "first()" OrderedMap.empty ev).2) := fun _ => rfl
  have hreads : countingEvaluator.ReadsTruly := fun text f h => by
    simp [countingEvaluator, ofRegistry, setMemoize] at h
  obtain ⟨ev, hfirst, hreads', hmemoize, hget⟩ := evaluateText_first hreads rfl
    Std.HashMap.getElem?_insert_self rfl OrderedMap.empty
  obtain ⟨_, hsecond, -⟩ := evaluateText_first hreads' hmemoize hget rfl OrderedMap.empty
  rw [hbound, hfirst, hbound, hsecond]
  exact ⟨OrderedMap.get?_insert_self .., OrderedMap.get?_insert_self ..⟩

end Evaluator

end ParametricScene
