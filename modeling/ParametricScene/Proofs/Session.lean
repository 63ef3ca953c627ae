import ParametricScene.Proofs.Transparency

/-!
# Sessions with an evaluator

A host asks an evaluator for answers, and between two questions it may have results forgotten, turn
the memory for results on or off, and register functions, also in place of others. Here a session is
any number of such requests, in any order.

The contract is that a host cannot tell an evaluator with a memory from one without. Every reply is
the one that an evaluator gives which has done nothing yet, does not memoize, and has the functions
that are registered at that point. It is about functions that depend on their arguments only, and
about contexts that are clean.

## Main definitions

* `Evaluator.Request`, `Evaluator.Reply` — what a host asks and what it hears
* `Evaluator.serve`, `Evaluator.session` — one request, and requests one after another
* `Evaluator.recomputed` — the replies without any memory

## Main results

* `Evaluator.Truthful.serve` — one request: the reply is the recomputed one, and memory stays truthful
* `Evaluator.session_eq_recomputed` — memory does not show in a session
-/

namespace ParametricScene

namespace Evaluator

/-! ### Requests -/

/-- What a host asks of an evaluator. -/
inductive Request where
  /-- The answer to a formula text, a value or an error. -/
  | answer (text : String) (ctx : Context)
  /-- The value of a formula text, zero if it has none. -/
  | value (text : String) (ctx : Context)
  | clearCache
  | setMemoize (on : Bool)
  /-- Another function for a name, whose answers depend on its arguments only. -/
  | register (name : String) (apply : List Value → Except EvalError Value)

/-- What a host hears. -/
inductive Reply where
  | answer (a : Answer)
  | value (v : Value)
  | done

/-- No name that a request binds has an equals sign in it. -/
def Request.Clean : Request → Prop
  | .answer _ ctx | .value _ ctx => ctx.Clean
  | .clearCache | .setMemoize _ | .register _ _ => True

/-- The functions after a request. -/
def Request.functions : Request → Registry → Registry
  | .register name apply, r => r.register name (.pure apply)
  | _, r => r

/-- Does what is asked, and replies. -/
def serve : Request → StateM Evaluator Reply
  | .answer text ctx => do
    let a ← tryEvaluate text ctx
    pure (.answer a)
  | .value text ctx => do
    let v ← evaluateText text ctx
    pure (.value v)
  | .clearCache => do
    modify Evaluator.clearCache
    pure .done
  | .setMemoize on => do
    modify (Evaluator.setMemoize on)
    pure .done
  | .register name apply => do
    modify (Evaluator.register name (.pure apply))
    pure .done

/-- The replies to requests one after another. -/
def session (requests : List Request) : StateM Evaluator (List Reply) := requests.mapM serve

/-- The first request is served, and the others by what the evaluator is then. -/
theorem session_cons (q : Request) (rest : List Request) (ev : Evaluator) :
    session (q :: rest) ev =
      ((serve q ev).1 :: (session rest (serve q ev).2).1, (session rest (serve q ev).2).2) := by
  rw [session, List.mapM_cons]
  rfl

/-! ### Without memory -/

/-- An evaluator that has done nothing yet and does not memoize. -/
def forgetful (r : Registry) : Evaluator := (ofRegistry r).setMemoize false

/-- The replies of evaluators that have done nothing yet, a new one for each request, with the
functions that are registered by then. -/
def recomputed : Registry → List Request → List Reply
  | _, [] => []
  | r, q :: rest => (serve q (forgetful r)).1 :: recomputed (q.functions r) rest

theorem truthful_forgetful (r : Registry) : (forgetful r).Truthful r :=
  (truthful_ofRegistry r).setMemoize false

/-- Registering a function forgets what the function it replaces came to. -/
theorem Truthful.register {r : Registry} {ev : Evaluator} (h : ev.Truthful r) (name : String)
    (f : Function) : (ev.register name f).Truthful (r.register name f) :=
  ⟨by rw [Evaluator.register, h.functions], h.parsed, fun _ _ _ _ hget => by
    simp [Evaluator.register] at hget⟩

/-- A steady action gives the same on any two evaluators with a truthful memory. -/
theorem Steady.eq_of_truthful {r : Registry} {α : Type} {x : StateM Evaluator α} (h : Steady r x)
    {ev ev' : Evaluator} (hev : ev.Truthful r) (hev' : ev'.Truthful r) : (x ev).1 = (x ev').1 :=
  (h ev hev).1.trans (h ev' hev').1.symm

/-- **One request.** The reply is that of an evaluator that has done nothing yet, and memory is
truthful for the functions that are registered then. -/
theorem Truthful.serve {r : Registry} (hr : r.IsPure) {ev : Evaluator} (h : ev.Truthful r)
    {q : Request} (hq : q.Clean) :
    (Evaluator.serve q ev).1 = (Evaluator.serve q (forgetful r)).1 ∧
      (Evaluator.serve q ev).2.Truthful (q.functions r) := by
  cases q with
  | answer text ctx =>
    have hsteady := ((steady_tryEvaluate hr text hq).1).map Reply.answer
    exact ⟨hsteady.eq_of_truthful h (truthful_forgetful r), (hsteady ev h).2⟩
  | value text ctx =>
    have hsteady := (steady_evaluateText hr hq text).map Reply.value
    exact ⟨hsteady.eq_of_truthful h (truthful_forgetful r), (hsteady ev h).2⟩
  | clearCache => exact ⟨rfl, h.clearCache⟩
  | setMemoize on => exact ⟨rfl, h.setMemoize on⟩
  | register name apply => exact ⟨rfl, h.register name (.pure apply)⟩

/-- Requests register pure functions only. -/
theorem Request.isPure_functions {r : Registry} (hr : r.IsPure) (q : Request) :
    (q.functions r).IsPure := by
  cases q with
  | register name apply => exact hr.register name apply
  | answer | value | clearCache | setMemoize => exact hr

/-- From a truthful memory every reply is the recomputed one. -/
theorem Truthful.session {r : Registry} (hr : r.IsPure) {ev : Evaluator} (h : ev.Truthful r)
    {requests : List Request} (hrequests : ∀ q ∈ requests, q.Clean) :
    (Evaluator.session requests ev).1 = recomputed r requests := by
  induction requests generalizing r ev with
  | nil => rfl
  | cons q rest ih =>
    obtain ⟨hreply, htruthful⟩ := h.serve hr (hrequests q (List.mem_cons_self ..))
    have hrest := ih (q.isPure_functions hr) htruthful fun q' hq' =>
      hrequests q' (List.mem_cons_of_mem _ hq')
    rw [session_cons, hreply, hrest, recomputed]

/-- **Memory does not show in a session.** Whatever is asked of a new evaluator with pure functions, in
whatever order, the replies are those that are found without any memory. -/
theorem session_eq_recomputed (r : Registry) (hr : r.IsPure) (requests : List Request)
    (hrequests : ∀ q ∈ requests, q.Clean) :
    (session requests (ofRegistry r)).1 = recomputed r requests :=
  (truthful_ofRegistry r).session hr hrequests

/-! ### A function that is replaced -/

/-- The bindings of a door. -/
def doorContext : Context := OrderedMap.insert ∅ "width" (.number 2.0)

/-- A function is asked for before it is there, registered, asked for twice, and replaced. -/
def replacingRequests : List Request :=
  [.answer "panels($width)" doorContext,
    .register "panels" (fun arguments => .ok (arguments.headD Value.zero)),
    .answer "panels($width)" doorContext,
    .value "panels($width)" doorContext,
    .register "panels" (fun _ => .error (@EvalError.malformed "no panels")),
    .answer "panels($width)" doorContext,
    .setMemoize false,
    .value "panels($width)" doorContext]

/-- Neither the error from before the function was there nor its values before it was replaced are
heard later. -/
theorem session_eq_recomputed_replacing :
    Registry.builtin.IsPure ∧ (∀ q ∈ replacingRequests, q.Clean) ∧
      (session replacingRequests (ofRegistry Registry.builtin)).1 =
        recomputed Registry.builtin replacingRequests := by
  have hcontext : doorContext.Clean := Context.clean_empty.insert (by rw [CleanName]; decide) _
  have hclean : ∀ q ∈ replacingRequests, q.Clean := by
    simp [replacingRequests, Request.Clean, hcontext]
  exact ⟨Registry.isPure_builtin, hclean,
    session_eq_recomputed Registry.builtin Registry.isPure_builtin replacingRequests hclean⟩

end Evaluator

end ParametricScene
