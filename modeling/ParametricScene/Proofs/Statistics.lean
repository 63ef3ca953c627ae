import Mathlib.Data.Set.Card
import ParametricScene.Proofs.Memory

/-!
# What the counters of an evaluator count

An evaluator counts the answers it had on record and those it had to compute, and shows how many results
and how many formulas it keeps. The two memories have different lives: results are dropped whenever the
cache is cleared, a function is registered or memoizing is turned off, formulas are kept for good.

Here the counters are told from the calls alone, without the evaluator that was called. Whether memoizing
is on is a question of the last switch. A pair of text and fingerprint is recalled if it was evaluated
while memoizing was on and nothing was forgotten since. So these are counts of calls, pairs and texts of
a history, and how they come about in the evaluator is left to the proofs.

The calls may be any, in any order. In particular nothing is asked of the functions that are registered,
whose answers may depend on what happened before, and of the texts, which may not be formulas at all.

## Main definitions

* `Evaluator.Call`, `Evaluator.afterCalls` — the calls of an evaluator, one after another
* `Evaluator.memoizing`, `Evaluator.Recalls` — what calls leave behind
* `Evaluator.Reflects` — memory and counters are as the calls left them

## Main results

* `Evaluator.Call.perform_cases` — all that an evaluation does to an evaluator
* `Evaluator.Reflects.perform` — one more call
* `Evaluator.stats_afterCalls` — what the counters say after any calls
-/

namespace ParametricScene

/-- The keys of a map are as many as its size says. -/
theorem encard_keys {κ β : Type} [BEq κ] [Hashable κ] [LawfulBEq κ] [LawfulHashable κ]
    (m : Std.HashMap κ β) : {k | k ∈ m}.encard = m.size := by
  classical
  have hkeys : {k | k ∈ m} = (m.keys.toFinset : Set κ) := by
    ext k
    simp
  have hnodup : m.keys.Nodup := m.distinct_keys.imp fun h => ne_of_beq_false h
  rw [hkeys, Set.encard_coe_eq_coe_finsetCard, List.toFinset_card_of_nodup hnodup,
    Std.HashMap.length_keys]

theorem mem_insert_iff {κ β : Type} [BEq κ] [Hashable κ] [LawfulBEq κ] [LawfulHashable κ]
    {m : Std.HashMap κ β} {k k' : κ} {b : β} : k' ∈ m.insert k b ↔ k' = k ∨ k' ∈ m := by
  rw [Std.HashMap.mem_insert, beq_iff_eq, eq_comm]

namespace Evaluator

/-! ### Calls -/

/-- A call of an evaluator. Functions of any kind may be registered. -/
inductive Call where
  /-- The answer to a formula text, a value or an error. -/
  | answer (text : String) (ctx : Context)
  /-- The value of a formula text, zero if it has none. -/
  | value (text : String) (ctx : Context)
  | clearCache
  | setMemoize (on : Bool)
  | register (name : String) (f : Function)

namespace Call

/-- The evaluator after the call. -/
def perform : Call → Evaluator → Evaluator
  | answer text ctx, ev => (tryEvaluate text ctx ev).2
  | value text ctx, ev => (evaluateText text ctx ev).2
  | clearCache, ev => ev.clearCache
  | setMemoize on, ev => ev.setMemoize on
  | register name f, ev => ev.register name f

/-- What the call evaluates: a text, and the fingerprint of a context. -/
def key? : Call → Option (String × String)
  | answer text ctx | value text ctx => some (text, ctx.fingerprint)
  | clearCache | setMemoize _ | register _ _ => none

/-- The call turns memoizing on or off. -/
def switch? : Call → Option Bool
  | setMemoize on => some on
  | _ => none

/-- No result is kept beyond the call. -/
def forgets : Call → Bool
  | clearCache | register _ _ => true
  | setMemoize on => !on
  | answer _ _ | value _ _ => false

/-- The evaluator had the answer on record. -/
def IsHit (c : Call) (ev : Evaluator) : Prop :=
  (c.perform ev).stats.hits = ev.stats.hits + 1 ∧ (c.perform ev).stats.misses = ev.stats.misses

/-- The evaluator had to compute the answer, and counts that. -/
def IsMiss (c : Call) (ev : Evaluator) : Prop :=
  (c.perform ev).stats.hits = ev.stats.hits ∧ (c.perform ev).stats.misses = ev.stats.misses + 1

end Call

/-- A new evaluator after calls one after another. -/
def afterCalls (r : Registry) (calls : List Call) : Evaluator :=
  calls.foldl (fun ev c => c.perform ev) (ofRegistry r)

/-- Memoizing is on after the calls. The last switch decides, and at first it is on. -/
def memoizing (calls : List Call) : Bool := (calls.filterMap Call.switch?).getLast?.getD true

/-- The pair was evaluated while memoizing, and nothing was forgotten since. -/
def Recalls (calls : List Call) (key : String × String) : Prop :=
  ∃ before c since, calls = before ++ c :: since ∧ c.key? = some key ∧ memoizing before = true ∧
    ∀ d ∈ since, d.forgets = false

/-- The text was evaluated, memoizing or not. -/
def Evaluated (calls : List Call) (text : String) : Prop :=
  ∃ c ∈ calls, ∃ print, c.key? = some (text, print)

/-- The evaluations made while memoizing, each told by the calls before it. -/
def memoized (calls : List Call) : Set (List Call) :=
  {before | ∃ c, before ++ [c] <+: calls ∧ c.key?.isSome ∧ memoizing before = true}

/-! ### One more call -/

section Histories

variable {calls : List Call} {c : Call} {key : String × String}

theorem memoizing_concat (calls : List Call) (c : Call) :
    memoizing (calls ++ [c]) = c.switch?.getD (memoizing calls) := by
  rw [memoizing, memoizing, List.filterMap_append, List.getLast?_append]
  cases hc : c.switch? <;> simp [hc]

/-- A pair is recalled after one more call if that call evaluated it, or did not forget it. -/
theorem recalls_concat_iff :
    Recalls (calls ++ [c]) key ↔
      c.key? = some key ∧ memoizing calls = true ∨ c.forgets = false ∧ Recalls calls key := by
  constructor
  · rintro ⟨before, d, since, hcalls, hkey, hmemoizing, hsince⟩
    rcases since.eq_nil_or_concat with rfl | ⟨since, e, rfl⟩
    · obtain ⟨rfl, hd⟩ := List.append_inj' hcalls rfl
      cases hd
      exact Or.inl ⟨hkey, hmemoizing⟩
    · rw [List.concat_eq_append, ← List.cons_append, ← List.append_assoc] at hcalls
      obtain ⟨rfl, he⟩ := List.append_inj' hcalls rfl
      cases he
      rw [List.concat_eq_append, List.forall_mem_append] at hsince
      exact Or.inr ⟨hsince.2 c (List.mem_singleton_self c),
        before, d, since, rfl, hkey, hmemoizing, hsince.1⟩
  · rintro (⟨hkey, hmemoizing⟩ | ⟨hc, before, d, since, rfl, hkey, hmemoizing, hsince⟩)
    · exact ⟨calls, c, [], rfl, hkey, hmemoizing, nofun⟩
    · refine ⟨before, d, since ++ [c], List.append_assoc .., hkey, hmemoizing, ?_⟩
      rw [List.forall_mem_append, List.forall_mem_singleton]
      exact ⟨hsince, hc⟩

theorem Recalls.evaluated (h : Recalls calls key) : Evaluated calls key.1 := by
  obtain ⟨before, c, since, rfl, hkey, -, -⟩ := h
  exact ⟨c, List.mem_append_right _ List.mem_cons_self, key.2, hkey⟩

theorem evaluated_concat_iff {text : String} :
    Evaluated (calls ++ [c]) text ↔
      Evaluated calls text ∨ ∃ print, c.key? = some (text, print) := by
  simp only [Evaluated, List.mem_append, List.mem_singleton, or_and_right, exists_or,
    exists_eq_left]

theorem mem_memoized_concat_iff {before : List Call} :
    before ∈ memoized (calls ++ [c]) ↔
      before = calls ∧ c.key?.isSome ∧ memoizing calls = true ∨ before ∈ memoized calls := by
  constructor
  · rintro ⟨d, hprefix, hkey, hmemoizing⟩
    rcases List.prefix_concat_iff.mp hprefix with heq | hprefix
    · obtain ⟨rfl, hd⟩ := List.append_inj' heq rfl
      cases hd
      exact Or.inl ⟨rfl, hkey, hmemoizing⟩
    · exact Or.inr ⟨d, hprefix, hkey, hmemoizing⟩
  · rintro (⟨rfl, hkey, hmemoizing⟩ | ⟨d, hprefix, hkey, hmemoizing⟩)
    · exact ⟨c, List.prefix_rfl, hkey, hmemoizing⟩
    · exact ⟨d, hprefix.trans (List.prefix_append _ _), hkey, hmemoizing⟩

/-- One more call is one more evaluation made while memoizing, or none. -/
theorem encard_memoized_concat (calls : List Call) (c : Call) :
    (memoized (calls ++ [c])).encard =
      (memoized calls).encard + if c.key?.isSome ∧ memoizing calls = true then 1 else 0 := by
  by_cases hcounted : c.key?.isSome ∧ memoizing calls = true
  · -- an evaluation is told by the calls before it, and these are fewer than all calls
    have hfresh : calls ∉ memoized calls := by
      rintro ⟨d, hprefix, -⟩
      have hlength := hprefix.length_le
      rw [List.length_append, List.length_singleton] at hlength
      omega
    have hone : memoized (calls ++ [c]) = insert calls (memoized calls) := by
      ext before
      rw [mem_memoized_concat_iff, Set.mem_insert_iff, and_iff_left hcounted]
    rw [if_pos hcounted, hone, Set.encard_insert_of_notMem hfresh]
  · have hnone : memoized (calls ++ [c]) = memoized calls := by
      ext before
      rw [mem_memoized_concat_iff, or_iff_right fun h => hcounted h.2]
    rw [if_neg hcounted, hnone, add_zero]

end Histories

/-! ### What an evaluation does -/

/-- After computing an answer the text has been read. Results and counters are untouched. -/
theorem compute_effect (text : String) (ctx : Context) (ev : Evaluator) :
    ∃ functions parsed, (compute text ctx ev).2 = { ev with functions := functions, parsed := parsed } ∧
      ∀ t, t ∈ parsed ↔ t = text ∨ t ∈ ev.parsed := by
  have hcompile : ∃ parsed, (Evaluator.compile text ev).2 = { ev with parsed := parsed } ∧
      ∀ t, t ∈ parsed ↔ t = text ∨ t ∈ ev.parsed := by
    rw [Evaluator.compile]
    cases hget : ev.parsed[text]? with
    | some f =>
      have hmem : text ∈ ev.parsed := Std.HashMap.mem_iff_isSome_getElem?.mpr (by rw [hget]; rfl)
      refine ⟨ev.parsed, rfl, fun t => ⟨Or.inr, ?_⟩⟩
      rintro (rfl | ht)
      · exact hmem
      · exact ht
    | none => exact ⟨_, rfl, fun t => mem_insert_iff⟩
  obtain ⟨parsed, hstate, hparsed⟩ := hcompile
  cases hread : Evaluator.compile text ev with
  | mk read after =>
    rw [hread] at hstate
    obtain rfl : after = { ev with parsed := parsed } := hstate
    cases read with
    | ok f =>
      have hcompute : compute text ctx ev = Evaluator.run f ctx { ev with parsed := parsed } := by
        simp only [compute, bind, StateT.bind, hread]
      rw [hcompute]
      exact ⟨_, parsed, rfl, hparsed⟩
    | error e =>
      have hcompute : compute text ctx ev = (.error e, { ev with parsed := parsed }) := by
        simp only [compute, bind, StateT.bind, hread]
        rfl
      rw [hcompute]
      exact ⟨ev.functions, parsed, rfl, hparsed⟩

/-- **All that an evaluation does to an evaluator.** While memoizing, an answer on record is a hit, which
only counts. Any other answer is a miss, which counts and goes on record. Without memoizing nothing is
counted and no record is kept. Where an answer is computed, its text has been read afterwards. -/
theorem Call.perform_cases {c : Call} {key : String × String} (hkey : c.key? = some key)
    (ev : Evaluator) :
    (ev.memoize = true ∧ key ∈ ev.results ∧ c.perform ev = { ev with hits := ev.hits + 1 }) ∨
    ∃ functions parsed, (∀ t, t ∈ parsed ↔ t = key.1 ∨ t ∈ ev.parsed) ∧
      ((ev.memoize = true ∧ key ∉ ev.results ∧ ∃ answer, c.perform ev =
          { ev with functions := functions, parsed := parsed, misses := ev.misses + 1,
                    results := ev.results.insert key answer }) ∨
        (ev.memoize = false ∧ c.perform ev = { ev with functions := functions, parsed := parsed })) := by
  have htry : ∃ ctx, key.2 = ctx.fingerprint ∧ c.perform ev = (tryEvaluate key.1 ctx ev).2 := by
    cases c with
    | answer text ctx =>
      cases hkey
      exact ⟨ctx, rfl, rfl⟩
    | value text ctx =>
      cases hkey
      exact ⟨ctx, rfl, congrArg Prod.snd (evaluateText_eq text ctx ev)⟩
    | clearCache | setMemoize | register => cases hkey
  obtain ⟨text, print⟩ := key
  obtain ⟨ctx, rfl, hperform⟩ := htry
  rw [hperform]
  cases hmemoize : ev.memoize with
  | false =>
    obtain ⟨functions, parsed, hstate, hparsed⟩ := compute_effect text ctx ev
    refine Or.inr ⟨functions, parsed, hparsed, Or.inr ⟨rfl, ?_⟩⟩
    rw [tryEvaluate_of_memoize_eq_false hmemoize, hstate, hmemoize]
  | true =>
    cases hget : ev.results[(text, ctx.fingerprint)]? with
    | some a =>
      refine Or.inl ⟨rfl, ?_, ?_⟩
      · rw [Std.HashMap.mem_iff_isSome_getElem?, hget]
        rfl
      · rw [tryEvaluate_of_hit hmemoize hget, hmemoize]
    | none =>
      obtain ⟨functions, parsed, hstate, hparsed⟩ :=
        compute_effect text ctx { ev with misses := ev.misses + 1 }
      refine Or.inr ⟨functions, parsed, hparsed, Or.inl ⟨rfl, ?_,
        (compute text ctx { ev with misses := ev.misses + 1 }).1, ?_⟩⟩
      · rw [Std.HashMap.mem_iff_isSome_getElem?, hget]
        exact Bool.false_ne_true
      · rw [tryEvaluate_of_miss hmemoize hget, hstate, hmemoize]

/-- A call that evaluates nothing reads no text and counts nothing. -/
theorem Call.perform_of_key?_eq_none {c : Call} (hkey : c.key? = none) (ev : Evaluator) :
    ∃ functions, c.perform ev =
      { ev with functions := functions, memoize := c.switch?.getD ev.memoize,
                results := if c.forgets then ∅ else ev.results } := by
  cases c with
  | answer | value => cases hkey
  | clearCache => exact ⟨ev.functions, rfl⟩
  | setMemoize on =>
    refine ⟨ev.functions, ?_⟩
    cases on <;> rfl
  | register name f => exact ⟨ev.functions.register name f, rfl⟩

/-- An evaluation switches nothing and forgets nothing. -/
theorem Call.inert_of_key?_eq_some {c : Call} {key : String × String} (hkey : c.key? = some key) :
    c.switch? = none ∧ c.forgets = false := by
  cases c with
  | answer | value => exact ⟨rfl, rfl⟩
  | clearCache | setMemoize | register => cases hkey

/-! ### Memory and counters -/

/-- The evaluator keeps what the calls left behind, and has counted the evaluations among them that were
made while memoizing. -/
structure Reflects (ev : Evaluator) (calls : List Call) : Prop where
  memoize : ev.memoize = memoizing calls
  results : ∀ key, key ∈ ev.results ↔ Recalls calls key
  parsed : ∀ text, text ∈ ev.parsed ↔ Evaluated calls text
  counted : ((ev.hits + ev.misses : ℕ) : ℕ∞) = (memoized calls).encard

theorem reflects_ofRegistry (r : Registry) : (ofRegistry r).Reflects [] where
  memoize := rfl
  results key := by
    refine iff_of_false Std.HashMap.not_mem_empty ?_
    rintro ⟨before, c, since, h, -⟩
    exact absurd h.symm (List.append_ne_nil_of_right_ne_nil before (List.cons_ne_nil c since))
  parsed text := by
    refine iff_of_false Std.HashMap.not_mem_empty ?_
    rintro ⟨c, hc, -⟩
    exact absurd hc List.not_mem_nil
  counted := by
    have hnone : memoized [] = ∅ := by
      refine Set.eq_empty_of_forall_notMem ?_
      rintro before ⟨c, hprefix, -⟩
      exact List.concat_ne_nil _ _ (List.prefix_nil.mp hprefix)
    rw [hnone, Set.encard_empty]
    rfl

section Steps

variable {ev : Evaluator} {calls : List Call} {c : Call}

theorem Reflects.perform_of_key?_eq_none (h : ev.Reflects calls) (hkey : c.key? = none) :
    (c.perform ev).Reflects (calls ++ [c]) := by
  obtain ⟨functions, hperform⟩ := c.perform_of_key?_eq_none hkey ev
  have hcounted := encard_memoized_concat calls c
  rw [hkey, if_neg (by simp), add_zero, ← h.counted] at hcounted
  rw [hperform]
  refine ⟨?_, fun key => ?_, fun text => ?_, hcounted.symm⟩
  · rw [memoizing_concat, h.memoize]
  · rw [recalls_concat_iff, hkey, ← h.results]
    cases c.forgets <;> simp
  · rw [evaluated_concat_iff, hkey, ← h.parsed]
    simp

theorem Reflects.perform_of_key?_eq_some (h : ev.Reflects calls) {key : String × String}
    (hkey : c.key? = some key) : (c.perform ev).Reflects (calls ++ [c]) := by
  obtain ⟨hswitch, hforgets⟩ := c.inert_of_key?_eq_some hkey
  have hmemoizing := memoizing_concat calls c
  rw [hswitch, Option.getD_none, ← h.memoize] at hmemoizing
  have hcounted := encard_memoized_concat calls c
  rw [hkey, ← h.memoize, ← h.counted] at hcounted
  have hevaluated : ∀ text, Evaluated (calls ++ [c]) text ↔ text = key.1 ∨ text ∈ ev.parsed := by
    intro text
    rw [evaluated_concat_iff, hkey, ← h.parsed, or_comm]
    refine or_congr_left ⟨?_, ?_⟩
    · rintro ⟨print, heq⟩
      cases heq
      rfl
    · rintro rfl
      exact ⟨key.2, rfl⟩
  have hrecalls : ∀ k, Recalls (calls ++ [c]) k ↔ k = key ∧ ev.memoize = true ∨ k ∈ ev.results := by
    intro k
    rw [recalls_concat_iff, hkey, hforgets, ← h.results, ← h.memoize, Option.some.injEq, eq_comm,
      and_iff_right rfl]
  rcases c.perform_cases hkey ev with ⟨hon, hmem, hperform⟩ |
    ⟨functions, parsed, hparsed, ⟨hon, hnot, answer, hperform⟩ | ⟨hoff, hperform⟩⟩
  · -- an answer on record was evaluated before, and so its text was read
    have hread : key.1 ∈ ev.parsed := (h.parsed _).mpr ((h.results key).mp hmem).evaluated
    rw [if_pos ⟨rfl, hon⟩] at hcounted
    rw [hperform]
    refine ⟨hmemoizing.symm, fun k => ?_, fun text => ?_, ?_⟩
    · rw [hrecalls, or_iff_right_of_imp]
      rintro ⟨rfl, -⟩
      exact hmem
    · rw [hevaluated, or_iff_right_of_imp]
      rintro rfl
      exact hread
    · rw [hcounted]
      push_cast
      ring
  · rw [if_pos ⟨rfl, hon⟩] at hcounted
    rw [hperform]
    refine ⟨hmemoizing.symm, fun k => ?_, fun text => ?_, ?_⟩
    · rw [hrecalls, mem_insert_iff, and_iff_left hon]
    · rw [hevaluated, hparsed]
    · rw [hcounted]
      push_cast
      ring
  · rw [if_neg (by simp [hoff]), add_zero] at hcounted
    rw [hperform]
    refine ⟨hmemoizing.symm, fun k => ?_, fun text => ?_, hcounted.symm⟩
    · rw [hrecalls, hoff]
      simp
    · rw [hevaluated, hparsed]

/-- **One more call.** -/
theorem Reflects.perform (h : ev.Reflects calls) (c : Call) :
    (c.perform ev).Reflects (calls ++ [c]) := by
  cases hkey : c.key? with
  | none => exact h.perform_of_key?_eq_none hkey
  | some key => exact h.perform_of_key?_eq_some hkey

/-- An evaluation while memoizing is a hit if the pair is on record, and else a miss. -/
theorem Call.isHit_or_isMiss {key : String × String} (hkey : c.key? = some key)
    (hon : ev.memoize = true) :
    key ∈ ev.results ∧ c.IsHit ev ∨ key ∉ ev.results ∧ c.IsMiss ev := by
  rcases c.perform_cases hkey ev with ⟨-, hmem, hperform⟩ |
    ⟨functions, parsed, -, ⟨-, hnot, answer, hperform⟩ | ⟨hoff, -⟩⟩
  · refine Or.inl ⟨hmem, ?_⟩
    rw [IsHit, hperform]
    exact ⟨rfl, rfl⟩
  · refine Or.inr ⟨hnot, ?_⟩
    rw [IsMiss, hperform]
    exact ⟨rfl, rfl⟩
  · rw [hoff] at hon
    cases hon

/-- No evaluation is both. -/
theorem Call.IsHit.not_isMiss (h : c.IsHit ev) : ¬ c.IsMiss ev := by
  intro hmiss
  have hboth := h.1.symm.trans hmiss.1
  omega

end Steps

/-- **After any calls** memory and counters are as the calls left them. -/
theorem reflects_afterCalls (r : Registry) (calls : List Call) :
    (afterCalls r calls).Reflects calls := by
  induction calls using List.reverseRecOn with
  | nil => exact reflects_ofRegistry r
  | append_singleton calls c ih =>
    rw [afterCalls, List.foldl_append]
    exact ih.perform c

/-- **What the counters say after any calls.** Hits and misses together are the evaluations made while
memoizing. There are as many results as pairs that are recalled, and as many formulas as texts that were
ever evaluated. A further evaluation while memoizing is a hit exactly if its pair is recalled, and
otherwise it is a miss. -/
theorem stats_afterCalls (r : Registry) (calls : List Call) :
    (((afterCalls r calls).stats.hits + (afterCalls r calls).stats.misses : ℕ) : ℕ∞) =
        (memoized calls).encard ∧
      ((afterCalls r calls).stats.cachedResults : ℕ∞) = {key | Recalls calls key}.encard ∧
      ((afterCalls r calls).stats.parsedFormulas : ℕ∞) = {text | Evaluated calls text}.encard ∧
      ∀ (c : Call) (key : String × String), c.key? = some key → memoizing calls = true →
        (c.IsHit (afterCalls r calls) ↔ Recalls calls key) ∧
          (c.IsMiss (afterCalls r calls) ↔ ¬ Recalls calls key) := by
  have h := reflects_afterCalls r calls
  refine ⟨h.counted, ?_, ?_, fun c key hkey hmemoizing => ?_⟩
  · simp only [← h.results, encard_keys]
    rfl
  · simp only [← h.parsed, encard_keys]
    rfl
  · rw [← h.results]
    rcases Call.isHit_or_isMiss hkey (h.memoize.trans hmemoizing) with ⟨hmem, hhit⟩ | ⟨hnot, hmiss⟩
    · exact ⟨iff_of_true hhit hmem, iff_of_false hhit.not_isMiss (not_not_intro hmem)⟩
    · exact ⟨iff_of_false (fun hhit => hhit.not_isMiss hmiss) hnot, iff_of_true hmiss hnot⟩

/-- The value of a text that is no formula. -/
def halfProduct : Call := .value "2 *" ∅

/-- A failure is recalled until the cache is cleared. -/
theorem stats_afterCalls_halfProduct :
    halfProduct.key? = some ("2 *", Context.fingerprint ∅) ∧
      memoizing [halfProduct] = true ∧ memoizing [halfProduct, .clearCache] = true ∧
      halfProduct.IsHit (afterCalls Registry.builtin [halfProduct]) ∧
      halfProduct.IsMiss (afterCalls Registry.builtin [halfProduct, .clearCache]) := by
  have hrecalls : Recalls [halfProduct] ("2 *", Context.fingerprint ∅) :=
    ⟨[], halfProduct, [], rfl, rfl, rfl, nofun⟩
  have hforgotten : ¬ Recalls ([halfProduct] ++ [.clearCache]) ("2 *", Context.fingerprint ∅) := by
    rw [recalls_concat_iff]
    rintro (⟨hkey, -⟩ | ⟨hforgets, -⟩)
    · cases hkey
    · cases hforgets
  obtain ⟨-, -, -, hfirst⟩ := stats_afterCalls Registry.builtin [halfProduct]
  obtain ⟨-, -, -, hsecond⟩ := stats_afterCalls Registry.builtin [halfProduct, .clearCache]
  exact ⟨rfl, rfl, rfl, (hfirst halfProduct _ rfl rfl).1.mpr hrecalls,
    (hsecond halfProduct _ rfl rfl).2.mpr hforgotten⟩

end Evaluator

end ParametricScene
