import ParametricScene.Parameter
import ParametricScene.Proofs.Delimiting
import ParametricScene.Proofs.Scanning
import ParametricScene.Proofs.Session

/-!
# What formulas see of a stored value

An edit says which value it stored. A defined parameter keeps the value itself, and a bare one keeps
a number or a boolean as it is; formulas then see just what was stored. Of a text or a list a bare
parameter keeps a formula, the quoted text of the value, and what is seen is what that formula comes
to. Quoting knows escapes, while formulas know none and allow no backslash. So the way there and back
is the identity only for texts of plain characters. Any other text is seen as zero, and a list never
comes back as a list.

This file says exactly what is seen, and when it is the stored value. The edited parameter may stand
anywhere among the parameters of a template, whatever surrounds the template, and the evaluator may
have served any session before. Names need not be clean here and functions need not be pure. The
answer to a quoted text depends neither on the context nor on functions, so an answer that is
remembered for another context is right too.

## Main definitions

* `Formula.IsPlain` — texts that come back as they are
* `Parameter.shown` — what formulas see of a stored value
* `Parameter.Shows` — the cases in which they see the value itself
* `Evaluator.Grounded` — what is remembered was the answer for some functions and some context

## Main results

* `Formula.compile_quoted` — how a quoted text reads as a formula
* `Evaluator.Grounded.tryEvaluate` — one evaluation invents no answers
* `Evaluator.get?_bindParameters_of_set` — what is seen after an edit
-/

namespace ParametricScene

namespace Formula

/-! ### Plain text -/

/-- A character that formulas allow and quoted text writes as itself: a letter or digit, the space,
or a mark of formulas other than the quote that ends the text. -/
def isPlainChar (c : Char) : Bool :=
  c.isAlphanum || c == ' ' || (alphabetMarks.contains c && c != '"')

/-- A text that comes back as it is when it is quoted and read as a formula. -/
def IsPlain (s : String) : Prop := s.toList.all isPlainChar = true

instance (s : String) : Decidable (IsPlain s) := inferInstanceAs (Decidable (_ = true))

theorem toNat_lt_of_isAlphanum {c : Char} (h : c.isAlphanum = true) : c.toNat < 128 := by
  have hcode : ((decide (c.val ≥ 'A'.val ∧ c.val ≤ 'Z'.val) ||
      (decide (c.val ≥ 'a'.val) && decide (c.val ≤ 'z'.val))) ||
        (decide (c.val ≥ '0'.val) && decide (c.val ≤ '9'.val))) = true := h
  simp only [Bool.or_eq_true, Bool.and_eq_true, decide_eq_true_eq, ge_iff_le,
    UInt32.le_iff_toNat_le, Char.reduceVal, UInt32.reduceToNat] at hcode
  rw [Char.toNat]
  omega

theorem toNat_lt_of_isPlainChar {c : Char} (h : isPlainChar c = true) : c.toNat < 128 := by
  have hmarks : (alphabetMarks.all fun d => decide (d.toNat < 128)) = true := by decide
  rw [isPlainChar, Bool.or_eq_true, Bool.or_eq_true, Bool.and_eq_true, beq_iff_eq] at h
  rcases h with (h | rfl) | ⟨h, -⟩
  · exact toNat_lt_of_isAlphanum h
  · decide
  · exact of_decide_eq_true (List.all_eq_true.mp hmarks c (List.contains_iff_mem.mp h))

/-- Quoted text writes plain characters as themselves. -/
theorem escapeChar_of_isPlainChar {c : Char} (h : isPlainChar c = true) : escapeChar c = [c] := by
  have hascii : ∀ n : Fin 128, isPlainChar (Char.ofNat n) = true →
      escapeChar (Char.ofNat n) = [Char.ofNat n] := by decide +kernel
  have hcode := hascii ⟨c.toNat, toNat_lt_of_isPlainChar h⟩
  rw [Char.ofNat_toNat] at hcode
  exact hcode h

theorem inAlphabet_of_isPlainChar {c : Char} (h : isPlainChar c = true) : inAlphabet c = true := by
  have hspace : isBlank ' ' = true := by decide
  rw [isPlainChar, Bool.or_eq_true, Bool.or_eq_true, Bool.and_eq_true, beq_iff_eq] at h
  rw [inAlphabet]
  rcases h with (h | rfl) | ⟨h, -⟩
  · rw [h, Bool.true_or, Bool.true_or]
  · rw [hspace, Bool.or_true, Bool.true_or]
  · rw [h, Bool.or_true]

/-- Of the blanks, quoted text writes only the space as itself. -/
theorem slash_mem_escapeChar_of_isBlank {c : Char} (h : isBlank c = true) (hspace : c ≠ ' ') :
    '\\' ∈ escapeChar c := by
  have hshows : showsAsItself c = false := by simp [showsAsItself, h, hspace]
  simp only [escapeChar, hshows, Bool.false_eq_true, if_false]
  split_ifs <;> simp

/-- Quoting any other character gives one that no formula has. -/
theorem exists_mem_escapeChar_of_not_isPlainChar {c : Char} (h : isPlainChar c = false) :
    ∃ d ∈ escapeChar c, inAlphabet d = false := by
  have hslash : inAlphabet '\\' = false := by decide
  rw [isPlainChar, Bool.or_eq_false_iff, Bool.or_eq_false_iff, beq_eq_false_iff_ne] at h
  obtain ⟨⟨hletter, hspace⟩, hmark⟩ := h
  cases hblank : isBlank c with
  | true => exact ⟨'\\', slash_mem_escapeChar_of_isBlank hblank hspace, hslash⟩
  | false =>
    rcases escapeChar_cases c with ⟨d, -, he⟩ | ⟨he, hquote, -⟩ | he
    · exact ⟨'\\', by simp [he], hslash⟩
    · refine ⟨c, by simp [he], ?_⟩
      have hmarks : alphabetMarks.contains c = false := by simpa [hquote] using hmark
      rw [inAlphabet, hletter, hblank, hmarks]
      rfl
    · exact ⟨'\\', by simp [he], hslash⟩

theorem flatMap_escapeChar_of_isPlain {s : String} (h : IsPlain s) :
    s.toList.flatMap escapeChar = s.toList := by
  rw [IsPlain, List.all_eq_true] at h
  rw [List.flatMap_congr fun c hc => escapeChar_of_isPlainChar (h c hc), List.flatMap_singleton']

/-- The quoted text of plain text keeps to the alphabet of formulas. No other quoted text does. -/
theorem all_inAlphabet_quoted (s : String) :
    (quoted s).toList.all inAlphabet = s.toList.all isPlainChar := by
  have hquote : inAlphabet '"' = true := by decide
  rw [toList_quoted, quotedChars, List.all_cons, List.all_append, hquote, Bool.true_and,
    List.all_cons, hquote, List.all_nil, Bool.and_true, Bool.and_true, List.all_flatMap]
  refine List.all_congr rfl fun c => ?_
  cases hplain : isPlainChar c with
  | true =>
    rw [escapeChar_of_isPlainChar hplain]
    simp [inAlphabet_of_isPlainChar hplain]
  | false =>
    obtain ⟨d, hd, hout⟩ := exists_mem_escapeChar_of_not_isPlainChar hplain
    exact List.all_eq_false.mpr ⟨d, hd, by rw [hout]; exact Bool.false_ne_true⟩

/-- **How a quoted text reads as a formula.** Plain text reads as that text, and any other is refused
for its characters. -/
theorem compile_quoted (s : String) : compile (quoted s) =
    if IsPlain s then .ok (.text s) else .error (.unsafeCharacters (quoted s)) := by
  by_cases hplain : IsPlain s
  · have hword : (Word.quoted '"' s).Proper := by
      refine ⟨by decide, fun hquote => ?_⟩
      rw [IsPlain, List.all_eq_true] at hplain
      exact absurd (hplain _ hquote) (by decide)
    have hchars : (quoted s).toList = (Word.quoted '"' s).chars := by
      rw [toList_quoted, quotedChars, flatMap_escapeChar_of_isPlain hplain]
      rfl
    have hends : (Word.quoted '"' s).Ends [] := fun _ h => by simp at h
    have hread := hword.read? hends
    rw [List.append_nil] at hread
    have hwords : Token.readAll? (quoted s).toList = some [.text s] := by
      rw [hchars, readAll?_of_read? rfl hread, readAll?_of_dropWhile_nil rfl]
      rfl
    rw [if_pos hplain]
    exact compile_of_readAll? ((all_inAlphabet_quoted s).trans hplain) hwords rfl
  · have hrefused : ¬(quoted s).toList.all inAlphabet = true := fun h =>
      hplain ((all_inAlphabet_quoted s).symm.trans h)
    rw [if_neg hplain, compile, checkAlphabet, if_neg hrefused]
    rfl

end Formula

namespace Evaluator

/-! ### Answers that are not invented -/

/-- What is remembered of a formula is how its text reads, and what is remembered as the answer to a
text was the answer for some functions in some context. -/
structure Grounded (ev : Evaluator) : Prop where
  reads : ev.ReadsTruly
  results : ∀ (text print : String) (answer : Answer), ev.results[(text, print)]? = some answer →
    ∃ r ctx, answer = answerOf r text ctx

theorem grounded_ofRegistry (r : Registry) : (ofRegistry r).Grounded :=
  ⟨fun _ _ h => by simp [ofRegistry] at h, fun _ _ _ h => by simp [ofRegistry] at h⟩

namespace Grounded

variable {ev : Evaluator}

theorem compute (h : ev.Grounded) (text : String) (ctx : Context) :
    (Evaluator.compute text ctx ev).1 = answerOf ev.functions text ctx ∧
      (Evaluator.compute text ctx ev).2.Grounded := by
  obtain ⟨parsed, hcompute, hreads⟩ := h.reads.compute text ctx
  rw [hcompute]
  exact ⟨rfl, hreads, h.results⟩

/-- **One evaluation invents no answers**: neither the one that it gives nor any that is remembered
afterwards. -/
theorem tryEvaluate (h : ev.Grounded) (text : String) (ctx : Context) :
    (∃ r ctx', (Evaluator.tryEvaluate text ctx ev).1 = answerOf r text ctx') ∧
      (Evaluator.tryEvaluate text ctx ev).2.Grounded := by
  cases hmemoize : ev.memoize with
  | false =>
    rw [tryEvaluate_of_memoize_eq_false hmemoize]
    obtain ⟨hanswer, hgrounded⟩ := h.compute text ctx
    exact ⟨⟨_, _, hanswer⟩, hgrounded⟩
  | true =>
    cases hget : ev.results[(text, ctx.fingerprint)]? with
    | some answer =>
      rw [tryEvaluate_of_hit hmemoize hget]
      exact ⟨h.results text _ answer hget, h.reads, h.results⟩
    | none =>
      have hmiss : ({ ev with misses := ev.misses + 1 } : Evaluator).Grounded :=
        ⟨h.reads, h.results⟩
      obtain ⟨hanswer, hgrounded⟩ := hmiss.compute text ctx
      rw [tryEvaluate_of_miss hmemoize hget]
      refine ⟨⟨_, _, hanswer⟩, hgrounded.reads, fun text' print answer' hget' => ?_⟩
      rw [Std.HashMap.getElem?_insert] at hget'
      split at hget'
      · rename_i heq
        obtain ⟨rfl, -⟩ := Prod.mk.inj (eq_of_beq heq)
        exact ⟨_, _, (Option.some.inj hget').symm.trans hanswer⟩
      · exact hgrounded.results text' print answer' hget'

theorem evaluateText (h : ev.Grounded) (text : String) (ctx : Context) :
    (∃ r ctx', (Evaluator.evaluateText text ctx ev).1 = (match answerOf r text ctx' with
      | .ok v => v
      | .error _ => Value.zero)) ∧
      (Evaluator.evaluateText text ctx ev).2.Grounded := by
  obtain ⟨⟨r, ctx', hanswer⟩, hgrounded⟩ := h.tryEvaluate text ctx
  rw [evaluateText_eq, hanswer]
  exact ⟨⟨r, ctx', rfl⟩, hgrounded⟩

theorem clearCache (h : ev.Grounded) : ev.clearCache.Grounded :=
  ⟨h.reads, fun _ _ _ hget => by simp [Evaluator.clearCache] at hget⟩

theorem setMemoize (h : ev.Grounded) (on : Bool) : (ev.setMemoize on).Grounded := by
  refine ⟨h.reads, fun text print answer hget => ?_⟩
  cases on with
  | true => exact h.results text print answer hget
  | false => simp [Evaluator.setMemoize] at hget

theorem register (h : ev.Grounded) (name : String) (f : Function) :
    (ev.register name f).Grounded :=
  ⟨h.reads, fun _ _ _ hget => by simp [Evaluator.register] at hget⟩

/-- One request of a session. -/
theorem serve (h : ev.Grounded) (q : Request) : (Evaluator.serve q ev).2.Grounded := by
  cases q with
  | answer text ctx => exact (h.tryEvaluate text ctx).2
  | value text ctx => exact (h.evaluateText text ctx).2
  | clearCache => exact h.clearCache
  | setMemoize on => exact h.setMemoize on
  | register name apply => exact h.register name (.pure apply)

/-- A session invents no answers. -/
theorem session (h : ev.Grounded) (requests : List Request) :
    (Evaluator.session requests ev).2.Grounded := by
  induction requests generalizing ev with
  | nil => exact h
  | cons q rest ih =>
    rw [session_cons]
    exact ih (h.serve q)

theorem parameterValue (h : ev.Grounded) (p : Parameter) (ctx : Context) :
    (Evaluator.parameterValue p ctx ev).2.Grounded := by
  cases p with
  | defined d => exact h
  | bare source =>
    cases source with
    | number n => exact h
    | boolean b => exact h
    | formula text => exact (h.evaluateText text ctx).2

end Grounded

end Evaluator

/-! ### Stored values -/

namespace Parameter

/-- What formulas see of a text that a bare parameter keeps. -/
def shownText (s : String) : Value := if Formula.IsPlain s then .text s else .zero

/-- What formulas see of a value that an edit stored in the parameter. -/
def shown : Parameter → Value → Value
  | .bare _, .text s => shownText s
  | .bare _, .list items => shownText (Value.list items).display
  | _, v => v

/-- Formulas see the very value that an edit stored in the parameter. -/
def Shows : Parameter → Value → Prop
  | .bare _, .text s => Formula.IsPlain s
  | .bare _, .list _ => False
  | _, _ => True

theorem shown_eq_iff (p : Parameter) (v : Value) : p.shown v = v ↔ p.Shows v := by
  cases p with
  | defined d => cases v <;> exact iff_of_true rfl trivial
  | bare source =>
    cases v with
    | number n => exact iff_of_true rfl trivial
    | boolean b => exact iff_of_true rfl trivial
    | text s =>
      rw [shown, Shows, shownText]
      by_cases hplain : Formula.IsPlain s
      · rw [if_pos hplain]
        exact iff_of_true rfl hplain
      · rw [if_neg hplain]
        exact iff_of_false (fun h => Value.noConfusion h) hplain
    | list items =>
      rw [shown, Shows, shownText]
      refine iff_of_false (fun h => ?_) id
      split at h <;> exact Value.noConfusion h

end Parameter

namespace Evaluator

variable {ev : Evaluator}

/-- A quoted text comes to one value on every evaluator that invents no answers. -/
theorem Grounded.evaluateText_quoted (h : ev.Grounded) (s : String) (ctx : Context) :
    (Evaluator.evaluateText (quoted s) ctx ev).1 = Parameter.shownText s := by
  obtain ⟨⟨r, ctx', hvalue⟩, -⟩ := h.evaluateText (quoted s) ctx
  rw [hvalue, answerOf, Formula.compile_quoted, Parameter.shownText]
  by_cases hplain : Formula.IsPlain s
  · rw [if_pos hplain, if_pos hplain]
    rfl
  · rw [if_neg hplain, if_neg hplain]

/-- The value of an edited parameter. -/
theorem Grounded.parameterValue_of_set (h : ev.Grounded) {p p' : Parameter} {v stored : Value}
    (hset : p.set v = .ok (p', stored)) (ctx : Context) :
    (Evaluator.parameterValue p' ctx ev).1 = p.shown stored := by
  cases p with
  | defined d =>
    have hshown : (Parameter.defined d).shown stored = stored := by cases stored <;> rfl
    rw [Parameter.set] at hset
    cases haccept : d.accept v with
    | error e =>
      rw [haccept] at hset
      cases hset
    | ok w =>
      rw [haccept] at hset
      obtain ⟨rfl, rfl⟩ := Prod.mk.inj (Except.ok.inj hset)
      rw [hshown]
      rfl
  | bare source =>
    obtain ⟨rfl, rfl⟩ := Prod.mk.inj (Except.ok.inj hset)
    cases v with
    | number n => rfl
    | boolean b => rfl
    | text s => exact h.evaluateText_quoted s ctx
    | list items => exact h.evaluateText_quoted _ ctx

/-! ### Binding parameters -/

theorem bindParameters_cons (name : String) (p : Parameter) (rest : List (String × Parameter))
    (ctx : Context) (ev : Evaluator) : bindParameters ((name, p) :: rest) ctx ev =
      bindParameters rest (ctx.insert name (parameterValue p ctx ev).1)
        (parameterValue p ctx ev).2 := rfl

/-- Binding parameters changes no other name. -/
theorem get?_bindParameters_of_not_mem {ps : List (String × Parameter)} {name : String}
    (h : name ∉ ps.map Prod.fst) (ctx : Context) (ev : Evaluator) :
    (bindParameters ps ctx ev).1.get? name = ctx.get? name := by
  induction ps generalizing ctx ev with
  | nil => rfl
  | cons e rest ih =>
    obtain ⟨name', p⟩ := e
    obtain ⟨hne, hrest⟩ := List.ne_and_not_mem_of_not_mem_cons h
    rw [bindParameters_cons, ih hrest, OrderedMap.get?_insert_of_ne _ _ hne]

/-- A parameter that has the same value everywhere has it after binding, wherever it stands. -/
theorem Grounded.get?_bindParameters (h : ev.Grounded) {ps : List (String × Parameter)}
    (hnodup : (ps.map Prod.fst).Nodup) {name : String} {p : Parameter} (hp : (name, p) ∈ ps)
    {v : Value}
    (hv : ∀ (ev : Evaluator) ctx, ev.Grounded → (Evaluator.parameterValue p ctx ev).1 = v)
    (ctx : Context) : (bindParameters ps ctx ev).1.get? name = some v := by
  induction ps generalizing ctx ev with
  | nil => exact absurd hp List.not_mem_nil
  | cons e rest ih =>
    obtain ⟨name', p'⟩ := e
    obtain ⟨hnot, hrest⟩ := List.nodup_cons.mp hnodup
    rw [bindParameters_cons]
    rcases List.mem_cons.mp hp with heq | hp
    · obtain ⟨rfl, rfl⟩ := Prod.mk.inj heq
      rw [get?_bindParameters_of_not_mem hnot, OrderedMap.get?_insert_self, hv ev ctx h]
    · exact ih (h.parameterValue p' ctx) hrest hp _

/-- **What is seen after an edit.** If an edit of a parameter is accepted, and the edited parameter
stands under some name among the parameters of a template, then in every context that surrounds the
template the name is bound to what is shown of the stored value. That is the stored value itself
just in the cases of `Parameter.Shows`: not for a list in a bare parameter, and not for a text in a
bare parameter that is not plain. The evaluator may have served any session before. -/
theorem get?_bindParameters_of_set (r : Registry) (requests : List Request)
    (parameters : OrderedMap Parameter) (surroundings : Context) (name : String)
    (p p' : Parameter) (v stored : Value) (hset : p.set v = .ok (p', stored))
    (hp : parameters.get? name = some p') :
    (bindParameters parameters.entries surroundings
        (session requests (ofRegistry r)).2).1.get? name = some (p.shown stored) ∧
      (p.shown stored = stored ↔ p.Shows stored) := by
  have hgrounded := (grounded_ofRegistry r).session requests
  exact ⟨hgrounded.get?_bindParameters parameters.nodup (OrderedMap.get?_eq_some_iff.mp hp)
    (fun _ ctx hev => hev.parameterValue_of_set hset ctx) surroundings, p.shown_eq_iff stored⟩

/-! ### A label -/

/-- A label without a text. -/
def blankLabel : Parameter := .bare (.formula "''")

/-- What a template has for parameters after a text was stored in its label. -/
def labelled (s : String) : OrderedMap Parameter :=
  OrderedMap.insert ∅ "label" (.bare (Parameter.sourceOf (.text s)))

/-- A plain label is seen as it was stored, also where the label was asked for before. -/
theorem get?_bindParameters_of_set_label :
    blankLabel.set (.text "oak, 5 mm") =
        .ok (.bare (Parameter.sourceOf (.text "oak, 5 mm")), .text "oak, 5 mm") ∧
      (labelled "oak, 5 mm").get? "label" =
        some (.bare (Parameter.sourceOf (.text "oak, 5 mm"))) ∧
      (bindParameters (labelled "oak, 5 mm").entries ∅
          (session [.value "$label" ∅, .setMemoize false] (ofRegistry Registry.builtin)).2).1.get?
        "label" = some (.text "oak, 5 mm") := by
  obtain ⟨hseen, hsame⟩ := get?_bindParameters_of_set Registry.builtin
    [.value "$label" ∅, .setMemoize false] (labelled "oak, 5 mm") ∅ "label" blankLabel _
    (.text "oak, 5 mm") _ rfl rfl
  have hplain : blankLabel.Shows (.text "oak, 5 mm") := by
    rw [blankLabel, Parameter.Shows]
    decide
  rw [hsame.mpr hplain] at hseen
  exact ⟨rfl, rfl, hseen⟩

/-- **A text with a quote in it is lost.** An edit stores it, as the edit says, and a new evaluator
binds the label to zero. -/
theorem get?_bindParameters_label_ne :
    blankLabel.set (.text "5\" pipe") =
        .ok (.bare (Parameter.sourceOf (.text "5\" pipe")), .text "5\" pipe") ∧
      (bindParameters (labelled "5\" pipe").entries ∅ Evaluator.new).1.get? "label" =
        some .zero ∧
      Value.zero ≠ .text "5\" pipe" := by
  have hnew : Evaluator.new.Grounded := grounded_ofRegistry Registry.builtin
  have hplain : ¬Formula.IsPlain "5\" pipe" := by decide
  have hvalue : (evaluateText (quoted "5\" pipe") ∅ Evaluator.new).1 = .zero := by
    rw [hnew.evaluateText_quoted, Parameter.shownText, if_neg hplain]
  refine ⟨rfl, ?_, fun h => Value.noConfusion h⟩
  have hbound : (bindParameters (labelled "5\" pipe").entries ∅ Evaluator.new).1 =
      OrderedMap.insert ∅ "label" (evaluateText (quoted "5\" pipe") ∅ Evaluator.new).1 := rfl
  rw [hbound, OrderedMap.get?_insert_self, hvalue]

end Evaluator

end ParametricScene
