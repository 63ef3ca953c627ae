import ParametricScene.Proofs.Editing

/-!
# Edits that are refused

An edit of a parameter can be refused for three reasons, and the first one that applies is given: no
template is registered at the path, the template declares no parameter of the name, or the definition
of the parameter does not take the value. Here the reasons are said without the order in which they are
looked for, as conditions of which at most one holds, and shown to be exactly what edits are refused for.

What is refused leaves no trace. The scene with all it holds is the one from before the edit, so in a
history of edits those that were turned down can be struck out: the others are answered as before and
lead to the same scene.

## Implementation notes

Nothing is assumed of the scene. A bare parameter takes every value, so it is never the reason for a
refusal, and building a template again is turned down only where there is none.

## Main definitions

* `ParameterDefinition.Refuses` — why a definition does not take a value
* `Scene.Refuses` — why a scene refuses an edit of a parameter
* `Scene.turnsDown` — whether the answer to an edit is that nothing was done
* `Scene.heeded` — the edits of a history that were not turned down

## Main results

* `ParameterDefinition.accept_eq_error_iff` — the reasons of a definition
* `Scene.setParameter_eq_error_iff`, `Scene.regenerate_eq_false_iff` — what is refused, and that it
  changes nothing
* `Scene.run_heeded` — what was turned down can be struck out
-/

namespace ParametricScene

/-! ### Definitions -/

namespace ParameterDefinition

variable {d : ParameterDefinition} {v : Value} {cause : EditError}

/-- The definition does not take the value, for a reason. -/
inductive Refuses (d : ParameterDefinition) : Value → EditError → Prop where
  | notANumber {v : Value} (hkind : d.kind = .number ∨ d.kind = .integer)
      (hv : ∀ n, v ≠ .number n) : Refuses d v (.notANumber v.typeName)
  | notFinite {n : Float} (hkind : d.kind = .number ∨ d.kind = .integer)
      (hn : n.isFinite = false) : Refuses d (.number n) .notFinite
  | notAnOptionName {v : Value} (hkind : d.kind = .choice) (hv : ∀ s, v ≠ .text s) :
      Refuses d v (.notAnOptionName v.typeName)
  | notAnOption {s : String} (hkind : d.kind = .choice) (hoptions : d.options ≠ [])
      (hs : s ∉ d.options) : Refuses d (.text s) (.notAnOption s d.options)
  | notABoolean {v : Value} (hkind : d.kind = .boolean) (hv : ∀ b, v ≠ .boolean b) :
      Refuses d v (.notABoolean v.typeName)

theorem refuses_of_accept (h : d.accept v = .error cause) : d.Refuses v cause := by
  cases hkind : d.kind with
  | number | integer =>
    have hnumeric : d.kind = .number ∨ d.kind = .integer := by simp [hkind]
    cases v with
    | number n =>
      simp only [accept, hkind] at h
      split at h
      · cases h
      · rename_i hn
        cases h
        exact .notFinite hnumeric (eq_false_of_ne_true hn)
    | boolean _ | text _ | list _ =>
      simp only [accept, hkind] at h
      cases h
      exact .notANumber hnumeric (by simp)
  | choice =>
    cases v with
    | text s =>
      simp only [accept, hkind] at h
      split at h
      · cases h
      · rename_i hs
        cases h
        rw [Bool.or_eq_true, not_or, List.isEmpty_iff, List.contains_iff_mem] at hs
        exact .notAnOption hkind hs.1 hs.2
    | number _ | boolean _ | list _ =>
      simp only [accept, hkind] at h
      cases h
      exact .notAnOptionName hkind (by simp)
  | boolean =>
    cases v with
    | boolean b => simp [accept, hkind] at h
    | number _ | text _ | list _ =>
      simp only [accept, hkind] at h
      cases h
      exact .notABoolean hkind (by simp)
  | other => simp [accept, hkind] at h

theorem Refuses.accept_eq (h : d.Refuses v cause) : d.accept v = .error cause := by
  cases h with
  | notANumber hkind hv =>
    cases v with
    | number n => exact absurd rfl (hv n)
    | boolean _ | text _ | list _ => rcases hkind with hkind | hkind <;> simp only [accept, hkind]
  | notFinite hkind hn =>
    rcases hkind with hkind | hkind <;> simp only [accept, hkind, hn, Bool.false_eq_true, if_false]
  | notAnOptionName hkind hv =>
    cases v with
    | text s => exact absurd rfl (hv s)
    | number _ | boolean _ | list _ => simp only [accept, hkind]
  | notAnOption hkind hoptions hs =>
    simp only [accept, hkind]
    rw [if_neg]
    rw [Bool.or_eq_true, not_or, List.isEmpty_iff, List.contains_iff_mem]
    exact ⟨hoptions, hs⟩
  | notABoolean hkind hv =>
    cases v with
    | boolean b => exact absurd rfl (hv b)
    | number _ | text _ | list _ => simp only [accept, hkind]

/-- **The reasons of a definition** are the only ones for which a value is not taken. -/
theorem accept_eq_error_iff : d.accept v = .error cause ↔ d.Refuses v cause :=
  ⟨refuses_of_accept, Refuses.accept_eq⟩

end ParameterDefinition

/-- A definition alone can refuse a value. -/
theorem Parameter.set_eq_error_iff {p : Parameter} {v : Value} {cause : EditError} :
    p.set v = .error cause ↔ ∃ d, p = .defined d ∧ d.Refuses v cause := by
  cases p with
  | bare source => simp [set]
  | defined d =>
    simp only [set, defined.injEq, exists_eq_left', ← ParameterDefinition.accept_eq_error_iff]
    cases d.accept v <;> simp

/-! ### Scenes -/

namespace Scene

variable {G M : Type} {s s' : Scene G M} {path name : String} {v : Value} {e : SchemaError}

/-- The scene refuses to give the parameter the value, for a reason. -/
inductive Refuses (s : Scene G M) (path name : String) (v : Value) : SchemaError → Prop where
  | unknownTemplate (htemplate : path ∉ s.templates.keys) :
      Refuses s path name v (.unknownTemplate path)
  | unknownParameter {entry : TemplateEntry} (hentry : s.templates.get? path = some entry)
      (hparameter : name ∉ entry.template.parameters.keys) :
      Refuses s path name v (.unknownParameter path name)
  | invalidParameterValue {entry : TemplateEntry} {d : ParameterDefinition} {cause : EditError}
      (hentry : s.templates.get? path = some entry)
      (hdefined : entry.template.parameters.get? name = some (.defined d))
      (hcause : d.Refuses v cause) :
      Refuses s path name v (.invalidParameterValue name cause)

variable [GeometryFactory G] [MaterialCache M]

/-- **An edit of a parameter is refused for the reasons there are**, and then changes nothing. -/
theorem setParameter_eq_error_iff :
    s.setParameter path name v = (.error e, s') ↔ s.Refuses path name v e ∧ s' = s := by
  constructor
  · intro h
    cases hentry : s.templates.get? path with
    | none =>
      simp only [setParameter, hentry, Prod.mk.injEq, Except.error.injEq] at h
      obtain ⟨rfl, rfl⟩ := h
      exact ⟨.unknownTemplate (OrderedMap.get?_eq_none_iff.mp hentry), rfl⟩
    | some entry =>
      cases hp : entry.template.parameters.get? name with
      | none =>
        simp only [setParameter, hentry, hp, Prod.mk.injEq, Except.error.injEq] at h
        obtain ⟨rfl, rfl⟩ := h
        exact ⟨.unknownParameter hentry (OrderedMap.get?_eq_none_iff.mp hp), rfl⟩
      | some p =>
        cases hset : p.set v with
        | ok accepted => simp [setParameter, hentry, hp, hset] at h
        | error cause =>
          simp only [setParameter, hentry, hp, hset, Prod.mk.injEq, Except.error.injEq] at h
          obtain ⟨rfl, rfl⟩ := h
          obtain ⟨d, rfl, hcause⟩ := Parameter.set_eq_error_iff.mp hset
          exact ⟨.invalidParameterValue hentry hp hcause, rfl⟩
  · rintro ⟨hrefuses, rfl⟩
    cases hrefuses with
    | unknownTemplate htemplate =>
      simp only [setParameter, OrderedMap.get?_eq_none_iff.mpr htemplate]
    | unknownParameter hentry hparameter =>
      simp only [setParameter, hentry, OrderedMap.get?_eq_none_iff.mpr hparameter]
    | invalidParameterValue hentry hdefined hcause =>
      simp only [setParameter, hentry, hdefined,
        Parameter.set_eq_error_iff.mpr ⟨_, rfl, hcause⟩]

/-- No two reasons hold at once. -/
theorem Refuses.eq {e' : SchemaError} (h : s.Refuses path name v e) (h' : s.Refuses path name v e') :
    e = e' := by
  have hanswer := setParameter_eq_error_iff.mpr ⟨h, rfl⟩
  have hanswer' := setParameter_eq_error_iff.mpr ⟨h', rfl⟩
  rw [hanswer] at hanswer'
  exact Except.error.inj (Prod.mk.inj hanswer').1

/-- **Building again is turned down where there is no template**, and then changes nothing. -/
theorem regenerate_eq_false_iff :
    s.regenerate path = (false, s') ↔ path ∉ s.templates.keys ∧ s' = s := by
  rw [← OrderedMap.get?_eq_none_iff]
  cases hentry : s.templates.get? path with
  | none => simp [regenerate, hentry, eq_comm]
  | some entry => simp [regenerate, hentry]

/-! ### Histories -/

/-- The answer to the edit is that nothing was done. -/
def turnsDown (s : Scene G M) : SceneEdit → Bool
  | .regenerate path => !(s.regenerate path).1
  | .setParameter path name v => !(s.setParameter path name v).1.isOk

/-- The edits that are not turned down, when the edits are made one after another. -/
def heeded (s : Scene G M) : List SceneEdit → List SceneEdit
  | [] => []
  | e :: es => if s.turnsDown e then s.heeded es else e :: (s.apply e).heeded es

/-- **An edit that is turned down leaves no trace.** -/
theorem apply_of_turnsDown {e : SceneEdit} (h : s.turnsDown e = true) : s.apply e = s := by
  cases e with
  | regenerate path =>
    rw [turnsDown, Bool.not_eq_true'] at h
    exact (regenerate_eq_false_iff.mp (Prod.ext h rfl)).2
  | setParameter path name v =>
    rw [turnsDown] at h
    cases hanswer : (s.setParameter path name v).1 with
    | ok violations => simp [hanswer, Except.isOk, Except.toBool] at h
    | error e => exact (setParameter_eq_error_iff.mp (Prod.ext hanswer rfl)).2

/-- **What was turned down can be struck out.** -/
theorem run_heeded (s : Scene G M) (es : List SceneEdit) : s.run (s.heeded es) = s.run es := by
  induction es generalizing s with
  | nil => rfl
  | cons e es ih =>
    rw [heeded]
    split
    · rename_i hdown
      rw [ih, run, run, List.foldl_cons, apply_of_turnsDown hdown]
    · exact ih (s.apply e)

/-- **What is refused leaves no trace.** An edit of a parameter is refused exactly for the reasons there
are, building again is turned down exactly where there is no template, the scene is then the one from
before, and so what was turned down in a history of edits can be struck out. -/
theorem refused_edits_leave_no_trace (s : Scene G M) :
    (∀ path name v e s',
      s.setParameter path name v = (.error e, s') ↔ s.Refuses path name v e ∧ s' = s) ∧
      (∀ path s', s.regenerate path = (false, s') ↔ path ∉ s.templates.keys ∧ s' = s) ∧
      ∀ es, s.run (s.heeded es) = s.run es := by
  refine ⟨?_, ?_, s.run_heeded⟩
  · intro path name v e s'
    exact setParameter_eq_error_iff
  · intro path s'
    exact regenerate_eq_false_iff

end Scene

end ParametricScene
