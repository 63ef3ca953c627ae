import ParametricScene.Proofs.Acceptance
import ParametricScene.Proofs.Amending
import ParametricScene.Proofs.Ordering
import ParametricScene.Proofs.Refusal

/-!
# What an edit leaves behind

An edit is refused for the reasons that its definition has, and then changes nothing, neither in the
scene that it is made in nor in a template that is built with it. One that is taken changes the value of
the definition and nothing else, and what is stored conforms to the definition: it is of its kind,
within its bounds and among its options.

There is one exception. A number is rounded before it is clamped, so a bound is stored as it is, also
where it is no number of the kind: for whole numbers, a bound with a fraction. Such a bound is all that
gets past the kind, and even then both bounds are kept.

The bounds have to be in order, where there are two. One that is NaN bounds nothing.

## Main definitions

* `ParameterDefinition.Within` — the numbers between the bounds
* `ParameterDefinition.Conforms` — the values a definition describes
* `ParameterDefinition.IsStrayBound` — the exception

## Main results

* `ParameterDefinition.within_clampNumber` — a clamped number is between the bounds
* `Parameter.conforms_of_set` — the contract
-/

namespace ParametricScene

namespace ParameterDefinition

variable {d : ParameterDefinition}

/-! ### Bounds -/

/-- The bounds are in order, where there are two. -/
def BoundsOrdered (d : ParameterDefinition) : Prop :=
  ∀ low high, d.min = some low → d.max = some high → low ≤ high

/-- The number is between the bounds. One that is NaN bounds nothing. -/
def Within (d : ParameterDefinition) (n : Float) : Prop :=
  (∀ low, d.min = some low → low.isNaN = false → low ≤ n) ∧
    ∀ high, d.max = some high → high.isNaN = false → n ≤ high

/-- **A clamped number is between the bounds.** -/
theorem within_clampNumber (horder : d.BoundsOrdered) {n : Float} (h : n.isNaN = false) :
    d.Within (d.clampNumber n) := by
  rw [Within, clampNumber]
  cases hmin : d.min with
  | none =>
    cases hmax : d.max with
    | none =>
      constructor
      · rintro _ ⟨⟩
      · rintro _ ⟨⟩
    | some high =>
      constructor
      · rintro _ ⟨⟩
      · rintro _ ⟨⟩ hhigh
        exact Double.smaller_le h hhigh
  | some low =>
    cases hmax : d.max with
    | none =>
      constructor
      · rintro _ ⟨⟩ hlow
        exact Double.le_larger h hlow
      · rintro _ ⟨⟩
    | some high =>
      have hle := horder low high hmin hmax
      obtain ⟨hlow, hhigh⟩ := Double.not_isNaN_of_le hle
      have hraised : (Double.larger n low).isNaN = false := by
        rcases Double.larger_eq_or n low with heq | heq
        · rw [heq]
          exact h
        · rw [heq]
          exact hlow
      constructor
      · rintro _ ⟨⟩ -
        show low ≤ Double.smaller (Double.larger n low) high
        rcases Double.smaller_eq_or (Double.larger n low) high with heq | heq
        · rw [heq]
          exact Double.le_larger h hlow
        · rw [heq]
          exact hle
      · rintro _ ⟨⟩ -
        exact Double.smaller_le hraised hhigh

/-! ### Conforming values -/

/-- The value is one that the definition describes. -/
def Conforms (d : ParameterDefinition) (v : Value) : Prop :=
  match d.kind, v with
  | .number, .number n | .integer, .number n => d.kind.Takes n ∧ d.Within n
  | .choice, .text s => d.options = [] ∨ s ∈ d.options
  | .boolean, .boolean _ => True
  | .other, _ => True
  | _, _ => False

/-- The value is a bound that is itself no number of the kind. -/
def IsStrayBound (d : ParameterDefinition) (v : Value) : Prop :=
  (d.kind = .number ∨ d.kind = .integer) ∧
    ∃ bound, v = .number bound ∧ (d.min = some bound ∨ d.max = some bound) ∧ ¬d.kind.Takes bound ∧
      d.Within bound

/-- **What is stored conforms**, or is a bound that is itself no number of the kind. -/
theorem conforms_of_accept (horder : d.BoundsOrdered) {v stored : Value}
    (h : d.accept v = .ok stored) : d.Conforms stored ∨ d.IsStrayBound stored := by
  cases hkind : d.kind with
  | number | integer =>
    have hnumeric : d.kind = .number ∨ d.kind = .integer := by simp [hkind]
    obtain ⟨n, htakes, rfl⟩ := exists_clamped_of_accept hnumeric h
    have hwithin := within_clampNumber horder (Double.isNaN_of_isFinite htakes.isFinite)
    by_cases hstored : d.kind.Takes (d.clampNumber n)
    · left
      simp only [Conforms, hkind]
      exact ⟨hkind ▸ hstored, hwithin⟩
    · refine Or.inr ⟨hnumeric, d.clampNumber n, rfl, ?_, hstored, hwithin⟩
      refine (d.clampNumber_eq_or n).resolve_left fun heq => hstored ?_
      rw [heq]
      exact htakes
  | choice =>
    left
    cases v with
    | text s =>
      simp only [accept, hkind] at h
      split at h
      · rename_i hoption
        obtain rfl := Except.ok.inj h
        simpa [Conforms, hkind] using hoption
      · cases h
    | number _ | boolean _ | list _ => simp [accept, hkind] at h
  | boolean =>
    left
    cases v with
    | boolean b =>
      simp only [accept, hkind] at h
      obtain rfl := Except.ok.inj h
      simp [Conforms, hkind]
    | number _ | text _ | list _ => simp [accept, hkind] at h
  | other =>
    left
    simp [Conforms, hkind]

end ParameterDefinition

namespace Parameter

open ParameterDefinition

variable {G M : Type} [GeometryFactory G] [MaterialCache M] {d : ParameterDefinition} {v : Value}
  {cause : EditError}

/-- A scene in which the edit is refused stays as it is. -/
theorem setParameter_of_refuses (h : d.Refuses v cause) {s : Scene G M} {path name : String}
    {entry : TemplateEntry} (hentry : s.templates.get? path = some entry)
    (hp : entry.template.parameters.get? name = some (defined d)) :
    s.setParameter path name v = (.error (.invalidParameterValue name cause), s) :=
  Scene.setParameter_eq_error_iff.mpr ⟨.invalidParameterValue hentry hp h, rfl⟩

/-- A template that is built with the edit keeps the parameter as it is. -/
theorem get?_withEdits_of_refuses (h : d.Refuses v cause) {t : Template} {edits : OrderedMap Value}
    {name : String} (hp : t.parameters.get? name = some (defined d))
    (hedit : edits.get? name = some v) :
    (Scene.withEdits edits t).parameters.get? name = some (defined d) := by
  rw [Scene.get?_withEdits, hp, hedit, Option.map_some, revised, set_eq_error_iff.mpr ⟨d, rfl, h⟩]

/-- An edit that is taken stores something that conforms, or a bound that is no number of the kind. -/
theorem conforms_of_set_eq_ok (horder : d.BoundsOrdered) {p : Parameter} {stored : Value}
    (h : (defined d).set v = .ok (p, stored)) :
    p = defined { d with value := stored } ∧ (d.Conforms stored ∨ d.IsStrayBound stored) := by
  rw [set] at h
  cases haccept : d.accept v with
  | error cause => simp [haccept] at h
  | ok accepted =>
    simp only [haccept, Except.ok.injEq, Prod.mk.injEq] at h
    obtain ⟨rfl, rfl⟩ := h
    exact ⟨rfl, conforms_of_accept horder haccept⟩

/-- **An edit that is refused changes nothing, and one that is taken stores what the definition
describes**, apart from bounds that are themselves no numbers of the kind. What is refused is refused
for a reason of the definition. It leaves the scene as it is, and the parameter of a template that is
built with it. -/
theorem conforms_of_set (horder : d.BoundsOrdered) (v : Value) :
    (∀ cause, (defined d).set v = .error cause ↔ d.Refuses v cause) ∧
      (∀ cause, (defined d).set v = .error cause →
        (∀ (s : Scene G M) path name entry, s.templates.get? path = some entry →
          entry.template.parameters.get? name = some (defined d) →
            s.setParameter path name v = (.error (.invalidParameterValue name cause), s)) ∧
        ∀ (t : Template) (edits : OrderedMap Value) name,
          t.parameters.get? name = some (defined d) → edits.get? name = some v →
            (Scene.withEdits edits t).parameters.get? name = some (defined d)) ∧
      ∀ p stored, (defined d).set v = .ok (p, stored) →
        p = defined { d with value := stored } ∧ (d.Conforms stored ∨ d.IsStrayBound stored) := by
  have hrefuses : ∀ cause, (defined d).set v = .error cause ↔ d.Refuses v cause := fun cause => by
    rw [set_eq_error_iff]
    simp only [defined.injEq, exists_eq_left']
  refine ⟨hrefuses, fun cause h => ⟨?_, ?_⟩, fun p stored h => conforms_of_set_eq_ok horder h⟩
  · intro s path name entry hentry hp
    exact setParameter_of_refuses ((hrefuses cause).mp h) hentry hp
  · intro t edits name hp hedit
    exact get?_withEdits_of_refuses ((hrefuses cause).mp h) hp hedit

/-- A number of shelves, at most five. -/
def shelfCount : ParameterDefinition :=
  ⟨.number 2.0, .integer, some 1.0, some 5.0, none, [], none, none, none⟩

/-- Seven shelves and a half are held down to five. -/
theorem conforms_of_set_shelfCount :
    shelfCount.BoundsOrdered ∧
      (defined shelfCount).set (.number 7.5) =
        .ok (defined { shelfCount with value := .number 5.0 }, .number 5.0) ∧
      shelfCount.Conforms (.number 5.0) := by
  have horder : shelfCount.BoundsOrdered := by
    rintro _ _ ⟨⟩ ⟨⟩
    decide
  have hset : (defined shelfCount).set (.number 7.5) =
      .ok (defined { shelfCount with value := .number 5.0 }, .number 5.0) := rfl
  refine ⟨horder, hset, ?_⟩
  have hwhole : Double.isWhole 5.0 = true := by decide
  refine ((conforms_of_set (G := MeshFactory) (M := MaterialLibrary) horder
    (.number 7.5)).2.2 _ _ hset).2.resolve_right ?_
  rintro ⟨-, _, ⟨⟩, -, hstray, -⟩
  exact hstray hwhole

/-- A number of shelves that is bounded by a half. -/
def halfCount : ParameterDefinition :=
  ⟨.number 2.0, .integer, some 0.5, none, none, [], none, none, none⟩

/-- **A fraction is stored for a whole number** where the bound has one. -/
theorem not_conforms_halfCount :
    halfCount.BoundsOrdered ∧
      (defined halfCount).set (.number 0.0) =
        .ok (defined { halfCount with value := .number 0.5 }, .number 0.5) ∧
      ¬halfCount.Conforms (.number 0.5) := by
  have hfraction : Double.isWhole 0.5 = false := by decide
  refine ⟨?_, rfl, ?_⟩
  · rintro _ _ - ⟨⟩
  · rintro ⟨hwhole, -⟩
    exact ne_true_of_eq_false hfraction hwhole

end Parameter

end ParametricScene
