import ParametricScene.Parameter
import ParametricScene.Proofs.Rounding

/-!
# What a definition stores

A definition checks the value that it is offered, rounds and clamps a number, and stores the result. A
stored value is offered again when a template is built anew, so it matters whether it is stored as it
is then.

It is, as long as the bounds are numbers that the definition takes: finite, and whole where the kind is
that of whole numbers. A number is rounded before it is clamped, so a bound that is not whole is stored
for a number beyond it, and is itself rounded when it is offered.

Nothing is asked of the order of the bounds. Where they cross, every number is stored as the upper one.

## Main definitions

* `ParameterKind.Takes` — the numbers of a kind
* `ParameterDefinition.BoundsFit` — the bounds are numbers of the kind

## Main results

* `ParameterDefinition.clampNumber_clampNumber` — clamping twice is clamping once
* `ParameterDefinition.exists_clamped_of_accept` — what is stored for a number
* `ParameterDefinition.accept_stored` — a stored value is stored again as it is
-/

namespace ParametricScene

namespace Double

/-! ### The larger and the smaller of two numbers -/

theorem isNaN_of_isFinite {x : Float} (h : x.isFinite = true) : x.isNaN = false := by
  rw [Float.isFinite, Float.Model.isFinite] at h
  rw [Float.isNaN, Float.Model.isNaN]
  cases hx : x.toModel.unpack with
  | notANumber =>
    rw [hx] at h
    exact absurd h Bool.false_ne_true
  | infinity _ | zero _ | finite _ _ _ _ => rfl

theorem larger_eq_or (a b : Float) : larger a b = a ∨ larger a b = b := by
  rw [larger]
  split
  · exact Or.inr rfl
  · exact Or.inl rfl

theorem smaller_eq_or (a b : Float) : smaller a b = a ∨ smaller a b = b := by
  rw [smaller]
  split
  · exact Or.inr rfl
  · exact Or.inl rfl

theorem larger_self (a : Float) : larger a a = a := ite_self a

theorem smaller_self (a : Float) : smaller a a = a := ite_self a

/-- Raising a number to a bound twice is raising it once. -/
theorem larger_larger (a b : Float) : larger (larger a b) b = larger a b := by
  by_cases h : a.isNaN = true ∨ a ≤ b
  · have hb : larger a b = b := if_pos h
    rw [hb, larger_self]
  · have ha : larger a b = a := if_neg h
    rw [ha, ha]

/-- Lowering a number to a bound twice is lowering it once. -/
theorem smaller_smaller (a b : Float) : smaller (smaller a b) b = smaller a b := by
  by_cases h : a.isNaN = true ∨ b ≤ a
  · have hb : smaller a b = b := if_pos h
    rw [hb, smaller_self]
  · have ha : smaller a b = a := if_neg h
    rw [ha, ha]

/-- Raising and then lowering a number twice is doing it once, also where the bounds cross. -/
theorem smaller_larger_again {high : Float} (hhigh : high.isNaN = false) (n low : Float) :
    smaller (larger (smaller (larger n low) high) low) high = smaller (larger n low) high := by
  rcases smaller_eq_or (larger n low) high with hlowered | hlowered
  · rw [hlowered, larger_larger, hlowered]
  · rw [hlowered]
    by_cases hcross : high ≤ low
    · have hraised : larger high low = low := if_pos (Or.inr hcross)
      rw [hraised]
      exact if_pos (Or.inr hcross)
    · have hraised : larger high low = high :=
        if_neg (not_or.mpr ⟨ne_true_of_eq_false hhigh, hcross⟩)
      rw [hraised, smaller_self]

end Double

/-- The number is one that the kind takes: a whole one for whole numbers, and a finite one elsewhere. -/
def ParameterKind.Takes (kind : ParameterKind) (n : Float) : Prop :=
  match kind with
  | .integer => Double.isWhole n = true
  | _ => n.isFinite = true

theorem ParameterKind.Takes.isFinite {kind : ParameterKind} {n : Float} (h : kind.Takes n) :
    n.isFinite = true := by
  cases kind with
  | integer => exact Double.isFinite_of_isWhole h
  | number | choice | boolean | other => exact h

namespace ParameterDefinition

/-! ### Clamping -/

variable {d : ParameterDefinition}

/-- The bounds are numbers of the kind. -/
def BoundsFit (d : ParameterDefinition) : Prop :=
  ∀ bound, d.min = some bound ∨ d.max = some bound → d.kind.Takes bound

/-- A clamped number is the number or a bound. -/
theorem clampNumber_eq_or (d : ParameterDefinition) (n : Float) :
    d.clampNumber n = n ∨ d.min = some (d.clampNumber n) ∨ d.max = some (d.clampNumber n) := by
  rw [clampNumber]
  cases d.min with
  | none =>
    cases d.max with
    | none => exact Or.inl rfl
    | some high =>
      rcases Double.smaller_eq_or n high with h | h
      · exact Or.inl h
      · exact Or.inr (Or.inr (congrArg some h.symm))
  | some low =>
    cases d.max with
    | none =>
      rcases Double.larger_eq_or n low with h | h
      · exact Or.inl h
      · exact Or.inr (Or.inl (congrArg some h.symm))
    | some high =>
      rcases Double.smaller_eq_or (Double.larger n low) high with h | h
      · simp only [h]
        rcases Double.larger_eq_or n low with h' | h'
        · exact Or.inl h'
        · exact Or.inr (Or.inl (congrArg some h'.symm))
      · exact Or.inr (Or.inr (congrArg some h.symm))

/-- A clamped number is one of the kind if the number and the bounds are. -/
theorem takes_clampNumber (hbounds : d.BoundsFit) {n : Float} (h : d.kind.Takes n) :
    d.kind.Takes (d.clampNumber n) := by
  rcases d.clampNumber_eq_or n with heq | heq
  · rw [heq]
    exact h
  · exact hbounds _ heq

/-- **Clamping twice is clamping once.** -/
theorem clampNumber_clampNumber (hbounds : d.BoundsFit) (n : Float) :
    d.clampNumber (d.clampNumber n) = d.clampNumber n := by
  have hmax : ∀ high, d.max = some high → high.isNaN = false := fun high h =>
    Double.isNaN_of_isFinite (hbounds high (Or.inr h)).isFinite
  rw [clampNumber, clampNumber]
  cases hlow : d.min with
  | none =>
    cases d.max with
    | none => rfl
    | some high => exact Double.smaller_smaller n high
  | some low =>
    cases hhigh : d.max with
    | none => exact Double.larger_larger n low
    | some high => exact Double.smaller_larger_again (hmax high hhigh) n low

/-! ### Accepting -/

/-- A number of the kind that lies inside the bounds already is stored as it is. -/
theorem accept_of_clamped {n : Float} (hkind : d.kind = .number ∨ d.kind = .integer)
    (htakes : d.kind.Takes n) (hclamped : d.clampNumber n = n) :
    d.accept (.number n) = .ok (.number n) := by
  have hfinite := htakes.isFinite
  rcases hkind with hkind | hkind
  · simp only [accept, hkind, hfinite, if_true, hclamped]
  · rw [hkind] at htakes
    simp only [accept, hkind, hfinite, if_true, Double.roundHalfAway_of_isWhole htakes, hclamped]

/-- What is stored where the kind is one of numbers: a number of the kind, clamped. -/
theorem exists_clamped_of_accept {v stored : Value} (hkind : d.kind = .number ∨ d.kind = .integer)
    (h : d.accept v = .ok stored) :
    ∃ n, d.kind.Takes n ∧ stored = .number (d.clampNumber n) := by
  rcases hkind with hkind | hkind
  · cases v with
    | number n =>
      simp only [accept, hkind] at h
      split at h
      · rename_i hfinite
        rw [hkind]
        exact ⟨n, hfinite, (Except.ok.inj h).symm⟩
      · cases h
    | boolean _ | text _ | list _ => simp [accept, hkind] at h
  · cases v with
    | number n =>
      simp only [accept, hkind] at h
      split at h
      · rename_i hfinite
        rw [hkind]
        exact ⟨Double.roundHalfAway n, Double.isWhole_roundHalfAway hfinite,
          (Except.ok.inj h).symm⟩
      · cases h
    | boolean _ | text _ | list _ => simp [accept, hkind] at h

/-- **A stored value is stored again as it is** if the bounds are numbers of the kind. -/
theorem accept_stored (hbounds : d.BoundsFit) {v stored : Value} (h : d.accept v = .ok stored) :
    d.accept stored = .ok stored := by
  cases hkind : d.kind with
  | number | integer =>
    obtain ⟨n, htakes, rfl⟩ := exists_clamped_of_accept (by simp [hkind]) h
    exact accept_of_clamped (by simp [hkind]) (takes_clampNumber hbounds htakes)
      (clampNumber_clampNumber hbounds n)
  | choice =>
    cases v with
    | text s =>
      have hs := h
      simp only [accept, hkind] at hs
      split at hs
      · obtain rfl := Except.ok.inj hs
        exact h
      · cases hs
    | number _ | boolean _ | list _ => simp [accept, hkind] at h
  | boolean =>
    cases v with
    | boolean b =>
      have hb := h
      simp only [accept, hkind] at hb
      obtain rfl := Except.ok.inj hb
      exact h
    | number _ | text _ | list _ => simp [accept, hkind] at h
  | other =>
    have hv := h
    simp only [accept, hkind] at hv
    obtain rfl := Except.ok.inj hv
    exact h

end ParameterDefinition

end ParametricScene
