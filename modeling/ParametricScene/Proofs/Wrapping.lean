import ParametricScene.Function.Builtin
import ParametricScene.Proofs.Truncation

/-!
# Lists without an end

A formula takes an item of a list by any value as an index. The numeric view of the value is truncated
and wraps around at the ends of the list, so that there is an item for every index, and the choice
repeats with the length of the list.

Which item it is, is said here of the rational number that the numeric view is, where nothing can
overflow. Indices have sixty-four bits, and one that does not fit counts as the bound that it lies
beyond; so the choice repeats only as far as indices fit. What is not finite counts as zero. Texts that
are no numbers and lists of several values are of this kind, since their numeric view is NaN.

## Main definitions

* `FitsIndex` — the whole numbers that are indices
* `Selects` — the position that a number selects

## Main results

* `selects_wrapIndex` — every number selects a position inside the list
* `Selects.eq_of_add_mul` — the choice repeats with the length of the list
* `Registry.items_by_any_index` — the two functions that choose an item
-/

namespace ParametricScene

/-- The whole number has sixty-four bits, one of them for the sign. -/
def FitsIndex (n : ℤ) : Prop := -2 ^ 63 ≤ n ∧ n < 2 ^ 63
deriving Decidable

/-- In a list of `length` items the number `x` selects position `k`. -/
structure Selects (x : Float) (length k : ℕ) : Prop where
  lt : k < length
  of_not_finite : x.isFinite = false → k = 0
  of_fits : x.isFinite = true → FitsIndex (truncation (Double.value x)) →
    (k : ℤ) = truncation (Double.value x) % length
  of_above : x.isFinite = true → 2 ^ 63 ≤ truncation (Double.value x) →
    (k : ℤ) = (2 ^ 63 - 1) % length
  of_below : x.isFinite = true → truncation (Double.value x) < -2 ^ 63 →
    (k : ℤ) = (-2 ^ 63) % length

variable {x y : Float} {length k l : ℕ}

/-- A finite number is truncated and held within the bounds of indices before it wraps around. -/
theorem natCast_wrapIndex (hlength : 0 < length) (hx : x.isFinite = true) :
    (wrapIndex x length : ℤ) =
      max (-2 ^ 63) (min (2 ^ 63 - 1) (truncation (Double.value x))) % length := by
  have hnonneg : 0 ≤ Double.toInt indexLow indexHigh x % (length : ℤ) :=
    Int.emod_nonneg _ (by omega)
  rw [wrapIndex, if_neg (not_or.mpr ⟨hlength.ne', not_not.mpr hx⟩), Int.toNat_of_nonneg hnonneg,
    Double.toInt_eq_truncation _ _ hx]
  rfl

/-- **Every number selects a position inside the list.** -/
theorem selects_wrapIndex (x : Float) (hlength : 0 < length) :
    Selects x length (wrapIndex x length) where
  lt := wrapIndex_lt x hlength
  of_not_finite hx := if_pos (Or.inr (by rw [hx]; exact Bool.false_ne_true))
  of_fits hx hfits := by
    have hheld : max (-2 ^ 63) (min (2 ^ 63 - 1) (truncation (Double.value x))) =
        truncation (Double.value x) := by
      rw [min_eq_right (Int.le_sub_one_of_lt hfits.2), max_eq_right hfits.1]
    rw [natCast_wrapIndex hlength hx, hheld]
  of_above hx habove := by
    have hheld : max (-2 ^ 63) (min (2 ^ 63 - 1) (truncation (Double.value x))) = 2 ^ 63 - 1 := by
      omega
    rw [natCast_wrapIndex hlength hx, hheld]
  of_below hx hbelow := by
    have hheld : max (-2 ^ 63) (min (2 ^ 63 - 1) (truncation (Double.value x))) = -2 ^ 63 := by
      omega
    rw [natCast_wrapIndex hlength hx, hheld]

/-- **The choice repeats with the length of the list**, as far as indices fit. -/
theorem Selects.eq_of_add_mul (hx : Selects x length k) (hy : Selects y length l)
    (hfinite : x.isFinite = true) (hfinite' : y.isFinite = true)
    (hfits : FitsIndex (truncation (Double.value x))) (hfits' : FitsIndex (truncation (Double.value y)))
    {j : ℤ} (hj : truncation (Double.value y) = truncation (Double.value x) + j * length) : k = l := by
  have hmod : (k : ℤ) = l := by
    rw [hx.of_fits hfinite hfits, hy.of_fits hfinite' hfits', hj, Int.add_mul_emod_self_right]
  exact Int.ofNat_inj.mp hmod

/-! ### The functions that choose an item -/

namespace Function

variable {items : List Value} {index : Value}

theorem nth_eq (h : wrapIndex index.toNumber items.length < items.length) :
    nth [.list items, index] = .ok items[wrapIndex index.toNumber items.length] := by
  rw [nth, List.getD_eq_getElem _ _ h]

theorem alternating_eq (h : wrapIndex index.toNumber items.length < items.length) :
    alternating (index :: items) = .ok items[wrapIndex index.toNumber items.length] := by
  cases items with
  | nil => exact absurd h (Nat.not_lt_zero _)
  | cons first rest => rw [alternating, List.getD_eq_getElem _ _ h]

end Function

namespace Registry

theorem call_of_pure {r : Registry} {name : String} {apply : List Value → Except EvalError Value}
    (h : r.get? name = some (.pure apply)) (arguments : List Value) :
    r.call name arguments = (apply arguments, r) := by
  rw [call, h]

theorem get?_builtin_nth : builtin.get? "nth" = some (.pure Function.nth) := by
  simp [builtin, get?, register]

theorem get?_builtin_alternating :
    builtin.get? "alternating" = some (.pure Function.alternating) := by
  simp [builtin, get?, register, Std.HashMap.getElem_insert]

/-- **There is an item for every index.** Whatever list that is not empty and whatever value as index, both
functions answer with the item of the list at the position that the numeric view of the index selects.
Indices that fit and differ by a multiple of the length give the same answer. -/
theorem items_by_any_index {items : List Value} (hitems : items ≠ []) (index : Value) :
    (∃ _ : wrapIndex index.toNumber items.length < items.length,
      Selects index.toNumber items.length (wrapIndex index.toNumber items.length) ∧
        builtin.call "nth" [.list items, index] =
          (.ok items[wrapIndex index.toNumber items.length], builtin) ∧
        builtin.call "alternating" (index :: items) =
          (.ok items[wrapIndex index.toNumber items.length], builtin)) ∧
      ∀ (other : Value) (j : ℤ), index.toNumber.isFinite = true → other.toNumber.isFinite = true →
        FitsIndex (truncation (Double.value index.toNumber)) →
        FitsIndex (truncation (Double.value other.toNumber)) →
        truncation (Double.value other.toNumber) =
          truncation (Double.value index.toNumber) + j * items.length →
        builtin.call "nth" [.list items, other] = builtin.call "nth" [.list items, index] ∧
          builtin.call "alternating" (other :: items) =
            builtin.call "alternating" (index :: items) := by
  have hlength : 0 < items.length := List.length_pos_iff.mpr hitems
  -- the bound of the position makes the item that stands in for a missing one superfluous
  have hselects := fun v : Value => selects_wrapIndex v.toNumber hlength
  have hnth : ∀ v : Value, builtin.call "nth" [.list items, v] =
      (.ok (items.get ⟨_, (hselects v).lt⟩), builtin) := fun v => by
    rw [call_of_pure get?_builtin_nth, Function.nth_eq (hselects v).lt]
    rfl
  have halternating : ∀ v : Value, builtin.call "alternating" (v :: items) =
      (.ok (items.get ⟨_, (hselects v).lt⟩), builtin) := fun v => by
    rw [call_of_pure get?_builtin_alternating, Function.alternating_eq (hselects v).lt]
    rfl
  refine ⟨⟨(hselects index).lt, hselects index, hnth index, halternating index⟩, ?_⟩
  intro other j hfinite hfinite' hfits hfits' hj
  have hposition := (hselects index).eq_of_add_mul (hselects other) hfinite hfinite' hfits hfits' hj
  rw [hnth, hnth, halternating, halternating]
  simp only [hposition, and_self]

/-- Three colours. -/
def threeColors : List Value := [.text "red", .text "green", .text "blue"]

/-- The third colour is chosen by the text of a negative number in a list, and by the number that is three
times the length larger. -/
theorem items_by_any_index_threeColors :
    threeColors ≠ [] ∧
      builtin.call "nth" [.list threeColors, .list [.text " -4 "]] = (.ok (.text "blue"), builtin) ∧
      builtin.call "alternating" (.list [.text " -4 "] :: threeColors) =
        (.ok (.text "blue"), builtin) ∧
      builtin.call "nth" [.list threeColors, .number 5.5] = (.ok (.text "blue"), builtin) ∧
      builtin.call "alternating" (.number 5.5 :: threeColors) = (.ok (.text "blue"), builtin) := by
  have hne : threeColors ≠ [] := List.cons_ne_nil _ _
  obtain ⟨⟨_, -, hnth, halternating⟩, hrepeats⟩ :=
    items_by_any_index hne (.list [.text " -4 "])
  have hindex : truncation (Double.value (Value.list [.text " -4 "]).toNumber) = -4 :=
    Double.truncation_value (b := ⟨true, 2 ^ 52, -50⟩) rfl
  have hother : truncation (Double.value (Value.number 5.5).toNumber) = 5 :=
    Double.truncation_value (b := ⟨false, 11 * 2 ^ 49, -50⟩) rfl
  have hposition : wrapIndex (Value.list [.text " -4 "]).toNumber threeColors.length = 2 := rfl
  simp only [hposition] at hnth halternating
  obtain ⟨hnth', halternating'⟩ := hrepeats (.number 5.5) 3 rfl rfl (by rw [hindex]; decide)
    (by rw [hother]; decide) (by rw [hindex, hother]; rfl)
  exact ⟨hne, hnth, halternating, hnth'.trans hnth, halternating'.trans halternating⟩

end Registry

end ParametricScene
