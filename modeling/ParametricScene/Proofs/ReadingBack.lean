import Mathlib.Algebra.Order.Field.Power
import Mathlib.Tactic.Linarith
import Mathlib.Tactic.LinearCombination
import ParametricScene.Proofs.NumberText

/-!
# The decimals that read back to a double

A double stands for all real numbers between the midpoints to its neighbours, and a decimal reads back
to it if it is one of these. Here the two statements about that are proved that writing numbers rests
on: the decimal chosen for a double is one that reads back, and no decimal reads back to two doubles.

The choice is made by comparing products of naturals. `Binary.compareScaled_eq_lt` and its companions
say that this is the comparison of rational numbers, and nothing after them looks at naturals again
except to compare mantissas.

## Main definitions

* `Binary.Stored` — the mantissas and exponents that doubles have

## Main results

* `Binary.readsBack_shortest` — the chosen decimal reads back
* `Binary.ReadsBack.unique` — no decimal reads back to two doubles
* `Binary.ofFloat?_inj` — a double is determined by its sign, mantissa and exponent
-/

namespace ParametricScene

namespace Binary

/-- The rational number that the magnitude of `b` is. -/
def magnitude (b : Binary) : ℚ := b.mantissa * 2 ^ b.exponent

/-! ### Comparing -/

section Compare

variable (a : Nat) (i : Int) (n : Nat) (j : Int)

/-- Both sides of a comparison, brought to one denominator. -/
theorem exists_scale : ∃ s : ℚ, 0 < s ∧
    (((a * Nat.pow 10 i.toNat) <<< (-j).toNat : Nat) : ℚ) = a * 10 ^ i * s ∧
    (((n <<< j.toNat) * Nat.pow 10 (-i).toNat : Nat) : ℚ) = n * 2 ^ j * s := by
  have hten : (10 : ℚ) ^ i.toNat = 10 ^ i * 10 ^ (-i).toNat := by
    rw [← zpow_natCast, ← zpow_natCast, ← zpow_add₀ (by norm_num)]
    congr 1
    omega
  have htwo : (2 : ℚ) ^ j.toNat = 2 ^ j * 2 ^ (-j).toNat := by
    rw [← zpow_natCast, ← zpow_natCast, ← zpow_add₀ (by norm_num)]
    congr 1
    omega
  refine ⟨10 ^ (-i).toNat * 2 ^ (-j).toNat, by positivity, ?_, ?_⟩
  · rw [Nat.shiftLeft_eq, Nat.pow_eq]
    push_cast
    rw [hten]
    ring
  · rw [Nat.shiftLeft_eq, Nat.pow_eq]
    push_cast
    rw [htwo]
    ring

theorem compareScaled_eq_lt :
    compareScaled a i n j = .lt ↔ (a : ℚ) * 10 ^ i < n * 2 ^ j := by
  obtain ⟨s, hs, hleft, hright⟩ := exists_scale a i n j
  rw [compareScaled, compare_lt_iff_lt, ← Nat.cast_lt (α := ℚ), hleft, hright,
    mul_lt_mul_iff_left₀ hs]

theorem compareScaled_eq_gt :
    compareScaled a i n j = .gt ↔ (n : ℚ) * 2 ^ j < a * 10 ^ i := by
  obtain ⟨s, hs, hleft, hright⟩ := exists_scale a i n j
  rw [compareScaled, compare_gt_iff_gt, ← Nat.cast_lt (α := ℚ), hleft, hright,
    mul_lt_mul_iff_left₀ hs]

theorem compareScaled_eq_eq :
    compareScaled a i n j = .eq ↔ (a : ℚ) * 10 ^ i = n * 2 ^ j := by
  obtain ⟨s, hs, hleft, hright⟩ := exists_scale a i n j
  rw [compareScaled, compare_eq_iff_eq, ← Nat.cast_inj (R := ℚ), hleft, hright,
    mul_left_inj' hs.ne']

end Compare

/-! ### Reading back -/

/-- The midpoint to the neighbour below, in quarters of the last place. -/
def lowEnd (b : Binary) : Nat :=
  if b.narrowBelow then 4 * b.mantissa - 1 else 4 * b.mantissa - 2

/-- The midpoint to the neighbour above, in quarters of the last place. -/
def highEnd (b : Binary) : Nat := 4 * b.mantissa + 2

/-- A quarter of the last place. -/
def quarter (b : Binary) : ℚ := 2 ^ (b.exponent - 2)

theorem quarter_pos (b : Binary) : 0 < b.quarter := zpow_pos (by norm_num) _

theorem magnitude_eq (b : Binary) : b.magnitude = (4 * b.mantissa : Nat) * b.quarter := by
  rw [magnitude, quarter, zpow_sub₀ (by norm_num)]
  push_cast
  ring

/-- Reading back as a statement about rational numbers. -/
theorem readsBack_iff (b : Binary) (d : Decimal) : b.ReadsBack d ↔
    (b.lowEnd * b.quarter < d.value ∨ (b.mantissa % 2 = 0 ∧ d.value = b.lowEnd * b.quarter)) ∧
      (d.value < b.highEnd * b.quarter ∨
        (b.mantissa % 2 = 0 ∧ d.value = b.highEnd * b.quarter)) := by
  rw [ReadsBack]
  simp only [compareScaled_eq_lt, compareScaled_eq_gt, compareScaled_eq_eq]
  rfl

/-- Whether a decimal reads back is a matter of its value. -/
theorem readsBack_congr {b : Binary} {d d' : Decimal} (h : d.value = d'.value) :
    b.ReadsBack d ↔ b.ReadsBack d' := by
  rw [readsBack_iff, readsBack_iff, h]

/-! ### The chosen decimal -/

theorem value_stripZeros (fuel : Nat) (d : Decimal) : (d.stripZeros fuel).value = d.value := by
  induction fuel generalizing d with
  | zero => rfl
  | succ fuel ih =>
    rw [Decimal.stripZeros]
    split
    · rename_i h
      obtain ⟨k, hk⟩ : 10 ∣ d.digits := Nat.dvd_of_mod_eq_zero h.2
      have hvalue := value_shift k 1 d.exponent
      rw [ih, hk, Nat.mul_div_cancel_left k (by decide)]
      rw [pow_one, ← hk, Nat.cast_one] at hvalue
      exact hvalue.symm
    · rfl

theorem value_exactDecimal (b : Binary) : b.exactDecimal.value = b.magnitude := by
  have hten : (10 : ℚ) = 2 * 5 := by norm_num
  rw [exactDecimal, Decimal.value, magnitude, Nat.shiftLeft_eq, Nat.pow_eq]
  push_cast
  by_cases he : 0 ≤ b.exponent
  · have hzero : (-b.exponent).toNat = 0 := by omega
    rw [min_eq_left he, hzero, zpow_zero, pow_zero, mul_one, mul_one, ← zpow_natCast,
      Int.toNat_of_nonneg he]
  · have hzero : b.exponent.toNat = 0 := by omega
    have hfive : (5 : ℚ) ^ (-b.exponent).toNat * 5 ^ b.exponent = 1 := by
      rw [← zpow_natCast, ← zpow_add₀ (by norm_num), Int.toNat_of_nonneg (by omega),
        neg_add_cancel, zpow_zero]
    rw [min_eq_right (by omega), hzero, hten, mul_zpow, pow_zero, mul_one]
    linear_combination (b.mantissa : ℚ) * 2 ^ b.exponent * hfive

/-- What is found on a grid reads back. -/
theorem readsBack_of_onGrid? {tie : Tie} {b : Binary} {g : Int} {d : Decimal}
    (h : onGrid? tie b g = some d) : b.ReadsBack d := by
  rw [onGrid?] at h
  split at h
  · rename_i hread
    exact Option.some.inj h ▸ hread.1
  split at h
  · rename_i hread
    exact Option.some.inj h ▸ hread.1
  split at h
  · rename_i hlow hhigh hread
    have hboth : b.ReadsBack ⟨b.gridFloor g + 1, g⟩ := by
      by_contra hnot
      exact hlow ⟨hread, hnot⟩
    rw [← Option.some.inj h]
    split
    · exact hboth
    · exact hread
  · exact absurd h (by simp)

/-- **The chosen decimal reads back.** -/
theorem readsBack_shortest (tie : Tie) {b : Binary} (h : b.mantissa ≠ 0) :
    b.ReadsBack (b.shortest tie) := by
  rw [shortest, if_neg h]
  refine (readsBack_congr (value_stripZeros _ _)).mpr ?_
  cases hfound : (List.range 20).findSome? fun n => onGrid? tie b (b.scale - 1 - (n : Nat)) with
  | some d =>
    obtain ⟨n, -, hn⟩ := List.exists_of_findSome?_eq_some hfound
    exact readsBack_of_onGrid? hn
  | none =>
    have hquarter := b.quarter_pos
    have hlow : b.lowEnd < 4 * b.mantissa := by
      rw [lowEnd]
      split <;> omega
    have hhigh : 4 * b.mantissa < b.highEnd := by
      rw [highEnd]
      omega
    rw [Option.getD_none, readsBack_iff, value_exactDecimal, magnitude_eq]
    exact ⟨Or.inl (mul_lt_mul_of_pos_right (Nat.cast_lt.mpr hlow) hquarter),
      Or.inl (mul_lt_mul_of_pos_right (Nat.cast_lt.mpr hhigh) hquarter)⟩

/-! ### Doubles -/

/-- The mantissas and exponents of doubles: a mantissa has at most 53 bits, and fewer only at the
lowest exponent. -/
structure Stored (b : Binary) : Prop where
  mantissa_lt : b.mantissa < 2 ^ 53
  exponent_ge : -1074 ≤ b.exponent
  mantissa_ge : -1074 < b.exponent → 2 ^ 52 ≤ b.mantissa

/-- One double comes before another: it has the smaller exponent, or the smaller mantissa at the same
exponent. -/
def Before (b b' : Binary) : Prop :=
  b.exponent < b'.exponent ∨ (b.exponent = b'.exponent ∧ b.mantissa < b'.mantissa)

/-- In quarters of the last place of the earlier double the ends of both intervals are natural
numbers. -/
theorem Before.exists_quarter_eq {b b' : Binary} (h : b.Before b') (hb : b.Stored)
    (hb' : b'.Stored) :
    ∃ t : Nat, b'.quarter = t * b.quarter ∧
      (b.highEnd < b'.lowEnd * t ∨
        (b.highEnd = b'.lowEnd * t ∧ (b.mantissa % 2 = 1 ∨ b'.mantissa % 2 = 1))) := by
  have hm := hb.mantissa_lt
  have hnarrow : b'.narrowBelow = true ↔ b'.mantissa = 2 ^ 52 ∧ -1074 < b'.exponent := by
    rw [narrowBelow, Bool.and_eq_true, beq_iff_eq, decide_eq_true_eq]
    rfl
  rcases h with hexp | ⟨hexp, hmant⟩
  · have hfull := hb'.mantissa_ge (by have := hb.exponent_ge; omega)
    obtain ⟨k, hk⟩ : ∃ k : Nat, b'.exponent = b.exponent + (k + 1 : Nat) :=
      ⟨(b'.exponent - b.exponent - 1).toNat, by omega⟩
    refine ⟨2 ^ (k + 1), ?_, ?_⟩
    · rw [quarter, quarter, hk, Nat.cast_pow, ← zpow_natCast, Nat.cast_ofNat,
        ← zpow_add₀ (by norm_num)]
      congr 1
      ring
    · have htwo : 2 ≤ 2 ^ (k + 1) := by
        rw [pow_succ]
        have := Nat.one_le_two_pow (n := k)
        omega
      have hmul := Nat.mul_le_mul_left b'.lowEnd htwo
      rw [lowEnd] at hmul ⊢
      rw [highEnd]
      split at hmul
      · rename_i hn
        rw [hnarrow] at hn
        rw [if_pos (hnarrow.mpr hn)]
        generalize (4 * b'.mantissa - 1) * 2 ^ (k + 1) = p at hmul ⊢
        omega
      · rename_i hn
        have hne : b'.mantissa ≠ 2 ^ 52 := fun heq =>
          hn (hnarrow.mpr ⟨heq, by have := hb.exponent_ge; omega⟩)
        rw [if_neg hn]
        generalize (4 * b'.mantissa - 2) * 2 ^ (k + 1) = p at hmul ⊢
        omega
  · refine ⟨1, by rw [quarter, quarter, hexp, Nat.cast_one, one_mul], ?_⟩
    have hnot : ¬b'.narrowBelow = true := fun hn => by
      obtain ⟨hmant', hexp'⟩ := hnarrow.mp hn
      have := hb.mantissa_ge (by omega)
      omega
    rw [lowEnd, highEnd, if_neg hnot]
    omega

/-- The reals that round to a double end before those that round to a later one begin. They may end
where the others begin, but then one of the two mantissas is odd, and the point belongs to the other
double alone. -/
theorem Before.gap {b b' : Binary} (h : b.Before b') (hb : b.Stored) (hb' : b'.Stored) :
    b.highEnd * b.quarter < b'.lowEnd * b'.quarter ∨
      (b.highEnd * b.quarter = b'.lowEnd * b'.quarter ∧
        (b.mantissa % 2 = 1 ∨ b'.mantissa % 2 = 1)) := by
  obtain ⟨t, hquarter, hlt | ⟨heq, hodd⟩⟩ := h.exists_quarter_eq hb hb'
  · left
    have hcast : (b.highEnd : ℚ) < b'.lowEnd * t := by exact_mod_cast hlt
    rw [hquarter, ← mul_assoc]
    exact mul_lt_mul_of_pos_right hcast b.quarter_pos
  · right
    have hcast : (b.highEnd : ℚ) = b'.lowEnd * t := by exact_mod_cast heq
    rw [hquarter, ← mul_assoc, hcast]
    exact ⟨rfl, hodd⟩

theorem ReadsBack.not_before {b b' : Binary} {d : Decimal} (h : b.ReadsBack d)
    (h' : b'.ReadsBack d) (hb : b.Stored) (hb' : b'.Stored) : ¬b.Before b' := by
  intro hbefore
  obtain ⟨-, hhigh⟩ := (readsBack_iff b d).mp h
  obtain ⟨hlow, -⟩ := (readsBack_iff b' d).mp h'
  rcases hbefore.gap hb hb' with hgap | ⟨hgap, hodd⟩
  · rcases hhigh with hhigh | ⟨-, hhigh⟩ <;> rcases hlow with hlow | ⟨-, hlow⟩ <;> linarith
  · rcases hhigh with hhigh | ⟨heven, hhigh⟩ <;> rcases hlow with hlow | ⟨heven', hlow⟩
    · linarith
    · linarith
    · linarith
    · omega

/-- **No decimal reads back to two doubles.** -/
theorem ReadsBack.unique {b b' : Binary} {d : Decimal} (h : b.ReadsBack d) (h' : b'.ReadsBack d)
    (hb : b.Stored) (hb' : b'.Stored) :
    b.mantissa = b'.mantissa ∧ b.exponent = b'.exponent := by
  have hbefore := h.not_before h' hb hb'
  have hafter := h'.not_before h hb' hb
  rw [Before] at hbefore hafter
  omega

/-- The decimals chosen for two doubles have one value only if the doubles have one magnitude. -/
theorem shortest_value_inj {tie : Tie} {b b' : Binary} (hb : b.Stored) (hb' : b'.Stored)
    (h : (b.shortest tie).value = (b'.shortest tie).value) :
    b.mantissa = b'.mantissa ∧ b.exponent = b'.exponent := by
  -- only zero has a decimal without value
  have hzero : ∀ {c : Binary}, c.mantissa = 0 → (c.shortest tie).value = 0 := fun hc => by
    rw [shortest, if_pos hc, Decimal.value, Nat.cast_zero, zero_mul]
  have hpos : ∀ {c : Binary}, c.mantissa ≠ 0 → 0 < (c.shortest tie).value := fun {c} hc => by
    have hend : (0 : ℚ) < c.lowEnd * c.quarter := by
      refine mul_pos (Nat.cast_pos.mpr ?_) c.quarter_pos
      rw [lowEnd]
      split <;> omega
    rcases ((readsBack_iff c _).mp (readsBack_shortest tie hc)).1 with hlow | ⟨-, hlow⟩
    · exact hend.trans hlow
    · rw [hlow]
      exact hend
  by_cases hm : b.mantissa = 0 <;> by_cases hm' : b'.mantissa = 0
  · have he := hb.mantissa_ge
    have he' := hb'.mantissa_ge
    have hge := hb.exponent_ge
    have hge' := hb'.exponent_ge
    omega
  · exact absurd ((hzero hm).symm.trans h) (hpos hm').ne
  · exact absurd (h.trans (hzero hm')) (hpos hm).ne'
  · exact (readsBack_shortest tie hm).unique
      ((readsBack_congr h).mpr (readsBack_shortest tie hm')) hb hb'

/-- The bits of a double in terms of its fields. -/
theorem ofFloat?_eq_some {x : Float} {b : Binary} (h : ofFloat? x = some b) :
    ∃ biased fraction : Nat, biased < 2047 ∧ fraction < 2 ^ 52 ∧
      x.toBits.toNat = (if b.negative then 2 ^ 63 else 0) + biased * 2 ^ 52 + fraction ∧
      ((biased = 0 ∧ b.mantissa = fraction ∧ b.exponent = -1074) ∨
        (0 < biased ∧ b.mantissa = 2 ^ 52 + fraction ∧ b.exponent = (biased : Int) - 1075)) := by
  have hlt : x.toBits.toNat < 2 ^ 64 := x.toBits.toNat_lt
  have hleading : leadingBit = 2 ^ 52 := rfl
  have hsign : signBit = 2 ^ 63 := rfl
  rw [ofFloat?] at h
  simp only [Nat.shiftRight_eq_div_pow, hleading, hsign] at h
  generalize x.toBits.toNat = bits at h hlt ⊢
  refine ⟨bits / 2 ^ 52 % 2048, bits % 2 ^ 52, ?_⟩
  split at h
  · exact absurd h (by simp)
  rename_i hspecial
  split at h
  · rename_i hzero
    obtain rfl := Option.some.inj h
    refine ⟨by omega, by omega, ?_, Or.inl ⟨hzero, rfl, rfl⟩⟩
    simp only [decide_eq_true_eq]
    split <;> omega
  · obtain rfl := Option.some.inj h
    refine ⟨by omega, by omega, ?_, Or.inr ⟨by omega, rfl, rfl⟩⟩
    simp only [decide_eq_true_eq]
    split <;> omega

theorem stored_of_ofFloat? {x : Float} {b : Binary} (h : ofFloat? x = some b) : b.Stored := by
  obtain ⟨biased, fraction, hbiased, hfraction, -, hfields⟩ := ofFloat?_eq_some h
  constructor <;> omega

theorem float_ext {x y : Float} (h : x.toBits.toNat = y.toBits.toNat) : x = y := by
  obtain ⟨⟨xbits, _⟩⟩ := x
  obtain ⟨⟨ybits, _⟩⟩ := y
  obtain rfl : xbits = ybits := UInt64.toNat_inj.mp h
  rfl

/-- **A double is determined by its sign, mantissa and exponent.** -/
theorem ofFloat?_inj {x y : Float} {b : Binary} (hx : ofFloat? x = some b)
    (hy : ofFloat? y = some b) : x = y := by
  obtain ⟨e, f, he, hf, hbits, hfields⟩ := ofFloat?_eq_some hx
  obtain ⟨e', f', he', hf', hbits', hfields'⟩ := ofFloat?_eq_some hy
  refine float_ext ?_
  rw [hbits, hbits']
  obtain ⟨rfl, rfl⟩ : e = e' ∧ f = f' := by omega
  rfl

end Binary

end ParametricScene
