import ParametricScene.Arithmetic
import ParametricScene.Proofs.Ordering
import ParametricScene.Proofs.Rounding

/-!
# How large results get

A finite double is zero or a mantissa of at most fifty-three digits, scaled by a power of two. The
arithmetic of doubles overflows only if the power gets too large, so the powers are all that is followed
here: sums and products are not computed, and not even their signs matter.

For most purposes it is enough to know that a rounded result has a scale at most one above that of the
exact one. This is not enough close to the largest double, where one more is infinity already. Adding
something small to such a number, or multiplying it by at most one, stays below the point from where on
numbers are rounded upward, half a unit above the largest double.

## Main definitions

* `ScaleLE` — a bound on the power of two
* `properScale` — the power of two at which a result is rounded

## Main results

* `Double.isFinite_iff_scaleLE` — the finite doubles
* `scaleLE_roundWithAccuracy` — rounding raises the scale by one at most
* `scaleLE_roundWithAccuracy_of_lt` — what is rounded downward at the largest scale
* `Double.isFinite_add_of_scaleLE`, `Double.isFinite_mul_of_unit` — results that are finite
* `Double.isFinite_add_turns` — angles on the way around a circle
-/

namespace ParametricScene

section Model

open Float.Model Float.Model.UnpackedFloat

/-- The number is zero, or scaled by a power of two of at most `k`. -/
def ScaleLE (k : Int) : UnpackedFloat → Prop
  | .zero _ => True
  | .finite _ _ e _ => e ≤ k
  | .infinity _ | .notANumber => False

theorem ScaleLE.mono {k l : Int} {u : UnpackedFloat} (h : ScaleLE k u) (hkl : k ≤ l) :
    ScaleLE l u := by
  cases u with
  | zero _ => exact trivial
  | finite _ _ _ _ => exact Int.le_trans h hkl
  | infinity _ | notANumber => exact h.elim

/-! ### Packing -/

/-- The scale of a double is told by the bits of its exponent. -/
theorem scaleLE_unpack {b : BitVec Format.binary64.numBits} {k : Int} (hlow : -1074 ≤ k)
    (hhigh : k ≤ 971) (h : (@unpackExponent Format.binary64 b).toNat ≤ k + 1075) :
    ScaleLE k (UnpackedFloat.unpack Format.binary64 b) := by
  have hones : @unpackExponent Format.binary64 b ≠ -1#_ := by
    intro heq
    have hmax : (-1#11 : BitVec 11).toNat = 2047 := rfl
    rw [heq] at h
    change ((-1#11 : BitVec 11).toNat : Int) ≤ _ at h
    omega
  rw [UnpackedFloat.unpack]
  simp only
  rw [if_neg hones]
  split
  · rename_i hzero
    split
    · exact trivial
    · show ((@unpackExponent Format.binary64 b).toNat : Int) - (1023 + 52) + 1 ≤ k
      rw [hzero]
      change ((0#11 : BitVec 11).toNat : Int) - (1023 + 52) + 1 ≤ k
      simpa using hlow
  · show ((@unpackExponent Format.binary64 b).toNat : Int) - (1023 + 52) ≤ k
    omega

/-- Packing does not raise the scale. -/
theorem ScaleLE.pack {k : Int} {u : UnpackedFloat} (h : ScaleLE k u) (hlow : -1074 ≤ k)
    (hhigh : k ≤ 971) : ScaleLE k (Float.Model.pack u).unpack := by
  cases u with
  | infinity _ | notANumber => exact h.elim
  | zero s => cases s <;> exact trivial
  | finite s m e hm =>
    have hle : e ≤ k := h
    have hbias : (e + Format.binary64.exponentBias +
        Format.binary64.mantissaBitsWithoutImplicit).toNat = (e + 1075).toNat := by
      change (e + 1023 + 52).toNat = _
      omega
    refine scaleLE_unpack hlow hhigh ?_
    show ((@unpackExponent Format.binary64
      (UnpackedFloat.pack Format.binary64 (.finite s m e hm))).toNat : Int) ≤ k + 1075
    rw [UnpackedFloat.pack]
    simp only [hbias]
    rw [if_neg (by omega)]
    split
    · rw [unpackExponent_packComponents, BitVec.toNat_ofNat]
      have hmod : (e + 1075).toNat % 2 ^ Format.binary64.exponentBits ≤ (e + 1075).toNat :=
        Nat.mod_le _ _
      omega
    · rw [unpackExponent_packComponents]
      simp
      omega

/-- The mantissa of a double has at most fifty-three digits, and its scale is bounded. -/
theorem unpack_bounds {b : BitVec Format.binary64.numBits} {s : Sign} {m : Nat} {e : Int}
    {hm : 0 < m} (h : UnpackedFloat.unpack Format.binary64 b = .finite s m e hm) :
    m < 2 ^ 53 ∧ -1074 ≤ e ∧ e ≤ 971 := by
  have hfraction : (@unpackMantissa Format.binary64 b).toNat < 2 ^ 52 := BitVec.isLt _
  have hexponent : (@unpackExponent Format.binary64 b).toNat < 2 ^ 11 := BitVec.isLt _
  rw [UnpackedFloat.unpack] at h
  simp only at h
  split at h
  · split at h <;> cases h
  · rename_i hones
    have hmax : (@unpackExponent Format.binary64 b).toNat ≠ 2047 := fun heq =>
      hones (BitVec.eq_of_toNat_eq heq)
    split at h
    · rename_i hzero
      split at h
      · cases h
      · rw [UnpackedFloat.finite.injEq] at h
        obtain ⟨-, rfl, rfl⟩ := h
        have hscale : ((0#11 : BitVec 11).toNat : Int) - (1023 + 52) + 1 = -1074 := rfl
        rw [hzero]
        change _ ∧ -1074 ≤ ((0#11 : BitVec 11).toNat : Int) - (1023 + 52) + 1 ∧
          ((0#11 : BitVec 11).toNat : Int) - (1023 + 52) + 1 ≤ 971
        omega
    · rename_i hzero
      have hmin : (@unpackExponent Format.binary64 b).toNat ≠ 0 := fun heq =>
        hzero (BitVec.eq_of_toNat_eq heq)
      rw [UnpackedFloat.finite.injEq] at h
      obtain ⟨-, rfl, rfl⟩ := h
      have hmantissa : (1#1 ++ @unpackMantissa Format.binary64 b).toNat < 2 ^ 53 := BitVec.isLt _
      change _ ∧ -1074 ≤ ((@unpackExponent Format.binary64 b).toNat : Int) - (1023 + 52) ∧
        ((@unpackExponent Format.binary64 b).toNat : Int) - (1023 + 52) ≤ 971
      omega

/-! ### Shifting -/

theorem shiftRight_mantissa (em : ExtendedMantissa) (k : Nat) :
    (em >>> k).mantissa = em.mantissa / 2 ^ k := by
  change (k.repeat ExtendedMantissa.shiftRightOne em).mantissa = _
  induction k with
  | zero => exact (Nat.div_one _).symm
  | succ k ih => rw [Nat.repeat, ExtendedMantissa.shiftRightOne, ih, Nat.div_div_eq_div_mul, pow_succ]

/-- The round bit is the last bit that is shifted out. -/
theorem shiftRight_succ_roundBit (em : ExtendedMantissa) (k : Nat) :
    (em >>> (k + 1)).roundBit = (em.mantissa / 2 ^ k % 2 != 0) := by
  have hmantissa := shiftRight_mantissa em k
  change (k.repeat ExtendedMantissa.shiftRightOne em).mantissa = _ at hmantissa
  change ((k.repeat ExtendedMantissa.shiftRightOne em).mantissa % 2 != 0) = _
  rw [hmantissa]

theorem mantissa_ofMantissaAndAccuracy (m : Nat) (a : Accuracy) :
    (ExtendedMantissa.ofMantissaAndAccuracy m a).mantissa = m := by
  cases a with
  | exact => rfl
  | inexact order => cases order <;> rfl

/-- Rounding is to one of the two natural numbers around. -/
theorem roundedMantissa_bounds (em : ExtendedMantissa) :
    em.mantissa ≤ em.roundedMantissa ∧ em.roundedMantissa ≤ em.mantissa + 1 := by
  obtain ⟨m, roundBit, stickyBit⟩ := em
  have hparity := Nat.mod_lt m (by decide : 2 > 0)
  cases roundBit <;> cases stickyBit <;>
    simp only [ExtendedMantissa.roundedMantissa, ExtendedMantissa.accuracy,
      Accuracy.roundToNearestEven] <;> omega

/-- Below a half, rounding is downward. -/
theorem roundedMantissa_of_roundBit {em : ExtendedMantissa} (h : em.roundBit = false) :
    em.roundedMantissa = em.mantissa := by
  obtain ⟨m, roundBit, stickyBit⟩ := em
  obtain rfl : roundBit = false := h
  cases stickyBit <;> rfl

/-- What is below half a unit above `n` is rounded to at most `n`. -/
theorem roundedMantissa_shiftRight_le {m n k : Nat} (h : 2 * m < (2 * n + 1) * 2 ^ k) :
    ((⟨m, false, false⟩ : ExtendedMantissa) >>> k).roundedMantissa ≤ n := by
  have hle := (roundedMantissa_bounds ((⟨m, false, false⟩ : ExtendedMantissa) >>> k)).2
  rw [shiftRight_mantissa] at hle
  change _ ≤ m / 2 ^ k + 1 at hle
  have hquotient : m / 2 ^ k < n + 1 := by
    refine Nat.div_lt_of_lt_mul ?_
    have hpow : 0 < 2 ^ k := by positivity
    nlinarith
  rcases Nat.lt_succ_iff_lt_or_eq.mp hquotient with hlt | heq
  · omega
  · cases k with
    | zero =>
      show m ≤ n
      omega
    | succ k =>
      have hhalf : m / 2 ^ k < 2 * n + 1 := by
        refine Nat.div_lt_of_lt_mul ?_
        rw [pow_succ] at h
        linarith
      have hagain : m / 2 ^ k / 2 = n := by rw [Nat.div_div_eq_div_mul, ← pow_succ, heq]
      have hbit : ((⟨m, false, false⟩ : ExtendedMantissa) >>> (k + 1)).roundBit = false := by
        rw [shiftRight_succ_roundBit]
        show (m / 2 ^ k % 2 != 0) = false
        have heven : m / 2 ^ k % 2 = 0 := by omega
        rw [heven]
        rfl
      rw [roundedMantissa_of_roundBit hbit, shiftRight_mantissa]
      exact heq.le

/-! ### Rounding -/

theorem log2_le_of_lt {n k : Nat} (h : n < 2 ^ (k + 1)) : n.log2 ≤ k := by
  rcases Nat.eq_zero_or_pos n with rfl | hpos
  · exact Nat.zero_le k
  · exact Nat.le_of_lt_succ ((Nat.log2_lt hpos.ne').mpr h)

/-- The scale at which a mantissa has fifty-three digits, if it is not too small for that. -/
def properScale (m : Nat) (e : Int) : Int := max (m.log2 + 1 + e - 53) (-1074)

theorem shiftToTargetExponent_eq (m : Nat) (e : Int) (a : Accuracy) :
    shiftToTargetExponent Format.binary64 m e a =
      (ExtendedMantissa.ofMantissaAndAccuracy m a >>> (properScale m e - e).toNat,
        max e (properScale m e)) := by
  have htarget : Format.binary64.targetExponent (totalExponent m e) = properScale m e := rfl
  rw [shiftToTargetExponent, htarget, shiftToExponent, Prod.mk.injEq]
  exact ⟨rfl, by omega⟩

/-- At its proper scale a mantissa has at most fifty-three digits. -/
theorem div_properScale_lt (m : Nat) (e : Int) :
    m / 2 ^ (properScale m e - e).toNat < 2 ^ 53 := by
  refine Nat.div_lt_of_lt_mul ?_
  calc m < 2 ^ (m.log2 + 1) := Nat.lt_log2_self
    _ ≤ 2 ^ ((properScale m e - e).toNat + 53) := by
      refine Nat.pow_le_pow_right (by decide) ?_
      rw [properScale]
      omega
    _ = 2 ^ (properScale m e - e).toNat * 2 ^ 53 := pow_add _ _ _

/-- The mantissa that a rounded one comes to. -/
def roundedAt (m : Nat) (e : Int) (a : Accuracy) : Nat :=
  (ExtendedMantissa.ofMantissaAndAccuracy m a >>> (properScale m e - e).toNat).roundedMantissa

theorem roundedAt_le (m : Nat) (e : Int) (a : Accuracy) : roundedAt m e a ≤ 2 ^ 53 := by
  refine (roundedMantissa_bounds _).2.trans ?_
  rw [shiftRight_mantissa, mantissa_ofMantissaAndAccuracy]
  exact div_properScale_lt m e

/-- A result is rounded at its proper scale, and brought to its proper scale once more. -/
theorem scaleLE_properScale {s : Sign} {m : Nat} {e k : Int} {a : Accuracy}
    (hk : max e (properScale m e) ≤ k)
    (hagain : properScale (roundedAt m e a) (max e (properScale m e)) ≤ k) :
    ScaleLE k (roundWithAccuracy Format.binary64 s m e a) := by
  rw [roundWithAccuracy]
  simp only [shiftToTargetExponent_eq]
  split
  · exact trivial
  · exact Int.max_le.mpr ⟨hk, hagain⟩

/-- **Rounding raises the scale by one at most.** -/
theorem scaleLE_roundWithAccuracy {s : Sign} {m : Nat} {e k : Int} {a : Accuracy}
    (hlow : -1074 ≤ k) (he : e ≤ k) (hm : m.log2 + e ≤ k + 52) :
    ScaleLE (k + 1) (roundWithAccuracy Format.binary64 s m e a) := by
  have hproper : properScale m e ≤ k := by
    rw [properScale]
    omega
  have hlog : (roundedAt m e a).log2 ≤ 53 :=
    log2_le_of_lt ((roundedAt_le m e a).trans_lt (by decide))
  refine scaleLE_properScale (by omega) ?_
  rw [properScale]
  omega

/-- **Close to the largest double, rounding is downward** below half a unit above it. -/
theorem scaleLE_roundWithAccuracy_of_lt {s : Sign} {m : Nat} {e : Int} (he : e ≤ 971)
    (hm : 2 * m < (2 ^ 54 - 1) * 2 ^ (971 - e).toNat) :
    ScaleLE 971 (roundWithAccuracy Format.binary64 s m e .exact) := by
  have hlog : m.log2 ≤ 52 + (971 - e).toNat := by
    refine log2_le_of_lt ?_
    rw [Nat.add_right_comm, pow_add]
    omega
  rcases lt_or_ge (max e (properScale m e)) 971 with hlt | hge
  · refine ScaleLE.mono (scaleLE_roundWithAccuracy (k := 970) (by decide) (by omega) ?_) (by decide)
    rw [properScale] at hlt
    omega
  · have hshift : (properScale m e - e).toNat = (971 - e).toNat := by
      rw [properScale] at hge ⊢
      omega
    have hrounded : roundedAt m e .exact ≤ 2 ^ 53 - 1 := by
      refine roundedMantissa_shiftRight_le ?_
      rw [hshift]
      exact hm
    have hfits : (roundedAt m e .exact).log2 ≤ 52 :=
      log2_le_of_lt (hrounded.trans_lt (by decide))
    have hproper : max e (properScale m e) ≤ 971 := by
      rw [properScale]
      omega
    refine scaleLE_properScale hproper ?_
    rw [properScale]
    omega

/-- The same where the exponent is lowered first. -/
theorem scaleLE_round_of_lt {s : Sign} {m : Nat} {e : Int} (he : e ≤ 971)
    (hm : 2 * m < (2 ^ 54 - 1) * 2 ^ (971 - e).toNat) :
    ScaleLE 971 (UnpackedFloat.round Format.binary64 s m e) := by
  have htarget : Format.binary64.targetExponent (totalExponent m e) = properScale m e := rfl
  rw [UnpackedFloat.round]
  simp only [htarget, decreaseExponent]
  refine scaleLE_roundWithAccuracy_of_lt (by omega) ?_
  have hscale : (971 - (e - (e - properScale m e).toNat)).toNat =
      (971 - e).toNat + (e - properScale m e).toNat := by omega
  rw [hscale, pow_add, Nat.shiftLeft_eq, ← mul_assoc, ← mul_assoc]
  exact Nat.mul_lt_mul_of_pos_right hm (by positivity)

/-- Rounding a mantissa that has fifty-three digits once its last ones are dropped. -/
theorem roundWithAccuracy_of_full {s : Sign} {m k : Nat} {e : Int} (hlow : 2 ^ 52 * 2 ^ k ≤ m)
    (hhigh : m < 2 ^ 53 * 2 ^ k) (he : -1074 ≤ e + k) :
    ∃ m' e', ∃ hpos : 0 < m', roundWithAccuracy Format.binary64 s m e .exact = .finite s m' e' hpos ∧
      2 ^ 52 ≤ m' ∧ m' < 2 ^ 53 ∧ e + k ≤ e' ∧ e' ≤ e + k + 1 := by
  have hlog : m.log2 = 52 + k := by
    refine (Nat.log2_eq_iff ?_).mpr ⟨by rwa [pow_add], by rwa [Nat.add_right_comm, pow_add]⟩
    have hpow : 0 < 2 ^ 52 * 2 ^ k := by positivity
    omega
  have hproper : properScale m e = e + k := by
    rw [properScale, hlog]
    omega
  have hshift : (properScale m e - e).toNat = k := by omega
  have hfirst : shiftToTargetExponent Format.binary64 m e .exact =
      (ExtendedMantissa.ofMantissaAndAccuracy m .exact >>> k, e + k) := by
    rw [shiftToTargetExponent_eq, hshift, Prod.mk.injEq]
    exact ⟨rfl, by omega⟩
  have hbounds := roundedMantissa_bounds (ExtendedMantissa.ofMantissaAndAccuracy m .exact >>> k)
  rw [shiftRight_mantissa, mantissa_ofMantissaAndAccuracy] at hbounds
  have hquotient : 2 ^ 52 ≤ m / 2 ^ k ∧ m / 2 ^ k < 2 ^ 53 := by
    constructor
    · exact (Nat.le_div_iff_mul_le (by positivity)).mpr hlow
    · exact Nat.div_lt_of_lt_mul (by rwa [mul_comm])
  -- rounding may give one digit more, which is a zero
  have hagain : ∃ m' e', shiftToTargetExponent Format.binary64
      (ExtendedMantissa.ofMantissaAndAccuracy m .exact >>> k).roundedMantissa (e + k) .exact =
        (⟨m', false, false⟩, e') ∧ 2 ^ 52 ≤ m' ∧ m' < 2 ^ 53 ∧ e + k ≤ e' ∧ e' ≤ e + k + 1 := by
    generalize (ExtendedMantissa.ofMantissaAndAccuracy m .exact >>> k).roundedMantissa = r at hbounds ⊢
    rcases Nat.lt_or_ge r (2 ^ 53) with hlt | hge
    · refine ⟨r, e + k, ?_, by omega, hlt, by omega, by omega⟩
      have hsame := shiftToTargetExponent_exact (m := r) (by omega) hlt he 0
      rwa [Nat.pow_zero, Nat.mul_one, Int.natCast_zero, Int.sub_zero] at hsame
    · obtain rfl : r = 2 ^ 52 * 2 ^ 1 := by omega
      refine ⟨2 ^ 52, e + k + 1, ?_, by decide, by decide, by omega, by omega⟩
      have hhalved := shiftToTargetExponent_exact (m := 2 ^ 52) (e := e + k + 1) (by decide)
        (by decide) (by omega) 1
      rwa [Nat.cast_one, add_sub_cancel_right] at hhalved
  obtain ⟨m', e', hagain, hlow', hhigh', hscale⟩ := hagain
  refine ⟨m', e', Nat.lt_of_lt_of_le (by decide) hlow', ?_, hlow', hhigh', hscale⟩
  rw [roundWithAccuracy, hfirst]
  simp only [hagain]
  rw [dif_neg (by omega)]

theorem natAbs_apply_add_le (s t : Sign) (a b : Nat) :
    (s.apply a + t.apply b).natAbs ≤ a + b := by
  cases s <;> cases t <;> simp only [Sign.apply] <;> omega

theorem scaleLE_normalize_of_lt {m e : Int} {s : Sign} (he : e ≤ 971)
    (hm : 2 * m.natAbs < (2 ^ 54 - 1) * 2 ^ (971 - e).toNat) :
    ScaleLE 971 (UnpackedFloat.normalize Format.binary64 m e s) := by
  rw [UnpackedFloat.normalize]
  split
  · refine scaleLE_round_of_lt he ?_
    have hneg : (-m).toNat ≤ m.natAbs := by omega
    omega
  · exact trivial
  · refine scaleLE_round_of_lt he ?_
    have hpos : m.toNat ≤ m.natAbs := by omega
    omega

end Model

namespace Double

open Float.Model Float.Model.UnpackedFloat

variable {x y : Float}

/-! ### Finite results -/

/-- **The finite doubles** are those that are scaled by no more than the largest one. -/
theorem isFinite_iff_scaleLE : x.isFinite = true ↔ ScaleLE 971 x.toModel.unpack := by
  rw [Float.isFinite, Float.Model.isFinite]
  cases hx : x.toModel.unpack with
  | notANumber | infinity _ => exact ⟨fun h => absurd h Bool.false_ne_true, False.elim⟩
  | zero _ => exact ⟨fun _ => trivial, fun _ => rfl⟩
  | finite s m e hm => exact ⟨fun _ => (unpack_bounds hx).2.2, fun _ => rfl⟩

/-- A number whose scale is bounded is zero, or has a mantissa of at most fifty-three digits. -/
theorem unpack_of_scaleLE {k : Int} (h : ScaleLE k x.toModel.unpack) :
    (∃ s, x.toModel.unpack = .zero s) ∨
      ∃ s m e hm, x.toModel.unpack = .finite s m e hm ∧ m < 2 ^ 53 ∧ e ≤ k ∧ e ≤ 971 := by
  cases hx : x.toModel.unpack with
  | notANumber | infinity _ =>
    rw [hx] at h
    exact h.elim
  | zero s => exact Or.inl ⟨s, rfl⟩
  | finite s m e hm =>
    obtain ⟨hmantissa, -, hscale⟩ := unpack_bounds hx
    rw [hx] at h
    exact Or.inr ⟨s, m, e, hm, rfl, hmantissa, h, hscale⟩

theorem scaleLE_mul {j k l : Int} (hx : ScaleLE j x.toModel.unpack)
    (hy : ScaleLE k y.toModel.unpack) (hl : j + k + 53 ≤ l) (hlow : -1074 ≤ l) (hhigh : l < 971) :
    ScaleLE (l + 1) (x * y).toModel.unpack := by
  refine ScaleLE.pack (u := UnpackedFloat.mul Format.binary64 x.toModel.unpack y.toModel.unpack) ?_
    (by omega) (by omega)
  obtain ⟨s, hx⟩ | ⟨s, m, e, hm, hx, hm', hj, -⟩ := unpack_of_scaleLE hx
  · obtain ⟨t, hy⟩ | ⟨t, n, f, hn, hy, -⟩ := unpack_of_scaleLE hy
    · rw [hx, hy]
      exact trivial
    · rw [hx, hy]
      exact trivial
  · obtain ⟨t, hy⟩ | ⟨t, n, f, hn, hy, hn', hk, -⟩ := unpack_of_scaleLE hy
    · rw [hx, hy]
      exact trivial
    · rw [hx, hy, UnpackedFloat.mul]
      have hproduct : m * n < 2 ^ (105 + 1) := (Nat.mul_lt_mul'' hm' hn').trans_eq (by norm_num)
      have hlog := log2_le_of_lt hproduct
      exact scaleLE_roundWithAccuracy hlow (by omega) (by omega)

theorem scaleLE_div {j l f : Int} {t : Sign} {n : Nat} {hn : 0 < n}
    (hx : ScaleLE j x.toModel.unpack) (hy : y.toModel.unpack = .finite t n f hn) (hl : j - f ≤ l)
    (hlow : -1074 ≤ l) (hhigh : l < 971) : ScaleLE (l + 1) (x / y).toModel.unpack := by
  refine ScaleLE.pack (u := UnpackedFloat.div Format.binary64 x.toModel.unpack y.toModel.unpack) ?_
    (by omega) (by omega)
  rw [hy]
  obtain ⟨s, hx⟩ | ⟨s, m, e, hm, hx, hm', hj, -⟩ := unpack_of_scaleLE hx
  · rw [hx]
    exact trivial
  · rw [hx, UnpackedFloat.div]
    simp only [divCore]
    generalize Format.binary64.targetExponent _ = target
    have hquotient : (m <<< (e - f - min (e - f) target).toNat / n).log2 ≤
        52 + (e - f - min (e - f) target).toNat := by
      refine log2_le_of_lt ((Nat.div_le_self _ n).trans_lt ?_)
      rw [Nat.shiftLeft_eq, Nat.add_right_comm, pow_add]
      exact Nat.mul_lt_mul_of_pos_right hm' (by positivity)
    exact scaleLE_roundWithAccuracy hlow (by omega) (by omega)

/-- **Adding something small to a finite number** gives a finite number. -/
theorem isFinite_add_of_scaleLE (hx : x.isFinite = true) (hy : ScaleLE 900 y.toModel.unpack) :
    (x + y).isFinite = true := by
  have hy' := hy.mono (by decide : (900 : Int) ≤ 971)
  have hx' := isFinite_iff_scaleLE.mp hx
  refine isFinite_iff_scaleLE.mpr (ScaleLE.pack
    (u := UnpackedFloat.add Format.binary64 x.toModel.unpack y.toModel.unpack) ?_ (by decide) (by decide))
  obtain ⟨s, hzero⟩ | ⟨s, m, e, hm, hfinite, hm', he, -⟩ := unpack_of_scaleLE hx'
  · rw [hzero]
    obtain ⟨t, hy⟩ | ⟨t, n, f, hn, hy, -⟩ := unpack_of_scaleLE hy
    · rw [hy]
      cases s <;> cases t <;> exact trivial
    · rw [hy] at hy' ⊢
      exact hy'
  · obtain ⟨t, hy⟩ | ⟨t, n, f, hn, hy, hn', hf, -⟩ := unpack_of_scaleLE hy
    · rw [hfinite] at hx' ⊢
      rw [hy]
      exact hx'
    · rw [hfinite, hy, UnpackedFloat.add]
      simp only [decreaseExponent, Nat.shiftLeft_eq]
      refine scaleLE_normalize_of_lt (by omega) ?_
      have hsum := natAbs_apply_add_le s t (m * 2 ^ (e - min e f).toNat) (n * 2 ^ (f - min e f).toNat)
      have hpow : 2 ^ (971 - min e f).toNat = 2 ^ (900 - min e f).toNat * 2 ^ 71 := by
        rw [← pow_add]
        congr 1
        omega
      have hleft : m * 2 ^ (e - min e f).toNat ≤ (2 ^ 53 - 1) * 2 ^ (971 - min e f).toNat :=
        Nat.mul_le_mul (by omega) (Nat.pow_le_pow_right (by decide) (by omega))
      have hright : n * 2 ^ (f - min e f).toNat ≤ 2 ^ 53 * 2 ^ (900 - min e f).toNat :=
        Nat.mul_le_mul hn'.le (Nat.pow_le_pow_right (by decide) (by omega))
      have hpos : 0 < 2 ^ (900 - min e f).toNat := by positivity
      omega

/-- A number between minus one and one is zero, or its mantissa is at most one over its scale. -/
theorem unpack_of_unit {c : Float} (hlow : -1.0 ≤ c) (hhigh : c ≤ 1.0) :
    (∃ s, c.toModel.unpack = .zero s) ∨
      ∃ s m e hm, c.toModel.unpack = .finite s m e hm ∧ e ≤ -52 ∧ m ≤ 2 ^ (-e).toNat := by
  have hone : (1.0 : Float).toModel.unpack = .finite .positive (2 ^ 52) (-52) (by decide) := rfl
  have hminus : (-1.0 : Float).toModel.unpack = .finite .negative (2 ^ 52) (-52) (by decide) := rfl
  rw [le_iff, UnpackedFloat.le, hminus] at hlow
  rw [le_iff, UnpackedFloat.le, hone] at hhigh
  cases hc : c.toModel.unpack with
  | notANumber =>
    rw [hc] at hhigh
    contradiction
  | infinity s =>
    rw [hc] at hlow hhigh
    cases s <;> contradiction
  | zero s => exact Or.inl ⟨s, rfl⟩
  | finite s m e hm =>
    refine Or.inr ⟨s, m, e, hm, rfl, ?_⟩
    have hbound := (unpack_bounds hc).1
    rw [hc] at hlow hhigh
    have hle : ((compare e (-52)).then (compare m (2 ^ 52))).isLE = true := by
      cases s with
      | positive => exact hhigh
      | negative =>
        change (((compare (-52) e).then (compare (2 ^ 52) m)).swap).isLE = true at hlow
        rwa [Ordering.swap_then, ← Std.OrientedCmp.eq_swap, ← Std.OrientedCmp.eq_swap] at hlow
    rcases Ordering.isLE_then_iff_or.mp hle with hlt | ⟨heq, hmantissa⟩
    · have hscale := compare_lt_iff_lt.mp hlt
      have hpow : 2 ^ 53 ≤ 2 ^ (-e).toNat := Nat.pow_le_pow_right (by decide) (by omega)
      exact ⟨hscale.le, by omega⟩
    · obtain rfl := compare_eq_iff_eq.mp heq
      exact ⟨Int.le_refl _, Nat.isLE_compare.mp hmantissa⟩

/-- **A finite number times at most one** is finite. -/
theorem isFinite_mul_of_unit {c : Float} (hlow : -1.0 ≤ c) (hhigh : c ≤ 1.0)
    (hx : x.isFinite = true) : (c * x).isFinite = true := by
  refine isFinite_iff_scaleLE.mpr (ScaleLE.pack
    (u := UnpackedFloat.mul Format.binary64 c.toModel.unpack x.toModel.unpack) ?_ (by decide) (by decide))
  obtain ⟨s, hc⟩ | ⟨s, m, e, hm, hc, he, hm'⟩ := unpack_of_unit hlow hhigh
  · obtain ⟨t, hx⟩ | ⟨t, n, f, hn, hx, -⟩ := unpack_of_scaleLE (isFinite_iff_scaleLE.mp hx)
    · rw [hc, hx]
      exact trivial
    · rw [hc, hx]
      exact trivial
  · obtain ⟨t, hx⟩ | ⟨t, n, f, hn, hx, hn', hf, -⟩ :=
      unpack_of_scaleLE (isFinite_iff_scaleLE.mp hx)
    · rw [hc, hx]
      exact trivial
    · rw [hc, hx, UnpackedFloat.mul]
      refine scaleLE_roundWithAccuracy_of_lt (by omega) ?_
      have hscale : (971 - (e + f)).toNat = (971 - f).toNat + (-e).toNat := by omega
      calc 2 * (m * n) = 2 * n * m := by ring
        _ ≤ 2 * n * 2 ^ (-e).toNat := Nat.mul_le_mul_left _ hm'
        _ < (2 ^ 54 - 1) * 2 ^ (-e).toNat := Nat.mul_lt_mul_of_pos_right (by omega) (by positivity)
        _ ≤ (2 ^ 54 - 1) * 2 ^ (971 - (e + f)).toNat := by
          rw [hscale]
          exact Nat.mul_le_mul_left _ (Nat.pow_le_pow_right (by decide) (by omega))

/-! ### Natural numbers and angles -/

/-- A natural number of at most sixty-four digits is neither zero nor scaled very far. -/
theorem unpack_ofNat {n : Nat} (hpos : 0 < n) (hlt : n < 2 ^ 64) :
    ∃ m e hm, (Float.ofNat n).toModel.unpack = .finite .positive m e hm ∧ -52 ≤ e ∧ e ≤ 12 := by
  rcases Nat.lt_or_ge n (2 ^ 53) with hsmall | hlarge
  · have hlog := log2_le hpos hsmall
    refine ⟨fullMantissa n, n.log2 - 52, Nat.lt_of_lt_of_le (by decide) (le_fullMantissa hpos hsmall),
      ?_, by omega, by omega⟩
    rw [toModel_ofNat hpos hsmall, ofNat_unpacked hpos hsmall]
    exact unpack_pack _ (le_fullMantissa hpos hsmall) (fullMantissa_lt hpos hsmall) (by omega) (by omega)
  · -- too large to be taken as it is, so it is rounded
    have hexponent : (2 : Int) ^ Format.binary64.exponentBits = 2048 := rfl
    have hrounded : (Float.ofNat n).toModel = Float.Model.pack
        (roundWithAccuracy Format.binary64 .positive (n <<< 53 * 10 ^ 0) (-53 + 0) .exact) := by
      have hmodel : Float.ofNat n = Float.ofModel (Float.Model.ofScientific n 0) := by
        change Float.ofScientific n false 0 = _
        rw [Float.ofScientific, dif_neg (by omega)]
        rfl
      rw [hmodel, Float.Model.ofScientific, UnpackedFloat.ofScientific, dif_neg (by omega),
        if_neg (by decide), if_neg (by omega), if_pos (by decide)]
      rfl
    have hlog := (Nat.le_log2 hpos.ne').mpr hlarge
    have hlog' := (Nat.log2_lt hpos.ne').mpr hlt
    have hmantissa : n <<< 53 * 10 ^ 0 = n * 2 ^ 53 := by
      rw [pow_zero, mul_one, Nat.shiftLeft_eq]
    have hfull : 2 ^ 52 * 2 ^ (n.log2 + 1) ≤ n * 2 ^ 53 ∧ n * 2 ^ 53 < 2 ^ 53 * 2 ^ (n.log2 + 1) := by
      have hself := Nat.log2_self_le hpos.ne'
      have hnext : n < 2 ^ (n.log2 + 1) := Nat.lt_log2_self
      rw [pow_succ] at hnext ⊢
      omega
    obtain ⟨m, e, hm, hround, hlow, hhigh, he, he'⟩ := roundWithAccuracy_of_full
      (s := .positive) (e := -53 + 0) hfull.1 hfull.2 (by omega)
    refine ⟨m, e, hm, ?_, by omega, by omega⟩
    rw [hrounded, hmantissa, hround]
    exact unpack_pack _ hlow hhigh (by omega) (by omega)

theorem scaleLE_ofNat {n : Nat} (hlt : n < 2 ^ 64) :
    ScaleLE 12 (Float.ofNat n).toModel.unpack := by
  rcases Nat.eq_zero_or_pos n with rfl | hpos
  · exact trivial
  · obtain ⟨m, e, hm, hn, -, he⟩ := unpack_ofNat hpos hlt
    rw [hn]
    exact he

/-- **An angle on the way around** is finite, wherever it starts. -/
theorem isFinite_add_turns {i count : Nat} (hi : i < count) (hcount : count < 2 ^ 64)
    (hx : x.isFinite = true) :
    (x + Float.ofNat i * (tau / Float.ofNat count)).isFinite = true := by
  have htau : ScaleLE (-50) tau.toModel.unpack := Int.le_refl _
  obtain ⟨m, e, hm, hn, he, -⟩ := unpack_ofNat (Nat.zero_lt_of_lt hi) hcount
  have hstep : ScaleLE 3 (tau / Float.ofNat count).toModel.unpack :=
    scaleLE_div (l := 2) htau hn (by omega) (by decide) (by decide)
  have hturns : ScaleLE 69 (Float.ofNat i * (tau / Float.ofNat count)).toModel.unpack :=
    scaleLE_mul (l := 68) (scaleLE_ofNat (hi.trans hcount)) hstep (by decide) (by decide) (by decide)
  exact isFinite_add_of_scaleLE hx (hturns.mono (by decide))

end Double

end ParametricScene
