import Mathlib
import ParametricScene.Proofs.ExactText

/-!
# Rounding gives whole numbers

A number that is not whole is rounded by way of its digits: the natural number beside it is found
without any loss, and then has to be written as a double again. Here it is shown that nothing is lost on
this way back either, so that a rounded number is whole and rounding it once more does nothing.

The natural numbers that come up have at most fifty-three binary digits. Such a number is put into a
mantissa of full length, and every step of the arithmetic that makes a double of it drops zeros only.

## Main definitions

* `fullMantissa` — the mantissa of full length of a natural number

## Main results

* `roundWithAccuracy_exact` — no bit is lost where only zeros are dropped
* `Binary.ofFloat?_signed` — the fields of a natural number with a sign
* `Double.isWhole_mapWhole` — what takes the place of a number is whole
* `Double.roundHalfAway_of_isWhole` — whole numbers stay as they are
-/

namespace ParametricScene

/-! ### Mantissas of full length -/

/-- The binary digits of a natural number with zeros behind them, fifty-three in all. -/
def fullMantissa (n : Nat) : Nat := n * 2 ^ (52 - n.log2)

theorem log2_le {n : Nat} (hpos : 0 < n) (hlt : n < 2 ^ 53) : n.log2 ≤ 52 :=
  Nat.le_of_lt_succ ((Nat.log2_lt hpos.ne').mpr hlt)

theorem le_fullMantissa {n : Nat} (hpos : 0 < n) (hlt : n < 2 ^ 53) : 2 ^ 52 ≤ fullMantissa n := by
  have hlog := log2_le hpos hlt
  calc 2 ^ 52 = 2 ^ n.log2 * 2 ^ (52 - n.log2) := by rw [← Nat.pow_add]; congr 1; omega
    _ ≤ fullMantissa n := Nat.mul_le_mul_right _ (Nat.log2_self_le hpos.ne')

theorem fullMantissa_lt {n : Nat} (hpos : 0 < n) (hlt : n < 2 ^ 53) : fullMantissa n < 2 ^ 53 := by
  have hlog := log2_le hpos hlt
  calc fullMantissa n < 2 ^ (n.log2 + 1) * 2 ^ (52 - n.log2) :=
        Nat.mul_lt_mul_of_pos_right Nat.lt_log2_self (by positivity)
    _ = 2 ^ 53 := by rw [← Nat.pow_add]; congr 1; omega

section Model

open Float.Model Float.Model.UnpackedFloat

variable {s : Sign} {m : Nat} {e : Int}

/-! ### Packing and unpacking -/

/-- The bits of a double whose mantissa has full length. -/
theorem toNat_pack (hpos : 0 < m) (hm : 2 ^ 52 ≤ m) (hm' : m < 2 ^ 53) (he : -1074 ≤ e)
    (he' : e ≤ 971) :
    (UnpackedFloat.pack Format.binary64 (.finite s m e hpos)).toNat =
      s.toBitVec.toNat * 2 ^ 63 + (e + 1075).toNat * 2 ^ 52 + (m - 2 ^ 52) := by
  have hlog : m.log2 = 52 := (Nat.log2_eq_iff hpos.ne').mpr ⟨hm, hm'⟩
  have hbias : (e + Format.binary64.exponentBias +
      Format.binary64.mantissaBitsWithoutImplicit).toNat = (e + 1075).toNat := by
    change (e + 1023 + 52).toNat = _
    omega
  have hpack : UnpackedFloat.pack Format.binary64 (.finite s m e hpos) =
      packComponents Format.binary64 s (BitVec.ofNat 11 (e + 1075).toNat) (BitVec.ofNat 52 m) := by
    rw [UnpackedFloat.pack]
    simp only [hbias, hlog]
    rw [if_neg (by omega)]
    exact if_pos rfl
  have hbits : (UnpackedFloat.pack Format.binary64 (.finite s m e hpos)).toNat =
      (s.toBitVec.toNat <<< 11 ||| (e + 1075).toNat % 2 ^ 11) <<< 52 ||| m % 2 ^ 52 := by
    rw [hpack, packComponents, BitVec.toNat_append, BitVec.toNat_append, BitVec.toNat_ofNat,
      BitVec.toNat_ofNat]
  rw [hbits, ← Nat.shiftLeft_add_eq_or_of_lt (Nat.mod_lt _ (by decide)),
    ← Nat.shiftLeft_add_eq_or_of_lt (Nat.mod_lt _ (by decide)), Nat.shiftLeft_eq, Nat.shiftLeft_eq]
  omega

/-- A mantissa of full length is read back from the bits as it was. -/
theorem unpack_pack (hpos : 0 < m) (hm : 2 ^ 52 ≤ m) (hm' : m < 2 ^ 53) (he : -1074 ≤ e)
    (he' : e ≤ 971) : (Float.Model.pack (.finite s m e hpos)).unpack = .finite s m e hpos := by
  have hbits := toNat_pack (s := s) hpos hm hm' he he'
  change UnpackedFloat.unpack Format.binary64
    (UnpackedFloat.pack Format.binary64 (.finite s m e hpos)) = _
  generalize UnpackedFloat.pack Format.binary64 (.finite s m e hpos) = b at hbits
  have hsignBit : s.toBitVec.toNat < 2 := s.toBitVec.isLt
  have hexponent : (@unpackExponent Format.binary64 b).toNat = (e + 1075).toNat := by
    rw [toNat_unpackExponent, hbits]
    omega
  have hmantissa : (@unpackMantissa Format.binary64 b).toNat = m - 2 ^ 52 := by
    rw [toNat_unpackMantissa, hbits]
    omega
  have hsign : Sign.ofBitVec (@unpackSign Format.binary64 b) = s := by
    have hbit : @unpackSign Format.binary64 b = s.toBitVec := by
      refine BitVec.eq_of_toNat_eq ?_
      rw [toNat_unpackSign, hbits]
      omega
    rw [hbit]
    cases s <;> rfl
  -- the exponent is neither that of what is not finite nor that of the subnormal numbers
  have hfinite : @unpackExponent Format.binary64 b ≠ -1#_ := fun h => by
    rw [h] at hexponent
    change (-1#11 : BitVec 11).toNat = _ at hexponent
    have hones : (-1#11 : BitVec 11).toNat = 2047 := rfl
    omega
  have hnormal : @unpackExponent Format.binary64 b ≠ 0#_ := fun h => by
    rw [h] at hexponent
    change 0 = _ at hexponent
    omega
  rw [UnpackedFloat.unpack]
  simp only [hsign]
  rw [if_neg hfinite, if_neg hnormal, UnpackedFloat.finite.injEq]
  refine ⟨rfl, ?_, ?_⟩
  · rw [BitVec.toNat_append]
    change 1 <<< 52 ||| _ = m
    rw [hmantissa, ← Nat.shiftLeft_add_eq_or_of_lt (by omega)]
    omega
  · rw [hexponent]
    change ((e + 1075).toNat : Int) - (1023 + 52) = e
    omega

/-! ### Rounding where only zeros are dropped -/

theorem shiftRight_exact (m k : Nat) :
    (⟨m * 2 ^ k, false, false⟩ : ExtendedMantissa) >>> k = ⟨m, false, false⟩ := by
  change k.repeat ExtendedMantissa.shiftRightOne _ = _
  induction k generalizing m with
  | zero =>
    rw [Nat.pow_zero, Nat.mul_one]
    rfl
  | succ k ih =>
    have hm : m * 2 ^ (k + 1) = m * 2 * 2 ^ k := by ring
    rw [hm, Nat.repeat, ih, ExtendedMantissa.shiftRightOne]
    simp

theorem shiftToTargetExponent_exact (hm : 2 ^ 52 ≤ m) (hm' : m < 2 ^ 53) (he : -1074 ≤ e)
    (k : Nat) :
    shiftToTargetExponent Format.binary64 (m * 2 ^ k) (e - k) .exact =
      (⟨m, false, false⟩, e) := by
  have hlog : (m * 2 ^ k).log2 = 52 + k := by
    refine (Nat.log2_eq_iff (by positivity)).mpr ⟨?_, ?_⟩
    · rw [Nat.pow_add]
      exact Nat.mul_le_mul_right _ hm
    · rw [Nat.add_right_comm, Nat.pow_add]
      exact Nat.mul_lt_mul_of_pos_right hm' (by positivity)
  have htarget : Format.binary64.targetExponent (totalExponent (m * 2 ^ k) (e - k)) = e := by
    rw [Format.targetExponent, totalExponent, hlog]
    change max (((52 + k : Nat) : Int) + 1 + (e - k) - 53) (-1074) = e
    omega
  have hamount : (e - (e - k)).toNat = k := by omega
  rw [shiftToTargetExponent]
  simp only [htarget]
  rw [shiftToExponent]
  simp only [hamount]
  rw [ExtendedMantissa.ofMantissaAndAccuracy, shiftRight_exact, Prod.mk.injEq]
  exact ⟨rfl, by omega⟩

/-- **No bit is lost where only zeros are dropped.** -/
theorem roundWithAccuracy_exact (hpos : 0 < m) (hm : 2 ^ 52 ≤ m) (hm' : m < 2 ^ 53)
    (he : -1074 ≤ e) (k : Nat) :
    roundWithAccuracy Format.binary64 s (m * 2 ^ k) (e - k) .exact = .finite s m e hpos := by
  have hagain := shiftToTargetExponent_exact hm hm' he 0
  rw [Nat.pow_zero, Nat.mul_one, Int.natCast_zero, Int.sub_zero] at hagain
  rw [roundWithAccuracy, shiftToTargetExponent_exact hm hm' he]
  simp only [ExtendedMantissa.roundedMantissa, ExtendedMantissa.accuracy,
    Accuracy.roundToNearestEven, hagain]
  rw [dif_neg hpos.ne']

/-! ### Natural numbers as doubles -/

/-- A natural number is taken as it is, with a mantissa of full length. -/
theorem ofNat_unpacked {n : Nat} (hpos : 0 < n) (hlt : n < 2 ^ 53) :
    UnpackedFloat.ofNat Format.binary64 n = .finite .positive (fullMantissa n) (n.log2 - 52)
      (Nat.lt_of_lt_of_le (by decide) (le_fullMantissa hpos hlt)) := by
  have hlog := log2_le hpos hlt
  have htarget : Format.binary64.targetExponent (totalExponent n 0) = n.log2 - 52 := by
    rw [Format.targetExponent, totalExponent]
    change max ((n.log2 : Int) + 1 + 0 - 53) (-1074) = _
    omega
  have hamount : (0 - ((n.log2 : Int) - 52)).toNat = 52 - n.log2 := by omega
  have hexponent : (0 : Int) - (52 - n.log2 : Nat) = n.log2 - 52 := by omega
  have hcompare : compare (n : Int) 0 = .gt := by
    rw [compare_gt_iff_gt]
    omega
  have hround := roundWithAccuracy_exact (s := .positive) (e := n.log2 - 52)
    (Nat.lt_of_lt_of_le (by decide) (le_fullMantissa hpos hlt)) (le_fullMantissa hpos hlt)
    (fullMantissa_lt hpos hlt) (by omega) 0
  rw [Nat.pow_zero, Nat.mul_one, Int.natCast_zero, Int.sub_zero] at hround
  rw [UnpackedFloat.ofNat, UnpackedFloat.ofInt, UnpackedFloat.normalize, hcompare]
  simp only [Int.toNat_natCast]
  rw [UnpackedFloat.round]
  simp only [htarget]
  rw [decreaseExponent]
  simp only [hamount, hexponent, Nat.shiftLeft_eq]
  exact hround

/-- The way from a natural number to a double goes through a product with one, which changes
nothing. -/
theorem toModel_ofNat {n : Nat} (hpos : 0 < n) (hlt : n < 2 ^ 53) :
    (Float.ofNat n).toModel = Float.Model.pack (UnpackedFloat.ofNat Format.binary64 n) := by
  have hlog := log2_le hpos hlt
  have hone : (Float.exactlyRepresentablePowersOfTen[0]).toModel.unpack =
      .finite .positive (2 ^ 52) (-52) (by decide) := rfl
  have hproduct : Float.ofNat n =
      n.toUInt64.toFloat * Float.exactlyRepresentablePowersOfTen[0] := by
    change Float.ofScientific n false 0 = _
    rw [Float.ofScientific, dif_pos ⟨hlt, by decide⟩]
    rfl
  have hsmall : n.toUInt64.toNat = n := by
    change n % 2 ^ 64 = n
    omega
  have hfactor : n.toUInt64.toFloat.toModel =
      Float.Model.pack (UnpackedFloat.ofNat Format.binary64 n) := by
    rw [UInt64.toFloat, Float.Model.ofUInt64, UnpackedFloat.ofUInt64, hsmall]
  rw [hproduct]
  change Float.Model.pack (UnpackedFloat.mul Format.binary64 n.toUInt64.toFloat.toModel.unpack
    (Float.exactlyRepresentablePowersOfTen[0]).toModel.unpack) = _
  rw [hone, hfactor, ofNat_unpacked hpos hlt, unpack_pack _ (le_fullMantissa hpos hlt)
    (fullMantissa_lt hpos hlt) (by omega) (by omega), UnpackedFloat.mul]
  exact congrArg Float.Model.pack (roundWithAccuracy_exact _ (le_fullMantissa hpos hlt)
    (fullMantissa_lt hpos hlt) (by omega) 52)

/-- The sign bit that stands for a minus sign, or none. -/
def signOf (negative : Bool) : Sign := if negative then .negative else .positive

/-- A natural number with a sign, with a mantissa of full length. -/
theorem toModel_signed (negative : Bool) {n : Nat} (hpos : 0 < n) (hlt : n < 2 ^ 53) :
    (Double.signed negative n).toModel =
      Float.Model.pack (.finite (signOf negative) (fullMantissa n) (n.log2 - 52)
        (Nat.lt_of_lt_of_le (by decide) (le_fullMantissa hpos hlt))) := by
  have hlog := log2_le hpos hlt
  have hnat := toModel_ofNat hpos hlt
  rw [ofNat_unpacked hpos hlt] at hnat
  cases negative with
  | false => exact hnat
  | true =>
    change Float.Model.pack (Float.ofNat n).toModel.unpack.neg = _
    rw [hnat, unpack_pack _ (le_fullMantissa hpos hlt) (fullMantissa_lt hpos hlt) (by omega)
      (by omega)]
    rfl

end Model

/-- **The fields of a natural number with a sign.** -/
theorem Binary.ofFloat?_signed (negative : Bool) {n : Nat} (hpos : 0 < n) (hlt : n < 2 ^ 53) :
    Binary.ofFloat? (Double.signed negative n) =
      some ⟨negative, fullMantissa n, (n.log2 : Int) - 52⟩ := by
  have hlog := log2_le hpos hlt
  have hlow := le_fullMantissa hpos hlt
  have hhigh := fullMantissa_lt hpos hlt
  have hbits : (Double.signed negative n).toBits.toNat =
      (signOf negative).toBitVec.toNat * 2 ^ 63 + (n.log2 + 1023) * 2 ^ 52 +
        (fullMantissa n - 2 ^ 52) := by
    have hpack := toNat_pack (s := signOf negative) (e := (n.log2 : Int) - 52)
      (Nat.lt_of_lt_of_le (by decide) hlow) hlow hhigh (by omega) (by omega)
    have hbiased : ((n.log2 : Int) - 52 + 1075).toNat = n.log2 + 1023 := by omega
    rw [hbiased] at hpack
    rw [← hpack]
    exact congrArg (fun f : Float.Model => f.toBits.toNat) (toModel_signed negative hpos hlt)
  have hsign : (signOf negative).toBitVec.toNat = if negative then 1 else 0 := by
    cases negative <;> rfl
  have hleading : leadingBit = 2 ^ 52 := rfl
  have hsignBit : signBit = 2 ^ 63 := rfl
  rw [ofFloat?]
  simp only [Nat.shiftRight_eq_div_pow, hleading, hsignBit, hbits, hsign]
  cases negative with
  | false =>
    simp only [Bool.false_eq_true, if_false]
    rw [if_neg (by omega), if_neg (by omega), Option.some.injEq, Binary.mk.injEq]
    exact ⟨decide_eq_false (by omega), by omega, by omega⟩
  | true =>
    simp only [if_true]
    rw [if_neg (by omega), if_neg (by omega), Option.some.injEq, Binary.mk.injEq]
    exact ⟨decide_eq_true (by omega), by omega, by omega⟩

namespace Double

/-! ### Rounded numbers -/

/-- A natural number with a sign is whole. -/
theorem isWhole_signed (negative : Bool) {n : Nat} (hlt : n < 2 ^ 53) :
    isWhole (signed negative n) = true := by
  rcases Nat.eq_zero_or_pos n with rfl | hpos
  · cases negative <;> rfl
  · have hlog := log2_le hpos hlt
    have hexponent : (-((n.log2 : Int) - 52)).toNat = 52 - n.log2 := by omega
    rw [isWhole, Binary.ofFloat?_signed negative hpos hlt]
    simp only [Binary.isWhole, hexponent, Nat.one_shiftLeft, fullMantissa, Nat.mul_mod_left,
      beq_self_eq_true, Bool.or_true]

/-- The integer part of a number that is not whole is small. -/
theorem whole_lt {b : Binary} (hstored : b.Stored) (hwhole : b.isWhole = false) :
    b.whole < 2 ^ 52 := by
  have hexponent : b.exponent < 0 := by
    by_contra h
    rw [Binary.isWhole, decide_eq_true (Int.not_lt.mp h), Bool.true_or] at hwhole
    exact absurd hwhole (by decide)
  have hzero : (b.exponent - 0).toNat = 0 := by omega
  obtain ⟨k, hk⟩ : ∃ k, (0 - b.exponent).toNat = k + 1 := ⟨(0 - b.exponent).toNat - 1, by omega⟩
  have hlt := hstored.mantissa_lt
  rw [Binary.whole, Binary.mantissaAt, hzero, hk, Nat.shiftLeft_zero, Nat.shiftRight_eq_div_pow]
  calc b.mantissa / 2 ^ (k + 1) ≤ b.mantissa / 2 ^ 1 :=
        Nat.div_le_div_left (Nat.pow_le_pow_right (by decide) (by omega)) (by decide)
    _ < 2 ^ 52 := by omega

/-- Whole numbers stay as they are. -/
theorem mapWhole_of_isWhole (f : Binary → Nat) {x : Float} (h : isWhole x = true) :
    mapWhole f x = x := by
  rw [isWhole] at h
  rw [mapWhole]
  cases hx : Binary.ofFloat? x with
  | none => rfl
  | some b =>
    rw [hx] at h
    exact if_pos h

/-- **What takes the place of a number is whole**, if it is a natural number of at most fifty-three
digits. -/
theorem isWhole_mapWhole {f : Binary → Nat}
    (hf : ∀ b : Binary, b.Stored → b.isWhole = false → f b < 2 ^ 53) {x : Float} {b : Binary}
    (hx : Binary.ofFloat? x = some b) : isWhole (mapWhole f x) = true := by
  cases hwhole : b.isWhole with
  | true =>
    have hstays : isWhole x = true := by
      rw [isWhole, hx]
      exact hwhole
    rw [mapWhole_of_isWhole f hstays]
    exact hstays
  | false =>
    have hmap : mapWhole f x = signed b.negative (f b) := by
      rw [mapWhole, hx]
      exact if_neg (by rw [hwhole]; exact Bool.false_ne_true)
    rw [hmap]
    exact isWhole_signed b.negative (hf b (Binary.stored_of_ofFloat? hx) hwhole)

/-- A number is finite if and only if it has fields. -/
theorem isFinite_iff {x : Float} : x.isFinite = true ↔ ∃ b, Binary.ofFloat? x = some b := by
  constructor
  · intro h
    cases hx : Binary.ofFloat? x with
    | some b => exact ⟨b, rfl⟩
    | none =>
      obtain ⟨hunpack, -⟩ | ⟨s, hunpack, -⟩ := special_of_ofFloat?_eq_none hx <;>
      · rw [Float.isFinite, Float.Model.isFinite, hunpack] at h
        exact absurd h Bool.false_ne_true
  · rintro ⟨b, hb⟩
    obtain ⟨biased, fraction, hbiased, hfraction, hbits, -⟩ := Binary.ofFloat?_eq_some hb
    have hexponent : @Float.Model.UnpackedFloat.unpackExponent Float.Model.Format.binary64
        x.toModel.toBits.toBitVec ≠ -1#_ := fun h => by
      have hones : x.toBits.toNat / 2 ^ 52 % 2048 = 2047 := by
        rw [← BitVec.toNat_inj, toNat_unpackExponent] at h
        exact h
      split at hbits <;> omega
    rw [Float.isFinite, Float.Model.isFinite, Float.Model.unpack, Float.Model.UnpackedFloat.unpack]
    simp only
    rw [if_neg hexponent]
    split
    · split <;> rfl
    · rfl

/-- Whole numbers are finite. -/
theorem isFinite_of_isWhole {x : Float} (h : isWhole x = true) : x.isFinite = true := by
  rw [isWhole] at h
  cases hx : Binary.ofFloat? x with
  | none =>
    rw [hx] at h
    exact absurd h Bool.false_ne_true
  | some b => exact isFinite_iff.mpr ⟨b, hx⟩

/-- **Rounding gives a whole number.** -/
theorem isWhole_roundHalfAway {x : Float} (h : x.isFinite = true) :
    isWhole (roundHalfAway x) = true := by
  obtain ⟨b, hb⟩ := isFinite_iff.mp h
  refine isWhole_mapWhole (fun b hstored hwhole => ?_) hb
  have hlt := whole_lt hstored hwhole
  split <;> omega

/-- **Rounding leaves whole numbers as they are.** -/
theorem roundHalfAway_of_isWhole {x : Float} (h : isWhole x = true) : roundHalfAway x = x :=
  mapWhole_of_isWhole _ h

end Double

end ParametricScene
