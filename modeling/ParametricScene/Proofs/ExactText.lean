import ParametricScene.Proofs.Delimiting
import ParametricScene.Proofs.ReadingBack

/-!
# The exact text of a double

In the canonical format no two doubles have one text, and no text has a comma or a semicolon in it. So
a number can be told from the text, and so can where it ends when one of the two follows.

The finite doubles come from the decimals that read back to them. What is left are NaN and the
infinities, for which the fields of a double say nothing and the bits have to be looked at.

## Main results

* `NumberFormat.canonical_render_inj` — doubles with one text are equal
* `NumberFormat.isTextChar_of_mem_render` — the characters of a text
-/

namespace ParametricScene

/-! ### Special numbers -/

section Special

open Float.Model Float.Model.UnpackedFloat

theorem toNat_unpackExponent (b : BitVec Format.binary64.numBits) :
    (@unpackExponent Format.binary64 b).toNat = b.toNat / 2 ^ 52 % 2048 := by
  simp [unpackExponent, Nat.shiftRight_eq_div_pow]

theorem toNat_unpackMantissa (b : BitVec Format.binary64.numBits) :
    (@unpackMantissa Format.binary64 b).toNat = b.toNat % 2 ^ 52 := by
  simp [unpackMantissa]

theorem toNat_unpackSign (b : BitVec Format.binary64.numBits) :
    (@unpackSign Format.binary64 b).toNat = b.toNat / 2 ^ 63 % 2 := by
  change (b.toNat >>> 63) % 2 ^ 1 = _
  rw [Nat.shiftRight_eq_div_pow]

/-- All ones in the exponent stand for what is not finite. -/
theorem unpack_of_unpackExponent {b : BitVec Format.binary64.numBits}
    (h : @unpackExponent Format.binary64 b = -1#_) :
    UnpackedFloat.unpack Format.binary64 b =
      if @unpackMantissa Format.binary64 b = 0#_ then
        .infinity (Sign.ofBitVec (@unpackSign Format.binary64 b))
      else .notANumber :=
  if_pos h

/-- What has no fields is NaN or an infinity, and these have one bit pattern each. -/
theorem special_of_ofFloat?_eq_none {x : Float} (h : Binary.ofFloat? x = none) :
    (x.toModel.unpack = .notANumber ∧ x.toBits.toBitVec = packedNaN Format.binary64) ∨
      ∃ s, x.toModel.unpack = .infinity s ∧
        x.toBits.toBitVec = packedInfinity Format.binary64 s := by
  have hbiased : x.toBits.toNat / 2 ^ 52 % 2048 = 2047 := by
    rw [Binary.ofFloat?] at h
    simp only [Nat.shiftRight_eq_div_pow] at h
    split at h
    · assumption
    · split at h <;> simp at h
  have hexponent : @unpackExponent Format.binary64 x.toBits.toBitVec = -1#_ := by
    rw [← BitVec.toNat_inj, toNat_unpackExponent]
    exact hbiased
  have hunpack : x.toModel.unpack = UnpackedFloat.unpack Format.binary64 x.toBits.toBitVec := rfl
  rw [hunpack, unpack_of_unpackExponent hexponent]
  split
  · rename_i hmantissa
    refine Or.inr ⟨_, rfl, ?_⟩
    rw [← BitVec.toNat_inj, toNat_unpackMantissa] at hmantissa
    have hzero : x.toBits.toNat % 2 ^ 52 = 0 := hmantissa
    have hlt : x.toBits.toNat < 2 ^ 64 := x.toBits.toNat_lt
    have hsign := toNat_unpackSign x.toBits.toBitVec
    rw [← BitVec.toNat_inj, Sign.ofBitVec]
    split
    · rename_i hpositive
      rw [hpositive] at hsign
      have hbit : x.toBits.toNat / 2 ^ 63 % 2 = 0 := hsign.symm
      have hinfinity : (packedInfinity Format.binary64 .positive).toNat = 2047 * 2 ^ 52 := by rfl
      rw [hinfinity]
      change x.toBits.toNat = _
      omega
    · rename_i hnegative
      have hbit : x.toBits.toNat / 2 ^ 63 % 2 ≠ 0 := fun hzero' =>
        hnegative (BitVec.eq_of_toNat_eq (hsign.trans hzero'))
      have hinfinity : (packedInfinity Format.binary64 .negative).toNat =
          2 ^ 63 + 2047 * 2 ^ 52 := by rfl
      rw [hinfinity]
      change x.toBits.toNat = _
      omega
  · rename_i hmantissa
    exact Or.inl ⟨rfl, x.toModel.valid.eq_packedNaN hexponent hmantissa⟩

/-- The texts of NaN and the infinities. -/
theorem render_special {x : Float} (h : Binary.ofFloat? x = none) :
    NumberFormat.canonical.render x = match x.toModel.unpack with
      | .notANumber => "NaN"
      | .infinity .negative => "-inf"
      | _ => "inf" := by
  rw [NumberFormat.render, h]
  obtain ⟨hx, -⟩ | ⟨s, hx, -⟩ := special_of_ofFloat?_eq_none h
  · have hnan : x.isNaN = true := by
      rw [Float.isNaN, Float.Model.isNaN, hx]
      rfl
    rw [hx]
    simp only [hnan, if_true]
    rfl
  · have hnan : x.isNaN = false := by
      rw [Float.isNaN, Float.Model.isNaN, hx]
      rfl
    have hzero : (0 : Float).toModel.unpack = .zero .positive := rfl
    have hlt : x < 0 ↔ x.toModel.unpack.lt (0 : Float).toModel.unpack = true :=
      decide_eq_true_iff
    rw [hx, hzero] at hlt
    rw [hx]
    cases s with
    | negative =>
      have hneg : x < 0 := hlt.mpr rfl
      simp only [hnan, Bool.false_eq_true, if_false, if_pos hneg]
      rfl
    | positive =>
      have hpos : ¬x < 0 := fun hneg => absurd (hlt.mp hneg) (by decide)
      simp only [hnan, Bool.false_eq_true, if_false, if_neg hpos]
      rfl

/-- NaN and the infinities have different texts. -/
theorem eq_of_special {x y : Float} (hx : Binary.ofFloat? x = none) (hy : Binary.ofFloat? y = none)
    (h : NumberFormat.canonical.render x = NumberFormat.canonical.render y) : x = y := by
  have hbits : x.toBits.toBitVec = y.toBits.toBitVec := by
    rw [render_special hx, render_special hy] at h
    obtain ⟨hx, hx'⟩ | ⟨s, hx, hx'⟩ := special_of_ofFloat?_eq_none hx <;>
      obtain ⟨hy, hy'⟩ | ⟨t, hy, hy'⟩ := special_of_ofFloat?_eq_none hy <;>
      rw [hx, hy] at h <;> rw [hx', hy']
    · cases t <;> exact absurd h (by decide)
    · cases s <;> exact absurd h (by decide)
    · cases s <;> cases t
      · rfl
      · exact absurd h (by decide)
      · exact absurd h (by decide)
      · rfl
  exact Binary.float_ext (congrArg BitVec.toNat hbits)

end Special

/-! ### All numbers -/

namespace NumberFormat

/-- The text of a finite double is the text of a magnitude, after a minus if it is negative. -/
theorem render_finite {x : Float} {b : Binary} (h : Binary.ofFloat? x = some b) (n : NumberFormat) :
    ∃ mag d, (n.render x).toList = (if b.negative then ['-'] else []) ++ mag ∧
      readUnsigned? mag = some (d, []) ∧ d.value = (b.shortest n.tie).value := by
  obtain ⟨d, hread, hvalue⟩ := n.readUnsigned?_renderMagnitude (b.shortest n.tie)
  refine ⟨_, d, ?_, hread, hvalue⟩
  rw [render, h]
  exact String.toList_ofList

/-- A text with a minus in front is not that of a magnitude, nor are the words for special numbers. -/
theorem readUnsigned?_words : (∀ cs, readUnsigned? ('-' :: cs) = none) ∧
    readUnsigned? "NaN".toList = none ∧ readUnsigned? "inf".toList = none :=
  ⟨fun cs => by simp [readUnsigned?, isDigit, readFraction], by decide, by decide⟩

/-- The characters of number texts: digits, a point, the mark of an exponent, signs, and the letters of
the words for special numbers. -/
def IsTextChar (c : Char) : Prop :=
  isDigit c = true ∨ c ∈ ['.', 'e', '-', '+', 'N', 'a', 'i', 'n', 'f']

theorem isTextChar_of_mem_layoutPoint {wholePoint : Bool} {digits : List Char} {e : Int} {c : Char}
    (hdigits : ∀ c ∈ digits, IsTextChar c) (h : c ∈ layoutPoint wholePoint digits e) :
    IsTextChar c := by
  have hzero : IsTextChar '0' := Or.inl (by decide)
  have hzeros : ∀ k, c ∈ List.replicate k '0' → IsTextChar c := fun _ hc =>
    Or.inl (isDigit_of_mem_zeros hc)
  have hpoint : IsTextChar '.' := Or.inr (by decide)
  have hwhole : ∀ j k, c ∈ digits.take j ++ List.replicate k '0' → IsTextChar c := fun j k hc =>
    (List.mem_append.mp hc).elim (fun hc => hdigits c (List.mem_of_mem_take hc)) (hzeros k)
  rw [layoutPoint] at h
  split at h
  · rcases List.mem_cons.mp h with rfl | h
    · exact hzero
    rcases List.mem_cons.mp h with rfl | h
    · exact hpoint
    exact (List.mem_append.mp h).elim (hzeros _) (hdigits c)
  · simp only at h
    split at h
    · split at h
      · rcases List.mem_append.mp h with h | h
        · exact hwhole _ _ h
        · rcases List.mem_cons.mp h with rfl | h
          · exact hpoint
          · exact List.mem_singleton.mp h ▸ hzero
      · exact hwhole _ _ h
    · rcases List.mem_append.mp h with h | h
      · exact hwhole _ _ h
      · rcases List.mem_cons.mp h with rfl | h
        · exact hpoint
        · exact hdigits c (List.mem_of_mem_drop h)

theorem isTextChar_of_mem_layoutExponent {n : NumberFormat} {digits : List Char} {e : Int} {c : Char}
    (hdigits : ∀ c ∈ digits, IsTextChar c) (h : c ∈ n.layoutExponent digits e) : IsTextChar c := by
  have hsign : c ∈ n.exponentSign e → IsTextChar c := fun hc => by
    rw [exponentSign] at hc
    split at hc
    · exact List.mem_singleton.mp hc ▸ Or.inr (by decide)
    · split at hc
      · exact List.mem_singleton.mp hc ▸ Or.inr (by decide)
      · simp at hc
  simp only [layoutExponent, List.mem_append, List.mem_cons] at h
  rcases h with ((h | h) | rfl | h) | h
  · exact hdigits c (List.mem_of_mem_take h)
  · split at h
    · simp at h
    · rcases List.mem_cons.mp h with rfl | h
      · exact Or.inr (by decide)
      · exact hdigits c (List.mem_of_mem_drop h)
  · exact Or.inr (by decide)
  · exact hsign h
  · exact Or.inl (isDigit_of_mem_toDigits h)

/-- The characters of an exact text. -/
theorem isTextChar_of_mem_render {x : Float} {c : Char} (h : c ∈ (canonical.render x).toList) :
    IsTextChar c := by
  cases hx : Binary.ofFloat? x with
  | none =>
    have hwords : ∀ word ∈ ["NaN", "inf", "-inf"], ∀ c ∈ word.toList,
        c ∈ ['.', 'e', '-', '+', 'N', 'a', 'i', 'n', 'f'] := by simp
    rw [render_special hx] at h
    split at h
    · exact Or.inr (hwords _ (by decide) c h)
    · exact Or.inr (hwords _ (by decide) c h)
    · exact Or.inr (hwords _ (by decide) c h)
  | some b =>
    have hdigits : ∀ c ∈ Nat.toDigits 10 (b.shortest canonical.tie).digits, IsTextChar c :=
      fun _ hc => Or.inl (isDigit_of_mem_toDigits hc)
    rw [render, hx] at h
    simp only [String.toList_ofList, List.mem_append] at h
    rcases h with h | h
    · split at h
      · exact List.mem_singleton.mp h ▸ Or.inr (by decide)
      · simp at h
    · simp only [renderMagnitude] at h
      split at h
      · exact isTextChar_of_mem_layoutPoint hdigits h
      · exact isTextChar_of_mem_layoutExponent hdigits h

theorem not_isTextChar_comma : ¬IsTextChar ',' := by
  rw [IsTextChar]
  decide

theorem not_isTextChar_semicolon : ¬IsTextChar ';' := by
  rw [IsTextChar]
  decide

/-- Finite doubles do not have the texts of special numbers. -/
theorem render_finite_ne {x y : Float} {b : Binary} (hx : Binary.ofFloat? x = some b)
    (hy : Binary.ofFloat? y = none) : canonical.render x ≠ canonical.render y := by
  intro h
  obtain ⟨mag, d, htext, hread, -⟩ := render_finite hx canonical
  obtain ⟨hminus, hnan, hinf⟩ := readUnsigned?_words
  rw [h, render_special hy] at htext
  split at htext <;> cases hs : b.negative <;>
    simp only [hs, Bool.false_eq_true, if_false, if_true, List.nil_append] at htext
  · rw [← htext, hnan] at hread
    simp at hread
  · exact absurd htext (by simp)
  · rw [← htext] at hread
    exact absurd ((hminus "inf".toList).symm.trans hread) (by simp)
  · have hword : "-inf".toList = '-' :: "inf".toList := rfl
    rw [hword, List.singleton_append, List.cons.injEq] at htext
    rw [← htext.2, hinf] at hread
    simp at hread
  · rw [← htext, hinf] at hread
    simp at hread
  · exact absurd htext (by simp)

/-- **Doubles with one exact text are equal.** -/
theorem canonical_render_inj {x y : Float} (h : canonical.render x = canonical.render y) :
    x = y := by
  cases hx : Binary.ofFloat? x with
  | none =>
    cases hy : Binary.ofFloat? y with
    | none => exact eq_of_special hx hy h
    | some b => exact absurd h.symm (render_finite_ne hy hx)
  | some b =>
    cases hy : Binary.ofFloat? y with
    | none => exact absurd h (render_finite_ne hx hy)
    | some b' =>
      obtain ⟨mag, d, htext, hread, hvalue⟩ := render_finite hx canonical
      obtain ⟨mag', d', htext', hread', hvalue'⟩ := render_finite hy canonical
      have hminus := readUnsigned?_words.1
      rw [h, htext'] at htext
      have hmag : b'.negative = b.negative ∧ mag' = mag := by
        cases hs : b.negative <;> cases hs' : b'.negative <;>
          simp only [hs, hs', Bool.false_eq_true, if_false, if_true, List.nil_append,
            List.singleton_append] at htext
        · exact ⟨rfl, htext⟩
        · rw [← htext, hminus] at hread
          simp at hread
        · rw [htext, hminus] at hread'
          simp at hread'
        · exact ⟨rfl, (List.cons.inj htext).2⟩
      obtain ⟨hnegative, rfl⟩ := hmag
      obtain rfl := (Prod.mk.inj (Option.some.inj (hread.symm.trans hread'))).1
      have hsame := hvalue.symm.trans hvalue'
      have hfields : b.mantissa = b'.mantissa ∧ b.exponent = b'.exponent :=
        Binary.shortest_value_inj (Binary.stored_of_ofFloat? hx) (Binary.stored_of_ofFloat? hy)
          hsame
      have heq : b' = b := by
        cases b
        cases b'
        rw [Binary.mk.injEq]
        exact ⟨hnegative, hfields.1.symm, hfields.2.symm⟩
      exact Binary.ofFloat?_inj hx (heq ▸ hy)

end NumberFormat

end ParametricScene
