import Mathlib.Algebra.Order.Field.Rat
import Mathlib.Tactic.Positivity
import Mathlib.Tactic.Ring
import ParametricScene.Decimal.Format
import ParametricScene.Decimal.Reader

/-!
# What is written reads back

A magnitude is written positionally or with an exponent, and a reader of numbers makes of either text a
decimal of the same value. Not always the same decimal: the zeros that fill the places before the point
are read as digits. So the statement is about values, which are rational numbers here.

It holds of every number format alike, since the formats differ only in what the reader does not
mind: where positional writing ends, whether a plus stands before an exponent, and whether whole
numbers end in a point and a zero.

## Main definitions

* `Decimal.value` — the rational number that a decimal is

## Main results

* `NumberFormat.readUnsigned?_renderMagnitude` — the text of a magnitude reads back with its value
-/

namespace ParametricScene

/-- The rational number that a decimal is. -/
def Decimal.value (d : Decimal) : ℚ := d.digits * 10 ^ d.exponent

/-! ### Digits -/

theorem isDigit_of_mem_toDigits {c : Char} {n : Nat} (h : c ∈ Nat.toDigits 10 n) :
    isDigit c = true := by
  have hc := Nat.isDigit_of_mem_toDigits (by decide) (by decide) h
  rw [Char.isDigit, Bool.and_eq_true, decide_eq_true_eq, decide_eq_true_eq] at hc
  rw [isDigit, Bool.and_eq_true, decide_eq_true_eq, decide_eq_true_eq]
  exact hc

theorem isDigit_of_mem_zeros {c : Char} {n : Nat} (h : c ∈ List.replicate n '0') :
    isDigit c = true := by
  rw [List.eq_of_mem_replicate h]
  decide

theorem digitsValue_toDigits (n : Nat) : digitsValue (Nat.toDigits 10 n) = n :=
  Nat.ofDigitChars_ten_toDigits

theorem digitsValue_append (l m : List Char) :
    digitsValue (l ++ m) = 10 ^ m.length * digitsValue l + digitsValue m := by
  have happend : digitsValue (l ++ m) = Nat.ofDigitChars 10 m (Nat.ofDigitChars 10 l 0) :=
    Nat.ofDigitChars_append 0
  rw [happend, Nat.ofDigitChars_eq_ofDigitChars_zero]
  rfl

theorem digitsValue_zeros (n : Nat) : digitsValue (List.replicate n '0') = 0 := by
  have hzeros : digitsValue (List.replicate n '0') = 10 ^ n * 0 := Nat.ofDigitChars_replicate_zero
  rw [hzeros, Nat.mul_zero]

/-! ### Reading -/

/-- Characters of a class are taken as far as they go. -/
theorem span_append {p : Char → Bool} {front : List Char} (tail : List Char)
    (hfront : ∀ c ∈ front, p c = true) (htail : ∀ c r, tail = c :: r → p c = false) :
    (front ++ tail).takeWhile p = front ∧ (front ++ tail).dropWhile p = tail := by
  rw [List.takeWhile_append_of_pos hfront, List.dropWhile_append_of_pos hfront]
  cases tail with
  | nil => exact ⟨List.append_nil front, rfl⟩
  | cons c r =>
    have hc := htail c r rfl
    rw [List.takeWhile_cons_of_neg (by rw [hc]; exact Bool.false_ne_true),
      List.dropWhile_cons_of_neg (by rw [hc]; exact Bool.false_ne_true)]
    exact ⟨List.append_nil front, rfl⟩

/-- Digits without a point. -/
theorem readUnsigned?_whole {front : List Char} (tail : List Char) {rest : List Char} {e : Int}
    (hne : front ≠ []) (hfront : ∀ c ∈ front, isDigit c = true)
    (htail : ∀ c r, tail = c :: r → isDigit c = false ∧ c ≠ '.')
    (hexp : readExponent tail = (e, rest)) :
    readUnsigned? (front ++ tail) = some (⟨digitsValue front, e⟩, rest) := by
  obtain ⟨htake, hdrop⟩ := span_append tail hfront fun c r h => (htail c r h).1
  have hfraction : readFraction tail = ([], tail) := by
    unfold readFraction
    split
    · exact absurd rfl (htail _ _ rfl).2
    · rfl
  simp only [readUnsigned?, htake, hdrop, hfraction, hne, false_and, if_false, hexp,
    List.append_nil, List.length_nil, Nat.cast_zero, sub_zero]

/-- Digits around a point, on one side of it at least. -/
theorem readUnsigned?_point (front back tail : List Char) {rest : List Char} {e : Int}
    (hne : front ≠ [] ∨ back ≠ []) (hfront : ∀ c ∈ front, isDigit c = true)
    (hback : ∀ c ∈ back, isDigit c = true) (htail : ∀ c r, tail = c :: r → isDigit c = false)
    (hexp : readExponent tail = (e, rest)) :
    readUnsigned? (front ++ '.' :: (back ++ tail)) =
      some (⟨digitsValue (front ++ back), e - (back.length : Int)⟩, rest) := by
  obtain ⟨htake, hdrop⟩ := span_append ('.' :: (back ++ tail)) hfront fun c r h => by
    rw [← (List.cons.inj h).1]
    decide
  obtain ⟨hbackTake, hbackDrop⟩ := span_append tail hback htail
  simp only [readUnsigned?, htake, hdrop, readFraction, hbackTake, hbackDrop,
    not_and_or.mpr hne, if_false, hexp]

/-- A written exponent reads back. -/
theorem NumberFormat.readExponent_written (n : NumberFormat) (e : Int) :
    readExponent ('e' :: (n.exponentSign e ++ Nat.toDigits 10 e.natAbs)) = (e, []) := by
  have hdigits : ∀ c ∈ Nat.toDigits 10 e.natAbs, isDigit c = true := fun _ =>
    isDigit_of_mem_toDigits
  obtain ⟨htake, hdrop⟩ := span_append [] hdigits fun _ _ h => by simp at h
  rw [List.append_nil] at htake hdrop
  have hsign : readSign (n.exponentSign e ++ Nat.toDigits 10 e.natAbs) =
      (decide (e < 0), Nat.toDigits 10 e.natAbs) := by
    rw [exponentSign]
    split
    · rw [decide_eq_true ‹e < 0›]
      rfl
    · rw [decide_eq_false ‹¬e < 0›]
      split
      · rfl
      · rw [List.nil_append]
        unfold readSign
        split
        · rename_i heq
          exact absurd (hdigits '-' (by rw [heq]; exact List.mem_cons_self ..)) (by decide)
        · rename_i heq
          exact absurd (hdigits '+' (by rw [heq]; exact List.mem_cons_self ..)) (by decide)
        · rfl
  simp only [readExponent, hsign, htake, hdrop, true_or, ne_eq, Nat.toDigits_ne_nil,
    not_false_eq_true, and_self, if_true, digitsValue_toDigits, decide_eq_true_eq, Prod.mk.injEq,
    and_true]
  split <;> omega

/-! ### Writing -/

/-- Zeros behind the digits are places before the point. -/
theorem value_shift (a k : Nat) (e : Int) :
    Decimal.value ⟨10 ^ k * a, e⟩ = Decimal.value ⟨a, e + k⟩ := by
  have hne : (10 : ℚ) ≠ 0 := by norm_num
  rw [Decimal.value, Decimal.value, zpow_add₀ hne, zpow_natCast]
  push_cast
  ring

/-- Digits on both sides of a point, and nothing else. -/
theorem readUnsigned?_point_nil {front back : List Char} (hne : front ≠ [])
    (hfront : ∀ c ∈ front, isDigit c = true) (hback : ∀ c ∈ back, isDigit c = true) :
    readUnsigned? (front ++ '.' :: back) =
      some (⟨digitsValue (front ++ back), 0 - (back.length : Int)⟩, []) := by
  have hread := readUnsigned?_point front back [] (e := 0) (Or.inl hne) hfront hback
    (fun _ _ h => by simp at h) rfl
  rwa [List.append_nil] at hread

/-- Zeros between the point and the digits read back. -/
theorem readUnsigned?_zeros_front {digits : List Char} (hdigits : ∀ c ∈ digits, isDigit c = true)
    (k : Nat) :
    ∃ d, readUnsigned? (['0'] ++ '.' :: (List.replicate k '0' ++ digits)) = some (d, []) ∧
      d.value = Decimal.value ⟨digitsValue digits, -(k : Int) - digits.length⟩ := by
  have hback : ∀ c ∈ List.replicate k '0' ++ digits, isDigit c = true := fun c hc =>
    (List.mem_append.mp hc).elim isDigit_of_mem_zeros (hdigits c)
  have hzero : digitsValue ['0'] = 0 := by decide
  refine ⟨_, readUnsigned?_point_nil (List.cons_ne_nil _ _)
    (fun _ => isDigit_of_mem_zeros (n := 1)) hback, ?_⟩
  rw [digitsValue_append, digitsValue_append, digitsValue_zeros, List.length_append,
    List.length_replicate, hzero, Nat.mul_zero, Nat.mul_zero, Nat.zero_add, Nat.zero_add]
  congr 2
  push_cast
  omega

/-- Zeros between the digits and the point read back, with or without the point. -/
theorem readUnsigned?_zeros_back (wholePoint : Bool) {digits : List Char} (hne : digits ≠ [])
    (hdigits : ∀ c ∈ digits, isDigit c = true) (k : Nat) :
    ∃ d, readUnsigned? (if wholePoint then digits ++ List.replicate k '0' ++ ['.', '0']
          else digits ++ List.replicate k '0') = some (d, []) ∧
      d.value = Decimal.value ⟨digitsValue digits, k⟩ := by
  have hwhole : ∀ c ∈ digits ++ List.replicate k '0', isDigit c = true := fun c hc =>
    (List.mem_append.mp hc).elim (hdigits c) isDigit_of_mem_zeros
  have hne' : digits ++ List.replicate k '0' ≠ [] := by simp [hne]
  have hvalue : digitsValue (digits ++ List.replicate k '0') = 10 ^ k * digitsValue digits := by
    rw [digitsValue_append, digitsValue_zeros, List.length_replicate, Nat.add_zero]
  split
  · have hzero : digitsValue ['0'] = 0 := by decide
    refine ⟨_, readUnsigned?_point_nil hne' hwhole fun _ => isDigit_of_mem_zeros (n := 1), ?_⟩
    rw [digitsValue_append, hvalue, hzero, Nat.add_zero, value_shift, value_shift]
    congr 2
    simp
  · have hread := readUnsigned?_whole [] (e := 0) hne' hwhole (fun _ _ h => by simp at h) rfl
    rw [List.append_nil] at hread
    refine ⟨_, hread, ?_⟩
    rw [hvalue, value_shift, Int.zero_add]

/-- A point among digits reads back. -/
theorem readUnsigned?_layoutPoint (wholePoint : Bool) {digits : List Char} {e : Int}
    (hne : digits ≠ []) (hdigits : ∀ c ∈ digits, isDigit c = true) :
    ∃ d, readUnsigned? (NumberFormat.layoutPoint wholePoint digits e) = some (d, []) ∧
      d.value = Decimal.value ⟨digitsValue digits, e + 1 - digits.length⟩ := by
  rw [NumberFormat.layoutPoint]
  split
  · obtain ⟨d, hread, hd⟩ := readUnsigned?_zeros_front hdigits (-e - 1).toNat
    refine ⟨d, hread, ?_⟩
    rw [hd]
    congr 2
    omega
  · by_cases hlong : digits.length ≤ e.toNat + 1
    · obtain ⟨d, hread, hd⟩ := readUnsigned?_zeros_back wholePoint hne hdigits
        (e.toNat + 1 - digits.length)
      simp only [List.take_of_length_le hlong, List.drop_of_length_le hlong, List.isEmpty_nil,
        if_true]
      refine ⟨d, hread, ?_⟩
      rw [hd]
      congr 2
      omega
    · -- the point stands among the digits
      have hfront : (digits.take (e.toNat + 1)).length = e.toNat + 1 :=
        List.length_take_of_le (by omega)
      have hempty : (digits.drop (e.toNat + 1)).isEmpty = false := by
        rw [List.isEmpty_eq_false_iff, ← List.length_pos_iff, List.length_drop]
        omega
      simp only [hfront, Nat.sub_self, List.replicate_zero, List.append_nil, hempty,
        Bool.false_eq_true, if_false]
      have hne' : digits.take (e.toNat + 1) ≠ [] := by
        rw [← List.length_pos_iff, hfront]
        omega
      refine ⟨_, readUnsigned?_point_nil hne' (fun c hc => hdigits c (List.mem_of_mem_take hc))
        fun c hc => hdigits c (List.mem_of_mem_drop hc), ?_⟩
      rw [List.take_append_drop, List.length_drop]
      congr 2
      omega

/-- Digits with an exponent read back. -/
theorem readUnsigned?_layoutExponent (n : NumberFormat) {digits : List Char} (e : Int)
    (hne : digits ≠ []) (hdigits : ∀ c ∈ digits, isDigit c = true) :
    readUnsigned? (n.layoutExponent digits e) =
      some (⟨digitsValue digits, e + 1 - digits.length⟩, []) := by
  cases digits with
  | nil => exact absurd rfl hne
  | cons c rest =>
    have hstop : ∀ c' r, 'e' :: (n.exponentSign e ++ Nat.toDigits 10 e.natAbs) = c' :: r →
        isDigit c' = false ∧ c' ≠ '.' := fun c' r h => by
      rw [← (List.cons.inj h).1]
      decide
    have hone : ∀ c' ∈ [c], isDigit c' = true := fun c' hc' =>
      hdigits c' (List.mem_cons.mpr (Or.inl (List.mem_singleton.mp hc')))
    simp only [NumberFormat.layoutExponent, List.drop_succ_cons, List.drop_zero,
      List.take_succ_cons, List.take_zero]
    cases rest with
    | nil =>
      have hread := readUnsigned?_whole _ (by simp) hone hstop (n.readExponent_written e)
      simpa using hread
    | cons c' rest =>
      have hread := readUnsigned?_point _ _ _ (by simp) hone
        (fun x hx => hdigits x (List.mem_cons_of_mem _ hx)) (fun x r h => (hstop x r h).1)
        (n.readExponent_written e)
      simp only [List.isEmpty_cons, Bool.false_eq_true, if_false, List.cons_append,
         List.append_assoc, List.length_cons] at hread ⊢
      rw [hread]
      congr 3
      push_cast
      omega

/-- **The text of a magnitude reads back with its value**, in every format. -/
theorem NumberFormat.readUnsigned?_renderMagnitude (n : NumberFormat) (d : Decimal) :
    ∃ d', readUnsigned? (n.renderMagnitude d) = some (d', []) ∧ d'.value = d.value := by
  have hdigits : ∀ c ∈ Nat.toDigits 10 d.digits, isDigit c = true := fun _ =>
    isDigit_of_mem_toDigits
  have hvalue : Decimal.value ⟨digitsValue (Nat.toDigits 10 d.digits),
      d.exponent + ((Nat.toDigits 10 d.digits).length : Int) - 1 + 1 -
        (Nat.toDigits 10 d.digits).length⟩ = d.value := by
    rw [digitsValue_toDigits]
    congr 2
    omega
  rw [renderMagnitude]
  split
  · obtain ⟨d', hread, hd'⟩ := readUnsigned?_layoutPoint n.wholePoint Nat.toDigits_ne_nil hdigits
      (e := d.exponent + ((Nat.toDigits 10 d.digits).length : Int) - 1)
    exact ⟨d', hread, hd'.trans hvalue⟩
  · exact ⟨_, readUnsigned?_layoutExponent n _ Nat.toDigits_ne_nil hdigits, hvalue⟩

end ParametricScene
