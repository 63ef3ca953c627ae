import Mathlib.Data.Char
import Mathlib.Data.Nat.Digits.Lemmas
import ParametricScene.Material.Definition

/-!
# Colours as texts

A colour is read from a text by taking blanks and a marker away, doubling three digits to six, and reading
six hexadecimal digits. Here the texts that can be read are described as a whole, `SpellsColor`, without
the steps that the reader takes; and it is shown that what the library writes is among them and is read
back as the colour it was written for.

There are two writers, one for materials and one for colours given by hue, saturation and value. Both end
in the same six digits of three bytes, so that it does not matter what the arithmetic before comes to: a
channel that is not a number or lies outside its range is a byte all the same.

## Main definitions

* `IsHexDigit` — characters as digits
* `SpellsColor` — the texts of a colour
* `lowerHexDigits` — the digits that are written

## Main results

* `hexNumber?_eq_some_iff` — digits as a number
* `colorOfText?_eq_some_iff` — the texts that can be read, with their colours
* `colorOfText?_hexColor`, `colorOfText?_hex` — three bytes are read back, and the colours of materials
* `colorText_roundtrip` — what is read and what is written, together
-/

namespace ParametricScene

/-! ### Digits -/

/-- The character stands for `v` as a hexadecimal digit. Letters may be in either case. -/
def IsHexDigit (c : Char) (v : Nat) : Prop := v < 16 ∧ Nat.digitChar v = c.toLower

/-- What is the case for all ASCII characters is the case for a character that is at most one. -/
theorem of_le_ascii {P : Char → Prop} (h : ∀ n : Fin 128, P (Char.ofNat n)) {c d : Char}
    (hcd : c ≤ d) (hd : d.toNat < 128) : P c := by
  have hle : c.toNat ≤ d.toNat := UInt32.le_iff_toNat_le.mp hcd
  have hP := h ⟨c.toNat, by omega⟩
  rwa [Char.ofNat_toNat] at hP

/-- No digit is above the last one. -/
theorem IsHexDigit.le {c : Char} {v : Nat} (h : IsHexDigit c v) : c ≤ 'f' := by
  by_contra hgt
  have hupper : ¬ (c.val ≥ 'A'.val ∧ c.val ≤ 'Z'.val) := fun hrange =>
    hgt (le_trans (show c ≤ 'Z' from hrange.2) (by decide))
  have hdigit : ∀ v : Fin 16, Nat.digitChar v ≤ 'f' := by decide
  have hlower : c.toLower = c := dif_neg hupper
  exact hgt (hlower ▸ h.2 ▸ hdigit ⟨v, h.1⟩)

/-- A character is read as the digit that it stands for. -/
theorem hexDigitValue?_eq_some_iff {c : Char} {v : Nat} :
    hexDigitValue? c = some v ↔ IsHexDigit c v := by
  have hascii : ∀ n : Fin 128, ∀ v : Fin 16,
      hexDigitValue? (Char.ofNat n) = some v.val ↔ Nat.digitChar v = (Char.ofNat n).toLower := by
    decide +kernel
  have hbound : ∀ n : Fin 128, ∀ v ∈ hexDigitValue? (Char.ofNat n), v < 16 := by decide +kernel
  have hboth : ∀ n : Fin 128, ∀ v, hexDigitValue? (Char.ofNat n) = some v ↔
      IsHexDigit (Char.ofNat n) v := fun n v =>
    ⟨fun h => ⟨hbound n v h, (hascii n ⟨v, hbound n v h⟩).mp h⟩,
      fun h => (hascii n ⟨v, h.1⟩).mpr h.2⟩
  by_cases hle : c ≤ 'f'
  · exact of_le_ascii (P := fun c => hexDigitValue? c = some v ↔ IsHexDigit c v)
      (fun n => hboth n v) hle (by decide)
  · have habove : ∀ d : Char, d ≤ 'f' → ¬ c ≤ d := fun d hd hcd => hle (le_trans hcd hd)
    rw [hexDigitValue?, if_neg fun h => habove _ (by decide) h.2, if_neg fun h => habove _ le_rfl h.2,
      if_neg fun h => habove _ (by decide) h.2]
    exact ⟨nofun, fun h => absurd h.le hle⟩

theorem isHexDigit_digitChar {v : Nat} (hv : v < 16) : IsHexDigit (Nat.digitChar v) v := by
  have hlower : ∀ v : Fin 16, (Nat.digitChar v).toLower = Nat.digitChar v := by decide
  exact ⟨hv, (hlower ⟨v, hv⟩).symm⟩

/-- A character stands for one digit only. -/
theorem IsHexDigit.unique {c : Char} {v w : Nat} (hv : IsHexDigit c v) (hw : IsHexDigit c w) :
    v = w :=
  Option.some.inj
    ((hexDigitValue?_eq_some_iff.mpr hv).symm.trans (hexDigitValue?_eq_some_iff.mpr hw))

/-- Blanks and the characters of the markers are no digits. -/
theorem IsHexDigit.ordinary {c : Char} {v : Nat} (h : IsHexDigit c v) :
    isBlank c = false ∧ c ≠ '#' ∧ c ≠ 'x' := by
  have hnone : ∀ b : Char, hexDigitValue? b = none → c ≠ b := by
    rintro b hb rfl
    rw [hexDigitValue?_eq_some_iff.mpr h] at hb
    cases hb
  have hblank : isBlank c = true → hexDigitValue? c = none :=
    of_le_ascii (P := fun c => isBlank c = true → hexDigitValue? c = none) (by decide +kernel) h.le
      (by decide)
  refine ⟨?_, hnone '#' (by decide), hnone 'x' (by decide)⟩
  rw [Bool.eq_false_iff]
  exact fun hc => hnone c (hblank hc) rfl

/-- The number that digits spell, the most significant first. -/
theorem hexNumber?_eq_some_iff {cs : List Char} {n : Nat} :
    hexNumber? cs = some n ↔
      ∃ vs, List.Forall₂ IsHexDigit cs vs ∧ n = Nat.ofDigits 16 vs.reverse := by
  have hnone : ∀ cs : List Char, cs.foldl (fun acc c => acc.bind fun n =>
      (hexDigitValue? c).map (16 * n + ·)) none = none := by
    intro cs
    induction cs with
    | nil => rfl
    | cons c rest ih => exact ih
  have hsome : ∀ (cs : List Char) (m : Nat), cs.foldl (fun acc c => acc.bind fun n =>
      (hexDigitValue? c).map (16 * n + ·)) (some m) = some n ↔
        ∃ vs, List.Forall₂ IsHexDigit cs vs ∧ n = vs.foldl (fun n v => v + 16 * n) m := by
    intro cs
    induction cs with
    | nil =>
      intro m
      simp [eq_comm]
    | cons c rest ih =>
      intro m
      rw [List.foldl_cons, Option.bind_some]
      cases hc : hexDigitValue? c with
      | none =>
        rw [Option.map_none, hnone]
        refine ⟨nofun, ?_⟩
        rintro ⟨vs, hvs, -⟩
        cases hvs with
        | cons hv _ =>
          rw [hexDigitValue?_eq_some_iff.mpr hv] at hc
          cases hc
      | some v =>
        rw [Option.map_some, ih]
        constructor
        · rintro ⟨vs, hvs, rfl⟩
          refine ⟨v :: vs, .cons (hexDigitValue?_eq_some_iff.mp hc) hvs, ?_⟩
          rw [List.foldl_cons, Nat.add_comm]
        · rintro ⟨vs, hvs, rfl⟩
          cases hvs with
          | cons hv hrest =>
            rw [hexDigitValue?_eq_some_iff.mpr hv] at hc
            cases hc
            refine ⟨_, hrest, ?_⟩
            rw [List.foldl_cons, Nat.add_comm]
  rw [hexNumber?, hsome]
  simp only [Nat.ofDigits_eq_foldr, List.foldr_reverse, Nat.cast_id]

/-! ### Colours -/

/-- The text is one of the colour: blanks around, at most one marker, and six hexadecimal digits, or
three that stand for six with each digit twice. -/
def SpellsColor (cs : List Char) (c : Nat) : Prop :=
  ∃ left marker digits right : List Char, ∃ vs : List Nat,
    cs = left ++ (marker ++ digits ++ right) ∧
      (∀ b ∈ left, isBlank b = true) ∧ (∀ b ∈ right, isBlank b = true) ∧
      (marker = [] ∨ marker = ['#'] ∨ marker = ['0', 'x']) ∧ List.Forall₂ IsHexDigit digits vs ∧
      (vs.length = 6 ∧ c = Nat.ofDigits 16 vs.reverse ∨
        vs.length = 3 ∧ c = Nat.ofDigits 16 (vs.flatMap fun v => [v, v]).reverse)

theorem exists_marker (cs : List Char) : ∃ marker, cs = marker ++ withoutMarker cs ∧
    (marker = [] ∨ marker = ['#'] ∨ marker = ['0', 'x']) := by
  rw [withoutMarker.eq_def]
  split
  · exact ⟨['#'], rfl, Or.inr (Or.inl rfl)⟩
  · exact ⟨['0', 'x'], rfl, Or.inr (Or.inr rfl)⟩
  · exact ⟨[], rfl, Or.inl rfl⟩

/-- A marker in front of digits is taken away, and none is seen in the digits. -/
theorem withoutMarker_append {marker digits : List Char} {vs : List Nat}
    (hmarker : marker = [] ∨ marker = ['#'] ∨ marker = ['0', 'x'])
    (hdigits : List.Forall₂ IsHexDigit digits vs) : withoutMarker (marker ++ digits) = digits := by
  rcases hmarker with rfl | rfl | rfl
  · rw [List.nil_append, withoutMarker.eq_def]
    split
    · cases hdigits with
      | cons h _ => exact absurd rfl h.ordinary.2.1
    · cases hdigits with
      | cons _ hrest =>
        cases hrest with
        | cons h _ => exact absurd rfl h.ordinary.2.2
    · rfl
  · rfl
  · rfl

/-- **The texts that can be read** are those of the grammar, each with its colour. -/
theorem colorOfText?_eq_some_iff {s : String} {c : Nat} :
    colorOfText? s = some c ↔ SpellsColor s.toList c := by
  rw [colorOfText?, Option.bind_eq_some_iff]
  constructor
  · rintro ⟨six, hsix, hnumber⟩
    obtain ⟨left, right, hs, hleft, hright⟩ := exists_eq_append_trim s.toList
    obtain ⟨marker, htrim, hmarker⟩ := exists_marker (trim s.toList)
    obtain ⟨vs, hvs, hc⟩ := hexNumber?_eq_some_iff.mp hnumber
    generalize withoutMarker (trim s.toList) = digits at htrim hsix
    rw [htrim] at hs
    rw [sixDigits?.eq_def] at hsix
    split at hsix
    · -- three digits, of which the six are made
      rename_i r g b
      cases hsix
      obtain _ | ⟨hr, _ | ⟨hr', _ | ⟨hg, _ | ⟨hg', _ | ⟨hb, _ | ⟨hb', _ | _⟩⟩⟩⟩⟩⟩ := hvs
      obtain rfl := hr.unique hr'
      obtain rfl := hg.unique hg'
      obtain rfl := hb.unique hb'
      exact ⟨left, marker, _, right, _, hs, hleft, hright, hmarker, .cons hr (.cons hg (.cons hb .nil)),
        Or.inr ⟨rfl, hc⟩⟩
    · cases hsix
      have hlength : vs.length = 6 := hvs.length_eq.symm
      exact ⟨left, marker, _, right, vs, hs, hleft, hright, hmarker, hvs, Or.inl ⟨hlength, hc⟩⟩
    · cases hsix
  · rintro ⟨left, marker, digits, right, vs, hs, hleft, hright, hmarker, hdigits, hc⟩
    have hdigit : ∀ d ∈ digits, isBlank d = false :=
      ((List.forall₂_and_left _ _).mp (hdigits.imp fun _ _ h => ⟨h.ordinary.1, h⟩)).1
    have hne : digits ≠ [] := by
      rintro rfl
      cases hdigits
      simp at hc
    have htrim : trim s.toList = marker ++ digits := by
      rw [hs]
      refine trim_append_append hleft hright ?_ ?_
      · intro d hd
        rcases hmarker with rfl | rfl | rfl
        · exact hdigit d (List.mem_of_mem_head? hd)
        · cases hd
          decide
        · cases hd
          decide
      · intro d hd
        rw [List.getLast?_append_of_ne_nil _ hne] at hd
        exact hdigit d (List.mem_of_getLast? hd)
    rw [htrim, withoutMarker_append hmarker hdigits]
    rcases hc with ⟨hlength, hc⟩ | ⟨hlength, hc⟩
    · have hlength' := hdigits.length_eq.trans hlength
      match digits, hlength' with
      | [_, _, _, _, _, _], _ => exact ⟨_, rfl, hexNumber?_eq_some_iff.mpr ⟨vs, hdigits, hc⟩⟩
    · match vs, hlength, hdigits with
      | [_, _, _], _, .cons hr (.cons hg (.cons hb .nil)) =>
        refine ⟨_, rfl, hexNumber?_eq_some_iff.mpr ⟨_, ?_, hc⟩⟩
        exact .cons hr (.cons hr (.cons hg (.cons hg (.cons hb (.cons hb .nil)))))

/-- Colours have twenty-four bits. -/
theorem SpellsColor.lt {cs : List Char} {c : Nat} (h : SpellsColor cs c) : c < 0x1000000 := by
  obtain ⟨-, -, digits, -, vs, -, -, -, -, hdigits, hc⟩ := h
  have hvs : ∀ v ∈ vs, v < 16 :=
    ((List.forall₂_and_left _ _).mp (hdigits.flip.imp fun _ _ h => ⟨h.1, h⟩)).1
  rcases hc with ⟨hlength, rfl⟩ | ⟨hlength, rfl⟩
  · have hlt := Nat.ofDigits_lt_base_pow_length (b := 16) (l := vs.reverse) (by decide) fun v hv =>
      hvs v (List.mem_reverse.mp hv)
    rwa [List.length_reverse, hlength] at hlt
  · have hlt := Nat.ofDigits_lt_base_pow_length (b := 16) (l := (vs.flatMap fun v => [v, v]).reverse)
      (by decide) fun v hv => by
        obtain ⟨w, hw, hv⟩ := List.mem_flatMap.mp (List.mem_reverse.mp hv)
        simp only [List.mem_cons, List.not_mem_nil, or_false, or_self] at hv
        exact hv ▸ hvs w hw
    have hsix : (vs.flatMap fun v => [v, v]).length = 6 := by
      rw [List.length_flatMap]
      show (vs.map fun _ => 2).sum = 6
      rw [List.map_const', List.sum_replicate, hlength]
      rfl
    rwa [List.length_reverse, hsix] at hlt

/-- **Three bytes are read back** from the text that is written for them. -/
theorem colorOfText?_hexColor {r g b : Nat} (hr : r < 256) (hg : g < 256) (hb : b < 256) :
    colorOfText? (hexColor r g b) = some (0x10000 * r + 0x100 * g + b) := by
  rw [colorOfText?_eq_some_iff, hexColor, String.toList_ofList]
  refine ⟨[], ['#'], hexByte r ++ hexByte g ++ hexByte b, [],
    [r / 16 % 16, r % 16, g / 16 % 16, g % 16, b / 16 % 16, b % 16], ?_, nofun, nofun,
    Or.inr (Or.inl rfl), ?_, Or.inl ⟨rfl, ?_⟩⟩
  · rw [List.append_nil]
    rfl
  · have hdigit : ∀ n, IsHexDigit (Nat.digitChar (n % 16)) (n % 16) := fun n =>
      isHexDigit_digitChar (Nat.mod_lt n (by decide))
    exact .cons (hdigit _) (.cons (hdigit _) (.cons (hdigit _) (.cons (hdigit _)
      (.cons (hdigit _) (.cons (hdigit _) .nil)))))
  · simp only [List.reverse_cons, List.reverse_nil, List.nil_append, List.cons_append,
      Nat.ofDigits_cons, Nat.ofDigits_nil]
    omega

/-- A material writes the bytes of its colour. -/
theorem Material.hex_of_color {m : Material} {r g b : Nat} (hr : r < 256) (hg : g < 256) (hb : b < 256)
    (hm : m.color = 0x10000 * r + 0x100 * g + b) : m.hex = hexColor r g b := by
  have hbytes : m.bytes = (r, g, b) := by
    rw [bytes, hm, Prod.mk.injEq, Prod.mk.injEq]
    omega
  rw [hex, hbytes]

theorem channelByte_lt (x : Float) : channelByte x < 256 := by
  rw [channelByte, Double.toNat, Double.toInt]
  split
  · omega
  · split
    · decide
    · split <;> decide

/-- The digits that are written. -/
def lowerHexDigits : List Char :=
  ['0', '1', '2', '3', '4', '5', '6', '7', '8', '9', 'a', 'b', 'c', 'd', 'e', 'f']

theorem mem_lowerHexDigits_of_mem_hexByte {n : Nat} {d : Char} (hd : d ∈ hexByte n) :
    d ∈ lowerHexDigits := by
  have hdigit : ∀ v : Fin 16, Nat.digitChar v ∈ lowerHexDigits := by decide
  simp only [hexByte, List.mem_cons, List.not_mem_nil, or_false] at hd
  rcases hd with rfl | rfl
  · exact hdigit ⟨n / 16 % 16, Nat.mod_lt _ (by decide)⟩
  · exact hdigit ⟨n % 16, Nat.mod_lt _ (by decide)⟩

/-- The text of a hue, a saturation and a value has three bytes, whatever the numbers are. -/
theorem hsvToHex_eq_hexColor (h s v : Float) :
    ∃ r g b, hsvToHex h s v = hexColor r g b ∧ r < 256 ∧ g < 256 ∧ b < 256 :=
  ⟨_, _, _, rfl, channelByte_lt _, channelByte_lt _, channelByte_lt _⟩

/-- A colour is read again from the text of a material that has it. -/
theorem colorOfText?_hex {m : Material} (hm : m.color < 0x1000000) :
    colorOfText? m.hex = some m.color := by
  have hr : m.color / 0x10000 < 256 := by omega
  have hg : m.color / 0x100 % 0x100 < 256 := by omega
  have hb : m.color % 0x100 < 256 := by omega
  have hbytes : m.color = 0x10000 * (m.color / 0x10000) + 0x100 * (m.color / 0x100 % 0x100) +
      m.color % 0x100 := by omega
  rw [Material.hex_of_color hr hg hb hbytes, colorOfText?_hexColor hr hg hb, ← hbytes]

theorem ColorSpec.color?_lt {spec : ColorSpec} {c : Nat} (h : spec.color? = some c) :
    c < 0x1000000 := by
  cases spec with
  | packed n =>
    cases h
    exact Nat.mod_lt n (by decide)
  | text s => exact (colorOfText?_eq_some_iff.mp h).lt

/-- **Colour texts are read by their grammar and written in it.** A text is read as a colour exactly if
it spells one. A colour that was read has twenty-four bits, and is read again from the text of a material
that has it. The text of any hue, saturation and value is a marker and six lower-case digits, is read, and
is the text of the materials that have its colour. -/
theorem colorText_roundtrip :
    (∀ (s : String) (c : Nat), (ColorSpec.text s).color? = some c ↔ SpellsColor s.toList c) ∧
      (∀ (spec : ColorSpec) (c : Nat), spec.color? = some c → c < 2 ^ 24 ∧
        ∀ m : Material, m.color = c → (ColorSpec.text m.hex).color? = some c) ∧
      ∀ h s v : Float,
        (∃ digits : List Char, hsvToHex h s v = String.ofList ('#' :: digits) ∧ digits.length = 6 ∧
          ∀ d ∈ digits, d ∈ lowerHexDigits) ∧
        ∃ c, (ColorSpec.text (hsvToHex h s v)).color? = some c ∧
          ∀ m : Material, m.color = c → m.hex = hsvToHex h s v := by
  refine ⟨fun s c => colorOfText?_eq_some_iff, ?_, ?_⟩
  · intro spec c hspec
    refine ⟨ColorSpec.color?_lt hspec, ?_⟩
    rintro m rfl
    exact colorOfText?_hex (ColorSpec.color?_lt hspec)
  · intro h s v
    obtain ⟨r, g, b, htext, hr, hg, hb⟩ := hsvToHex_eq_hexColor h s v
    rw [htext]
    constructor
    · refine ⟨hexByte r ++ hexByte g ++ hexByte b, rfl, rfl, fun d hd => ?_⟩
      rcases List.mem_append.mp hd with hd | hd
      · rcases List.mem_append.mp hd with hd | hd
        · exact mem_lowerHexDigits_of_mem_hexByte hd
        · exact mem_lowerHexDigits_of_mem_hexByte hd
      · exact mem_lowerHexDigits_of_mem_hexByte hd
    · exact ⟨_, colorOfText?_hexColor hr hg hb, fun m hm => Material.hex_of_color hr hg hb hm⟩

/-- A material of the colour orange. -/
def orange : Material := ⟨"orange", "standard", 0xff8800, 0.5, 0, 1, false⟩

/-- Three digits with a marker and blanks around are read as the colour orange, and so is the text of the
material. -/
theorem colorText_roundtrip_orange :
    (ColorSpec.text " 0xF80\n").color? = some 0xff8800 ∧ SpellsColor " 0xF80\n".toList 0xff8800 ∧
      orange.color = 0xff8800 ∧ orange.hex = "#ff8800" ∧
      (ColorSpec.text orange.hex).color? = some 0xff8800 := by
  obtain ⟨hgrammar, hback, -⟩ := colorText_roundtrip
  have hread : (ColorSpec.text " 0xF80\n").color? = some 0xff8800 := by decide +kernel
  exact ⟨hread, (hgrammar _ _).mp hread, rfl, by decide +kernel, (hback _ _ hread).2 orange rfl⟩

end ParametricScene
