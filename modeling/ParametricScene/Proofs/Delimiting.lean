import ParametricScene.Text.Quoted

/-!
# Texts whose end can be told

A text that is written in front of another can only be read back if it can be told where it ends. Here
are the two ways in which that is so in this library: a character ends the text that does not occur in
it, or the text is quoted.

Every statement has the same form. If two texts of the kind, each with something behind it, are
the same as a whole, then the two are equal and so is what stands behind them.

## Main results

* `append_cons_inj` — texts that end before a character they do not have
* `toDigits_injective` — digits determine the number
* `quotedChars_append_inj` — quoted texts
-/

namespace ParametricScene

variable {α : Type}

/-- Lists that end before the first element without a property. -/
theorem append_cons_inj {P : α → Prop} {l l' r r' : List α} {c c' : α} (hl : ∀ x ∈ l, P x)
    (hl' : ∀ x ∈ l', P x) (hc : ¬P c) (hc' : ¬P c') (h : l ++ c :: r = l' ++ c' :: r') :
    l = l' ∧ c = c' ∧ r = r' := by
  induction l generalizing l' with
  | nil =>
    cases l' with
    | nil => exact ⟨rfl, List.cons.inj h⟩
    | cons x l' =>
      obtain ⟨rfl, -⟩ := List.cons.inj h
      exact absurd (hl' c (List.mem_cons_self ..)) hc
  | cons x l ih =>
    cases l' with
    | nil =>
      obtain ⟨rfl, -⟩ := List.cons.inj h
      exact absurd (hl x (List.mem_cons_self ..)) hc'
    | cons y l' =>
      obtain ⟨rfl, htail⟩ := List.cons.inj h
      obtain ⟨rfl, hrest⟩ := ih (fun z hz => hl z (List.mem_cons_of_mem _ hz))
        (fun z hz => hl' z (List.mem_cons_of_mem _ hz)) htail
      exact ⟨rfl, hrest⟩

/-! ### Digits -/

theorem digitChar_inj {m n : Nat} (hm : m < 16) (hn : n < 16)
    (h : Nat.digitChar m = Nat.digitChar n) : m = n := by
  have main : ∀ a b : Fin 16, Nat.digitChar a = Nat.digitChar b → a = b := by decide
  exact congrArg Fin.val (main ⟨m, hm⟩ ⟨n, hn⟩ h)

/-- **Digits determine the number.** -/
theorem toDigits_injective {b : Nat} (hb : 1 < b) (hb' : b ≤ 16) {m n : Nat}
    (h : Nat.toDigits b m = Nat.toDigits b n) : m = n := by
  induction m using Nat.strongRecOn generalizing n with
  | ind m ih =>
    -- a number below the base has one digit, and any other has more than one
    have hlong : ∀ k, b ≤ k → ∃ ds, ds ≠ [] ∧ Nat.toDigits b k = ds ++ [Nat.digitChar (k % b)] :=
      fun k hk => ⟨Nat.toDigits b (k / b), Nat.toDigits_ne_nil, Nat.toDigits_of_base_le hb hk⟩
    by_cases hm : m < b <;> by_cases hn : n < b
    · rw [Nat.toDigits_of_lt_base hm, Nat.toDigits_of_lt_base hn] at h
      exact digitChar_inj (by omega) (by omega) (List.cons.inj h).1
    · obtain ⟨ds, hds, hlong⟩ := hlong n (Nat.le_of_not_lt hn)
      rw [Nat.toDigits_of_lt_base hm, hlong, ← List.nil_append [_]] at h
      exact absurd (List.append_inj' h rfl).1.symm hds
    · obtain ⟨ds, hds, hlong⟩ := hlong m (Nat.le_of_not_lt hm)
      rw [Nat.toDigits_of_lt_base hn, hlong, ← List.nil_append [Nat.digitChar n]] at h
      exact absurd (List.append_inj' h rfl).1 hds
    · rw [Nat.toDigits_of_base_le hb (Nat.le_of_not_lt hm),
        Nat.toDigits_of_base_le hb (Nat.le_of_not_lt hn)] at h
      obtain ⟨hfront, hlast⟩ := List.append_inj' h rfl
      have hdiv := ih (m / b) (Nat.div_lt_self (by omega) hb) hfront
      have hmod := digitChar_inj (Nat.lt_of_lt_of_le (Nat.mod_lt m (by omega)) hb')
        (Nat.lt_of_lt_of_le (Nat.mod_lt n (by omega)) hb') (List.cons.inj hlast).1
      rw [← Nat.div_add_mod m b, ← Nat.div_add_mod n b, hdiv, hmod]

/-- Hexadecimal digits are no braces. -/
theorem ne_brace_of_mem_hexDigits {n : Nat} {c : Char} (h : c ∈ hexDigits n) : c ≠ '}' := by
  have hdigit : ∀ d : Fin 16, Nat.digitChar d ≠ '}' := by decide
  induction n using Nat.strongRecOn generalizing c with
  | ind n ih =>
    rw [hexDigits] at h
    by_cases hn : n < 16
    · rw [Nat.toDigits_of_lt_base hn, List.mem_singleton] at h
      exact h ▸ hdigit ⟨n, hn⟩
    · rw [Nat.toDigits_of_base_le (by decide) (by omega), List.mem_append, List.mem_singleton] at h
      rcases h with h | rfl
      · exact ih (n / 16) (by omega) h
      · exact hdigit ⟨n % 16, Nat.mod_lt n (by decide)⟩

/-! ### Quoted texts -/

/-- The characters with a short escape, each with its letter. -/
def shortEscapes : List (Char × Char) :=
  [('"', '"'), ('\\', '\\'), ('\n', 'n'), ('\r', 'r'), ('\t', 't'), ('\x00', '0')]

theorem ne_u_of_mem_shortEscapes {c d : Char} (h : (c, d) ∈ shortEscapes) : d ≠ 'u' := by
  have main : ∀ e ∈ shortEscapes, e.2 ≠ 'u' := by decide
  exact main _ h

theorem shortEscapes_inj {c c' d : Char} (h : (c, d) ∈ shortEscapes) (h' : (c', d) ∈ shortEscapes) :
    c = c' := by
  have main : ∀ e ∈ shortEscapes, ∀ e' ∈ shortEscapes, e.2 = e'.2 → e.1 = e'.1 := by decide
  exact main _ h _ h' rfl

/-- A character has a short escape, or stands for itself, or is given by its code point. -/
theorem escapeChar_cases (c : Char) :
    (∃ d, (c, d) ∈ shortEscapes ∧ escapeChar c = ['\\', d]) ∨
      (escapeChar c = [c] ∧ c ≠ '"' ∧ c ≠ '\\') ∨
      escapeChar c = '\\' :: 'u' :: '{' :: (hexDigits c.toNat ++ ['}']) := by
  rw [escapeChar]
  split
  · exact Or.inl ⟨'"', by simp [shortEscapes, *]⟩
  split
  · exact Or.inl ⟨'\\', by simp [shortEscapes, *]⟩
  split
  · exact Or.inl ⟨'n', by simp [shortEscapes, *]⟩
  split
  · exact Or.inl ⟨'r', by simp [shortEscapes, *]⟩
  split
  · exact Or.inl ⟨'t', by simp [shortEscapes, *]⟩
  split
  · exact Or.inl ⟨'0', by simp [shortEscapes, *]⟩
  split
  · exact Or.inr (Or.inl ⟨rfl, ‹_›, ‹_›⟩)
  · exact Or.inr (Or.inr rfl)

/-- An escape is not empty and does not begin with a quote. -/
theorem escapeChar_ne_quote {c : Char} {r r' : List Char} :
    escapeChar c ++ r ≠ '"' :: r' := by
  rcases escapeChar_cases c with ⟨d, -, h⟩ | ⟨h, hquote, -⟩ | h
  · rw [h]
    exact fun heq => absurd (List.cons.inj heq).1 (by decide)
  · rw [h]
    exact fun heq => hquote (List.cons.inj heq).1
  · rw [h]
    exact fun heq => absurd (List.cons.inj heq).1 (by decide)

/-- An escape tells its character and where it ends. -/
theorem escapeChar_append_inj {c c' : Char} {r r' : List Char}
    (h : escapeChar c ++ r = escapeChar c' ++ r') : c = c' ∧ r = r' := by
  rcases escapeChar_cases c with ⟨d, hd, he⟩ | ⟨he, -, hslash⟩ | he <;>
    rcases escapeChar_cases c' with ⟨d', hd', he'⟩ | ⟨he', -, hslash'⟩ | he' <;>
    rw [he, he'] at h
  · obtain ⟨-, hrest⟩ := List.cons.inj h
    obtain ⟨rfl, hr⟩ := List.cons.inj hrest
    exact ⟨shortEscapes_inj hd hd', hr⟩
  · exact absurd (List.cons.inj h).1.symm hslash'
  · exact absurd (List.cons.inj (List.cons.inj h).2).1 (ne_u_of_mem_shortEscapes hd)
  · exact absurd (List.cons.inj h).1 hslash
  · exact List.cons.inj h
  · exact absurd (List.cons.inj h).1 hslash
  · exact absurd (List.cons.inj (List.cons.inj h).2).1.symm (ne_u_of_mem_shortEscapes hd')
  · exact absurd (List.cons.inj h).1.symm hslash'
  · have hbody : hexDigits c.toNat ++ '}' :: r = hexDigits c'.toNat ++ '}' :: r' := by
      simpa using h
    obtain ⟨hdigits, -, hr⟩ := append_cons_inj (P := (· ≠ '}'))
      (fun _ => ne_brace_of_mem_hexDigits) (fun _ => ne_brace_of_mem_hexDigits)
      (by simp) (by simp) hbody
    have hcode := toDigits_injective (by decide) (by decide) hdigits
    exact ⟨Char.ext (UInt32.toNat_inj.mp hcode), hr⟩

theorem toList_quoted (s : String) : (quoted s).toList = quotedChars s.toList := by
  rw [quoted]
  exact String.toList_ofList

/-- **A quoted text tells where it ends.** -/
theorem quotedChars_append_inj {cs cs' r r' : List Char}
    (h : quotedChars cs ++ r = quotedChars cs' ++ r') : cs = cs' ∧ r = r' := by
  have main : ∀ cs cs' : List Char,
      cs.flatMap escapeChar ++ '"' :: r = cs'.flatMap escapeChar ++ '"' :: r' →
        cs = cs' ∧ r = r' := by
    intro cs
    induction cs with
    | nil =>
      intro cs' h
      cases cs' with
      | nil => exact ⟨rfl, (List.cons.inj h).2⟩
      | cons c' cs' =>
        rw [List.flatMap_cons, List.append_assoc] at h
        exact absurd h.symm escapeChar_ne_quote
    | cons c cs ih =>
      intro cs' h
      cases cs' with
      | nil =>
        rw [List.flatMap_cons, List.append_assoc] at h
        exact absurd h escapeChar_ne_quote
      | cons c' cs' =>
        rw [List.flatMap_cons, List.flatMap_cons, List.append_assoc, List.append_assoc] at h
        obtain ⟨rfl, hrest⟩ := escapeChar_append_inj h
        obtain ⟨rfl, hr⟩ := ih cs' hrest
        exact ⟨rfl, hr⟩
  refine main cs cs' ?_
  rw [quotedChars, quotedChars] at h
  simpa using h

end ParametricScene
