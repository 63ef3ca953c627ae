/-!
# Blank characters

The characters with the white-space property: the ASCII blanks and the blanks of other scripts,
twenty-five in all. Trimming and the alphabet of formulas use this class.

## Main definitions

* `isBlank` — membership in the class
* `trim`, `trimStart`, `trimEnd` — a text without the blanks at its ends

## Main results

* `exists_eq_append_trim`, `isBlank_ends_trim`, `trim_append_append` — trimming takes blanks away at the
  ends, and all of them
-/

namespace ParametricScene

/-- Code points between `low` and `high`, both included. -/
structure CodeRange where
  low : Nat
  high : Nat
deriving DecidableEq, Repr

/-- Some range of the table holds the code point. The ranges of a table are in order, so the search
ends at the first that starts behind the code point. -/
def inTable : List CodeRange → Nat → Bool
  | [], _ => false
  | r :: rest, n => decide (r.low ≤ n) && (decide (n ≤ r.high) || inTable rest n)

/-- The code points with the white-space property. -/
def blankTable : List CodeRange :=
  [⟨0x09, 0x0D⟩, ⟨0x20, 0x20⟩, ⟨0x85, 0x85⟩, ⟨0xA0, 0xA0⟩, ⟨0x1680, 0x1680⟩, ⟨0x2000, 0x200A⟩,
    ⟨0x2028, 0x2029⟩, ⟨0x202F, 0x202F⟩, ⟨0x205F, 0x205F⟩, ⟨0x3000, 0x3000⟩]

/-- A character with the white-space property. -/
def isBlank (c : Char) : Bool := inTable blankTable c.toNat

/-- The text without the blanks it starts with. -/
def trimStart (cs : List Char) : List Char := cs.dropWhile isBlank

/-- The text without the blanks it ends with. -/
def trimEnd (cs : List Char) : List Char := (cs.reverse.dropWhile isBlank).reverse

/-- The text without the blanks at either end. -/
def trim (cs : List Char) : List Char := trimEnd (trimStart cs)

/-- Trimming takes blanks away at the ends, and nothing else. -/
theorem exists_eq_append_trim (cs : List Char) : ∃ left right : List Char,
    cs = left ++ (trim cs ++ right) ∧ (∀ c ∈ left, isBlank c = true) ∧
      ∀ c ∈ right, isBlank c = true := by
  refine ⟨cs.takeWhile isBlank, ((trimStart cs).reverse.takeWhile isBlank).reverse, ?_, ?_, ?_⟩
  · rw [trim, trimEnd, ← List.reverse_append, List.takeWhile_append_dropWhile, List.reverse_reverse,
      trimStart, List.takeWhile_append_dropWhile]
  · exact List.all_eq_true.mp List.all_takeWhile
  · intro c hc
    exact List.all_eq_true.mp List.all_takeWhile c (List.mem_reverse.mp hc)

/-- What trimming leaves has no blank at either end. -/
theorem isBlank_ends_trim (cs : List Char) : (∀ c ∈ (trim cs).head?, isBlank c = false) ∧
    ∀ c ∈ (trim cs).getLast?, isBlank c = false := by
  have hdropped : ∀ (l : List Char) (c : Char), (l.dropWhile isBlank).head? = some c →
      isBlank c = false := by
    intro l c hc
    have hhead := List.head?_dropWhile_not isBlank l
    rwa [hc] at hhead
  constructor
  · intro c hc
    have hkept : trim cs <+: trimStart cs := by
      rw [trim, trimEnd, ← List.reverse_suffix, List.reverse_reverse]
      exact List.dropWhile_suffix _
    obtain ⟨right, hright⟩ := hkept
    refine hdropped cs c ?_
    rw [← trimStart, ← hright, List.head?_append, Option.mem_def.mp hc]
    rfl
  · intro c hc
    rw [trim, trimEnd, List.getLast?_reverse] at hc
    exact hdropped _ c hc

theorem trimStart_append {left cs : List Char} (hleft : ∀ c ∈ left, isBlank c = true)
    (hcs : ∀ c ∈ cs.head?, isBlank c = false) : trimStart (left ++ cs) = cs := by
  induction left with
  | nil =>
    cases cs with
    | nil => rfl
    | cons c rest => simp [trimStart, hcs c rfl]
  | cons c rest ih =>
    simpa [trimStart, hleft c] using ih fun b hb => hleft b (List.mem_cons_of_mem _ hb)

theorem trimEnd_append {cs right : List Char} (hright : ∀ c ∈ right, isBlank c = true)
    (hcs : ∀ c ∈ cs.getLast?, isBlank c = false) : trimEnd (cs ++ right) = cs := by
  have hreversed : trimStart (right.reverse ++ cs.reverse) = cs.reverse :=
    trimStart_append (fun c hc => hright c (List.mem_reverse.mp hc)) (by rwa [List.head?_reverse])
  rw [trimEnd, List.reverse_append]
  exact (congrArg List.reverse hreversed).trans (List.reverse_reverse cs)

/-- A text that neither starts nor ends with a blank is what trimming leaves of it between blanks. -/
theorem trim_append_append {left cs right : List Char} (hleft : ∀ c ∈ left, isBlank c = true)
    (hright : ∀ c ∈ right, isBlank c = true) (hhead : ∀ c ∈ cs.head?, isBlank c = false)
    (hlast : ∀ c ∈ cs.getLast?, isBlank c = false) : trim (left ++ (cs ++ right)) = cs := by
  cases cs with
  | nil =>
    have hall : ∀ c ∈ left ++ right, isBlank c = true := fun c hc =>
      (List.mem_append.mp hc).elim (hleft c) (hright c)
    have hnone : trimStart ((left ++ right) ++ []) = [] := trimStart_append hall nofun
    rw [List.append_nil] at hnone
    rw [trim, List.nil_append, hnone]
    rfl
  | cons c rest =>
    have hstart : trimStart (left ++ (c :: rest ++ right)) = c :: rest ++ right :=
      trimStart_append hleft hhead
    rw [trim, hstart, trimEnd_append hright hlast]

/-- Nothing is left of blanks, and of blanks only. -/
theorem trim_eq_nil_iff {cs : List Char} : trim cs = [] ↔ ∀ c ∈ cs, isBlank c = true := by
  constructor
  · intro h
    obtain ⟨left, right, hcs, hleft, hright⟩ := exists_eq_append_trim cs
    rw [h, List.nil_append] at hcs
    intro c hc
    rw [hcs] at hc
    exact (List.mem_append.mp hc).elim (hleft c) (hright c)
  · intro h
    have hnil : trim (cs ++ ([] ++ [])) = [] := trim_append_append h nofun nofun nofun
    rwa [List.append_nil, List.append_nil] at hnil

end ParametricScene
