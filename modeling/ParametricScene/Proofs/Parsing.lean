import ParametricScene.Proofs.Scanning

/-!
# Formulas read back

Every text that spells a formula is read as that formula, whatever spelling was chosen. A text has one
reading, so different formulas have no text in common, and parentheses and space say nothing beyond what
the tree says already.

## Implementation notes

The reader of formulas is made of one reader for each level (`levelReader`), and the spelling of a
formula at a level is taken by the reader of that level, provided that what follows does not go on with
it (`Stops`). That is the contract `Takes`, and it is proved by induction on the spelling.

Operators that group to the left do not fit in at once. A reader takes the operands of a chain one after
another and joins each to all that came before, so the left operand of a spelling is taken while the
chain goes on. `Joins` says what remains to be done then: the reader of the level does with the whole
text what the rest of the chain does with what the words do not use.

The bound on the depth of brackets is the number of words. It is carried along as a condition
on lengths; no reader ever runs out.

## Main definitions

* `Formula.levelReader` — the reader of a level
* `Formula.Stops` — what follows does not go on with a formula at the level
* `Formula.Takes`, `Formula.Joins` — what the readers of levels do with spelled words

## Main results

* `Formula.Spells.readAs` — spelled words are taken by the reader of their level
* `Formula.lowerWith_of_expressible` — there is nothing to rewrite in what can be spelled
* `Formula.parse_of_spelledBy` — every text that spells a formula is read as it
-/

namespace ParametricScene

namespace Formula

/-! ### Readers of levels -/

/-- The reader of formulas at a level, in which brackets and branches nest less deep than the bound. -/
def levelReader (depth : Nat) : Nat → Reader Formula
  | 0 => expression (depth + 1)
  | level + 1 =>
    if level ≤ levelCount then
      chains (unaries (operand (expression depth))) level (levelCount - level)
    else operand (expression depth)

/-- The words do not go on with a formula at the level. -/
def Stops (level : Nat) (ts : List Token) : Prop :=
  ∀ t ∈ ts.head?, t ≠ .mark .openParen ∧ (level = 0 → t ≠ .mark .question) ∧
    ∀ k, level ≤ k + 1 → jointAt? k t = none

/-- The reader takes the words as the formula, if what follows does not go on with it. -/
def Takes (read : Reader Formula) (level : Nat) (ts : List Token) (f : Formula) : Prop :=
  ∀ rest, Stops level rest → read (ts ++ rest) = some (f, rest)

/-- The reader of a level of operators answers what the rest of the chain answers, once it has joined
the words to the formula. -/
def Joins (depth k : Nat) (ts : List Token) (f : Formula) : Prop :=
  ∀ rest x, Stops (k + 2) rest →
    (∀ n, rest.length < n → chainRest k (levelReader depth (k + 2)) n f rest = some x) →
      levelReader depth (k + 1) (ts ++ rest) = some x

section Levels

variable {depth k level : Nat} {ts ts' rest : List Token} {f l r : Formula}

theorem levelReader_zero :
    levelReader depth 0 = choice (levelReader depth 1) (expression depth) := rfl

theorem levelReader_joint (hk : k < 6) :
    levelReader depth (k + 1) = chain k (levelReader depth (k + 2)) := by
  obtain ⟨count, hcount⟩ : ∃ count, levelCount - k = count + 1 := ⟨5 - k, by rw [levelCount]; omega⟩
  have hrest : levelCount - (k + 1) = count := by omega
  rw [levelReader, levelReader, if_pos (by rw [levelCount]; omega), if_pos (by rw [levelCount]; omega),
    hcount, hrest, chains]

theorem levelReader_unaries : levelReader depth 7 = unaries (levelReader depth 8) := rfl

theorem levelReader_operand : levelReader depth 8 = operand (expression depth) := rfl

theorem stops_nil : Stops level [] := fun _ h => by simp at h

theorem Stops.mono (h : Stops level rest) {tighter : Nat} (hle : level ≤ tighter) :
    Stops tighter rest := by
  intro t ht
  obtain ⟨hparen, hquestion, hjoint⟩ := h t ht
  exact ⟨hparen, fun heq => hquestion (by omega), fun k hk => hjoint k (by omega)⟩

/-- The marks behind an operand that are no operators stop every level, but for the question mark. -/
theorem stops_mark {m : Mark} (hm : m ∈ [.colon, .comma, .closeParen, .closeBracket]) :
    Stops level (.mark m :: rest) := by
  have hall : ∀ m ∈ [Mark.colon, .comma, .closeParen, .closeBracket],
      m ≠ .openParen ∧ m ≠ .question ∧ joint? m = none := by decide
  obtain ⟨hparen, hquestion, hjoint⟩ := hall m hm
  intro t ht
  obtain rfl := Option.some.inj ht
  refine ⟨by simpa using hparen, fun _ => by simpa using hquestion, fun k _ => ?_⟩
  rw [jointAt?, hjoint]
  rfl

theorem stops_question : Stops 1 (.mark .question :: rest) := by
  intro t ht
  obtain rfl := Option.some.inj ht
  exact ⟨by simp, by simp, fun k _ => rfl⟩

/-- A chain ends where the words do not go on with it. -/
theorem chainRest_of_stops {read : Reader Formula} (h : Stops (k + 1) rest) {n : Nat}
    (hn : rest.length < n) : chainRest k read n f rest = some (f, rest) := by
  cases n with
  | zero => omega
  | succ n =>
    cases rest with
    | nil => rfl
    | cons t rest =>
      obtain ⟨-, -, hjoint⟩ := h t rfl
      rw [chainRest, hjoint k (Nat.le_refl _)]

/-- What is taken at the next level is the first operand of a chain. -/
theorem Takes.joins (h : Takes (levelReader depth (k + 2)) (k + 2) ts f) (hk : k < 6) :
    Joins depth k ts f := by
  intro rest x hrest hx
  rw [levelReader_joint hk, chain, h rest hrest]
  exact hx _ (Nat.lt_succ_self _)

/-- A chain that does not go on is taken. -/
theorem Joins.takes (h : Joins depth k ts f) : Takes (levelReader depth (k + 1)) (k + 1) ts f :=
  fun rest hrest => h rest _ (hrest.mono (Nat.le_succ _)) fun _ hn => chainRest_of_stops hrest hn

/-- **A chain grows to the right**: the next operand is joined to all that came before it. -/
theorem Joins.joint (hl : Joins depth k ts l)
    (hr : Takes (levelReader depth (k + 2)) (k + 2) ts' r) {t : Token} {j : Joint}
    (ht : jointAt? k t = some j) (hstops : ∀ rest, Stops (k + 2) (t :: rest)) :
    Joins depth k (ts ++ t :: ts') (j.apply l r) := by
  intro rest x hrest hx
  rw [List.append_assoc, List.cons_append]
  refine hl _ x (hstops _) fun n hn => ?_
  cases n with
  | zero => omega
  | succ n =>
    rw [List.length_cons, List.length_append] at hn
    rw [chainRest, ht]
    simp only [hr rest hrest, Option.bind_some]
    exact hx n (by omega)

/-- A condition without branches. -/
theorem Takes.choice_of_condition (h : Takes (levelReader depth 1) 1 ts f) :
    Takes (levelReader depth 0) 0 ts f := by
  intro rest hrest
  simp only [levelReader_zero, choice, h rest (hrest.mono (Nat.zero_le _)), Option.bind_some]
  split
  · exact absurd rfl ((hrest _ rfl).2.1 rfl)
  · rfl

/-- A condition with both branches, in which brackets and branches nest less deep. -/
theorem Takes.choice_of_branches {c y n : Formula} {tc ty tn : List Token}
    (hc : Takes (levelReader (depth + 1) 1) 1 tc c) (hy : Takes (levelReader depth 0) 0 ty y)
    (hn : Takes (levelReader depth 0) 0 tn n) :
    Takes (levelReader (depth + 1) 0) 0
      (tc ++ .mark .question :: (ty ++ .mark .colon :: tn)) (.conditional c y n) := by
  intro rest hrest
  have hcondition := hc (.mark .question :: (ty ++ .mark .colon :: (tn ++ rest))) stops_question
  have hyes := hy (.mark .colon :: (tn ++ rest)) (stops_mark (by simp))
  have hno := hn rest hrest
  rw [levelReader] at hyes hno
  simp only [levelReader_zero, List.append_assoc, List.cons_append, choice, hcondition, hyes, hno,
    Option.bind_some, Option.map_some]

/-- An operator in front of an operand. -/
theorem Takes.unary {op : UnaryOp} {t : Token} (ht : unary? t = some op)
    (h : Takes (levelReader depth 7) 7 ts f) :
    Takes (levelReader depth 7) 7 (t :: ts) (.unary op f) := by
  intro rest hrest
  have hread := h rest hrest
  rw [levelReader_unaries] at hread ⊢
  rw [List.cons_append, unaries, ht]
  simp only [hread, Option.map_some]

/-- An operand without an operator in front of it. -/
theorem Takes.unaries_of_operand {t : Token} (ht : unary? t = none)
    (h : Takes (levelReader depth 8) 8 (t :: ts) f) : Takes (levelReader depth 7) 7 (t :: ts) f := by
  intro rest hrest
  have hread := h rest (hrest.mono (by omega))
  rw [List.cons_append] at hread ⊢
  rw [levelReader_unaries, unaries, ht, hread]

/-- A formula in parentheses. -/
theorem Takes.parens (h : Takes (levelReader depth 0) 0 ts f) :
    Takes (levelReader (depth + 1) 8) 8 (.mark .openParen :: (ts ++ [.mark .closeParen])) f := by
  intro rest _
  have hread := h (.mark .closeParen :: rest) (stops_mark (by simp))
  simp only [levelReader_operand, List.cons_append, List.append_assoc, List.nil_append, operand]
  rw [show expression (depth + 1) = levelReader depth 0 from rfl, hread]
  rfl

end Levels

/-! ### Formulas between commas -/

/-- The reader takes the words as formulas between commas, up to a closing mark: the first by itself,
and the others from the words that are left, however many are allowed if it is as many as there are
words. -/
def TakesItems (read : Reader Formula) (ts : List Token) : List Formula → Prop
  | [] => ts = []
  | f :: fs => ∀ close ∈ [Mark.closeParen, .closeBracket], ∀ rest, ∃ left,
      read (ts ++ .mark close :: rest) = some (f, left) ∧
        left.length ≤ ts.length + rest.length + 1 ∧
          ∀ n, left.length ≤ n → itemsRest read close n left = some (fs, rest)

section Items

variable {read : Reader Formula} {ts ts' : List Token} {f g : Formula} {fs : List Formula}

theorem Takes.items_one (h : Takes read 0 ts f) : TakesItems read ts [f] := by
  intro close hclose rest
  refine ⟨.mark close :: rest, h _ (stops_mark (List.mem_cons_of_mem _ (List.mem_cons_of_mem _ hclose))),
    by simp, fun n hn => ?_⟩
  cases n with
  | zero => simp at hn
  | succ n => rw [itemsRest, if_pos rfl]

theorem Takes.items_more (h : Takes read 0 ts f) (hrest : TakesItems read ts' (g :: fs)) :
    TakesItems read (ts ++ .mark .comma :: ts') (f :: g :: fs) := by
  intro close hclose rest
  have hne : Mark.comma ≠ close := by
    rintro rfl
    simp at hclose
  refine ⟨.mark .comma :: (ts' ++ .mark close :: rest), ?_, by simp; omega, fun n hn => ?_⟩
  · rw [List.append_assoc, List.cons_append]
    exact h _ (stops_mark (by simp))
  · obtain ⟨left, hread, hleft, hitems⟩ := hrest close hclose rest
    cases n with
    | zero => simp at hn
    | succ n =>
      simp only [List.length_cons, List.length_append] at hn
      rw [itemsRest, if_neg hne, if_pos rfl, hread, Option.bind_some, hitems n (by omega)]
      rfl

/-- **All formulas between brackets are taken**, if the first word does not close the brackets. -/
theorem TakesItems.items (h : TakesItems read ts fs) {close : Mark}
    (hclose : close ∈ [Mark.closeParen, .closeBracket])
    (hfirst : fs ≠ [] → ∃ t us, ts = t :: us ∧ t ≠ .mark close) (rest : List Token) :
    items read close (ts ++ .mark close :: rest) = some (fs, rest) := by
  cases fs with
  | nil =>
    obtain rfl : ts = [] := h
    rw [List.nil_append, Formula.items, if_pos rfl]
  | cons f fs =>
    obtain ⟨left, hread, -, hitems⟩ := h close hclose rest
    have hone : itemsOne read close (ts ++ .mark close :: rest) = some (f :: fs, rest) := by
      rw [itemsOne, hread, Option.bind_some, hitems _ (Nat.le_succ _)]
      rfl
    obtain ⟨t, us, rfl, ht⟩ := hfirst (List.cons_ne_nil _ _)
    rw [List.cons_append] at hone ⊢
    rw [Formula.items.eq_def]
    split
    · rename_i m _ heq
      obtain ⟨rfl, rfl⟩ := List.cons.inj heq
      rw [if_neg fun hm => ht (by rw [hm]), hone]
    · exact hone

end Items

/-! ### Words as they are read -/

/-- An operator between operands is read at its level, and stops all tighter ones. -/
theorem jointAt?_of_mem_infixes {spelling : List Char} {k : Nat} {j : Joint}
    (h : (spelling, k + 1, j) ∈ infixes) :
    jointAt? k (Word.mark spelling).token = some j ∧
      ∀ rest, Stops (k + 2) ((Word.mark spelling).token :: rest) := by
  have hall : ∀ e ∈ infixes,
      (Mark.spellings.lookup e.1).bind joint? = some (e.2.1 - 1, e.2.2) := by decide
  obtain ⟨m, hlookup, hjoint⟩ := Option.bind_eq_some_iff.mp (hall _ h)
  have htoken : (Word.mark spelling).token = .mark m := by rw [Word.token, hlookup]; rfl
  have hat : ∀ k', jointAt? k' (.mark m) = if k = k' then some j else none := fun k' => by
    rw [jointAt?, hjoint]
    rfl
  rw [htoken]
  refine ⟨by rw [hat, if_pos rfl], fun rest t ht => ?_⟩
  obtain rfl := Option.some.inj ht
  refine ⟨?_, fun hk => by omega, fun k' hk' => by rw [hat, if_neg (by omega)]⟩
  rintro heq
  obtain rfl := Token.mark.inj heq
  cases hjoint

theorem unary?_prefixSpelling (op : UnaryOp) :
    unary? (Word.mark (prefixSpelling op)).token = some op := by
  cases op <;> rfl

/-- The level at which a phrase is spelled. -/
def Phrase.level : Phrase → Nat
  | .formula level _ => level
  | .items _ => 0

/-- There is no level above that of single operands. -/
theorem Spells.level_le {p : Phrase} {ws : List Word} (h : Spells p ws) : p.level ≤ 8 := by
  induction h with
  | joint hj => exact Nat.le_trans (level_of_mem_infixes hj).2 (by omega)
  | loosen _ ih => exact Nat.le_of_succ_le ih
  | _ => simp [Phrase.level]

/-- No operator stands in front of a single operand. -/
theorem Spells.unary?_eq_none {p : Phrase} {ws : List Word} (h : Spells p ws) (hp : p.level = 8) :
    ∃ w us, ws = w :: us ∧ unary? w.token = none := by
  cases h with
  | joint hj =>
    have hlevel := (level_of_mem_infixes hj).2
    simp only [Phrase.level] at hp hlevel
    omega
  | loosen h =>
    have hlevel := h.level_le
    simp only [Phrase.level] at hp hlevel
    omega
  | unary | choice | empty | single | more => simp [Phrase.level] at hp
  | _ => exact ⟨_, _, rfl, rfl⟩

/-- What is spelled does not begin with a closing bracket. -/
theorem Spells.token_ne_close {p : Phrase} {ws : List Word} (h : Spells p ws) (hp : p.Expressible)
    (hne : p ≠ .items []) {close : Mark} (hclose : close ∈ [Mark.closeParen, .closeBracket]) :
    ∃ w us, ws = w :: us ∧ w.token ≠ .mark close := by
  have hopeners : ∀ s ∈ openers, ∀ m ∈ [Mark.closeParen, .closeBracket],
      (Mark.spellings.lookup s).getD .comma ≠ m := by decide
  obtain ⟨w, us, rfl⟩ := List.exists_cons_of_ne_nil (h.ne_nil hne)
  have hopens := (h.lined hp).first w rfl
  refine ⟨w, us, rfl, fun heq => ?_⟩
  cases w with
  | mark spelling => exact hopeners spelling hopens close hclose (Token.mark.inj heq)
  | _ => cases heq

/-- Formulas between brackets are read, and the words behind the closing bracket are left. -/
theorem Spells.items_eq {fs : List Formula} {ws : List Word} (h : Spells (.items fs) ws)
    (hfs : ExpressibleAll fs) {depth : Nat}
    (htakes : TakesItems (levelReader depth 0) (ws.map Word.token) fs) (close : Mark)
    (hclose : close ∈ [Mark.closeParen, .closeBracket]) (rest : List Token) :
    items (expression (depth + 1)) close (ws.map Word.token ++ .mark close :: rest) =
      some (fs, rest) := by
  refine htakes.items hclose (fun hne => ?_) rest
  obtain ⟨w, us, rfl, hw⟩ := h.token_ne_close hfs (fun heq => hne (Phrase.items.inj heq)) hclose
  exact ⟨w.token, us.map Word.token, rfl, hw⟩

/-! ### Spellings are read -/

/-- The readers of levels take the words as what they spell, if there are no more of them than brackets
may nest. -/
def Phrase.ReadAs (ws : List Word) : Phrase → Prop
  | .formula level f => ∀ depth, ws.length ≤ depth →
      Takes (levelReader depth level) level (ws.map Word.token) f ∧
        ∀ k, k < 6 → level = k + 1 → Joins depth k (ws.map Word.token) f
  | .items fs => ∀ depth, ws.length ≤ depth →
      TakesItems (levelReader depth 0) (ws.map Word.token) fs

namespace Phrase

variable {ws ws' : List Word} {f : Formula} {level : Nat}

/-- Where operators do not group to the left there is nothing to join. -/
theorem readAs_of_takes (hlevel : level = 0 ∨ 7 ≤ level)
    (h : ∀ depth, ws.length ≤ depth →
      Takes (levelReader depth level) level (ws.map Word.token) f) :
    (formula level f).ReadAs ws :=
  fun depth hdepth => ⟨h depth hdepth, fun k hk heq => by omega⟩

/-- What has brackets or branches in it is read if these may nest at all. -/
theorem readAs_of_nested (hlevel : level = 0 ∨ 7 ≤ level) (hws : ws ≠ [])
    (h : ∀ depth, ws.length ≤ depth + 1 →
      Takes (levelReader (depth + 1) level) level (ws.map Word.token) f) :
    (formula level f).ReadAs ws := by
  refine readAs_of_takes hlevel fun depth hdepth => ?_
  cases depth with
  | zero => exact absurd (List.eq_nil_of_length_eq_zero (Nat.le_zero.mp hdepth)) hws
  | succ depth => exact h depth hdepth

/-- Where operators group to the left, what can be joined is taken. -/
theorem readAs_of_joins {k : Nat}
    (h : ∀ depth, ws.length ≤ depth → Joins depth k (ws.map Word.token) f) :
    (formula (k + 1) f).ReadAs ws :=
  fun depth hdepth => ⟨(h depth hdepth).takes, fun k' _ heq => by
    obtain rfl := Nat.succ.inj heq
    exact h depth hdepth⟩

/-- A single operand that is one word. -/
theorem readAs_word {w : Word}
    (h : ∀ inner rest, Stops 8 rest → operand inner (w.token :: rest) = some (f, rest)) :
    (formula 8 f).ReadAs [w] :=
  readAs_of_takes (Or.inr (by omega)) fun _ _ rest hrest => h _ rest hrest

end Phrase

/-- **Spelled words are taken by the reader of their level.** -/
theorem Spells.readAs {p : Phrase} {ws : List Word} (h : Spells p ws) (hp : p.Expressible) :
    p.ReadAs ws := by
  induction h with
  | @number digits x _ hx =>
    refine Phrase.readAs_word fun inner rest _ => ?_
    rw [Word.token, hx]
    rfl
  | text => exact Phrase.readAs_word fun inner rest _ => rfl
  | @boolean b => exact Phrase.readAs_word fun inner rest _ => by cases b <;> rfl
  | reference => exact Phrase.readAs_word fun inner rest _ => rfl
  | @identifier n =>
    obtain ⟨-, htrue, hfalse⟩ := hp
    refine Phrase.readAs_word fun inner rest hrest => ?_
    rw [Word.token, operand, if_neg htrue, if_neg hfalse]
    rintro rest' rfl
    exact (hrest _ rfl).1 rfl
  | @list fs ws h ih =>
    refine Phrase.readAs_of_nested (Or.inr (by omega)) (by simp) fun depth hdepth rest _ => ?_
    simp only [List.length_cons, List.length_append] at hdepth
    have hitems := h.items_eq hp (ih hp depth (by omega)) .closeBracket (by simp) rest
    rw [List.map_cons, List.map_append, List.cons_append, List.append_assoc]
    show operand _ (.mark .openBracket :: (_ ++ .mark .closeBracket :: rest)) = _
    rw [operand, hitems]
    rfl
  | @call n fs ws h ih =>
    obtain ⟨-, htrue, hfalse, -, hfs⟩ := hp
    refine Phrase.readAs_of_nested (Or.inr (by omega)) (by simp) fun depth hdepth rest _ => ?_
    simp only [List.length_cons, List.length_append] at hdepth
    have hitems := h.items_eq hfs (ih hfs depth (by omega)) .closeParen (by simp) rest
    rw [List.map_cons, List.map_cons, List.map_append, List.cons_append, List.cons_append,
      List.append_assoc]
    show operand _ (.name n :: .mark .openParen :: (_ ++ .mark .closeParen :: rest)) = _
    rw [operand, if_neg htrue, if_neg hfalse, hitems]
    rfl
  | @parens f ws h ih =>
    refine Phrase.readAs_of_nested (Or.inr (by omega)) (by simp) fun depth hdepth => ?_
    simp only [List.length_cons, List.length_append] at hdepth
    rw [List.map_cons, List.map_append]
    exact (ih hp depth (by omega)).1.parens
  | @unary op f ws h ih =>
    refine Phrase.readAs_of_takes (Or.inr (by omega)) fun depth hdepth => ?_
    rw [List.length_cons] at hdepth
    exact (ih hp depth (by omega)).1.unary (unary?_prefixSpelling op)
  | @joint spelling level j l r ws ws' hj hl hr ihl ihr =>
    obtain ⟨hpl, hpr⟩ := expressible_apply.mp hp
    obtain ⟨hpos, hle⟩ := level_of_mem_infixes hj
    obtain ⟨k, rfl⟩ := Nat.exists_eq_add_of_le' hpos
    obtain ⟨hat, hstops⟩ := jointAt?_of_mem_infixes hj
    refine Phrase.readAs_of_joins fun depth hdepth => ?_
    rw [List.length_append, List.length_cons] at hdepth
    rw [List.map_append, List.map_cons]
    exact ((ihl hpl depth (by omega)).2 k (by omega) rfl).joint (ihr hpr depth (by omega)).1 hat hstops
  | @choice c y n ws ws' ws'' hc hy hn ihc ihy ihn =>
    obtain ⟨hpc, hpy, hpn⟩ := hp
    refine Phrase.readAs_of_nested (Or.inl rfl) (by simp) fun depth hdepth => ?_
    simp only [List.length_cons, List.length_append] at hdepth
    have hyes := (ihy hpy depth (by omega)).1
    have hno := (ihn hpn depth (by omega)).1
    simp only [List.map_append, List.map_cons]
    exact (ihc hpc (depth + 1) (by omega)).1.choice_of_branches hyes hno
  | @loosen level f ws h ih =>
    have hlevel : level + 1 ≤ 8 := h.level_le
    obtain rfl | rfl | ⟨k, hk, rfl⟩ : level = 0 ∨ level = 7 ∨ ∃ k < 6, level = k + 1 := by
      rcases Nat.eq_zero_or_pos level with h0 | hpos
      · exact Or.inl h0
      · by_cases h7 : level = 7
        · exact Or.inr (Or.inl h7)
        · exact Or.inr (Or.inr ⟨level - 1, by omega, by omega⟩)
    · exact Phrase.readAs_of_takes (Or.inl rfl) fun depth hdepth =>
        (ih hp depth hdepth).1.choice_of_condition
    · obtain ⟨w, us, rfl, hw⟩ := h.unary?_eq_none rfl
      exact Phrase.readAs_of_takes (Or.inr (Nat.le_refl _)) fun depth hdepth =>
        (ih hp depth hdepth).1.unaries_of_operand hw
    · exact Phrase.readAs_of_joins fun depth hdepth => (ih hp depth hdepth).1.joins hk
  | empty => exact fun depth _ => rfl
  | single h ih => exact fun depth hdepth => (ih hp.1 depth hdepth).1.items_one
  | more h hrest ih ihrest =>
    intro depth hdepth
    simp only [List.length_append, List.length_cons] at hdepth
    rw [List.map_append, List.map_cons]
    exact (ih hp.1 depth (by omega)).1.items_more (ihrest hp.2 depth (by omega))

/-! ### Nothing is rewritten -/

mutual

/-- What can be spelled holds no call that the rewriting of `if` would change. -/
theorem lowerWith_of_expressible : ∀ (f : Formula) (left : Nat), f.Expressible →
    lowerWith left f = (f, left)
  | .number _, _, _ | .boolean _, _, _ | .text _, _, _ | .reference _, _, _ | .identifier _, _, _ => by
    rw [lowerWith]
  | .list items, left, h => by rw [lowerWith, lowerAllWith_of_expressible items left h]
  | .unary _ operand, left, h => by rw [lowerWith, lowerWith_of_expressible operand left h]
  | .binary _ l r, left, h => by
    rw [lowerWith, lowerWith_of_expressible l left h.1, lowerWith_of_expressible r left h.2]
  | .logical _ l r, left, h => by
    rw [lowerWith, lowerWith_of_expressible l left h.1, lowerWith_of_expressible r left h.2]
  | .conditional c y n, left, h => by
    rw [lowerWith, lowerWith_of_expressible c left h.1, lowerWith_of_expressible y left h.2.1,
      lowerWith_of_expressible n left h.2.2]
  | .call function arguments, left, h => by
    obtain ⟨-, -, -, hchoice, harguments⟩ := h
    have hnot : ¬(isChoice function arguments = true ∧ 0 < left) := fun hand =>
      hchoice (by simpa [isChoice] using hand.1)
    rw [lowerWith, if_neg hnot, lowerAllWith_of_expressible arguments left harguments]

theorem lowerAllWith_of_expressible : ∀ (fs : List Formula) (left : Nat), ExpressibleAll fs →
    lowerAllWith left fs = (fs, left)
  | [], _, _ => rfl
  | f :: fs, left, h => by
    rw [lowerAllWith, lowerWith_of_expressible f left h.1, lowerAllWith_of_expressible fs left h.2]

end

/-! ### Whole texts -/

/-- **Reading undoes spelling.** Every expressible formula is spelled by some text, and every text that
spells it is read as it. -/
theorem parse_of_spelledBy {f : Formula} (hf : f.Expressible) :
    (∃ text, f.SpelledBy text) ∧ ∀ text, f.SpelledBy text → parse text = .ok f := by
  refine ⟨exists_spelledBy hf, fun text htext => ?_⟩
  obtain ⟨ws, hspells, hlays⟩ := htext
  have hlined := hspells.lined hf
  have hwords := hlays.readAll? hlined.proper hlined.chain
  have hread := (hspells.readAs hf ws.length (Nat.le_refl _)).1 [] stops_nil
  rw [List.append_nil] at hread
  have hexpression : expression ((ws.map Word.token).length + 1) (ws.map Word.token) = some (f, []) := by
    rw [List.length_map]
    exact hread
  have htokens : ofTokens? (ws.map Word.token) = some f := by
    rw [ofTokens?, hexpression]
  rw [parse, parseUnlowered, hwords, Option.bind_some, htokens]
  show Except.ok (lower f) = Except.ok f
  rw [lower, lowerWith_of_expressible f _ hf]

/-- Differences group to the left, and space is where the writer likes it. -/
theorem parse_of_spelledBy_difference :
    ∃ f : Formula,
      f = .binary .subtract (.binary .subtract (.number (Decimal.toFloat ⟨1, 0⟩)) (.reference "x"))
        (.identifier "y") ∧
      f.Expressible ∧ (∃ text, f.SpelledBy text) ∧ f.SpelledBy "1 -$x- y" ∧
      parse "1 -$x- y" = .ok f := by
  have hx : IsName "x" := ⟨'x', [], rfl, by decide, by simp⟩
  have hy : IsName "y" := ⟨'y', [], rfl, by decide, by simp⟩
  have hone : IsNumeral ['1'] := ⟨['1'], [], .whole (by simp) (by simp [isDigit]), .missing, rfl⟩
  have hvalue : readNumber? ['1'] = some (Decimal.toFloat ⟨1, 0⟩) := rfl
  have hf : (Formula.binary .subtract (.binary .subtract (.number (Decimal.toFloat ⟨1, 0⟩))
      (.reference "x")) (.identifier "y")).Expressible :=
    ⟨⟨⟨_, hone, hvalue⟩, hx⟩, hy, by decide, by decide⟩
  have hminus : (['-'], 5, Joint.binary .subtract) ∈ infixes := by simp [infixes]
  have hinner := Spells.joint hminus ((Spells.number hone hvalue).loosenTo (by omega))
    ((Spells.reference (n := "x")).loosenTo (by omega))
  have hspells := Spells.joint hminus hinner ((Spells.identifier (n := "y")).loosenTo (by omega))
  have hlays : Lays [.digits ['1'], .mark ['-'], .reference "x", .mark ['-'], .name "y"]
      "1 -$x- y".toList :=
    @Lays.word [] _ _ _ (by simp) <| @Lays.word [' '] _ _ _ (by simp [spacing]) <|
      @Lays.word [] _ _ _ (by simp) <| @Lays.word [] _ _ _ (by simp) <|
        @Lays.word [' '] [] _ _ (by simp [spacing]) <| .done (by simp)
  refine ⟨_, rfl, hf, (parse_of_spelledBy hf).1, ?_⟩
  suffices hspelled : SpelledBy _ "1 -$x- y" from ⟨hspelled, (parse_of_spelledBy hf).2 _ hspelled⟩
  exact ⟨_, hspells.loosenTo (Nat.zero_le _), hlays⟩

end Formula

end ParametricScene
