import ParametricScene.Context
import ParametricScene.Proofs.ExactText
import ParametricScene.Proofs.Maps

/-!
# Fingerprints tell contexts apart

A fingerprint stands for a context as the key under which results are remembered. That is sound if
contexts with one fingerprint bind the same names to the same values, and this is so as long as no
name has an equals sign in it, which ends a name in the fingerprint.

Values need no such proviso. Each begins with a letter for its kind and can be told where it ends by a
comma or a semicolon, whatever texts and lists it is made of.

## Main definitions

* `CleanName`, `Context.Clean` — names without an equals sign

## Main results

* `Value.tagged_append_inj` — the text of a value tells the value and where it ends
* `Context.get?_eq_of_fingerprint_eq` — clean contexts with one fingerprint agree on every name
-/

namespace ParametricScene

/-- The name has no equals sign in it. -/
def CleanName (name : String) : Prop := '=' ∉ name.toList

/-- No name bound in the context has an equals sign in it. -/
def Context.Clean (ctx : Context) : Prop := ∀ name ∈ ctx.keys, CleanName name

namespace Value

/-! ### Values -/

/-- A character that ends the text of a value. -/
def EndsValue (c : Char) : Prop := c = ',' ∨ c = ';'

theorem EndsValue.not_isTextChar {c : Char} (h : EndsValue c) : ¬NumberFormat.IsTextChar c := by
  rcases h with rfl | rfl
  · exact NumberFormat.not_isTextChar_comma
  · exact NumberFormat.not_isTextChar_semicolon

theorem toList_tagged_number (n : Float) :
    (tagged (.number n)).toList = 'n' :: (NumberFormat.canonical.render n).toList := by
  rw [tagged, String.toList_append]
  rfl

theorem toList_tagged_text (s : String) :
    (tagged (.text s)).toList = 's' :: quotedChars s.toList := by
  rw [tagged, String.toList_append, toList_quoted]
  rfl

theorem toList_tagged_list (items : List Value) :
    (tagged (.list items)).toList = '[' :: ((taggedAll items).toList ++ [']']) := by
  rw [tagged, String.toList_append, String.toList_append]
  rfl

/-- The letters of a boolean. -/
def booleanWord : Bool → List Char
  | true => ['t', 'r', 'u', 'e']
  | false => ['f', 'a', 'l', 's', 'e']

theorem toList_tagged_boolean (b : Bool) :
    (tagged (.boolean b)).toList = 'b' :: booleanWord b := by
  cases b <;> rfl

theorem booleanWord_append_inj {b b' : Bool} {r r' : List Char}
    (h : booleanWord b ++ r = booleanWord b' ++ r') : b = b' ∧ r = r' := by
  cases b <;> cases b' <;> simp_all [booleanWord]

theorem toList_taggedAll_cons (item : Value) (rest : List Value) :
    (taggedAll (item :: rest)).toList = (tagged item).toList ++ ',' :: (taggedAll rest).toList := by
  rw [taggedAll, String.toList_append, String.toList_append, List.append_assoc]
  rfl

/-- The letter for the kind of a value. -/
def tag : Value → Char
  | .number _ => 'n'
  | .boolean _ => 'b'
  | .text _ => 's'
  | .list _ => '['

/-- The text of a value begins with the letter for its kind. -/
theorem exists_toList_tagged (v : Value) : ∃ body, (tagged v).toList = v.tag :: body := by
  cases v with
  | number n => exact ⟨_, toList_tagged_number n⟩
  | boolean b => exact ⟨_, toList_tagged_boolean b⟩
  | text s => exact ⟨_, toList_tagged_text s⟩
  | list items => exact ⟨_, toList_tagged_list items⟩

theorem tag_eq_of_append_eq {v w : Value} {r r' : List Char}
    (h : (tagged v).toList ++ r = (tagged w).toList ++ r') : v.tag = w.tag := by
  obtain ⟨body, hv⟩ := exists_toList_tagged v
  obtain ⟨body', hw⟩ := exists_toList_tagged w
  rw [hv, hw] at h
  exact (List.cons.inj h).1

/-- The text of a value does not begin with a closing bracket. -/
theorem tagged_append_ne_bracket (v : Value) (r r' : List Char) :
    (tagged v).toList ++ r ≠ ']' :: r' := by
  obtain ⟨body, hv⟩ := exists_toList_tagged v
  rw [hv]
  intro h
  have hbracket := (List.cons.inj h).1
  cases v <;> simp [tag] at hbracket

mutual

/-- **The text of a value tells the value and where it ends.** -/
theorem tagged_append_inj {c c' : Char} {r r' : List Char} (hc : EndsValue c) (hc' : EndsValue c') :
    ∀ v w : Value, (tagged v).toList ++ c :: r = (tagged w).toList ++ c' :: r' →
      v = w ∧ c = c' ∧ r = r'
  | .number n => by
    intro w h
    have htag := tag_eq_of_append_eq h
    cases w with
    | number m =>
      rw [toList_tagged_number, toList_tagged_number] at h
      obtain ⟨htext, hrest⟩ := append_cons_inj (P := NumberFormat.IsTextChar)
        (fun _ => NumberFormat.isTextChar_of_mem_render)
        (fun _ => NumberFormat.isTextChar_of_mem_render) hc.not_isTextChar hc'.not_isTextChar
        (List.cons.inj h).2
      rw [NumberFormat.canonical_render_inj (String.toList_inj.mp htext)]
      exact ⟨rfl, hrest⟩
    | boolean _ | text _ | list _ => simp [tag] at htag
  | .boolean b => by
    intro w h
    have htag := tag_eq_of_append_eq h
    cases w with
    | boolean b' =>
      rw [toList_tagged_boolean, toList_tagged_boolean] at h
      obtain ⟨rfl, hrest⟩ := booleanWord_append_inj (List.cons.inj h).2
      exact ⟨rfl, List.cons.inj hrest⟩
    | number _ | text _ | list _ => simp [tag] at htag
  | .text s => by
    intro w h
    have htag := tag_eq_of_append_eq h
    cases w with
    | text s' =>
      rw [toList_tagged_text, toList_tagged_text] at h
      obtain ⟨hs, hrest⟩ := quotedChars_append_inj (List.cons.inj h).2
      rw [String.toList_inj.mp hs]
      exact ⟨rfl, List.cons.inj hrest⟩
    | number _ | boolean _ | list _ => simp [tag] at htag
  | .list items => by
    intro w h
    have htag := tag_eq_of_append_eq h
    cases w with
    | list items' =>
      rw [toList_tagged_list, toList_tagged_list] at h
      have htail : (taggedAll items).toList ++ ']' :: c :: r =
          (taggedAll items').toList ++ ']' :: c' :: r' := by
        have hbody := (List.cons.inj h).2
        simpa using hbody
      obtain ⟨rfl, hrest⟩ := taggedAll_append_inj items items' htail
      exact ⟨rfl, List.cons.inj hrest⟩
    | number _ | boolean _ | text _ => simp [tag] at htag

/-- The text of several values tells the values and where they end, by a bracket. -/
theorem taggedAll_append_inj {r r' : List Char} : ∀ items items' : List Value,
    (taggedAll items).toList ++ ']' :: r = (taggedAll items').toList ++ ']' :: r' →
      items = items' ∧ r = r'
  | [], [], h => ⟨rfl, (List.cons.inj h).2⟩
  | [], item' :: rest', h => by
    rw [toList_taggedAll_cons, List.append_assoc] at h
    exact absurd h.symm (tagged_append_ne_bracket item' _ _)
  | item :: rest, [], h => by
    rw [toList_taggedAll_cons, List.append_assoc] at h
    exact absurd h (tagged_append_ne_bracket item _ _)
  | item :: rest, item' :: rest', h => by
    rw [toList_taggedAll_cons, toList_taggedAll_cons, List.append_assoc, List.append_assoc] at h
    obtain ⟨rfl, -, htail⟩ := tagged_append_inj (Or.inl rfl) (Or.inl rfl) item item' h
    obtain ⟨rfl, hr⟩ := taggedAll_append_inj rest rest' htail
    exact ⟨rfl, hr⟩

end

end Value

namespace Context

/-! ### Contexts -/

/-- The text of one binding with more behind it. -/
theorem toList_join_cons (e : String × Value) (rest : List (String × Value)) :
    (String.join ((e :: rest).map entryText)).toList =
      e.1.toList ++ '=' :: (e.2.tagged.toList ++
        ';' :: (String.join (rest.map entryText)).toList) := by
  rw [List.map_cons, String.join_cons, entryText]
  simp [String.toList_append]

/-- Lists of bindings with clean names are told apart by their texts. -/
theorem entries_eq_of_join_eq {es es' : List (String × Value)} (hes : ∀ e ∈ es, CleanName e.1)
    (hes' : ∀ e ∈ es', CleanName e.1)
    (h : (String.join (es.map entryText)).toList = (String.join (es'.map entryText)).toList) :
    es = es' := by
  induction es generalizing es' with
  | nil =>
    cases es' with
    | nil => rfl
    | cons e' rest' =>
      rw [toList_join_cons] at h
      exact absurd h (by simp [String.join])
  | cons e rest ih =>
    cases es' with
    | nil =>
      rw [toList_join_cons] at h
      exact absurd h (by simp [String.join])
    | cons e' rest' =>
      rw [toList_join_cons, toList_join_cons] at h
      have hname := hes e (List.mem_cons_self ..)
      have hname' := hes' e' (List.mem_cons_self ..)
      obtain ⟨hnames, -, hvalues⟩ := append_cons_inj (P := (· ≠ '='))
        (fun c hc heq => hname (heq ▸ hc)) (fun c hc heq => hname' (heq ▸ hc)) (by simp) (by simp) h
      obtain ⟨hvalue, -, hrest⟩ := Value.tagged_append_inj (Or.inr rfl) (Or.inr rfl) _ _ hvalues
      rw [Prod.ext (String.toList_inj.mp hnames) hvalue,
        ih (fun x hx => hes x (List.mem_cons_of_mem _ hx))
          (fun x hx => hes' x (List.mem_cons_of_mem _ hx)) hrest]

/-- **Clean contexts with one fingerprint agree on every name.** -/
theorem get?_eq_of_fingerprint_eq {ctx ctx' : Context} (hctx : ctx.Clean) (hctx' : ctx'.Clean)
    (h : ctx.fingerprint = ctx'.fingerprint) (name : String) : ctx.get? name = ctx'.get? name := by
  have hclean : ∀ {c : Context}, c.Clean → ∀ e ∈ c.entries.mergeSort nameLE, CleanName e.1 :=
    fun hc e he => hc e.1 (List.mem_map.mpr ⟨e, List.mem_mergeSort.mp he, rfl⟩)
  have hsorted := entries_eq_of_join_eq (hclean hctx) (hclean hctx') (congrArg String.toList h)
  refine Option.ext fun v => ?_
  rw [OrderedMap.get?_eq_some_iff, OrderedMap.get?_eq_some_iff, ← List.mem_mergeSort, hsorted,
    List.mem_mergeSort]

end Context

end ParametricScene
