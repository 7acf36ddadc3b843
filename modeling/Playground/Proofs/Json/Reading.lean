import Mathlib.Data.List.Basic
import Mathlib.Tactic.IntervalCases
import Playground.Json.Parser

/-! Reading the compact text of a value gives the value back. Each lemma is about a text that goes
on after the value, so that the ones for strings and numbers are used inside arrays and objects. -/

namespace Playground.Json

/-! ### Strings -/

/-- The characters with an escape of one letter, each behind its letter. -/
def letterEscapes : List (Char × Char) := [
  ('"', '"'), ('\\', '\\'), ('n', '\n'), ('r', '\r'), ('t', '\t'), ('b', Char.ofNat 8),
  ('f', Char.ofNat 12)]

/-- The ways in which a character is written inside a string. -/
inductive Escaped (c : Char) : List Char → Prop
  | plain : c ≠ '"' → c ≠ '\\' → 32 ≤ c.toNat → Escaped c [c]
  | letter {l : Char} : (l, c) ∈ letterEscapes → Escaped c ['\\', l]
  | units {a b : Char} :
      c.toNat < 32 → hexValue? a = some (c.toNat / 16) → hexValue? b = some (c.toNat % 16) →
      Escaped c ['\\', 'u', '0', '0', a, b]

theorem hexFour_of_lt {n : Nat} (h : n < 32) : ∃ a b, hexFour n = ['0', '0', a, b] ∧
    hexValue? a = some (n / 16) ∧ hexValue? b = some (n % 16) := by
  interval_cases n <;> exact ⟨_, _, rfl, rfl, rfl⟩

theorem escaped_escapeChar (c : Char) : Escaped c (escapeChar c) := by
  unfold escapeChar
  split
  · subst c
    exact .letter (by decide)
  split
  · subst c
    exact .letter (by decide)
  split
  · subst c
    exact .letter (by decide)
  split
  · subst c
    exact .letter (by decide)
  split
  · subst c
    exact .letter (by decide)
  split
  · rename_i h
    rw [← Char.ofNat_toNat c, h]
    exact .letter (by decide)
  split
  · rename_i h
    rw [← Char.ofNat_toNat c, h]
    exact .letter (by decide)
  split
  · rename_i h
    obtain ⟨a, b, hhex, ha, hb⟩ := hexFour_of_lt h
    rw [hhex]
    exact .units h ha hb
  · rename_i hquote hback _ _ _ _ _ hcontrol
    exact .plain hquote hback (by omega)

theorem plainEscape?_of_mem {l c : Char} (h : (l, c) ∈ letterEscapes) :
    plainEscape? l = some c := by
  revert h
  simp only [letterEscapes, List.mem_cons, Prod.mk.injEq, List.not_mem_nil, or_false]
  rintro (⟨rfl, rfl⟩ | ⟨rfl, rfl⟩ | ⟨rfl, rfl⟩ | ⟨rfl, rfl⟩ | ⟨rfl, rfl⟩ | ⟨rfl, rfl⟩ | ⟨rfl, rfl⟩)
    <;> rfl

theorem charOf?_toNat (c : Char) : charOf? c.toNat = some c := by
  have hvalid : c.toNat.isValidChar := c.valid
  rw [charOf?, dif_pos hvalid]
  rfl

theorem Escaped.stringRest {c : Char} {es : List Char} (h : Escaped c es) (cs : List Char) :
    stringRest (es ++ cs) = (stringRest cs).map fun r => (c :: r.1, r.2) := by
  cases h with
  | plain hquote hback hc =>
    rw [List.singleton_append, Json.stringRest]
    · rw [if_neg (by simp [hback]; omega)]
    · exact hquote
    · exact fun _ _ _ _ _ h => absurd h hback
    · exact fun _ _ h => absurd h hback
  | @letter l hl =>
    have hu : l ≠ 'u' := by
      rintro rfl
      exact absurd (plainEscape?_of_mem hl) (by simp [plainEscape?])
    change Json.stringRest ('\\' :: l :: cs) = _
    rw [Json.stringRest, plainEscape?_of_mem hl]
    · cases Json.stringRest cs <;> rfl
    · exact fun _ _ _ _ _ h => absurd h hu
  | @units a b hc ha hb =>
    have hunit : unit? '0' '0' a b = some c.toNat := by
      simp only [unit?, ha, hb, show hexValue? '0' = some 0 from rfl]
      change some _ = _
      congr 1
      omega
    change Json.stringRest ('\\' :: 'u' :: '0' :: '0' :: a :: b :: cs) = _
    rw [Json.stringRest, hunit, Option.bind_eq_bind, Option.bind_some, charOf?_toNat]
    cases Json.stringRest cs <;> rfl

theorem stringRest_escaped (s rest : List Char) :
    stringRest (s.flatMap escapeChar ++ '"' :: rest) = some (s, rest) := by
  induction s with
  | nil => rfl
  | cons c s ih =>
    rw [List.flatMap_cons, List.append_assoc, (escaped_escapeChar c).stringRest, ih]
    rfl

theorem quote_append (s : String) (rest : List Char) :
    quote s ++ rest = '"' :: (s.toList.flatMap escapeChar ++ '"' :: rest) := by
  simp [quote]

/-! ### Numbers -/

/-- No number goes on with the text. -/
def EndsNumber (rest : List Char) : Prop := ∀ c, rest.head? = some c → isNumberChar c = false

theorem takeWhile_of_endsNumber {ds rest : List Char} (hd : ∀ c ∈ ds, isNumberChar c = true)
    (hr : EndsNumber rest) :
    (ds ++ rest).takeWhile isNumberChar = ds ∧ (ds ++ rest).dropWhile isNumberChar = rest := by
  rw [List.takeWhile_append_of_pos hd, List.dropWhile_append_of_pos hd]
  cases rest with
  | nil => simp
  | cons c rest => simp [hr c rfl]

theorem natOf?_toDigits (n : Nat) : natOf? (Nat.toDigits 10 n) = some n := by
  have hall : (Nat.toDigits 10 n).all Char.isDigit = true :=
    List.all_eq_true.mpr fun c hc => Nat.isDigit_of_mem_toDigits (b := 10)
      (by decide) (by decide) hc
  have hne : (Nat.toDigits 10 n).isEmpty = false := by simp [Nat.toDigits_ne_nil]
  have hvalue := Nat.ofDigitChars_ten_toDigits (n := n)
  rw [Nat.ofDigitChars_eq_foldl] at hvalue
  simp only [natOf?, hall, hne, Bool.not_true, Bool.or_self, Bool.false_eq_true, if_false]
  simpa [Nat.mul_comm] using hvalue

theorem isNumberChar_of_isDigit {c : Char} (h : c.isDigit = true) : isNumberChar c = true := by
  simp [isNumberChar, h]

theorem toList_toString_of_nonneg {n : Int} (h : 0 ≤ n) :
    (toString n).toList = Nat.toDigits 10 n.toNat := by
  rw [Int.toString_eq_repr, Int.repr_eq_if, if_pos h, Nat.repr_eq_ofList_toDigits,
    String.toList_ofList]

theorem toList_toString_of_neg {n : Int} (h : n < 0) :
    (toString n).toList = '-' :: Nat.toDigits 10 (-n).toNat := by
  rw [Int.toString_eq_repr, Int.repr_eq_if, if_neg (by omega), String.toList_append,
    Nat.repr_eq_ofList_toDigits, String.toList_ofList, String.toList_ofList]
  rfl

/-- Integers that a number of 64 bits holds, with a sign or without one. -/
def IsWord (n : Int) : Prop := -0x8000000000000000 ≤ n ∧ n < 0x10000000000000000

theorem exists_toDigits (n : Nat) : ∃ d ds, Nat.toDigits 10 n = d :: ds ∧ d.isDigit = true := by
  cases hds : Nat.toDigits 10 n with
  | nil => exact absurd hds Nat.toDigits_ne_nil
  | cons d ds =>
    have hmem : d ∈ Nat.toDigits 10 n := by simp [hds]
    exact ⟨d, ds, rfl, Nat.isDigit_of_mem_toDigits (by decide) (by decide) hmem⟩

theorem integerOf?_toString {n : Int} (h : IsWord n) : integerOf? (toString n).toList = some n := by
  by_cases hn : 0 ≤ n
  · rw [toList_toString_of_nonneg hn]
    have hnat := natOf?_toDigits n.toNat
    obtain ⟨d, ds, hds, hd⟩ := exists_toDigits n.toNat
    rw [hds] at hnat ⊢
    have hminus : d ≠ '-' := by
      rintro rfl
      exact absurd hd (by decide)
    rw [integerOf?, hnat]
    · have hlt : n.toNat < 0x10000000000000000 := by have := h.2; omega
      change (if n.toNat < 0x10000000000000000 then some (n.toNat : Int) else none) = some n
      rw [if_pos hlt, Int.toNat_of_nonneg hn]
    · exact fun _ heq => absurd (List.cons.inj heq).1 hminus
  · rw [toList_toString_of_neg (by omega), integerOf?, natOf?_toDigits]
    have hpos : 0 < (-n).toNat := by omega
    have hle : (-n).toNat ≤ 0x8000000000000000 := by have := h.1; omega
    change (if (decide (0 < (-n).toNat) && decide ((-n).toNat ≤ 0x8000000000000000)) = true then
      some (-((-n).toNat : Int)) else none) = some n
    rw [if_pos (by simp [hpos, hle])]
    congr 1
    omega

/-- What an integer begins with, and what it is made of. -/
theorem exists_toString (n : Int) :
    ∃ c cs, (toString n).toList = c :: cs ∧ (c.isDigit = true ∨ c = '-') ∧
    ∀ d ∈ c :: cs, isNumberChar d = true := by
  have hdigits (m : Nat) : ∀ d ∈ Nat.toDigits 10 m, isNumberChar d = true :=
    fun d hd => isNumberChar_of_isDigit (Nat.isDigit_of_mem_toDigits (b := 10) (by decide)
      (by decide) hd)
  by_cases hn : 0 ≤ n
  · obtain ⟨d, ds, hds, hd⟩ := exists_toDigits n.toNat
    exact ⟨d, ds, (toList_toString_of_nonneg hn).trans hds, .inl hd, hds ▸ hdigits n.toNat⟩
  · refine ⟨'-', _, toList_toString_of_neg (by omega), .inr rfl, ?_⟩
    rw [List.forall_mem_cons]
    exact ⟨by decide, hdigits _⟩

/-- A number begins with no other character than a digit and the sign. -/
theorem ne_of_number {c d : Char} (hc : c.isDigit = true ∨ c = '-') (hd : d.isDigit = false)
    (hm : d ≠ '-') :
    c ≠ d := by
  rintro rfl
  rcases hc with hc | hc
  · rw [hd] at hc
    cases hc
  · exact hm hc

theorem isJsonBlank_of_number {c : Char} (hc : c.isDigit = true ∨ c = '-') :
    isJsonBlank c = false := by
  have hne (d : Char) (hd : d.isDigit = false) (hm : d ≠ '-') : decide (c = d) = false :=
    decide_eq_false (ne_of_number hc hd hm)
  simp [isJsonBlank, hne ' ' rfl (by decide), hne '\t' rfl (by decide), hne '\n' rfl (by decide),
    hne '\r' rfl (by decide)]

/-! ### Values -/

/-- Values that can be read back: their numbers are integers of 64 bits. -/
inductive Whole : Json → Prop
  | null : Whole .null
  | bool (b : Bool) : Whole (.bool b)
  | integer {n : Int} : IsWord n → Whole (.integer n)
  | string (s : String) : Whole (.string s)
  | array {items : List Json} : (∀ v ∈ items, Whole v) → Whole (.array items)
  | object {members : List (String × Json)} : (∀ m ∈ members, Whole m.2) → Whole (.object members)

theorem skipBlank_cons {c : Char} (h : isJsonBlank c = false) (cs : List Char) :
    skipBlank (c :: cs) = c :: cs := by
  simp [skipBlank, h]

/-- A text that stands for a number is read as one. -/
theorem value?_number {c : Char} {cs rest : List Char} {v : Json} (hc : c.isDigit = true ∨ c = '-')
    (hall : ∀ d ∈ c :: cs, isNumberChar d = true) (hr : EndsNumber rest)
    (hv : numberOf? (c :: cs) = some v)
    (fuel : Nat) : value? (fuel + 1) (c :: cs ++ rest) = some (v, rest) := by
  obtain ⟨htake, hdrop⟩ := takeWhile_of_endsNumber hall hr
  rw [value?, List.cons_append, skipBlank_cons (isJsonBlank_of_number hc)]
  split
  case h_7 =>
    rw [← List.cons_append, htake, hdrop, hv]
    rfl
  all_goals
    rename_i heq
    exact absurd (List.cons.inj heq).1 (ne_of_number hc rfl (by decide))

/-- What a value begins with: neither a blank nor the end of an array. -/
theorem Whole.head {v : Json} (h : Whole v) :
    ∃ c cs, v.chars = c :: cs ∧ isJsonBlank c = false ∧ c ≠ ']' := by
  cases h with
  | null => exact ⟨_, _, rfl, by decide, by decide⟩
  | bool b => cases b <;> exact ⟨_, _, rfl, by decide, by decide⟩
  | @integer n _ =>
    obtain ⟨c, cs, heq, hc, -⟩ := exists_toString n
    exact ⟨c, cs, by rw [chars, heq], isJsonBlank_of_number hc, ne_of_number hc rfl (by decide)⟩
  | string s => exact ⟨_, _, rfl, by decide, by decide⟩
  | array _ => exact ⟨_, _, by rw [chars]; rfl, by decide, by decide⟩
  | object _ => exact ⟨_, _, by rw [chars]; rfl, by decide, by decide⟩

/-- The value is read off the front of any text that goes on without continuing a number. -/
def ReadsBack (v : Json) : Prop :=
  ∀ fuel rest, 2 * v.chars.length < fuel → EndsNumber rest →
    value? fuel (v.chars ++ rest) = some (v, rest)

theorem items?_itemChars {vs : List Json} {v : Json}
    (hall : ∀ w ∈ v :: vs, ReadsBack w) (fuel : Nat) (rest : List Char)
    (hf : 2 * (itemChars (v :: vs)).length + 1 < fuel) :
    items? fuel (itemChars (v :: vs) ++ ']' :: rest) = some (v :: vs, rest) := by
  induction vs generalizing v fuel with
  | nil =>
    obtain ⟨fuel, rfl⟩ := Nat.exists_eq_add_one_of_ne_zero (Nat.ne_zero_of_lt hf)
    rw [itemChars] at hf ⊢
    rw [items?, hall v (by simp) fuel (']' :: rest) (by omega) (by rintro c ⟨⟩; decide)]
    rfl
  | cons w ws ih =>
    obtain ⟨fuel, rfl⟩ := Nat.exists_eq_add_one_of_ne_zero (Nat.ne_zero_of_lt hf)
    rw [itemChars] at hf ⊢
    rw [List.length_append, List.length_cons] at hf
    rw [List.append_assoc, List.cons_append, items?,
      hall v (by simp) fuel (',' :: _) (by omega) (by rintro c ⟨⟩; decide)]
    change (items? fuel (itemChars (w :: ws) ++ ']' :: rest)).bind _ = _
    rw [ih (fun u hu => hall u (List.mem_cons_of_mem v hu)) fuel (by omega)]
    rfl

/-- One member is read, and what stands behind it decides how to go on. -/
theorem members?_member {k : String} {v : Json} {fuel : Nat} {rest : List Char}
    (hv : value? fuel (v.chars ++ rest) = some (v, rest)) :
    members? (fuel + 1) (quote k ++ ':' :: v.chars ++ rest) =
      match skipBlank rest with
      | '}' :: rest => some ([(k, v)], rest)
      | ',' :: rest => (members? fuel rest).bind fun r => some ((k, v) :: r.1, r.2)
      | _ => none := by
  rw [List.append_assoc, quote_append, members?, skipBlank_cons (by decide)]
  change (stringRest (k.toList.flatMap escapeChar ++ '"' :: (':' :: v.chars ++ rest))).bind _ = _
  rw [stringRest_escaped]
  change (value? fuel (v.chars ++ rest)).bind _ = _
  rw [hv, Option.bind_some, String.ofList_toList]
  rfl

theorem members?_memberChars {ms : List (String × Json)} {k : String} {v : Json}
    (hall : ∀ m ∈ (k, v) :: ms, ReadsBack m.2) (fuel : Nat) (rest : List Char)
    (hf : 2 * (memberChars ((k, v) :: ms)).length < fuel) :
    members? fuel (memberChars ((k, v) :: ms) ++ '}' :: rest) = some ((k, v) :: ms, rest) := by
  induction ms generalizing k v fuel with
  | nil =>
    obtain ⟨fuel, rfl⟩ := Nat.exists_eq_add_one_of_ne_zero (Nat.ne_zero_of_lt hf)
    rw [memberChars] at hf ⊢
    rw [List.length_append, List.length_cons] at hf
    rw [members?_member (hall (k, v) (by simp) fuel ('}' :: rest) (by dsimp only; omega)
      (by rintro c ⟨⟩; decide))]
    rfl
  | cons m ms ih =>
    obtain ⟨k', v'⟩ := m
    obtain ⟨fuel, rfl⟩ := Nat.exists_eq_add_one_of_ne_zero (Nat.ne_zero_of_lt hf)
    rw [memberChars] at hf ⊢
    simp only [List.length_append, List.length_cons] at hf
    rw [List.append_assoc, List.cons_append,
      members?_member (hall (k, v) (by simp) fuel (',' :: _) (by dsimp only; omega)
        (by rintro c ⟨⟩; decide))]
    change (members? fuel (memberChars ((k', v') :: ms) ++ '}' :: rest)).bind _ = _
    rw [ih (fun n hn => hall n (List.mem_cons_of_mem _ hn)) fuel (by omega)]
    rfl

theorem readsBack_of_succ {v : Json}
    (h : ∀ fuel rest, 2 * v.chars.length ≤ fuel → EndsNumber rest →
      value? (fuel + 1) (v.chars ++ rest) = some (v, rest)) :
    ReadsBack v := by
  intro fuel rest hf hr
  obtain ⟨fuel, rfl⟩ := Nat.exists_eq_add_one_of_ne_zero (Nat.ne_zero_of_lt hf)
  exact h fuel rest (Nat.le_of_lt_succ hf) hr

theorem value?_bracket (fuel : Nat) (cs : List Char) :
    value? (fuel + 1) ('[' :: cs) =
      match skipBlank cs with
      | ']' :: rest => some (.array [], rest)
      | _ => (items? fuel cs).map fun r => (.array r.1, r.2) := by
  rw [value?, skipBlank_cons (by decide)]
  rfl

theorem value?_brace (fuel : Nat) (cs : List Char) :
    value? (fuel + 1) ('{' :: cs) =
      match skipBlank cs with
      | '}' :: rest => some (.object [], rest)
      | _ => (members? fuel cs).map fun r => (.object r.1, r.2) := by
  rw [value?, skipBlank_cons (by decide)]
  rfl

theorem readsBack_array {items : List Json} (hall : ∀ v ∈ items, Whole v)
    (ih : ∀ v ∈ items, ReadsBack v) :
    ReadsBack (.array items) := by
  refine readsBack_of_succ fun fuel rest hf _ => ?_
  cases items with
  | nil => rfl
  | cons v vs =>
    rw [chars] at hf ⊢
    simp only [List.length_append, List.length_cons, List.length_nil] at hf
    have hitems := items?_itemChars ih fuel rest (by omega)
    -- The first item does not begin like the end of an empty array.
    obtain ⟨c, cs, hhead, hblank, hclose⟩ : ∃ c cs, itemChars (v :: vs) ++ ']' :: rest = c :: cs ∧
        isJsonBlank c = false ∧ c ≠ ']' := by
      obtain ⟨c, cs, hchars, hc⟩ := (hall v (by simp)).head
      cases vs <;> exact ⟨c, _, by rw [itemChars, hchars]; rfl, hc⟩
    rw [List.append_assoc, List.cons_append, List.singleton_append, value?_bracket, hitems, hhead,
      skipBlank_cons hblank]
    split
    · rename_i heq
      exact absurd (List.cons.inj heq).1 hclose
    · rfl

theorem readsBack_object {members : List (String × Json)} (ih : ∀ m ∈ members, ReadsBack m.2) :
    ReadsBack (.object members) := by
  refine readsBack_of_succ fun fuel rest hf _ => ?_
  cases members with
  | nil => rfl
  | cons m ms =>
    obtain ⟨k, v⟩ := m
    rw [chars] at hf ⊢
    simp only [List.length_append, List.length_cons, List.length_nil] at hf
    have hmembers := members?_memberChars ih fuel rest (by omega)
    obtain ⟨cs, hhead⟩ : ∃ cs, memberChars ((k, v) :: ms) ++ '}' :: rest = '"' :: cs := by
      cases ms <;> exact ⟨_, by rw [memberChars]; rfl⟩
    rw [List.append_assoc, List.cons_append, List.singleton_append, value?_brace, hmembers, hhead]
    rfl

theorem Whole.readsBack {v : Json} (h : Whole v) : ReadsBack v := by
  induction h with
  | null => exact readsBack_of_succ fun fuel rest _ _ => rfl
  | bool b => cases b <;> exact readsBack_of_succ fun fuel rest _ _ => rfl
  | @integer n hn =>
    refine readsBack_of_succ fun fuel rest _ hr => ?_
    obtain ⟨c, cs, heq, hc, hall⟩ := exists_toString n
    have hnumber : numberOf? (c :: cs) = some (.integer n) := by
      rw [← heq, numberOf?, integerOf?_toString hn]
    rw [chars, heq]
    exact value?_number hc hall hr hnumber fuel
  | string s =>
    refine readsBack_of_succ fun fuel rest _ _ => ?_
    rw [chars, quote_append, value?, skipBlank_cons (by decide)]
    change (stringRest (s.toList.flatMap escapeChar ++ '"' :: rest)).map _ = _
    rw [stringRest_escaped, Option.map_some]
    dsimp only
    rw [String.ofList_toList]
  | array hall ih => exact readsBack_array hall ih
  | object _ ih => exact readsBack_object ih

/-- Reading what was written gives the value back. -/
theorem Whole.parse?_render {v : Json} (h : Whole v) : parse? v.render = some v := by
  have hread := h.readsBack (2 * v.chars.length + 2) [] (by omega) (by rintro c ⟨⟩)
  rw [List.append_nil] at hread
  unfold parse? render
  rw [String.toList_ofList, hread]
  rfl

/-! ### The text is one line -/

/-- No character is a control character. -/
def Printable (cs : List Char) : Prop := ∀ c ∈ cs, 32 ≤ c.toNat

instance (cs : List Char) : Decidable (Printable cs) :=
  decidable_of_iff (cs.all fun c => decide (32 ≤ c.toNat)) (by simp [Printable])

theorem Printable.append {xs ys : List Char} (hx : Printable xs) (hy : Printable ys) :
    Printable (xs ++ ys) :=
  List.forall_mem_append.mpr ⟨hx, hy⟩

theorem Printable.cons {c : Char} {cs : List Char} (hc : 32 ≤ c.toNat) (h : Printable cs) :
    Printable (c :: cs) :=
  List.forall_mem_cons.mpr ⟨hc, h⟩

theorem printable_nil : Printable [] := by
  intro c hc
  cases hc

theorem le_of_hexValue? {c : Char} {n : Nat} (h : hexValue? c = some n) : 32 ≤ c.toNat := by
  unfold hexValue? at h
  simp only [Bool.and_eq_true, decide_eq_true_eq, Char.le_def, UInt32.le_iff_toNat_le] at h
  split at h
  · rename_i hc
    exact Nat.le_trans (by decide) hc.1
  split at h
  · rename_i hc
    exact Nat.le_trans (by decide) hc.1
  split at h
  · rename_i hc
    exact Nat.le_trans (by decide) hc.1
  · cases h

theorem Escaped.printable {c : Char} {es : List Char} (h : Escaped c es) : Printable es := by
  cases h with
  | plain _ _ hc => exact .cons hc printable_nil
  | letter hl =>
    have hletters : ∀ p ∈ letterEscapes, 32 ≤ p.1.toNat := by decide
    exact .cons (by decide) (.cons (hletters _ hl) printable_nil)
  | units _ ha hb =>
    exact .cons (by decide) (.cons (by decide) (.cons (by decide) (.cons (by decide)
      (.cons (le_of_hexValue? ha) (.cons (le_of_hexValue? hb) printable_nil)))))

theorem printable_quote (s : String) : Printable (quote s) := by
  refine .cons (by decide) (.append ?_ (.cons (by decide) printable_nil))
  intro c hc
  obtain ⟨d, -, hd⟩ := List.mem_flatMap.mp hc
  exact (escaped_escapeChar d).printable c hd

theorem le_of_isNumberChar {c : Char} (h : isNumberChar c = true) : 32 ≤ c.toNat := by
  simp only [isNumberChar, Char.isDigit, Bool.or_eq_true, Bool.and_eq_true,
    decide_eq_true_eq, ge_iff_le, UInt32.le_iff_toNat_le] at h
  rcases h with ((((h | rfl) | rfl) | rfl) | rfl) | rfl
  · exact Nat.le_trans (by decide) h.1
  all_goals decide

theorem printable_itemChars {vs : List Json}
    (h : ∀ v ∈ vs, Printable v.chars) : Printable (itemChars vs) := by
  induction vs with
  | nil => exact printable_nil
  | cons v vs ih =>
    have hv := h v (by simp)
    have hvs := ih fun w hw => h w (List.mem_cons_of_mem v hw)
    cases vs with
    | nil => exact hv
    | cons w ws => exact hv.append (hvs.cons (by decide))

theorem printable_memberChars {ms : List (String × Json)} (h : ∀ m ∈ ms, Printable m.2.chars) :
    Printable (memberChars ms) := by
  induction ms with
  | nil => exact printable_nil
  | cons m ms ih =>
    obtain ⟨k, v⟩ := m
    have hm : Printable (quote k ++ ':' :: v.chars) :=
      (printable_quote k).append ((h (k, v) (by simp)).cons (by decide))
    have hms := ih fun n hn => h n (List.mem_cons_of_mem _ hn)
    cases ms with
    | nil => exact hm
    | cons n ns => exact hm.append (hms.cons (by decide))

theorem Whole.printable {v : Json} (h : Whole v) : Printable v.chars := by
  induction h with
  | null => decide
  | bool b => cases b <;> decide
  | @integer n _ =>
    obtain ⟨c, cs, heq, -, hall⟩ := exists_toString n
    rw [chars, heq]
    exact fun d hd => le_of_isNumberChar (hall d hd)
  | string s =>
    rw [chars]
    exact printable_quote s
  | array _ ih =>
    rw [chars]
    exact .cons (by decide) ((printable_itemChars ih).append (.cons (by decide) printable_nil))
  | object _ ih =>
    rw [chars]
    exact .cons (by decide) ((printable_memberChars ih).append (.cons (by decide) printable_nil))

end Playground.Json
