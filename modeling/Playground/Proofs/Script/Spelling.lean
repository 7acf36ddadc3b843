import Mathlib.Data.List.TakeWhile
import Playground.Proofs.Json.Reading
import Playground.Proofs.Script.Meaning

/-! Words, marks, strings and numbers as they are written for the reader, each in front of a text
that does not go on with it. A string is written with the escapes of JSON, and a number with its
digits. -/

namespace Playground.Script

open Text Reader Json

theorem textFrom_facing (text rest : List Char) (r : Reader) (p p' : Nat) :
    textFrom ⟨text ++ rest, p⟩ (r.facing rest p') =
      .ok (String.ofList text) (r.facing rest p') := by
  change EStateM.Result.ok (String.ofList (Cursor.upTo ⟨text ++ rest, p⟩ ⟨rest, p'⟩)) _ = _
  rw [Cursor.upTo_of_eq_append rfl]

/-! ### Words -/

/-- The text does not go on with a word. -/
def EndsWord (rest : List Char) : Prop :=
  ∀ c, rest.head? = some c → isIdentPart c = false ∧ c ≠ '\\'

theorem wordRun_of_parts {text rest : List Char} (htext : ∀ c ∈ text, isIdentPart c = true)
    (hrest : EndsWord rest) (fuel : Nat) (hfuel : text.length < fuel) (taken : List Char)
    (r : Reader) (p : Nat) :
    ∃ p', wordRun fuel taken false (r.facing (text ++ rest) p) =
      .ok (taken.reverse ++ text, false) (r.facing rest p') := by
  induction text generalizing fuel taken p with
  | nil =>
    cases fuel with
    | zero => exact absurd hfuel (Nat.not_lt_zero _)
    | succ fuel =>
      refine ⟨p, ?_⟩
      rw [List.append_nil, List.nil_append, wordRun, current?_bind]
      cases rest with
      | nil => rfl
      | cons d ds =>
        obtain ⟨hpart, hback⟩ := hrest d rfl
        change (if isIdentPart d = true then _ else if (d == '\\') = true then _
          else _ : Read _) _ = _
        rw [if_neg (by simp [hpart]), if_neg (by simp [hback])]
        rfl
  | cons c cs ih =>
    cases fuel with
    | zero => exact absurd hfuel (Nat.not_lt_zero _)
    | succ fuel =>
      obtain ⟨hc, hcs⟩ := List.forall_mem_cons.mp htext
      obtain ⟨p', hrun⟩ := ih hcs fuel (Nat.lt_of_succ_lt_succ hfuel) (c :: taken) (p + c.utf8Size)
      refine ⟨p', ?_⟩
      rw [wordRun, current?_bind]
      change (if isIdentPart c = true then _ else _ : Read _) _ = _
      rw [if_pos hc, advance_bind]
      refine hrun.trans ?_
      rw [List.reverse_cons, List.append_assoc, List.singleton_append]

/-- A word begins with a character that can begin a name, and goes on with those that can stand in
one. -/
structure IsIdent (text : List Char) : Prop where
  head : ∃ c cs, text = c :: cs ∧ isIdentStart c = true
  parts : ∀ c ∈ text, isIdentPart c = true

theorem spells_word {text rest : List Char} (htext : IsIdent text) (hrest : EndsWord rest) :
    Spells (.word (Word.ofString (String.ofList text))) text rest := by
  obtain ⟨⟨c, cs, rfl, hc⟩, hparts⟩ := htext
  refine ⟨List.cons_ne_nil c cs, ?_, ?_⟩
  · rintro d ⟨⟩
    refine ⟨isSpace_eq_false_of_isIdentStart hc, ?_⟩
    rintro rfl
    exact absurd hc (by decide)
  · intro isReserved fuel r p
    have hbudget : (c :: cs).length < (c :: cs ++ rest).length + 1 := by
      rw [List.length_append]
      omega
    obtain ⟨p', hrun⟩ := wordRun_of_parts hparts hrest _ hbudget [] r p
    refine ⟨p', ?_⟩
    rw [token, get_bind]
    change (if (isIdentStart c || c == '\\') = true then (do return some (← word isReserved))
      else _ : Read _) _ = _
    rw [if_pos (by simp [hc])]
    have hword : word isReserved (r.facing (c :: cs ++ rest) p) =
        .ok (.word (Word.ofString (String.ofList (c :: cs)))) (r.facing rest p') := by
      rw [word, position_bind, budget_bind]
      exact bind_of_ok hrun
    exact bind_of_ok hword

/-! ### Marks -/

/-- Characters that begin neither a word nor a literal, nor space, nor a comment. -/
def opensMark (c : Char) : Bool :=
  !(isIdentStart c || c == '\\' || c == '0' || c.isDigit || c == '\'' || c == '"' ||
    c == '<' || c == '-' || isSpace c || c == '/')

theorem spells_of_spelling {c : Char} {s : String} {t : Token} {rest : List Char}
    (hc : opensMark c = true) (hdot : c = '.' → (rest.head?.map Char.isDigit).getD false = false)
    (hs : spelling? (c :: rest) = some (s, t)) (hlength : s.length = 1) : Spells t [c] rest := by
  simp only [opensMark, Bool.not_eq_true', Bool.or_eq_false_iff, beq_eq_false_iff_ne] at hc
  obtain ⟨⟨⟨⟨⟨⟨⟨⟨⟨hstart, hback⟩, hzero⟩, hdigit⟩, hsingle⟩, hdouble⟩, hless⟩, hminus⟩, hspace⟩,
    hslash⟩ := hc
  refine ⟨List.cons_ne_nil c [], ?_, ?_⟩
  · rintro d ⟨⟩
    exact ⟨hspace, hslash⟩
  · intro isReserved fuel r p
    refine ⟨p + c.utf8Size, ?_⟩
    have hnumber :
        (c.isDigit || (c == '.' && (rest.head?.map Char.isDigit).getD false)) = false := by
      by_cases h : c = '.'
      · rw [hdigit, hdot h, Bool.and_false]
        rfl
      · simp [hdigit, h]
    have hfind : spelling? (r.facing ([c] ++ rest) p).cursor.rest = some (s, t) := hs
    rw [token, get_bind]
    change (if (isIdentStart c || c == '\\') = true then _ else if (c == '0') = true then _
      else if (c.isDigit || (c == '.' && (rest.head?.map Char.isDigit).getD false)) = true then _
      else if (c == '\'' || c == '"') = true then _
      else if ['<', '!', '-', '-'].isPrefixOf (c :: rest) = true then _
      else if (r.lineBefore && ['-', '-', '>'].isPrefixOf (c :: rest)) = true then _
      else _ : Read (Option Token)) _ = _
    rw [if_neg (by simp [hstart, hback]), if_neg (by simp [hzero]), if_neg (by simp [hnumber]),
      if_neg (by simp [hsingle, hdouble]), if_neg (by simp [List.isPrefixOf, hless.symm]),
      if_neg (by simp [List.isPrefixOf, hminus.symm]), hfind]
    dsimp only
    rw [hlength]
    rfl

/-- The marks that are read as they stand, whatever comes after them. -/
def plainMarks : List (Char × Mark) := [
  ('(', .leftParen), (')', .rightParen), ('{', .leftBrace), ('}', .rightBrace),
  (',', .comma), (':', .colon), ('`', .backquote)]

theorem spells_mark {c : Char} {m : Mark} (h : (c, m) ∈ plainMarks) (rest : List Char) :
    Spells (.mark m) [c] rest := by
  simp only [plainMarks, List.mem_cons, Prod.mk.injEq, List.not_mem_nil, or_false] at h
  rcases h with ⟨rfl, rfl⟩ | ⟨rfl, rfl⟩ | ⟨rfl, rfl⟩ | ⟨rfl, rfl⟩ | ⟨rfl, rfl⟩ | ⟨rfl,
    rfl⟩ | ⟨rfl, rfl⟩
  all_goals exact spells_of_spelling (by decide +kernel) (fun h => absurd h (by decide)) rfl rfl

theorem isSpace_of_isDigit {c : Char} (h : c.isDigit = true) : isSpace c = false :=
  isSpace_eq_false (by decide) h

theorem range_of_isDigit {c : Char} (h : c.isDigit = true) : 48 ≤ c.toNat ∧ c.toNat < 58 := by
  simp only [Char.isDigit, Bool.and_eq_true, decide_eq_true_eq] at h
  exact ⟨h.1, Nat.lt_succ_of_le h.2⟩

theorem isIdentStart_of_isDigit {c : Char} (h : c.isDigit = true) : isIdentStart c = false := by
  obtain ⟨hle, hlt⟩ := range_of_isDigit h
  have hall : ∀ n < 58, 48 ≤ n → isIdentStart (Char.ofNat n) = false := by decide +kernel
  rw [← Char.ofNat_toNat c]
  exact hall c.toNat hlt hle

/-- A dot is read alone in front of a name. -/
theorem spells_dot {c : Char} (hc : isIdentStart c = true) (cs : List Char) :
    Spells (.mark .dot) ['.'] (c :: cs) := by
  have hdot : '.' ≠ c := by
    rintro rfl
    exact absurd hc (by decide +kernel)
  have hdigit : c.isDigit = false := by
    by_contra h
    rw [isIdentStart_of_isDigit (Bool.not_eq_false _ ▸ h)] at hc
    cases hc
  refine spells_of_spelling (s := ".") (by decide +kernel) (fun _ => hdigit) ?_ rfl
  simp [spelling?, spellings, hdot]

/-! ### Digits -/

section

variable {radix limit start fuel : Nat} {taken : List Char} {r : Reader} {p : Nat}

theorem digitOf?_eq_some {c : Char} {d : Nat} (h : digitOf? radix c = some d) : c ≠ '_' := by
  rintro rfl
  rw [digitOf?, show digitValue? '_' = none from rfl] at h
  cases h

theorem digitRun_digit {c : Char} {d : Nat} (h : digitOf? radix c = some d)
    (hlimit : taken.length + 1 ≠ limit) (cs : List Char) :
    digitRun radix limit start (fuel + 1) taken (r.facing (c :: cs) p) =
      digitRun radix limit start fuel (c :: taken) (r.facing cs (p + c.utf8Size)) := by
  rw [digitRun, current?_bind]
  change (if (c == '_') = true then _ else if (digitOf? radix c).isNone = true then _
    else advance >>= fun _ => if taken.length + 1 = limit then _ else _ : Read _) _ = _
  rw [if_neg (by simp [digitOf?_eq_some h]), if_neg (by simp [h]), advance_bind, if_neg hlimit]
  rfl

theorem digitRun_last {c : Char} {d : Nat} (h : digitOf? radix c = some d)
    (hlimit : taken.length + 1 = limit) (cs : List Char) :
    digitRun radix limit start (fuel + 1) taken (r.facing (c :: cs) p) =
      .ok (c :: taken).reverse (r.facing cs (p + c.utf8Size)) := by
  rw [digitRun, current?_bind]
  change (if (c == '_') = true then _ else if (digitOf? radix c).isNone = true then _
    else advance >>= fun _ => if taken.length + 1 = limit then _ else _ : Read _) _ = _
  rw [if_neg (by simp [digitOf?_eq_some h]), if_neg (by simp [h]), advance_bind, if_pos hlimit]
  rfl

theorem digitRun_end {rest : List Char}
    (h : ∀ c, rest.head? = some c → c ≠ '_' ∧ digitOf? radix c = none) :
    digitRun radix limit start (fuel + 1) taken (r.facing rest p) =
      .ok taken.reverse (r.facing rest p) := by
  rw [digitRun, current?_bind]
  cases rest with
  | nil => rfl
  | cons c cs =>
    obtain ⟨hsep, hdigit⟩ := h c rfl
    change (if (c == '_') = true then _ else if (digitOf? radix c).isNone = true then _
      else _ : Read _) _ = _
    rw [if_neg (by simp [hsep]), if_pos (by simp [hdigit])]
    rfl

end

/-! ### Strings -/

theorem digitOf?_of_hexValue? {c : Char} {d : Nat} (h : hexValue? c = some d) (hd : d < 16) :
    digitOf? 16 c = some d := by
  rw [digitOf?, show digitValue? c = some d from h]
  simp [hd]

theorem escape_letter {l c : Char} (h : (l, c) ∈ letterEscapes) (inTemplate : Bool) (r : Reader)
    (cs : List Char) (p : Nat) :
    ∃ p', escape inTemplate (r.facing ('\\' :: l :: cs) p) = .ok [c] (r.facing cs p') := by
  simp only [letterEscapes, List.mem_cons, Prod.mk.injEq, List.not_mem_nil, or_false] at h
  rcases h with ⟨rfl, rfl⟩ | ⟨rfl, rfl⟩ | ⟨rfl, rfl⟩ | ⟨rfl, rfl⟩ | ⟨rfl, rfl⟩ | ⟨rfl,
    rfl⟩ | ⟨rfl, rfl⟩
  all_goals exact ⟨_, rfl⟩

theorem unicodeEscape_units {a b c : Char} (hc : c.toNat < 32)
    (ha : hexValue? a = some (c.toNat / 16)) (hb : hexValue? b = some (c.toNat % 16)) (r : Reader)
    (cs : List Char) (p : Nat) :
    ∃ p', unicodeEscape (r.facing ('0' :: '0' :: a :: b :: cs) p) = .ok [c] (r.facing cs p') := by
  have hzero : digitOf? 16 '0' = some 0 := rfl
  have ha' := digitOf?_of_hexValue? ha (by omega)
  have hb' := digitOf?_of_hexValue? hb (by omega)
  have hdigits : ∃ p', digits 16 4 (r.facing ('0' :: '0' :: a :: b :: cs) p) =
      .ok ['0', '0', a, b] (r.facing cs p') := by
    rw [digits, position_bind, budget_bind]
    change ∃ p', digitRun 16 4 p (cs.length + 1 + 1 + 1 + 1 + 1) [] _ = _
    rw [digitRun_digit hzero (by decide), digitRun_digit hzero (by decide),
      digitRun_digit ha' (by decide), digitRun_last hb' (by rfl)]
    exact ⟨_, rfl⟩
  obtain ⟨p', hdigits⟩ := hdigits
  have hvalue : readDigits 16 ['0', '0', a, b] = c.toNat := by
    simp only [readDigits, List.foldl_cons, List.foldl_nil, hzero, ha', hb']
    omega
  have hbrace : (r.facing ('0' :: '0' :: a :: b :: cs) p).cursor.current? ≠ some '{' := by
    change some '0' ≠ some '{'
    decide
  refine ⟨p', ?_⟩
  rw [unicodeEscape, eat_bind_of_ne hbrace, get_bind]
  refine (bind_of_ok hdigits).trans ?_
  rw [hvalue, if_neg (by simp; omega)]
  change (if 0x10FFFF < c.toNat then _ else _ : Read (List Char)) _ = _
  rw [if_neg (by omega)]
  change EStateM.Result.ok (if c.toNat.isValidChar then [Char.ofNat c.toNat] else _) _ = _
  rw [if_pos (show c.toNat.isValidChar from c.valid), Char.ofNat_toNat]

theorem escape_units {a b c : Char} (hc : c.toNat < 32) (ha : hexValue? a = some (c.toNat / 16))
    (hb : hexValue? b = some (c.toNat % 16)) (inTemplate : Bool) (r : Reader)
    (cs : List Char) (p : Nat) :
    ∃ p', escape inTemplate (r.facing ('\\' :: 'u' :: '0' :: '0' :: a :: b :: cs) p) =
      .ok [c] (r.facing cs p') := by
  obtain ⟨p', h⟩ := unicodeEscape_units hc ha hb r cs (p + '\\'.utf8Size + 'u'.utf8Size)
  have hobserve : escape.observing unicodeEscape
      (r.facing ('0' :: '0' :: a :: b :: cs) (p + '\\'.utf8Size + 'u'.utf8Size)) =
        .ok (.ok [c]) (r.facing cs p') := by
    rw [escape.observing, h]
  exact ⟨p', bind_of_ok hobserve⟩

theorem stringRun_escape {c : Char} {es : List Char} {r r' : Reader} {p : Nat}
    (h : escape false (r.facing ('\\' :: es) p) = .ok [c] r') (start fuel : Nat)
    (taken : List Char) :
    stringRun '"' start (fuel + 1) taken (r.facing ('\\' :: es) p) =
      stringRun '"' start fuel (c :: taken) r' := by
  rw [stringRun, current?_bind]
  change (if ('\\' == '"') = true then _ else if ('\\' == '\\') = true then
    escape false >>= fun chars => stringRun '"' start fuel (chars.reverse ++ taken)
    else _ : Read _) _ = _
  rw [if_neg (by decide), if_pos (by decide)]
  exact bind_of_ok h

/-- A character that is written in one of its ways is one character of the string. -/
theorem stringRun_escaped {c : Char} {es : List Char} (h : Escaped c es) (start fuel : Nat)
    (taken : List Char) (r : Reader) (cs : List Char) (p : Nat) :
    ∃ p', stringRun '"' start (fuel + 1) taken (r.facing (es ++ cs) p) =
      stringRun '"' start fuel (c :: taken) (r.facing cs p') := by
  cases h with
  | plain hquote hback hc =>
    have hfeed : c ≠ '\n' ∧ c ≠ '\r' := by
      constructor
      · rintro rfl
        exact absurd hc (by decide)
      · rintro rfl
        exact absurd hc (by decide)
    refine ⟨p + c.utf8Size, ?_⟩
    rw [stringRun, current?_bind]
    change (if (c == '"') = true then _ else if (c == '\\') = true then _
      else if (c == '\n' || c == '\r') = true then _ else _ : Read _) _ = _
    rw [if_neg (by simp [hquote]), if_neg (by simp [hback]), if_neg (by simp [hfeed]), advance_bind]
    rfl
  | @letter l hl =>
    obtain ⟨p', hescape⟩ := escape_letter hl false r cs p
    exact ⟨p', stringRun_escape hescape start fuel taken⟩
  | @units a b hc ha hb =>
    obtain ⟨p', hescape⟩ := escape_units hc ha hb false r cs p
    exact ⟨p', stringRun_escape hescape start fuel taken⟩

theorem stringRun_quote (start : Nat) (s rest : List Char) (fuel : Nat) (hfuel : s.length < fuel)
    (taken : List Char) (r : Reader) (p : Nat) :
    ∃ p', stringRun '"' start fuel taken (r.facing (s.flatMap escapeChar ++ '"' :: rest) p) =
      .ok (taken.reverse ++ s) (r.facing rest p') := by
  induction s generalizing fuel taken p with
  | nil =>
    cases fuel with
    | zero => exact absurd hfuel (Nat.not_lt_zero _)
    | succ fuel =>
      rw [List.append_nil]
      exact ⟨_, rfl⟩
  | cons c s ih =>
    cases fuel with
    | zero => exact absurd hfuel (Nat.not_lt_zero _)
    | succ fuel =>
      rw [List.flatMap_cons, List.append_assoc]
      obtain ⟨p₁, hchar⟩ := stringRun_escaped (escaped_escapeChar c) start fuel taken r
        (s.flatMap escapeChar ++ '"' :: rest) p
      obtain ⟨p', hrun⟩ := ih fuel (Nat.lt_of_succ_lt_succ hfuel) (c :: taken) p₁
      refine ⟨p', hchar.trans (hrun.trans ?_)⟩
      rw [List.reverse_cons, List.append_assoc, List.singleton_append]

theorem length_pos_of_escaped {c : Char} {es : List Char} (h : Escaped c es) : 0 < es.length := by
  cases h
  all_goals exact Nat.succ_pos _

theorem length_le_flatMap_escapeChar (s : List Char) :
    s.length ≤ (s.flatMap escapeChar).length := by
  induction s with
  | nil => exact Nat.le_refl 0
  | cons c s ih =>
    have hchar := length_pos_of_escaped (escaped_escapeChar c)
    rw [List.flatMap_cons, List.length_append, List.length_cons]
    omega

/-- A text between quotes is a string with that value, whatever comes after it. -/
theorem spells_quote (s : String) (rest : List Char) :
    Spells (.string s (String.ofList (quote s))) (quote s) rest := by
  refine ⟨List.cons_ne_nil _ _, ?_, ?_⟩
  · rintro c ⟨⟩
    decide
  · intro isReserved fuel r p
    have hlength := length_le_flatMap_escapeChar s.toList
    obtain ⟨p', hrun⟩ := stringRun_quote p s.toList rest
      ((s.toList.flatMap escapeChar ++ '"' :: rest).length + 1)
      (by rw [List.length_append]; omega) [] r (p + '"'.utf8Size)
    refine ⟨p', ?_⟩
    have hstring : Reader.string '"' (r.facing (quote s ++ rest) p) =
        .ok (.string s (String.ofList (quote s))) (r.facing rest p') := by
      have htext := textFrom_facing (quote s) rest r p p'
      rw [quote_append] at htext
      rw [Reader.string, get_bind, advance_bind, budget_bind, quote_append]
      refine (bind_of_ok hrun).trans ((bind_of_ok htext).trans ?_)
      change EStateM.Result.ok
        (Token.string (String.ofList s.toList) (String.ofList (quote s))) _ = _
      rw [String.ofList_toList]
    rw [token, get_bind, quote_append]
    change (if (isIdentStart '"' || '"' == '\\') = true then _ else if ('"' == '0') = true then _
      else if ('"'.isDigit || ('"' == '.' && _)) = true then _
      else if ('"' == '\'' || '"' == '"') = true then Reader.string '"' >>= fun t => pure (some t)
      else _ : Read (Option Token)) _ = _
    rw [if_neg (by decide +kernel), if_neg (by decide), if_neg (by simp), if_pos (by decide),
      ← quote_append]
    exact bind_of_ok hstring

/-! ### Numbers -/

/-- The text does not go on with a number. -/
def EndsDigits (rest : List Char) : Prop :=
  ∀ c, rest.head? = some c → c ≠ '_' ∧ c ≠ '.' ∧ digitOf? 10 c = none ∧ isIdentStart c = false

theorem digitOf?_of_isDigit {c : Char} (h : c.isDigit = true) :
    digitOf? 10 c = some (c.toNat - 48) := by
  have hrange : '0' ≤ c ∧ c ≤ '9' := by
    rwa [Char.isDigit, Bool.and_eq_true, decide_eq_true_eq, decide_eq_true_eq] at h
  have hle : c.toNat ≤ 57 := hrange.2
  simp only [digitOf?, digitValue?, hrange, decide_true, Bool.and_self, if_true]
  exact Option.filter_some_pos (by simp; omega)

theorem isDigit_toDigits {n : Nat} {c : Char} (h : c ∈ Nat.toDigits 10 n) : c.isDigit = true :=
  Nat.isDigit_of_mem_toDigits (by decide) (by decide) h

theorem head?_toDigits {n : Nat} (h : 0 < n) : (Nat.toDigits 10 n).head? ≠ some '0' := by
  induction n using Nat.strongRecOn with
  | ind n ih =>
    by_cases hn : n < 10
    · rw [Nat.toDigits_of_lt_base hn]
      intro hzero
      have hdigit : n.digitChar = '0' := Option.some.inj hzero
      have hvalue := Nat.toNat_digitChar_of_lt_ten hn
      rw [hdigit] at hvalue
      have : '0'.toNat = 48 := rfl
      omega
    · rw [Nat.toDigits_of_base_le (by decide) (by omega),
        List.head?_append_of_ne_nil _ Nat.toDigits_ne_nil]
      exact ih (n / 10) (by omega) (by omega)

/-- The digits of a number do not make it one of an older notation. -/
theorem toDigits_not_legacy {n : Nat} (h : (Nat.toDigits 10 n).head? = some '0') :
    (Nat.toDigits 10 n).length ≤ 1 := by
  rcases Nat.eq_zero_or_pos n with rfl | hn
  · exact Nat.le_refl 1
  · exact absurd h (head?_toDigits hn)

theorem readDigits_toDigits (n : Nat) : readDigits 10 (Nat.toDigits 10 n) = n := by
  have hvalue := Nat.ofDigitChars_ten_toDigits (n := n)
  rw [Nat.ofDigitChars_eq_foldl] at hvalue
  refine Eq.trans ?_ hvalue
  refine List.foldl_ext _ _ _ fun m c hc => ?_
  rw [digitOf?_of_isDigit (isDigit_toDigits hc), Nat.mul_comm]
  rfl

/-- A number that is written with its digits stands for itself. -/
theorem numberQuotient_toDigits (n : Nat) : numberQuotient (Nat.toDigits 10 n) = (n, 1) := by
  have hdigits : ∀ c ∈ Nat.toDigits 10 n, c.isDigit = true := fun c hc => isDigit_toDigits hc
  have hvalue := readDigits_toDigits n
  have hlegacy := toDigits_not_legacy (n := n)
  generalize Nat.toDigits 10 n = ds at hdigits hvalue hlegacy
  have hne (d : Char) (hd : d.isDigit = false) : ∀ c ∈ ds, c ≠ d := by
    rintro c hc rfl
    rw [hdigits c hc] at hd
    cases hd
  have hfilter : ds.filter (· ≠ '_') = ds := List.filter_eq_self.mpr (by simpa using hne '_' rfl)
  have hexp : ∀ c ∈ ds, (!(c == 'e' || c == 'E')) = true := by
    intro c hc
    simp [hne 'e' rfl c hc, hne 'E' rfl c hc]
  have hpoint : ∀ c ∈ ds, (decide (c ≠ '.')) = true := by
    intro c hc
    simp [hne '.' rfl c hc]
  have hhead (d : Char) (hd : d.isDigit = false) {c : Char} {cs : List Char} :
      ds ≠ c :: d :: cs := by
    rintro rfl
    exact hne d hd d (by simp) rfl
  rw [numberQuotient, hfilter]
  -- A number that tells its base has a letter behind the zero, and there are only digits.
  split
  case h_7 =>
    simp only [List.takeWhile_eq_self_iff.mpr hexp, List.dropWhile_eq_nil_iff.mpr hexp,
      List.takeWhile_eq_self_iff.mpr hpoint, List.dropWhile_eq_nil_iff.mpr hpoint]
    rw [if_neg]
    · change (readDigits 10 (ds ++ []) * 1, 1) = _
      rw [List.append_nil, hvalue, Nat.mul_one]
    · simp only [Bool.and_eq_true, decide_eq_true_eq, beq_iff_eq]
      rintro ⟨⟨⟨-, hlength⟩, hzero⟩, -⟩
      have := hlegacy hzero
      omega
  all_goals exact absurd rfl (hhead _ rfl)

theorem digitRun_digits {ds rest : List Char} (hds : ∀ c ∈ ds, c.isDigit = true)
    (hrest : EndsDigits rest) (start : Nat) (fuel : Nat) (hfuel : ds.length < fuel)
    (taken : List Char) (r : Reader) (p : Nat) :
    ∃ p', digitRun 10 0 start fuel taken (r.facing (ds ++ rest) p) =
      .ok (taken.reverse ++ ds) (r.facing rest p') := by
  induction ds generalizing fuel taken p with
  | nil =>
    cases fuel with
    | zero => exact absurd hfuel (Nat.not_lt_zero _)
    | succ fuel =>
      rw [List.append_nil]
      exact ⟨p, digitRun_end fun c hc => ⟨(hrest c hc).1, (hrest c hc).2.2.1⟩⟩
  | cons d ds ih =>
    cases fuel with
    | zero => exact absurd hfuel (Nat.not_lt_zero _)
    | succ fuel =>
      obtain ⟨hd, hds⟩ := List.forall_mem_cons.mp hds
      obtain ⟨p', hrun⟩ := ih hds fuel (Nat.lt_of_succ_lt_succ hfuel) (d :: taken) (p + d.utf8Size)
      refine ⟨p', (digitRun_digit (digitOf?_of_isDigit hd) (Nat.succ_ne_zero _) (ds ++ rest)).trans
        (hrun.trans ?_)⟩
      rw [List.reverse_cons, List.append_assoc, List.singleton_append]

section

variable {rest : List Char} (hrest : EndsDigits rest) (r : Reader) (p : Nat)

include hrest

theorem EndsDigits.current?_ne {c : Char} (hc : isIdentStart c = true ∨ c = '.') :
    (r.facing rest p).cursor.current? ≠ some c := by
  intro h
  obtain ⟨-, hdot, -, hstart⟩ := hrest c h
  rcases hc with hc | rfl
  · rw [hc] at hstart
    cases hstart
  · exact hdot rfl

theorem noIdent_facing : noIdent (r.facing rest p) = .ok () (r.facing rest p) := by
  rw [noIdent, current?_bind]
  cases rest with
  | nil => rfl
  | cons c cs =>
    change (if isIdentStart c = true then _ else _ : Read Unit) _ = _
    rw [if_neg (by simp [(hrest c rfl).2.2.2])]
    rfl

theorem numberEnd_facing {text : List Char} {p₀ : Nat} :
    numberEnd ⟨text ++ rest, p₀⟩ (r.facing rest p) =
      .ok (.number (String.ofList text)) (r.facing rest p) := by
  have hdot := hrest.current?_ne r p (c := '.') (.inr rfl)
  have he := hrest.current?_ne r p (c := 'e') (.inl (by decide +kernel))
  have hE := hrest.current?_ne r p (c := 'E') (.inl (by decide +kernel))
  rw [numberEnd, eat_bind_of_ne hdot]
  change (current? >>= fun c => current? >>= fun c' =>
    if (decide (c = some 'e') || decide (c' = some 'E')) = true then _ else _ : Read Token) _ = _
  rw [current?_bind, current?_bind, if_neg (by simp [he, hE])]
  exact (bind_of_ok (noIdent_facing hrest r p)).trans
    (bind_of_ok (textFrom_facing text rest r p₀ p))

end

theorem decimalNumber_toDigits (n : Nat) {rest : List Char} (hrest : EndsDigits rest)
    (r : Reader) (p : Nat) :
    ∃ p', decimalNumber (r.facing (Nat.toDigits 10 n ++ rest) p) =
      .ok (.number (String.ofList (Nat.toDigits 10 n))) (r.facing rest p') := by
  have hlegacy := toDigits_not_legacy (n := n)
  have hall : ∀ c ∈ Nat.toDigits 10 n, c.isDigit = true := fun c hc => isDigit_toDigits hc
  obtain ⟨d, ds, hds, hd⟩ := exists_toDigits n
  generalize Nat.toDigits 10 n = digits at hlegacy hall hds
  have hpoint : (r.facing (digits ++ rest) p).cursor.current? ≠ some '.' := by
    subst hds
    rintro ⟨⟩
    exact absurd hd (by decide)
  obtain ⟨p', hrun⟩ := digitRun_digits hall hrest p ((digits ++ rest).length + 1)
    (by rw [List.length_append]; omega) [] r p
  have hsome : someDigits 10 (r.facing (digits ++ rest) p) = .ok digits (r.facing rest p') := by
    rw [someDigits, position_bind, Reader.digits]
    refine (bind_of_ok ((position_bind _ _).trans ((budget_bind _ _).trans hrun))).trans ?_
    subst hds
    rfl
  refine ⟨p', ?_⟩
  rw [decimalNumber, get_bind, current?_bind, if_neg hpoint]
  refine (bind_of_ok hsome).trans ?_
  rw [eat_bind_of_ne (hrest.current?_ne r p' (.inl (by decide +kernel)))]
  change (if (decide (digits.head? = some '0') && decide (1 < digits.length)) = true then _
    else _ : Read Token) _ = _
  rw [if_neg]
  · exact numberEnd_facing hrest r p'
  · simp only [Bool.and_eq_true, decide_eq_true_eq]
    rintro ⟨hzero, hlength⟩
    have := hlegacy hzero
    omega

theorem spells_number (n : Nat) {rest : List Char} (hrest : EndsDigits rest) :
    Spells (.number (String.ofList (Nat.toDigits 10 n))) (Nat.toDigits 10 n) rest := by
  obtain ⟨d, ds, hds, hd⟩ := exists_toDigits n
  have hlegacy := toDigits_not_legacy (n := n)
  refine ⟨Nat.toDigits_ne_nil, ?_, ?_⟩
  · intro c hc
    rw [hds] at hc
    cases hc
    refine ⟨isSpace_of_isDigit hd, ?_⟩
    rintro rfl
    exact absurd hd (by decide)
  · intro isReserved fuel r p
    obtain ⟨p', hnumber⟩ := decimalNumber_toDigits n hrest r p
    refine ⟨p', ?_⟩
    have hback : d ≠ '\\' := by
      rintro rfl
      exact absurd hd (by decide)
    rw [hds] at hnumber hlegacy ⊢
    rw [token, get_bind]
    change (if (isIdentStart d || d == '\\') = true then _ else if (d == '0') = true then _
      else if (d.isDigit || (d == '.' && _)) = true then decimalNumber >>= fun t => pure (some t)
      else _ : Read (Option Token)) _ = _
    rw [if_neg (by simp [isIdentStart_of_isDigit hd, hback])]
    by_cases hzero : d = '0'
    · -- Nothing stands behind a zero but the text, and that is no letter.
      obtain rfl : ds = [] := by
        subst hzero
        exact List.length_eq_zero_iff.mp (Nat.le_zero.mp (Nat.le_of_succ_le_succ (hlegacy rfl)))
      have hletter {c : Char} (hc : isIdentStart c = true) : ([] ++ rest).head? ≠ some c := by
        intro h
        rw [(hrest c h).2.2.2] at hc
        cases hc
      rw [if_pos (by simp [hzero])]
      generalize ([] ++ rest).head? = next at hletter
      split
      case h_7 => exact bind_of_ok hnumber
      all_goals exact absurd rfl (hletter (by decide +kernel))
    · rw [if_neg (by simp [hzero]), if_pos (by simp [hd])]
      exact bind_of_ok hnumber

end Playground.Script
