import Playground.Proofs.Script.Lexer

/-! What a token has to do with the text that it was read from. A word is a name, a number or a
string is written with a character that can be seen, and a brace that opens stands where its token
starts; where the text is not so, reading it has left a fault. -/

namespace Playground.Script

open Text Reader

/-- The text begins with a character that is not space. -/
def Visible (cs : List Char) : Prop := ∃ c rest, cs = c :: rest ∧ isSpace c = false

instance : (cs : List Char) → Decidable (Visible cs)
  | [] => isFalse (by rintro ⟨_, _, h, -⟩; cases h)
  | c :: rest =>
    decidable_of_iff (isSpace c = false)
      ⟨fun h => ⟨c, rest, rfl, h⟩, by rintro ⟨_, _, ⟨⟩, h⟩; exact h⟩

theorem Visible.append {cs : List Char} (h : Visible cs) (more : List Char) :
    Visible (cs ++ more) := by
  obtain ⟨c, rest, rfl, hc⟩ := h
  exact ⟨c, rest ++ more, rfl, hc⟩

/-- The code points of the characters between tokens. -/
def Reader.spaces : List Nat := [
  9, 10, 11, 12, 13, 0x20, 0x85, 0xA0, 0x1680, 0x2000, 0x2001, 0x2002, 0x2003, 0x2004, 0x2005,
  0x2006, 0x2007, 0x2008, 0x2009, 0x200A, 0x2028, 0x2029, 0x202F, 0x205F, 0x3000, 0xFEFF]

theorem Reader.toNat_mem_spaces {c : Char} (h : isSpace c = true) : c.toNat ∈ spaces := by
  simp only [isSpace, isLineEnd, isBlank, Bool.or_eq_true, beq_iff_eq, Bool.and_eq_true,
    decide_eq_true_eq] at h
  simp only [spaces, List.mem_cons, List.not_mem_nil, or_false]
  rcases h with ((((rfl | rfl) | h) | h) | h) | h
  · decide
  · decide
  all_goals omega

/-- A class of characters that has no space in it. -/
theorem Reader.isSpace_eq_false {p : Char → Bool}
    (hall : ∀ n ∈ spaces, p (Char.ofNat n) = false) {c : Char}
    (h : p c = true) : isSpace c = false := by
  rw [← Bool.not_eq_true]
  intro hs
  have hc := hall c.toNat (toNat_mem_spaces hs)
  rw [Char.ofNat_toNat, h] at hc
  exact Bool.noConfusion hc

theorem Reader.isSpace_eq_false_of_isIdentStart {c : Char} (h : isIdentStart c = true) :
    isSpace c = false :=
  isSpace_eq_false (by decide +kernel) h

/-- The text begins with a character that can be seen, and all its characters can stand in a
name. -/
structure IsName (cs : List Char) : Prop where
  visible : Visible cs
  parts : ∀ c ∈ cs, isIdentPart c = true

/-- The token can have been read from the text: a word is a name, what is printed as it was read
begins with a character that can be seen, and an opening brace is the first character. -/
def Token.Fits (text : List Char) : Token → Prop
  | .word w => IsName w.text.toList
  | .number raw | .bigint raw | .string _ raw => Visible raw.toList
  | .mark .leftBrace => text.head? = some '{'
  | _ => True

/-- The token fits wherever it stands. -/
def Token.Shows (t : Token) : Prop := ∀ text, t.Fits text

/-! ### Numbers and strings -/

namespace Cursor

/-- `c'` is past the first character that `c` has left. -/
def Past (c c' : Cursor) : Prop := c.Leads c' ∧ c'.rest.length < c.rest.length

theorem Past.of_leads {a b c : Cursor} (h : a.Past b) (k : b.Leads c) : a.Past c :=
  ⟨h.1.trans k, Nat.lt_of_le_of_lt k.length_le h.2⟩

theorem past_advance {c : Cursor} (h : c.rest ≠ []) : c.Past c.advance := by
  refine ⟨c.leads_advance, ?_⟩
  cases hr : c.rest with
  | nil => exact absurd hr h
  | cons x rest => simp [advance, hr]

theorem Past.visible_upTo {c c' : Cursor} (h : c.Past c') (hv : Visible c.rest) :
    Visible (c.upTo c') := by
  obtain ⟨⟨taken, hr, -⟩, hlt⟩ := h
  obtain ⟨x, rest, hx, hs⟩ := hv
  rw [upTo_of_eq_append hr]
  cases taken with
  | nil =>
    rw [hr] at hlt
    exact absurd hlt (Nat.lt_irrefl _)
  | cons y ys =>
    rw [hx, List.cons_append, List.cons.injEq] at hr
    exact ⟨y, ys, rfl, hr.1 ▸ hs⟩

end Cursor

theorem Visible.ne_nil {cs : List Char} (h : Visible cs) : cs ≠ [] := by
  obtain ⟨c, rest, rfl, -⟩ := h
  exact List.cons_ne_nil c rest

namespace Reader

/-- Once past the first character of the token that starts at `c`, the step ends in a token that
shows it. -/
class Shows (c : Cursor) (m : Read Token) : Prop where
  shows : ∀ r t r', Visible c.rest → c.Past r.cursor → m r = .ok t r' → t.Shows

section

variable {c : Cursor}

theorem Shows.andThen {m : Read α} {f : α → Read Token} [Moves m]
    (hf : ∀ a, Shows c (f a)) : Shows c (m >>= f) := by
  refine ⟨fun r t r' hv hp h => ?_⟩
  obtain ⟨a, r₁, hm, hfa⟩ := bind_eq_ok.mp h
  exact (hf a).shows r₁ t r' hv (hp.of_leads (Moves.of_ok hm).cursor) hfa

theorem Shows.ite {p : Prop} [Decidable p] {m k : Read Token} (hm : Shows c m) (hk : Shows c k) :
    Shows c (if p then m else k) := by
  split
  · exact hm
  · exact hk

instance {m : Read α} {f : α → Read Token} [Moves m]
    [hf : ∀ a, Shows c (f a)] : Shows c (m >>= f) := .andThen hf

instance {p : Prop} [Decidable p] {m k : Read Token} [hm : Shows c m] [hk : Shows c k] :
    Shows c (if p then m else k) := .ite hm hk

theorem shows_textFrom {make : String → Token} (hmake : ∀ s, Visible s.toList → (make s).Shows) :
    Shows c (do return make (← textFrom c)) := by
  refine ⟨fun r t r' hv hp h => ?_⟩
  obtain ⟨a, r₁, hm, hfa⟩ := bind_eq_ok.mp h
  cases hfa
  cases hm
  refine hmake _ ?_
  rw [String.toList_ofList]
  exact hp.visible_upTo hv

instance : Shows c (do return .number (← textFrom c)) := shows_textFrom fun _ hv _ => hv

instance : Shows c (do return .bigint (← textFrom c)) := shows_textFrom fun _ hv _ => hv

instance (value : String) : Shows c (do return .string value (← textFrom c)) :=
  shows_textFrom fun _ hv _ => hv

end

theorem shows_radixNumber {radix : Nat} {r r' : Reader} {t : Token} (hv : Visible r.cursor.rest)
    (h : radixNumber radix r = .ok t r') : t.Shows := by
  unfold radixNumber at h
  obtain ⟨_, _, hget, h⟩ := bind_eq_ok.mp h
  cases hget
  obtain ⟨_, _, hadv, h⟩ := bind_eq_ok.mp h
  cases hadv
  have hp : r.cursor.Past (r.cursor.advanceBy 2) :=
    (Cursor.past_advance hv.ne_nil).of_leads (Cursor.leads_advanceBy _ 1)
  exact Shows.shows _ _ _ hv hp h

theorem shows_string {quote : Char} {r r' : Reader} {t : Token} (hv : Visible r.cursor.rest)
    (h : string quote r = .ok t r') : t.Shows := by
  unfold string at h
  obtain ⟨_, _, hget, h⟩ := bind_eq_ok.mp h
  cases hget
  obtain ⟨_, _, hadv, h⟩ := bind_eq_ok.mp h
  cases hadv
  exact Shows.shows _ _ _ hv (Cursor.past_advance hv.ne_nil) h

/-- Every digit that is given was taken from the text. -/
theorem length_digitRun {radix limit start fuel : Nat} {taken ds : List Char} {r r' : Reader}
    (h : digitRun radix limit start fuel taken r = .ok ds r') :
    ds.length + r'.cursor.rest.length ≤ taken.length + r.cursor.rest.length := by
  induction fuel generalizing taken r with
  | zero =>
    cases h
    simp
  | succ fuel ih =>
    unfold digitRun at h
    obtain ⟨c?, _, hcur, h⟩ := bind_eq_ok.mp h
    cases hcur
    cases hc : r.cursor.rest with
    | nil =>
      simp only [Cursor.current?, hc, List.head?_nil] at h
      cases h
      simp [hc]
    | cons c rest =>
      simp only [Cursor.current?, hc, List.head?_cons] at h
      have hadv : r.cursor.advance.rest = rest := by simp [Cursor.advance, hc]
      split at h
      · obtain ⟨_, _, hpeek, h⟩ := bind_eq_ok.mp h
        cases hpeek
        -- Whether a fault is noted or not, the separator is taken and the digits stay as they are.
        have hstep : ∀ r₁ : Reader, r₁.cursor = r.cursor →
            (do advance; digitRun radix limit start fuel taken) r₁ = .ok ds r' →
            ds.length + r'.cursor.rest.length ≤ taken.length + (rest.length + 1) := by
          intro r₁ hr₁ h
          obtain ⟨_, _, ha, h⟩ := bind_eq_ok.mp h
          cases ha
          have := ih h
          simp only [hr₁, hadv] at this
          omega
        split at h
        · obtain ⟨_, _, hn, h⟩ := bind_eq_ok.mp h
          cases hn
          exact hstep _ (by rfl) h
        · exact hstep r rfl h
      · split at h
        · cases h
          simp [hc]
        · obtain ⟨_, _, ha, h⟩ := bind_eq_ok.mp h
          cases ha
          split at h
          · cases h
            simp [hadv]
            omega
          · have := ih h
            simp only [hadv, List.length_cons] at this ⊢
            omega

theorem past_someDigits {radix : Nat} {ds : List Char} {r r' : Reader}
    (h : someDigits radix r = .ok ds r') :
    r.cursor.Past r'.cursor := by
  refine ⟨(Moves.of_ok h).cursor, ?_⟩
  unfold someDigits digits at h
  obtain ⟨_, _, hpos, h⟩ := bind_eq_ok.mp h
  cases hpos
  obtain ⟨ds', r₁, hds, h⟩ := bind_eq_ok.mp h
  obtain ⟨_, _, hpos, hds⟩ := bind_eq_ok.mp hds
  cases hpos
  obtain ⟨_, _, hbudget, hds⟩ := bind_eq_ok.mp hds
  cases hbudget
  have hle := length_digitRun hds
  dsimp only at h
  split at h
  · obtain ⟨_, _, hf, -⟩ := bind_eq_ok.mp h
    cases hf
  · rename_i hne
    cases h
    have : ds.length ≠ 0 := by simpa using hne
    simp only [List.length_nil] at hle
    omega

/-- The point that a number may begin with is taken before anything else. -/
theorem shows_numberEnd {c : Cursor} {r r' : Reader} {t : Token} (hv : Visible c.rest)
    (hp : c.Past r.cursor ∨ r.cursor = c ∧ c.current? = some '.') (h : numberEnd c r = .ok t r') :
    t.Shows := by
  unfold numberEnd at h
  obtain ⟨dotted, r₁, heat, h⟩ := bind_eq_ok.mp h
  have hp₁ : c.Past r₁.cursor := by
    rcases hp with hp | ⟨rfl, hdot⟩
    · exact hp.of_leads (Moves.of_ok heat).cursor
    · obtain ⟨_, _, hcur, heat⟩ := bind_eq_ok.mp heat
      cases hcur
      rw [if_pos hdot] at heat
      cases heat
      exact Cursor.past_advance hv.ne_nil
  refine (?_ : Shows c _).shows r₁ t r' hv hp₁ h
  refine .ite (.andThen fun _ => ?_) ?_
  all_goals
    refine .andThen fun _ => .andThen
      fun _ => .ite (.andThen fun _ => .andThen fun c? => ?_) inferInstance
    cases c? <;> infer_instance

instance (c : Cursor) : Shows c (numberEnd c) :=
  ⟨fun _ _ _ hv hp h => shows_numberEnd hv (.inl hp) h⟩

theorem shows_decimalNumber {r r' : Reader} {t : Token} (hv : Visible r.cursor.rest)
    (h : decimalNumber r = .ok t r') : t.Shows := by
  unfold decimalNumber at h
  obtain ⟨_, _, hget, h⟩ := bind_eq_ok.mp h
  cases hget
  obtain ⟨_, _, hcur, h⟩ := bind_eq_ok.mp h
  cases hcur
  dsimp only at h
  split at h
  · rename_i hdot
    exact shows_numberEnd hv (.inr ⟨rfl, hdot⟩) h
  · obtain ⟨_, _, hds, h⟩ := bind_eq_ok.mp h
    exact Shows.shows _ _ _ hv (past_someDigits hds) h

/-! ### Words -/

theorem fail_ne_ok {cause : Cause} {start : Nat} {k : α → Read β} {r r' : Reader} {b : β} :
    (fail cause start >>= k) r ≠ .ok b r' := by
  intro h
  obtain ⟨_, _, hf, -⟩ := bind_eq_ok.mp h
  cases hf

/-- An escape stands for one character; what no character has the number of stays as it is
written. -/
theorem unicodeEscape_eq_ok {cs : List Char} {r r' : Reader} (h : unicodeEscape r = .ok cs r') :
    (∃ c, cs = [c]) ∨ cs.head? = some '\\' := by
  unfold unicodeEscape at h
  obtain ⟨braced, _, -, h⟩ := bind_eq_ok.mp h
  obtain ⟨_, _, -, h⟩ := bind_eq_ok.mp h
  obtain ⟨ds, _, -, h⟩ := bind_eq_ok.mp h
  dsimp only at h
  split at h
  · obtain ⟨_, _, -, h⟩ := bind_eq_ok.mp h
    exact absurd h fail_ne_ok
  · split at h
    · obtain ⟨_, _, -, h⟩ := bind_eq_ok.mp h
      exact absurd h fail_ne_ok
    · obtain ⟨_, _, -, h⟩ := bind_eq_ok.mp h
      cases braced with
      | false =>
        cases h
        split <;> simp
      | true =>
        obtain ⟨closed, _, -, h⟩ := bind_eq_ok.mp h
        cases closed with
        | false => exact absurd h fail_ne_ok
        | true =>
          cases h
          split <;> simp

/-- A word ends, takes a character, or takes the characters of an escape; one that cannot stand
there is noted. -/
inductive WordStep (fuel : Nat) (taken : List Char) (escaped : Bool) (r : Reader)
    (out : List Char × Bool) (r' : Reader) : Prop
  | ends (hc : ∀ c, r.cursor.current? = some c → isIdentPart c = false ∧ c ≠ '\\')
      (h : out = (taken.reverse, escaped))
  | takes (c : Char) {r₁ : Reader} (hc : r.cursor.current? = some c) (hpart : isIdentPart c = true)
      (h : wordRun fuel (c :: taken) escaped r₁ = .ok out r')
  | escapes (first : Char) (chars : List Char) {r₁ : Reader}
      (hfits : r₁.faults ≠ [] ∨
        ((if taken.isEmpty then isIdentStart else isIdentPart) first = true ∧ chars = []))
      (h : wordRun fuel ((first :: chars).reverse ++ taken) true r₁ = .ok out r')

theorem wordStep {fuel : Nat} {taken : List Char} {escaped : Bool} {r r' : Reader}
    {out : List Char × Bool} (h : wordRun (fuel + 1) taken escaped r = .ok out r') :
    WordStep fuel taken escaped r out r' := by
  unfold wordRun at h
  rw [bind_eq_ok] at h
  obtain ⟨c?, _, hcur, h⟩ := h
  cases hcur
  cases hc : r.cursor.current? with
  | none =>
    simp only [hc] at h
    cases h
    exact .ends (by simp [hc]) rfl
  | some c =>
    simp only [hc] at h
    split at h
    · rw [bind_eq_ok] at h
      obtain ⟨_, _, -, h⟩ := h
      rename_i hpart _ _
      exact .takes c hc hpart h
    · rename_i hpart
      split at h
      · rw [bind_eq_ok] at h
        obtain ⟨start, _, -, h⟩ := h
        rw [bind_eq_ok] at h
        obtain ⟨_, _, -, h⟩ := h
        rw [bind_eq_ok] at h
        obtain ⟨isEscape, _, -, h⟩ := h
        cases isEscape with
        | false =>
          rw [if_pos (by decide), bind_eq_ok] at h
          obtain ⟨_, _, hthrow, -⟩ := h
          cases hthrow
        | true =>
          rw [if_neg (by decide), bind_eq_ok] at h
          obtain ⟨chars, r₁, hchars, h⟩ := h
          have hescape := unicodeEscape_eq_ok hchars
          cases hcs : chars with
          | nil => simp [hcs] at hescape
          | cons first rest =>
            simp only [hcs, List.head?_cons] at h
            by_cases hfits : (if taken.isEmpty then isIdentStart else isIdentPart) first = true
            · rw [if_neg (by rw [hfits]; decide)] at h
              refine .escapes first rest (.inr ⟨hfits, ?_⟩) h
              rcases hescape with ⟨c', hc'⟩ | hback
              · exact (List.cons.inj (hcs.symm.trans hc')).2
              · obtain rfl : first = '\\' := by simpa [hcs] using hback
                split at hfits <;> exact absurd hfits (by decide)
            · rw [if_pos (by rw [Bool.not_eq_true] at hfits; rw [hfits]; rfl), bind_eq_ok] at h
              obtain ⟨_, r₂, hnote, h⟩ := h
              refine .escapes first rest (.inl ?_) h
              cases hnote
              exact List.cons_ne_nil _ _
      · rename_i hback
        cases h
        refine .ends (fun c' hc' => ?_) rfl
        rw [hc, Option.some.injEq] at hc'
        subst hc'
        exact ⟨by simpa using hpart, by simpa using hback⟩

theorem wordRun_append {fuel : Nat} {taken : List Char} {escaped : Bool} {r r' : Reader}
    {out : List Char × Bool} (h : wordRun fuel taken escaped r = .ok out r') :
    ∃ more, out.1 = taken.reverse ++ more := by
  induction fuel generalizing taken escaped r with
  | zero =>
    cases h
    exact ⟨[], by simp⟩
  | succ fuel ih =>
    cases wordStep h with
    | ends _ h => exact ⟨[], by simp [h]⟩
    | takes c _ _ h =>
      obtain ⟨more, hm⟩ := ih h
      exact ⟨c :: more, by simp [hm]⟩
    | escapes first chars _ h =>
      obtain ⟨more, hm⟩ := ih h
      exact ⟨first :: chars ++ more, by simp [hm]⟩

theorem isIdentPart_of_isIdentStart {c : Char} (h : isIdentStart c = true) :
    isIdentPart c = true := by
  unfold isIdentStart at h
  unfold isIdentPart
  split at h
  · rename_i hlt
    rw [if_pos hlt, Char.isAlphanum]
    simp only [Bool.or_eq_true] at h ⊢
    exact h.imp_left (.imp_left .inl)
  · rename_i hlt
    rw [if_neg hlt, h, Bool.true_or]

/-- All that a word takes can stand in a name, unless a fault is left. -/
theorem parts_wordRun {fuel : Nat} {taken : List Char} {escaped : Bool} {r r' : Reader}
    {out : List Char × Bool} (htaken : ∀ c ∈ taken, isIdentPart c = true)
    (h : wordRun fuel taken escaped r = .ok out r') :
    r'.faults ≠ [] ∨ ∀ c ∈ out.1, isIdentPart c = true := by
  induction fuel generalizing taken escaped r with
  | zero =>
    cases h
    exact .inr fun c hc => htaken c (List.mem_reverse.mp hc)
  | succ fuel ih =>
    cases wordStep h with
    | ends _ h =>
      subst h
      exact .inr fun c hc => htaken c (List.mem_reverse.mp hc)
    | takes c _ hpart h => exact ih (List.forall_mem_cons.mpr ⟨hpart, htaken⟩) h
    | escapes first chars hfits h =>
      rcases hfits with hflawed | ⟨hfits, rfl⟩
      · exact .inl ((Moves.of_ok h).flawed hflawed)
      · refine ih (List.forall_mem_cons.mpr ⟨?_, htaken⟩) h
        split at hfits
        · exact isIdentPart_of_isIdentStart hfits
        · exact hfits

theorem visible_wordRun {fuel : Nat} {c : Char} {r r' : Reader} {out : List Char × Bool}
    (hc : r.cursor.current? = some c) (hs : isIdentStart c = true ∨ c = '\\')
    (h : wordRun (fuel + 1) [] false r = .ok out r') : r'.faults ≠ [] ∨ Visible out.1 := by
  cases wordStep h with
  | ends hend _ =>
    obtain ⟨hpart, hback⟩ := hend c hc
    rcases hs with hs | rfl
    · rw [isIdentPart_of_isIdentStart hs] at hpart
      exact Bool.noConfusion hpart
    · exact absurd rfl hback
  | takes _ hc' _ h =>
    rw [hc, Option.some.injEq] at hc'
    subst hc'
    obtain ⟨more, hm⟩ := wordRun_append h
    refine .inr ⟨c, more, hm, ?_⟩
    rcases hs with hs | rfl
    · exact isSpace_eq_false_of_isIdentStart hs
    · decide
  | escapes first chars hfits h =>
    rcases hfits with hflawed | ⟨hstart, -⟩
    · exact .inl ((Moves.of_ok h).flawed hflawed)
    · obtain ⟨more, hm⟩ := wordRun_append h
      rw [List.append_nil, List.reverse_reverse] at hm
      exact .inr ⟨first, chars ++ more, hm, isSpace_eq_false_of_isIdentStart hstart⟩

end Reader

theorem Keyword.text_of_ofString? {s : String} {k : Keyword} (h : Keyword.ofString? s = some k) :
    k.text = s := by
  have htable : ∀ p ∈ Keyword.table, p.1.text = p.2 := by decide +kernel
  unfold ofString? at h
  rw [Option.map_eq_some_iff] at h
  obtain ⟨p, hp, rfl⟩ := h
  have hs := List.find?_some hp
  rw [htable p (List.mem_of_find?_eq_some hp)]
  exact eq_of_beq hs

theorem Word.text_ofString (s : String) : (Word.ofString s).text = s := by
  unfold ofString
  split
  · subst s
    rfl
  · split
    · subst s
      rfl
    · split
      · subst s
        rfl
      · split
        · rename_i k hk
          exact Keyword.text_of_ofString? hk
        · rfl

namespace Reader

theorem shows_word {isReserved : Word → Bool} {c : Char} {r r' : Reader} {t : Token}
    (hc : r.cursor.current? = some c) (hs : isIdentStart c = true ∨ c = '\\')
    (h : word isReserved r = .ok t r') : r'.faults ≠ [] ∨ t.Shows := by
  unfold word at h
  rw [bind_eq_ok] at h
  obtain ⟨_, _, hpos, h⟩ := h
  cases hpos
  rw [bind_eq_ok] at h
  obtain ⟨_, _, hbudget, h⟩ := h
  cases hbudget
  rw [bind_eq_ok] at h
  obtain ⟨⟨text, escaped⟩, r₁, hrun, h⟩ := h
  dsimp only at h
  split at h
  · exact absurd h fail_ne_ok
  · cases h
    rcases visible_wordRun hc hs hrun with hf | hv
    · exact .inl hf
    · refine (parts_wordRun (by simp) hrun).imp_right fun hparts _ => ?_
      change IsName (Word.ofString (String.ofList text)).text.toList
      rw [Word.text_ofString, String.toList_ofList]
      exact ⟨hv, hparts⟩

/-! ### Marks and whole tokens -/

/-- Marks and operators other than the opening brace. -/
def isPlain : Token → Bool
  | .mark m => m ≠ .leftBrace
  | .operator _ | .assign _ => true
  | _ => false

theorem fits_of_isPlain {t : Token} (h : isPlain t = true) : t.Shows := by
  intro text
  unfold Token.Fits
  split <;> simp_all [isPlain]

theorem fits_spelling {cs : List Char} {text : String} {t : Token}
    (h : spelling? cs = some (text, t)) : t.Fits cs := by
  have hall : ∀ s ∈ spellings, s = ("\x7b", .mark .leftBrace) ∨ isPlain s.2 = true := by
    decide +kernel
  have hpre := List.find?_some h
  rcases hall _ (List.mem_of_find?_eq_some h) with hs | hplain
  · rw [Prod.mk.injEq] at hs
    obtain ⟨rfl, rfl⟩ := hs
    obtain ⟨rest, rfl⟩ := List.isPrefixOf_iff_prefix.mp hpre
    rfl
  · exact fits_of_isPlain hplain cs

/-- A token that is read from `r` by the step fits the text there, unless a fault is left. -/
def Reads (r : Reader) (m : Read (Option Token)) : Prop :=
  ∀ t r', m r = .ok (some t) r' → r'.faults ≠ [] ∨ t.Fits r.cursor.rest

theorem reads_some {r : Reader} {m : Read Token}
    (h : ∀ t r', m r = .ok t r' → r'.faults ≠ [] ∨ t.Fits r.cursor.rest) :
    Reads r (do return some (← m)) := by
  intro t r' hm
  obtain ⟨t', r₁, ht, hp⟩ := bind_eq_ok.mp hm
  cases hp
  exact h t r' ht

/-- No later step forgets a fault that was noted. -/
theorem flawed_of_note {cause : Cause} {start : Nat} {f : Unit → Read α} [hf : ∀ u, Moves (f u)]
    {r r' : Reader} {a : α} (h : (note cause start >>= f) r = .ok a r') : r'.faults ≠ [] := by
  obtain ⟨u, r₁, hn, hfa⟩ := bind_eq_ok.mp h
  cases hn
  exact (Moves.of_ok hfa).flawed (List.cons_ne_nil _ _)

theorem reads_token (isReserved : Word → Bool) (fuel : Nat) (r : Reader) :
    Reads r (token isReserved fuel) := by
  cases fuel with
  | zero =>
    intro t r' h
    cases h
  | succ fuel =>
    unfold token
    change Reads r (match r.cursor.rest with | [] => _ | c :: rest => _)
    split
    · intro t r' h
      cases h
    · rename_i c rest hr
      have visible (hc : isSpace c = false) : Visible r.cursor.rest := ⟨c, rest, hr, hc⟩
      split
      · rename_i hstart
        have hcur : r.cursor.current? = some c := by simp [Cursor.current?, hr]
        exact reads_some fun t r' h => (shows_word hcur (by simpa using hstart) h).imp_right
          fun ht => ht _
      split
      · rename_i hzero
        have hv := visible (beq_iff_eq.mp hzero ▸ by decide)
        split
        all_goals first
          | exact reads_some fun t r' h => .inr (shows_radixNumber hv h _)
          | exact reads_some fun t r' h => .inr (shows_decimalNumber hv h _)
      split
      · rename_i hdigit
        have hs : isSpace c = false := by
          rw [Bool.or_eq_true, Bool.and_eq_true, beq_iff_eq] at hdigit
          rcases hdigit with hd | ⟨rfl, -⟩
          · exact isSpace_eq_false (by decide +kernel) hd
          · decide
        exact reads_some fun t r' h => .inr (shows_decimalNumber (visible hs) h _)
      split
      · rename_i hquote
        have hs : isSpace c = false := by
          rw [Bool.or_eq_true, beq_iff_eq, beq_iff_eq] at hquote
          rcases hquote with rfl | rfl <;> decide
        exact reads_some fun t r' h => .inr (shows_string (visible hs) h _)
      split
      · intro t r' h
        obtain ⟨_, _, -, h⟩ := bind_eq_ok.mp h
        obtain ⟨_, _, -, h⟩ := bind_eq_ok.mp h
        obtain ⟨_, _, -, h⟩ := bind_eq_ok.mp h
        obtain ⟨_, _, -, h⟩ := bind_eq_ok.mp h
        exact .inl (flawed_of_note h)
      split
      · exact fun t r' h => .inl (flawed_of_note h)
      split
      · rename_i text t' hspell
        intro t r' h
        obtain ⟨_, _, -, h⟩ := bind_eq_ok.mp h
        cases h
        exact .inr (fits_spelling hspell)
      · intro t r' h
        obtain ⟨_, _, -, h⟩ := bind_eq_ok.mp h
        cases h

/-! ### The next token -/

/-- Whatever token the step gives, it fits. -/
class Fitting (m : Read Token) : Prop where
  shows : ∀ r t r', m r = .ok t r' → t.Shows

theorem fitting_pure {t : Token} (h : t.Shows) : Fitting (pure t) :=
  ⟨fun _ _ _ ht => by cases ht; exact h⟩

theorem Fitting.andThen {m : Read α} {f : α → Read Token}
    (hf : ∀ a, Fitting (f a)) : Fitting (m >>= f) := by
  refine ⟨fun r t r' h => ?_⟩
  obtain ⟨a, r₁, -, hfa⟩ := bind_eq_ok.mp h
  exact (hf a).shows r₁ t r' hfa

instance {m : Read α} {f : α → Read Token} [hf : ∀ a, Fitting (f a)] : Fitting (m >>= f) :=
  .andThen hf

instance {p : Prop} [Decidable p] {m k : Read Token} [hm : Fitting m] [hk : Fitting k] :
    Fitting (if p then m else k) := by
  split
  · exact hm
  · exact hk

instance (body flags : String) : Fitting (pure (.regex body flags)) := fitting_pure fun _ => trivial

instance (raw : String) (bad : Option Fault) : Fitting (pure (.template raw bad)) :=
  fitting_pure fun _ => trivial

instance : Fitting (pure (.mark .backquote)) := fitting_pure fun _ => trivial

instance : Fitting (pure (.mark .dollarBrace)) := fitting_pure fun _ => trivial

instance : Fitting regex := by
  unfold regex
  refine .andThen fun _ => .andThen fun _ => .andThen fun _ => .andThen fun _ => .andThen
    fun _ => .andThen fun _ => .andThen fun _ => .andThen fun c? => ?_
  cases c? <;> infer_instance

instance : Fitting templateToken := by
  unfold templateToken
  refine .andThen fun r => ?_
  dsimp only
  split <;> infer_instance

theorem reads_fitting {r : Reader} {m : Read Token} [hm : Fitting m] :
    Reads r (do return some (← m)) :=
  reads_some fun t r' h => .inr (hm.shows r t r' h _)

instance (isReserved : Word → Bool) : Moves (tokenHere isReserved) := by
  unfold tokenHere
  refine .andThen fun r => .ite inferInstance (.ite ?_ inferInstance)
  refine .andThen fun _ => .getThen fun s => ?_
  exact onward_bind (m := modify _) ⟨s.cursor.leads_advanceBy _, rfl, id⟩ inferInstance

theorem reads_tokenHere (isReserved : Word → Bool) (r : Reader) :
    Reads r (tokenHere isReserved) := by
  unfold tokenHere
  change Reads r (if r.regexFrom.isSome then _ else _)
  split
  · exact reads_fitting
  split
  · intro t r' h
    obtain ⟨_, _, -, h⟩ := bind_eq_ok.mp h
    obtain ⟨_, _, -, h⟩ := bind_eq_ok.mp h
    obtain ⟨_, _, -, h⟩ := bind_eq_ok.mp h
    obtain ⟨_, _, -, h⟩ := bind_eq_ok.mp h
    cases h
    exact .inr trivial
  split
  · intro t r' h
    cases h
  split
  · exact reads_fitting
  · exact reads_token isReserved _ r

/-- Every place that the reader holds on to lies in the text. -/
structure Sound (text : List Char) (r : Reader) : Prop where
  cursor : r.cursor.At text
  regexFrom : ∀ c, r.regexFrom = some c → c.At text

theorem Sound.of_onward {text : List Char} {r r' : Reader} (h : Sound text r) (ho : Onward r r') :
    Sound text r' :=
  ⟨h.cursor.of_leads ho.cursor, fun c hc => h.regexFrom c (ho.regexFrom ▸ hc)⟩

theorem finish_eq_reached (step : Read Unit) (r : Reader) : finish step r = reached (step r) := by
  unfold finish
  cases step r <;> rfl

theorem approach_of_some {r : Reader} {slash : Cursor} (h : r.regexFrom = some slash) :
    approach r = .ok () { r with cursor := slash } := by
  cases r
  cases h
  rfl

theorem approach_of_none {r : Reader} (h : r.regexFrom = none) : approach r = (do
    if (← get).atShebang then return
    modify fun r => { r with lineBefore := r.atStart, atStart := false }
    if (← get).enclosures.head? ≠ some .template then skipBlanks (← budget) : Read Unit) r := by
  cases r
  cases h
  rfl

/-- The next token starts further on, or at the slash that the grammar wants read again. -/
theorem Sound.approach {text : List Char} {r : Reader} (h : Sound text r) :
    Sound text (reached (Reader.approach r)) ∧
      (r.faults ≠ [] → (reached (Reader.approach r)).faults ≠ []) := by
  have hmodify :
      Moves (modify fun r => { r with lineBefore := r.atStart, atStart := false } : Read Unit) :=
    moves_modify fun r => ⟨.refl _, rfl, id⟩
  cases hr : r.regexFrom with
  | some slash =>
    rw [approach_of_some hr]
    exact ⟨⟨h.regexFrom slash hr, h.regexFrom⟩, id⟩
  | none =>
    have ho : Onward r (reached (Reader.approach r)) := by
      rw [approach_of_none hr]
      exact Moves.onward r
    exact ⟨h.of_onward ho, ho.flawed⟩

end Reader

/-- The token stands in the text where it says. -/
structure Lexeme.Stands (text : List Char) (l : Lexeme) : Prop where
  start : Cursor.At text ⟨l.text, l.span.start⟩
  stop : IsBoundary text l.span.stop

namespace Reader

/-- The next token stands in the text and fits it, unless a fault is left; the reader stays in the
text. -/
theorem Sound.next {text : List Char} {r : Reader} (isReserved : Word → Bool) (h : Sound text r) :
    Sound text (r.next isReserved).2 ∧ (r.faults ≠ [] → (r.next isReserved).2.faults ≠ []) ∧
      ∀ l, (r.next isReserved).1 = some l →
        l.Stands text ∧ ((r.next isReserved).2.faults ≠ [] ∨ l.token.Fits l.text) := by
  obtain ⟨hs, hf⟩ := h.approach
  unfold Reader.next
  rw [finish_eq_reached]
  generalize reached (Reader.approach r) = r₀ at hs hf
  have ho := Moves.onward (m := tokenHere isReserved) r₀
  have hr := reads_tokenHere isReserved r₀
  dsimp only
  cases ht : tokenHere isReserved r₀ with
  | ok found r' =>
    rw [ht] at ho
    have hs' := hs.of_onward ho
    cases found with
    | none =>
      refine ⟨⟨hs'.cursor, hs'.regexFrom⟩, ho.flawed ∘ hf, fun l hl => ?_⟩
      cases hl
    | some t =>
      refine ⟨⟨hs'.cursor, hs'.regexFrom⟩, ho.flawed ∘ hf, fun l hl => ?_⟩
      cases hl
      exact ⟨⟨hs.cursor, hs'.cursor.isBoundary⟩, hr t r' ht⟩
  | error fault r' =>
    rw [ht] at ho
    have hs' := hs.of_onward ho
    refine ⟨⟨hs'.cursor, hs'.regexFrom⟩, ho.flawed ∘ hf, fun l hl => ?_⟩
    cases hl
    exact ⟨⟨hs.cursor, hs'.cursor.isBoundary⟩, .inr trivial⟩

end Reader

end Playground.Script
