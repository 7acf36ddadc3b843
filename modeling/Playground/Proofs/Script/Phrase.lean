import Playground.Proofs.Script.Template

/-! Phrases of a script: calls, templates, and objects of texts and numbers. Each lemma goes from
what the text after a phrase says to what the text with the phrase says. -/

namespace Playground.Script

open Text Reader Json

/-- A name that is no word of the grammar. -/
def isPlainName (s : String) : Bool :=
  (s.toList.head?.map isIdentStart).getD false && s.toList.all isIdentPart &&
    Word.ofString s == .name s && s != "of"

theorem isIdent_of_isPlainName {s : String} (h : isPlainName s = true) : IsIdent s.toList := by
  simp only [isPlainName, Bool.and_eq_true, List.all_eq_true] at h
  obtain ⟨⟨⟨hhead, hparts⟩, -⟩, -⟩ := h
  refine ⟨?_, hparts⟩
  cases htext : s.toList with
  | nil =>
    rw [htext] at hhead
    cases hhead
  | cons c cs =>
    rw [htext] at hhead
    exact ⟨c, cs, rfl, hhead⟩

theorem after_name {s : String} (h : s ≠ "of") (m : Mode) (lineBefore : Bool) :
    m.after lineBefore (.word (.name s)) = ⟨m.enclosures, false, some (.word (.name s))⟩ := by
  have hafter (r : Reader) : r.after (.word (.name s)) = (r.enclosures, false) := by
    delta Reader.after
    change (if (false && decide (r.last = some (.mark .dot))) = true then _ else _) = _
    rw [if_neg (by simp)]
    generalize ht : Token.word (Word.name s) = t
    split
    all_goals try cases ht
    · exact absurd rfl h
    · rfl
    · rfl
  rw [Mode.after, hafter]

theorem endsWord_cons {c : Char} (h : isIdentPart c = false ∧ c ≠ '\\') (cs : List Char) :
    EndsWord (c :: cs) := by
  rintro d ⟨⟩
  exact h

theorem forall_mem_space : ∀ c ∈ [' '], isSpace c = true := List.all_eq_true.mp (by decide)

section

variable {isReserved : Word → Bool} {m' : Mode} {enclosures : List Enclosure} {operandNext : Bool}
  {last : Option Token} {rest : List Char} {meanings : List Meaning}
  (hm : enclosures.head? ≠ some .template)

/-! ### Single tokens -/

include hm

theorem Says.mark (space : List Char) {c : Char} {mark : Mark}
    (h : Says isReserved m' rest meanings) (hspace : ∀ c ∈ space, isSpace c = true)
    (hc : (c, mark) ∈ plainMarks)
    (hafter : Mode.after ⟨enclosures, operandNext, last⟩ (space.any Reader.isLineEnd)
      (.mark mark) = m') :
    Says isReserved ⟨enclosures, operandNext, last⟩ (space ++ c :: rest)
      (.code (.mark mark) (space.any Reader.isLineEnd) :: meanings) := by
  subst hafter
  exact Says.token h hm hspace (spells_mark hc rest)

theorem Says.name (space : List Char) (s : String)
    (h : Says isReserved ⟨enclosures, false, some (.word (.name s))⟩ rest meanings)
    (hspace : ∀ c ∈ space, isSpace c = true) (hs : isPlainName s = true) (hrest : EndsWord rest) :
    Says isReserved ⟨enclosures, operandNext, last⟩ (space ++ (s.toList ++ rest))
      (.code (.word (.name s)) (space.any Reader.isLineEnd) :: meanings) := by
  have hspell := spells_word (isIdent_of_isPlainName hs) hrest
  simp only [isPlainName, Bool.and_eq_true, beq_iff_eq, bne_iff_ne] at hs
  obtain ⟨⟨-, hword⟩, hof⟩ := hs
  rw [String.ofList_toList, hword] at hspell
  refine Says.token ?_ hm hspace hspell
  rw [after_name hof]
  exact h

theorem Says.null (space : List Char)
    (h : Says isReserved ⟨enclosures, false, some (.word .null)⟩ rest meanings)
    (hspace : ∀ c ∈ space, isSpace c = true) (hrest : EndsWord rest) :
    Says isReserved ⟨enclosures, operandNext, last⟩ (space ++ ("null".toList ++ rest))
      (.code (.word .null) (space.any Reader.isLineEnd) :: meanings) := by
  have hident : IsIdent "null".toList :=
    ⟨⟨'n', "ull".toList, by decide, by decide +kernel⟩, List.all_eq_true.mp (by decide +kernel)⟩
  have hspell := spells_word hident hrest
  rw [String.ofList_toList, show Word.ofString "null" = .null from rfl] at hspell
  exact Says.token h hm hspace hspell

theorem Says.string {s : String}
    (h : Says isReserved ⟨enclosures, false, some (.string s (String.ofList (quote s)))⟩
      rest meanings) :
    Says isReserved ⟨enclosures, operandNext, last⟩ (quote s ++ rest) (.string s :: meanings) :=
  Says.token h hm (List.forall_mem_nil _) (spells_quote s rest)

theorem Says.number (space : List Char) (n : Nat)
    (h : Says isReserved ⟨enclosures, false, some (.number (String.ofList (Nat.toDigits 10 n)))⟩
      rest meanings)
    (hspace : ∀ c ∈ space, isSpace c = true) (hrest : EndsDigits rest) :
    Says isReserved ⟨enclosures, operandNext, last⟩ (space ++ (Nat.toDigits 10 n ++ rest))
      (.number (n, 1) :: meanings) := by
  have hvalue (startsLine : Bool) :
      Token.meaning (.number (String.ofList (Nat.toDigits 10 n))) startsLine = .number (n, 1) := by
    rw [Token.meaning, String.toList_ofList, numberQuotient_toDigits]
  rw [← hvalue (space.any Reader.isLineEnd)]
  exact Says.token h hm hspace (spells_number n hrest)

theorem Says.dot (s : String)
    (h : Says isReserved ⟨enclosures, false, some (.mark .dot)⟩ (s.toList ++ rest) meanings)
    (hs : isPlainName s = true) :
    Says isReserved ⟨enclosures, operandNext, last⟩ ('.' :: (s.toList ++ rest))
      (.code (.mark .dot) false :: meanings) := by
  obtain ⟨c, cs, hcs, hc⟩ := (isIdent_of_isPlainName hs).head
  rw [hcs] at h ⊢
  exact Says.token h hm (List.forall_mem_nil _) (spells_dot hc (cs ++ rest))

/-! ### Calls -/

/-- A call of an object's method, up to the bracket in front of its arguments. -/
def callText (object method : String) (arguments : List Char) : List Char :=
  object.toList ++ '.' :: (method.toList ++ '(' :: arguments)

def callMeaning (startsLine : Bool) (object method : String) (arguments : List Meaning) :
    List Meaning :=
  .code (.word (.name object)) startsLine :: .code (.mark .dot) false ::
    .code (.word (.name method)) false :: .code (.mark .leftParen) false :: arguments

theorem Says.call (space : List Char) (object method : String)
    (h : Says isReserved ⟨.parenExpression :: enclosures, true,
      some (.mark .leftParen)⟩ rest meanings)
    (hspace : ∀ c ∈ space, isSpace c = true) (hobject : isPlainName object = true)
    (hmethod : isPlainName method = true) :
    Says isReserved ⟨enclosures, operandNext, last⟩ (space ++ callText object method rest)
      (callMeaning (space.any Reader.isLineEnd) object method meanings) := by
  have hopen : Says isReserved ⟨enclosures, false, some (.word (.name method))⟩ ('(' :: rest)
      (.code (.mark .leftParen) false :: meanings) :=
    Says.mark hm [] h (List.forall_mem_nil _) (by decide) rfl
  have hmethod' : Says isReserved ⟨enclosures, false, some (.mark .dot)⟩
      (method.toList ++ '(' :: rest)
      (.code (.word (.name method)) false :: .code (.mark .leftParen) false :: meanings) :=
    Says.name hm [] method hopen (List.forall_mem_nil _) hmethod
      (endsWord_cons (by decide +kernel) rest)
  have hdot : Says isReserved ⟨enclosures, false, some (.word (.name object))⟩
      ('.' :: (method.toList ++ '(' :: rest)) (.code (.mark .dot) false :: _) :=
    Says.dot hm method hmethod' hmethod
  exact Says.name hm space object hdot hspace hobject (endsWord_cons (by decide +kernel) _)

omit hm in
/-- The bracket behind the arguments of a call. -/
theorem Says.closeCall {top : Enclosure}
    (h : Says isReserved ⟨top :: enclosures, false, some (.mark .rightParen)⟩ rest meanings) :
    Says isReserved ⟨.parenExpression :: top :: enclosures, operandNext, last⟩ (')' :: rest)
      (.code (.mark .rightParen) false :: meanings) :=
  Says.mark (by simp) [] h (List.forall_mem_nil _) (by decide) (by cases top <;> rfl)

end

/-! ### Templates -/

section

variable {isReserved : Word → Bool} {enclosures : List Enclosure} {operandNext : Bool}
  {last : Option Token} {rest : List Char} {meanings : List Meaning} {raw : String}
  {bad : Option Fault}

theorem Says.openTemplate (h :
    Says isReserved ⟨.template :: enclosures, false, some (.mark .backquote)⟩ rest meanings)
    (hm : enclosures.head? ≠ some .template) :
    Says isReserved ⟨enclosures, operandNext, last⟩ ('`' :: rest)
      (.code (.mark .backquote) false :: meanings) :=
  h.step (takes_openTemplate hm rest)

theorem Says.text {cs : List Char} {s : String}
    (h : Says isReserved ⟨.template :: enclosures, false,
      some (.template (String.ofList (escapeTemplate cs)) none)⟩
      rest meanings)
    (hlast : ∀ raw bad, last ≠ some (.template raw bad)) (hrest : EndsText rest)
    (hs : String.ofList (lineFeeds cs) = s) :
    Says isReserved ⟨.template :: enclosures, operandNext, last⟩ (escapeTemplate cs ++ rest)
      (.template (some s) :: meanings) := by
  subst hs
  exact h.step (takes_text cs hlast hrest)

theorem Says.closeTemplate (h :
    Says isReserved ⟨enclosures, false, some (.mark .backquote)⟩ rest meanings) :
    Says isReserved ⟨.template :: enclosures, operandNext, some (.template raw bad)⟩ ('`' :: rest)
      (.code (.mark .backquote) false :: meanings) :=
  h.step (takes_closeTemplate rest)

theorem Says.openHole
    (h : Says isReserved ⟨.templateHole :: .template :: enclosures, true, some (.mark .dollarBrace)⟩
      rest meanings) :
    Says isReserved ⟨.template :: enclosures, operandNext, some (.template raw bad)⟩
      ('$' :: '{' :: rest) (.code (.mark .dollarBrace) false :: meanings) := by
  refine h.step (takes_inTemplate (.mark .dollarBrace) rfl (List.cons_ne_nil _ _)
    fun r p hr hline => ?_)
  obtain ⟨p', hread⟩ := templateToken_dollarBrace hr rest p
  rw [hread]
  exact ⟨false, p', by rw [← hline], rfl, rfl⟩

theorem Says.closeHole (h :
    Says isReserved ⟨.template :: enclosures, false, some (.mark .rightBrace)⟩ rest meanings) :
    Says isReserved ⟨.templateHole :: .template :: enclosures, operandNext, last⟩ ('}' :: rest)
      (.code (.mark .rightBrace) false :: meanings) :=
  Says.mark (by simp) [] h (List.forall_mem_nil _) (by decide) rfl

end

/-! ### Objects -/

/-- A text or a number, as the value of a member. -/
inductive Leaf
  | text (s : String)
  | number (n : Nat)

def Leaf.json : Leaf → Json
  | .text s => .string s
  | .number n => .integer n

def Leaf.meaning : Leaf → Meaning
  | .text s => .string s
  | .number n => .number (n, 1)

def memberMeanings : List (String × Leaf) → List Meaning
  | [] => []
  | [(k, v)] => [.string k, .code (.mark .colon) false, v.meaning]
  | (k, v) :: m :: ms =>
    .string k :: .code (.mark .colon) false :: v.meaning :: .code (.mark .comma) false ::
      memberMeanings (m :: ms)

section

variable {isReserved : Word → Bool} {enclosures : List Enclosure} {operandNext : Bool}
  {last : Option Token} {rest : List Char} {meanings : List Meaning}

theorem endsDigits_cons {c : Char} (h : c = ',' ∨ c = '}') (cs : List Char) :
    EndsDigits (c :: cs) := by
  rintro d ⟨⟩
  rcases h with rfl | rfl
  all_goals decide +kernel

theorem Says.leaf {c : Char} {cs : List Char} (hm : enclosures.head? ≠ some .template) (v : Leaf)
    (h : ∀ last, Says isReserved ⟨enclosures, false, last⟩ (c :: cs) meanings)
    (hc : c = ',' ∨ c = '}') :
    Says isReserved ⟨enclosures, operandNext, last⟩ (v.json.chars ++ c :: cs)
      (v.meaning :: meanings) := by
  cases v with
  | text s =>
    rw [Leaf.json, Json.chars]
    exact Says.string hm (h _)
  | number n =>
    rw [Leaf.json, Json.chars, toList_toString_of_nonneg (Int.natCast_nonneg n), Int.toNat_natCast]
    exact Says.number hm [] n (h _) (List.forall_mem_nil _) (endsDigits_cons hc cs)

theorem Says.entry {c : Char} {cs : List Char} (hm : enclosures.head? ≠ some .template)
    (k : String) (v : Leaf)
    (h : ∀ last, Says isReserved ⟨enclosures, false, last⟩ (c :: cs) meanings)
    (hc : c = ',' ∨ c = '}') :
    Says isReserved ⟨enclosures, operandNext, last⟩ (quote k ++ ':' :: (v.json.chars ++ c :: cs))
      (.string k :: .code (.mark .colon) false :: v.meaning :: meanings) :=
  Says.string hm (Says.mark hm [] (Says.leaf hm v h hc) (List.forall_mem_nil _) (by decide) rfl)

theorem Says.members (hm : enclosures.head? ≠ some .template)
    (h : ∀ last, Says isReserved ⟨enclosures, false, last⟩ ('}' :: rest) meanings)
    (m : String × Leaf) (ms : List (String × Leaf)) :
    Says isReserved ⟨enclosures, operandNext, last⟩
      (memberChars ((m :: ms).map fun m => (m.1, m.2.json)) ++ '}' :: rest)
      (memberMeanings (m :: ms) ++ meanings) := by
  induction ms generalizing m operandNext last with
  | nil =>
    rw [List.map_singleton, memberChars, List.append_assoc, List.cons_append]
    exact Says.entry hm m.1 m.2 h (.inr rfl)
  | cons m' ms ih =>
    simp only [List.map_cons, memberChars, List.append_assoc, List.cons_append]
    exact Says.entry hm m.1 m.2 (fun last => Says.mark hm [] (ih m') (List.forall_mem_nil _)
      (by decide) rfl) (.inl rfl)

/-- An object among the arguments of a call. -/
theorem Says.object (m : String × Leaf) (ms : List (String × Leaf))
    (h : Says isReserved ⟨.parenExpression :: enclosures, false, some (.mark .rightBrace)⟩
      rest meanings) :
    Says isReserved ⟨.parenExpression :: enclosures, true, some (.mark .comma)⟩
      (' ' :: ((Json.object ((m :: ms).map fun m => (m.1, m.2.json))).chars ++ rest))
      (.code (.mark .leftBrace) false ::
        (memberMeanings (m :: ms) ++ .code (.mark .rightBrace) false :: meanings)) := by
  have hclose (last : Option Token) :
      Says isReserved ⟨.braceExpression :: .parenExpression :: enclosures, false, last⟩
        ('}' :: rest) (.code (.mark .rightBrace) false :: meanings) :=
    Says.mark (by simp) [] h (List.forall_mem_nil _) (by decide) rfl
  rw [Json.chars, List.append_assoc, List.cons_append]
  exact Says.mark (by simp) [' '] (Says.members (by simp) hclose m ms) forall_mem_space
    (by decide) rfl

end

end Playground.Script
