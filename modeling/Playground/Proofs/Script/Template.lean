import Playground.Proofs.Script.Spelling

/-! Templates. A text that is escaped for a template is read to its end as one piece, without a
hole, and stands for itself up to its line ends. -/

namespace Playground.Script

open Text Reader

theorem escape_mark {c : Char} (h : c = '\\' ∨ c = '`' ∨ c = '$') (inTemplate : Bool) (r : Reader)
    (cs : List Char) (p : Nat) :
    ∃ p', escape inTemplate (r.facing ('\\' :: c :: cs) p) = .ok [c] (r.facing cs p') := by
  rcases h with rfl | rfl | rfl
  all_goals exact ⟨_, rfl⟩

/-- A template goes on with its end or with a hole. -/
def EndsText (rest : List Char) : Prop := ∃ cs, rest = '`' :: cs ∨ rest = '$' :: '{' :: cs

theorem EndsText.head?_ne {rest : List Char} (h : EndsText rest) : rest.head? ≠ some '{' := by
  obtain ⟨cs, rfl | rfl⟩ := h
  · exact fun h => nomatch h
  · exact fun h => nomatch h

section

variable {start fuel : Nat} {bad : Option Fault} {r r' : Reader} {cs : List Char} {p : Nat}

theorem templateRun_escape {chars : List Char}
    (h : escape true (r.facing ('\\' :: cs) p) = .ok chars r') :
    templateRun start (fuel + 1) bad (r.facing ('\\' :: cs) p) = templateRun start fuel bad r' := by
  rw [templateRun, get_bind]
  refine bind_of_ok (b := bad) ?_
  rw [h]

theorem templateRun_plain {c : Char}
    (hc : ¬(c = '\\' ∨ c = '`' ∨ (c = '$' ∧ cs.head? = some '{'))) :
    templateRun start (fuel + 1) bad (r.facing (c :: cs) p) =
      templateRun start fuel bad
        ({ r with lineBefore := r.lineBefore || Reader.isLineEnd c }.facing cs
          (p + c.utf8Size)) := by
  obtain ⟨hback, hquote, hhole⟩ : c ≠ '\\' ∧ c ≠ '`' ∧ ¬(c = '$' ∧ cs.head? = some '{') := by
    simpa [not_or] using hc
  rw [templateRun, get_bind]
  generalize htext : (r.facing (c :: cs) p).cursor.rest = text
  split
  · cases htext
  · exact absurd (List.cons.inj htext).1 hquote
  · cases htext
    exact absurd ⟨rfl, rfl⟩ hhole
  · cases htext
    rw [if_neg (by simp [hback])]
    by_cases hend : Reader.isLineEnd c = true
    · rw [if_pos hend, hend, Bool.or_true]
      rfl
    · rw [if_neg hend, Bool.eq_false_iff.mpr hend, Bool.or_false]
      rfl

end

/-- Inside a template the reader passes over escaped text, one step for each character that was
escaped, and nothing is wrong with it. -/
theorem templateRun_append (start : Nat) (cs : List Char) {rest : List Char}
    (hrest : rest.head? ≠ some '{') (bad : Option Fault) (r : Reader) (p : Nat) :
    ∃ lineBefore p', ∀ fuel,
      templateRun start (cs.length + fuel) bad (r.facing (escapeTemplate cs ++ rest) p) =
        templateRun start fuel bad ({ r with lineBefore }.facing rest p') := by
  induction cs generalizing r p with
  | nil =>
    refine ⟨r.lineBefore, p, fun fuel => ?_⟩
    rw [List.length_nil, Nat.zero_add]
    rfl
  | cons c cs ih =>
    have hlength (fuel : Nat) : (c :: cs).length + fuel = cs.length + fuel + 1 := by
      rw [List.length_cons]
      omega
    rw [escapeTemplate_cons, List.append_assoc]
    rcases templateChar_cases c cs.head? with ⟨hc, hchar⟩ | ⟨hc, hchar⟩
    · obtain ⟨p₁, hescape⟩ := escape_mark hc true r (escapeTemplate cs ++ rest) p
      obtain ⟨lineBefore, p', hrun⟩ := ih r p₁
      refine ⟨lineBefore, p', fun fuel => ?_⟩
      rw [hchar, hlength]
      exact (templateRun_escape hescape).trans (hrun fuel)
    · -- The reader looks at what stands behind a dollar sign, which has been escaped as well.
      rw [← head?_escapeTemplate_append cs hrest] at hc
      obtain ⟨lineBefore, p', hrun⟩ :=
        ih { r with lineBefore := r.lineBefore || Reader.isLineEnd c } (p + c.utf8Size)
      refine ⟨lineBefore, p', fun fuel => ?_⟩
      rw [hchar, hlength]
      exact (templateRun_plain hc).trans (hrun fuel)

theorem templateRun_text (start : Nat) (cs : List Char) {rest : List Char}
    (hrest : EndsText rest) (fuel : Nat) (hfuel : cs.length < fuel) (r : Reader) (p : Nat) :
    ∃ lineBefore p', templateRun start fuel none (r.facing (escapeTemplate cs ++ rest) p) =
      .ok none ({ r with lineBefore }.facing rest p') := by
  obtain ⟨lineBefore, p', hrun⟩ := templateRun_append start cs hrest.head?_ne none r p
  obtain ⟨more, rfl⟩ : ∃ more, fuel = cs.length + (more + 1) := ⟨fuel - cs.length - 1, by omega⟩
  refine ⟨lineBefore, p', (hrun _).trans ?_⟩
  obtain ⟨after, rfl | rfl⟩ := hrest
  · rfl
  · rfl

theorem cookRun_text (cs : List Char) (fuel : Nat) (hfuel : cs.length < fuel)
    (taken : List Char) (r : Reader) (p : Nat) :
    ∃ p', cookRun fuel taken (r.facing (escapeTemplate cs) p) =
      .ok (taken.reverse ++ cs) (r.facing [] p') := by
  induction cs generalizing fuel taken p with
  | nil =>
    cases fuel with
    | zero => exact absurd hfuel (Nat.not_lt_zero _)
    | succ fuel =>
      rw [List.append_nil]
      exact ⟨p, rfl⟩
  | cons c cs ih =>
    cases fuel with
    | zero => exact absurd hfuel (Nat.not_lt_zero _)
    | succ fuel =>
      have hfuel := Nat.lt_of_succ_lt_succ hfuel
      have htaken : (c :: taken).reverse ++ cs = taken.reverse ++ c :: cs := by
        rw [List.reverse_cons, List.append_assoc, List.singleton_append]
      rw [escapeTemplate_cons]
      rcases templateChar_cases c cs.head? with ⟨hc, hchar⟩ | ⟨hc, hchar⟩
      · obtain ⟨p₁, hescape⟩ := escape_mark hc true r (escapeTemplate cs) p
        obtain ⟨p', hrun⟩ := ih fuel hfuel (c :: taken) p₁
        refine ⟨p', ?_⟩
        rw [hchar, cookRun, current?_bind]
        change (if ('\\' == '\\') = true then escape true >>=
          fun chars => cookRun fuel (chars.reverse ++ taken) else _ : Read _) _ = _
        rw [if_pos (by decide), ← htaken]
        exact (bind_of_ok hescape).trans hrun
      · obtain ⟨p', hrun⟩ := ih fuel hfuel (c :: taken) (p + c.utf8Size)
        refine ⟨p', ?_⟩
        rw [hchar, cookRun, current?_bind]
        change (if (c == '\\') = true then _ else _ : Read _) _ = _
        rw [if_neg (by simp [not_or.mp hc]), advance_bind, ← htaken]
        exact hrun

/-- The escaped text of a template stands for the text, with line feeds for its line ends. -/
theorem cooked?_escapeTemplate (cs : List Char) :
    cooked? (String.ofList (escapeTemplate cs)) = some (String.ofList (lineFeeds cs)) := by
  have hlength := length_le_escapeTemplate (lineFeeds cs)
  obtain ⟨p, hrun⟩ :=
    cookRun_text (lineFeeds cs) ((escapeTemplate (lineFeeds cs)).length + 1) (by omega) []
    { cursor := ⟨[], 0⟩ } 0
  have htext : lineFeeds (String.ofList (escapeTemplate cs)).toList =
      escapeTemplate (lineFeeds cs) := by
    rw [String.toList_ofList, lineFeeds_escapeTemplate]
  have hcook : cookRun ((escapeTemplate (lineFeeds cs)).length + 1) []
      { cursor := ⟨escapeTemplate (lineFeeds cs), 0⟩ } = _ := hrun
  rw [cooked?, htext, hcook]
  rfl

theorem templateToken_text {r : Reader} (hlast : ∀ raw bad, r.last ≠ some (.template raw bad))
    (cs : List Char) {rest : List Char} (hrest : EndsText rest) (p : Nat) :
    ∃ lineBefore p', templateToken (r.facing (escapeTemplate cs ++ rest) p) =
      .ok (.template (String.ofList (escapeTemplate cs)) none)
        ({ r with lineBefore }.facing rest p') := by
  have hlength := length_le_escapeTemplate cs
  obtain ⟨lineBefore, p', hrun⟩ :=
    templateRun_text p cs hrest ((escapeTemplate cs ++ rest).length + 1)
      (by rw [List.length_append]; omega) r p
  refine ⟨lineBefore, p', ?_⟩
  have hread : (do
      let bad ← templateRun p (← budget) none
      return .template (← textFrom ⟨escapeTemplate cs ++ rest, p⟩) bad : Read Token)
      (r.facing (escapeTemplate cs ++ rest) p) =
        .ok (.template (String.ofList (escapeTemplate cs)) none)
          ({ r with lineBefore }.facing rest p') := by
    rw [budget_bind]
    exact (bind_of_ok hrun).trans (bind_of_ok (textFrom_facing _ rest _ p p'))
  rw [templateToken, get_bind]
  refine Eq.trans ?_ hread
  generalize (r.facing (escapeTemplate cs ++ rest) p).cursor.rest = text
  split
  case h_3 => rfl
  all_goals
    rw [if_neg]
    · rfl
    · split
      · rename_i heq
        exact absurd heq (hlast _ _)
      · exact Bool.false_ne_true

theorem templateToken_backquote {r : Reader} {raw : String} {bad : Option Fault}
    (hlast : r.last = some (.template raw bad)) (rest : List Char) (p : Nat) :
    ∃ p', templateToken (r.facing ('`' :: rest) p) = .ok (.mark .backquote) (r.facing rest p') := by
  cases r
  cases hlast
  exact ⟨_, rfl⟩

theorem templateToken_dollarBrace {r : Reader} {raw : String} {bad : Option Fault}
    (hlast : r.last = some (.template raw bad)) (rest : List Char) (p : Nat) :
    ∃ p', templateToken (r.facing ('$' :: '{' :: rest) p) =
      .ok (.mark .dollarBrace) (r.facing rest p') := by
  cases r
  cases hlast
  exact ⟨_, rfl⟩

/-! ### Template literals -/

section

variable {isReserved : Word → Bool} {m m' : Mode} {enclosures : List Enclosure} {operandNext : Bool}
  {last : Option Token} {rest : List Char} {raw : String} {bad : Option Fault}

theorem takes_inTemplate {text : List Char} {meaning : Meaning} (t : Token)
    (hm : m.enclosures.head? = some .template) (hne : text ≠ [])
    (hread : ∀ (r : Reader) (p : Nat), r.last = m.last → r.lineBefore = false →
      ∃ lineBefore p', templateToken (r.facing text p) =
      .ok t ({ r with lineBefore }.facing rest p') ∧
        m.after lineBefore t = m' ∧ t.meaning lineBefore = meaning) :
    Takes isReserved m text meaning m' rest := by
  intro r hr
  obtain ⟨lineBefore, p', htemplate, rfl, rfl⟩ :=
    hread (r.moved r.cursor false) r.cursor.position hr.last rfl
  have hcursor : r.cursor = ⟨text, r.cursor.position⟩ := by
    rw [← hr.text]
  have hhere : tokenHere isReserved (r.moved r.cursor false) =
      .ok (some t) (r.moved ⟨rest, p'⟩ lineBefore) := by
    rw [hcursor, tokenHere_of_template hr hm hne]
    exact bind_of_ok htemplate
  obtain ⟨l, r', hnext, htoken, hline, hr'⟩ := hr.next (hr.stay hm) hhere
  exact ⟨l, r', hnext, by rw [Lexeme.meaning, htoken, hline], hr'⟩

theorem takes_openTemplate (hm : enclosures.head? ≠ some .template) (rest : List Char) :
    Takes isReserved ⟨enclosures, operandNext, last⟩ ('`' :: rest) (.code (.mark .backquote) false)
      ⟨.template :: enclosures, false, some (.mark .backquote)⟩ rest := by
  have hafter : Mode.after ⟨enclosures, operandNext, last⟩ false (.mark .backquote) =
      ⟨.template :: enclosures, false, some (.mark .backquote)⟩ := by
    change (let below :=
        if enclosures.head? = some .template then (enclosures.tail, false) else (_, false)
      Mode.mk below.1 below.2 _) = _
    rw [if_neg hm]
  have hspells : Spells (.mark .backquote) ['`'] rest := spells_mark (by decide) rest
  rw [← hafter]
  exact takes_token hm (List.forall_mem_nil _) hspells

theorem takes_text (cs : List Char) (hlast : ∀ raw bad, last ≠ some (.template raw bad))
    (hrest : EndsText rest) :
    Takes isReserved ⟨.template :: enclosures, operandNext, last⟩ (escapeTemplate cs ++ rest)
      (.template (some (String.ofList (lineFeeds cs))))
      ⟨.template :: enclosures, false, some (.template (String.ofList (escapeTemplate cs)) none)⟩
      rest := by
  have hne : escapeTemplate cs ++ rest ≠ [] := by
    obtain ⟨ds, rfl | rfl⟩ := hrest
    all_goals simp
  refine takes_inTemplate (.template (String.ofList (escapeTemplate cs)) none) rfl hne
    fun r p hr _ => ?_
  obtain ⟨lineBefore, p', hread⟩ :=
    templateToken_text (fun raw bad => hr.trans_ne (hlast raw bad)) cs hrest p
  refine ⟨lineBefore, p', hread, rfl, ?_⟩
  rw [Token.meaning, cooked?_escapeTemplate]

theorem takes_closeTemplate (rest : List Char) :
    Takes isReserved ⟨.template :: enclosures, operandNext, some (.template raw bad)⟩ ('`' :: rest)
      (.code (.mark .backquote) false) ⟨enclosures, false, some (.mark .backquote)⟩ rest := by
  refine takes_inTemplate (.mark .backquote) rfl (List.cons_ne_nil _ _) fun r p hr hline => ?_
  obtain ⟨p', hread⟩ := templateToken_backquote hr rest p
  rw [hread]
  exact ⟨false, p', by rw [← hline], rfl, rfl⟩

end

/-- The reader takes tokens of these meanings, one after the other. -/
inductive Reader.TakesAll (isReserved : Word → Bool) : Reader → List Meaning → Reader → Prop
  | nil (r : Reader) : TakesAll isReserved r [] r
  | cons {r r' r'' : Reader} {l : Lexeme} {meaning : Meaning} {meanings : List Meaning} :
      r.next isReserved = (some l, r') → l.meaning = meaning → TakesAll isReserved r' meanings r'' →
      TakesAll isReserved r (meaning :: meanings) r''

/-- Escaped text between backquotes is one template without holes, whatever comes after it. -/
theorem takesAll_template (isReserved : Word → Bool) (text after : List Char)
    {m : Mode} {r : Reader} (hm : m.enclosures.head? ≠ some .template)
    (hr : r.Ready m ('`' :: (escapeTemplate text ++ '`' :: after))) :
    ∃ r', r.TakesAll isReserved [.code (.mark .backquote) false,
        .template (some (String.ofList (lineFeeds text))), .code (.mark .backquote) false] r' ∧
      r'.Ready ⟨m.enclosures, false, some (.mark .backquote)⟩ after := by
  have hopens : Takes isReserved m _ _ _ _ :=
    takes_openTemplate hm (escapeTemplate text ++ '`' :: after)
  obtain ⟨l₁, r₁, hnext₁, hopen, hr₁⟩ := hopens r hr
  obtain ⟨l₂, r₂, hnext₂, htext, hr₂⟩ := takes_text text (by simp) ⟨after, .inl rfl⟩ r₁ hr₁
  obtain ⟨l₃, r₃, hnext₃, hclose, hr₃⟩ := takes_closeTemplate after r₂ hr₂
  exact ⟨r₃, .cons hnext₁ hopen (.cons hnext₂ htext (.cons hnext₃ hclose (.nil r₃))), hr₃⟩

/-- Three replacements escape a text. In front of anything but an opening brace, the escaped text
neither ends a template nor opens a hole in it, and no backslash of it reaches beyond its end: the
reader passes over it, one step for each character that was escaped, and nothing is wrong with it.
Between backquotes it is one template without holes, whatever comes after that, and it stands for
the text with line feeds for its line ends. -/
theorem escapeTemplate_stays_inside (isReserved : Word → Bool) (text : List Char) :
    escapeTemplate text = replaceAll ['$', '{'] ['\\', '$', '{']
      (replaceAll ['`'] ['\\', '`'] (replaceAll ['\\'] ['\\', '\\'] text)) ∧
    (∀ rest : List Char, rest.head? ≠ some '{' →
      isTemplateText (escapeTemplate text ++ rest) = isTemplateText rest ∧
      ∀ (start : Nat) (bad : Option Fault) (r : Reader) (p : Nat), ∃ lineBefore p', ∀ fuel,
        templateRun start (text.length + fuel) bad (r.facing (escapeTemplate text ++ rest) p) =
          templateRun start fuel bad ({ r with lineBefore }.facing rest p')) ∧
    ∀ (after : List Char) (m : Mode) (r : Reader), m.enclosures.head? ≠ some .template →
      r.Ready m ('`' :: (escapeTemplate text ++ '`' :: after)) →
        ∃ r', r.TakesAll isReserved [.code (.mark .backquote) false,
            .template (some (String.ofList (lineFeeds text))), .code (.mark .backquote) false] r' ∧
          r'.Ready ⟨m.enclosures, false, some (.mark .backquote)⟩ after :=
  ⟨escapeTemplate_eq_replaceAll text,
    fun _ hrest => ⟨isTemplateText_append text hrest,
      fun start bad r p => templateRun_append start text hrest bad r p⟩,
    fun after _ _ hm hr => takesAll_template isReserved text after hm hr⟩

/-- A text that tries to escape, to end a template and to open a hole, and ends in a dollar sign. -/
def hostileText : List Char := "\\`$$\x7ba\x7d\r\n$".toList

/-- A reader in front of that text between backquotes, with a brace behind it. -/
def hostileReader : Reader :=
  { cursor := ⟨'`' :: (escapeTemplate hostileText ++ '`' :: ['{']), 0⟩, atStart := false }

theorem escapeTemplate_stays_inside_hostileText :
    ['`'].head? ≠ some '{' ∧
    isTemplateText (escapeTemplate hostileText ++ ['`']) = isTemplateText ['`'] ∧
    [Enclosure.braceStatement].head? ≠ some .template ∧
    hostileReader.Ready ⟨[.braceStatement], true, none⟩
      ('`' :: (escapeTemplate hostileText ++ '`' :: ['{'])) ∧
    ∃ r', hostileReader.TakesAll (fun _ => false)
        [.code (.mark .backquote) false, .template (some "\\`$$\x7ba\x7d\n$"),
          .code (.mark .backquote) false] r' ∧
      r'.Ready ⟨[.braceStatement], false, some (.mark .backquote)⟩ ['{'] := by
  obtain ⟨-, hinside, hliteral⟩ := escapeTemplate_stays_inside (fun _ => false) hostileText
  have hfeeds : String.ofList (lineFeeds hostileText) = "\\`$$\x7ba\x7d\n$" := by decide
  have hready : hostileReader.Ready ⟨[.braceStatement], true, none⟩
      ('`' :: (escapeTemplate hostileText ++ '`' :: ['{'])) :=
    ⟨rfl, rfl, rfl, rfl, rfl, rfl, rfl, rfl, rfl⟩
  rw [hfeeds] at hliteral
  exact ⟨by decide, (hinside ['`'] (by decide)).1, by decide, hready,
    hliteral ['{'] ⟨[.braceStatement], true, none⟩ hostileReader (by decide) hready⟩

end Playground.Script
