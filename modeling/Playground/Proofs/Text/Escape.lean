import Playground.Proofs.Text.Search
import Playground.Text.Escape

/-! Texts inside template literals and inside markup. Escaping for a template goes character by
character, looking one ahead, and so does the reading of line ends as line feeds; the two do not get
in each other's way. Markup is read back to the text that it was made of. -/

namespace Playground.Text

/-- The line ends of a template: a carriage return before a line feed is dropped, any other is a
line feed. -/
def lineFeeds : List Char → List Char
  | [] => []
  | c :: cs =>
    if c = '\r' then
      if cs.head? = some '\n' then lineFeeds cs else '\n' :: lineFeeds cs
    else c :: lineFeeds cs

/-- The text that markup without tags shows; `none` if it has another entity than those for the
ampersand and the angle brackets. -/
def shownMarkup? : List Char → Option (List Char)
  | [] => some []
  | '&' :: 'a' :: 'm' :: 'p' :: ';' :: cs => ('&' :: ·) <$> shownMarkup? cs
  | '&' :: 'l' :: 't' :: ';' :: cs => ('<' :: ·) <$> shownMarkup? cs
  | '&' :: 'g' :: 't' :: ';' :: cs => ('>' :: ·) <$> shownMarkup? cs
  | c :: cs => if c = '&' then none else (c :: ·) <$> shownMarkup? cs

/-! ### Templates -/

/-- The character gets a backslash if it would end the template, open a hole before `next`, or
escape something. -/
def templateChar (c : Char) (next : Option Char) : List Char :=
  if c = '\\' ∨ c = '`' ∨ (c = '$' ∧ next = some '{') then ['\\', c] else [c]

theorem templateChar_cases (c : Char) (next : Option Char) :
    (c = '\\' ∨ c = '`' ∨ c = '$') ∧ templateChar c next = ['\\', c] ∨
      ¬(c = '\\' ∨ c = '`' ∨ (c = '$' ∧ next = some '{')) ∧ templateChar c next = [c] := by
  unfold templateChar
  split
  · rename_i h
    exact .inl ⟨h.imp_right (Or.imp_right And.left), rfl⟩
  · rename_i h
    exact .inr ⟨h, rfl⟩

theorem escapeTemplate_cons (c : Char) (cs : List Char) :
    escapeTemplate (c :: cs) = templateChar c cs.head? ++ escapeTemplate cs := by
  rw [templateChar, escapeTemplate.eq_def]
  split
  · simp_all
  · rename_i heq
    cases heq
    simp [escapeTemplate]
  · rename_i hhole heq
    cases heq
    have hnot : ¬(c = '$' ∧ cs.head? = some '{') := by
      rintro ⟨rfl, hnext⟩
      obtain ⟨cs, rfl⟩ := List.head?_eq_some_iff.mp hnext
      exact hhole _ rfl rfl
    simp only [hnot, or_false, Bool.or_eq_true, decide_eq_true_eq]
    split
    · rfl
    · rfl

theorem length_le_escapeTemplate (cs : List Char) : cs.length ≤ (escapeTemplate cs).length := by
  induction cs with
  | nil => exact Nat.le_refl 0
  | cons c cs ih =>
    rw [escapeTemplate_cons, List.length_append, List.length_cons]
    rcases templateChar_cases c cs.head? with ⟨-, hchar⟩ | ⟨-, hchar⟩
    · rw [hchar, List.length_cons, List.length_singleton]
      omega
    · rw [hchar, List.length_singleton]
      omega

theorem escapeTemplate_append (cs : List Char) {ds : List Char} (h : ds.head? ≠ some '{') :
    escapeTemplate (cs ++ ds) = escapeTemplate cs ++ escapeTemplate ds := by
  induction cs with
  | nil => rfl
  | cons c cs ih =>
    rw [List.cons_append, escapeTemplate_cons, escapeTemplate_cons, ih, List.append_assoc]
    cases cs with
    | nil => simp [templateChar, h]
    | cons d cs => rfl

theorem escapeTemplate_append_of_plain {cs : List Char} (h : ∀ c ∈ cs, c ≠ '\\' ∧ c ≠ '`' ∧ c ≠ '$')
    (ds : List Char) :
    escapeTemplate (cs ++ ds) = cs ++ escapeTemplate ds := by
  induction cs with
  | nil => rfl
  | cons c cs ih =>
    obtain ⟨hc, hcs⟩ := List.forall_mem_cons.mp h
    rw [List.cons_append, escapeTemplate_cons, templateChar, if_neg (by simp [hc]), ih hcs,
      List.singleton_append, List.cons_append]

/-- Of the characters that stand in front of an escaped text only the backslash may not be its
own. -/
theorem head?_escapeTemplate {c : Char} (hc : c ≠ '\\' ∧ c ≠ '`' ∧ c ≠ '$') (cs : List Char) :
    (escapeTemplate cs).head? = some c ↔ cs.head? = some c := by
  cases cs with
  | nil => rfl
  | cons d cs =>
    rw [escapeTemplate_cons, templateChar]
    split
    · rename_i hd
      simp only [List.cons_append, List.head?_cons, Option.some.injEq]
      constructor
      · rintro rfl
        exact absurd rfl hc.1
      · rintro rfl
        rcases hd with rfl | rfl | ⟨rfl, -⟩
        · exact rfl
        · exact absurd rfl hc.2.1
        · exact absurd rfl hc.2.2
    · rfl

/-- A hole is open behind a text only if it was open inside it. -/
theorem head?_escapeTemplate_append (cs : List Char) {rest : List Char}
    (hrest : rest.head? ≠ some '{') :
    (escapeTemplate cs ++ rest).head? = some '{' ↔ cs.head? = some '{' := by
  cases cs with
  | nil => exact ⟨fun h => absurd h hrest, fun h => nomatch h⟩
  | cons c cs =>
    have hne : escapeTemplate (c :: cs) ≠ [] := by
      rcases templateChar_cases c cs.head? with ⟨-, hchar⟩ | ⟨-, hchar⟩
      all_goals simp [escapeTemplate_cons, hchar]
    rw [List.head?_append_of_ne_nil _ hne]
    exact head?_escapeTemplate (by decide) (c :: cs)

/-- Nothing in the text ends a template or opens a hole in it, and no backslash is left over at its
end. -/
def isTemplateText : List Char → Bool
  | [] => true
  | ['\\'] => false
  | '\\' :: _ :: cs => isTemplateText cs
  | c :: cs => c ≠ '`' && !(c = '$' && cs.head? = some '{') && isTemplateText cs

theorem isTemplateText_escaped (c : Char) (cs : List Char) :
    isTemplateText ('\\' :: c :: cs) = isTemplateText cs := by
  rw [isTemplateText]

theorem isTemplateText_plain {c : Char} {cs : List Char}
    (h : ¬(c = '\\' ∨ c = '`' ∨ (c = '$' ∧ cs.head? = some '{'))) :
    isTemplateText (c :: cs) = isTemplateText cs := by
  obtain ⟨hback, hquote, hhole⟩ : c ≠ '\\' ∧ c ≠ '`' ∧ ¬(c = '$' ∧ cs.head? = some '{') := by
    simpa [not_or] using h
  rw [isTemplateText]
  · simpa [hquote] using fun _ => not_and_or.mp hhole
  · intro hc
    exact absurd hc hback
  · intro d ds hc
    exact absurd hc hback

/-- In front of anything but a brace, an escaped text is as good as none. -/
theorem isTemplateText_append (cs : List Char) {rest : List Char} (hrest : rest.head? ≠ some '{') :
    isTemplateText (escapeTemplate cs ++ rest) = isTemplateText rest := by
  induction cs with
  | nil => rfl
  | cons c cs ih =>
    rw [escapeTemplate_cons, List.append_assoc]
    rcases templateChar_cases c cs.head? with ⟨-, hchar⟩ | ⟨hc, hchar⟩
    · rw [hchar, ← ih]
      exact isTemplateText_escaped c _
    · rw [← head?_escapeTemplate_append cs hrest] at hc
      rw [hchar, ← ih]
      exact isTemplateText_plain hc

/-! ### Three replacements -/

/-- The text with a backslash before every backslash and then before every backquote. -/
def escapeMarks (cs : List Char) : List Char :=
  replaceAll ['`'] ['\\', '`'] (replaceAll ['\\'] ['\\', '\\'] cs)

theorem escapeMarks_cons (c : Char) (cs : List Char) :
    escapeMarks (c :: cs) = (if c = '\\' ∨ c = '`' then ['\\', c] else [c]) ++ escapeMarks cs := by
  simp only [escapeMarks, replaceAll_singleton, List.flatMap_cons, List.flatMap_append]
  congr 1
  by_cases hback : c = '\\'
  · subst hback
    rfl
  · by_cases hquote : c = '`'
    · subst hquote
      rfl
    · simp [hback, hquote]

theorem head?_escapeMarks (cs : List Char) :
    (escapeMarks cs).head? = some '{' ↔ cs.head? = some '{' := by
  cases cs with
  | nil => rfl
  | cons c cs =>
    rw [escapeMarks_cons]
    split
    · rename_i hc
      have hbrace : c ≠ '{' := by
        rintro rfl
        simp at hc
      simp [hbrace]
    · simp

/-- The backslashes that a replacement puts in are not seen by those after it, so that three of
them, one after the other, escape a text. -/
theorem escapeTemplate_eq_replaceAll (cs : List Char) :
    escapeTemplate cs = replaceAll ['$', '{'] ['\\', '$', '{'] (escapeMarks cs) := by
  have hne : ['$', '{'] ≠ [] := List.cons_ne_nil _ _
  have hpass {c : Char} (hc : c ≠ '$') (rest : List Char) :
      replaceAll ['$', '{'] ['\\', '$', '{'] (c :: rest) =
        c :: replaceAll ['$', '{'] ['\\', '$', '{'] rest :=
    replaceAll_cons hne fun h => hc (List.cons_prefix_cons.mp h).1.symm
  induction cs with
  | nil => rfl
  | cons c cs ih =>
    rw [escapeTemplate_cons, templateChar, escapeMarks_cons]
    by_cases hmark : c = '\\' ∨ c = '`'
    · have hdollar : c ≠ '$' := by
        rintro rfl
        simp at hmark
      rw [if_pos hmark, if_pos (hmark.imp_right .inl), ih]
      exact ((hpass (by decide) _).trans (congrArg _ (hpass hdollar _))).symm
    · rw [if_neg hmark, List.singleton_append]
      obtain ⟨hback, hquote⟩ := not_or.mp hmark
      by_cases hhole : c = '$' ∧ cs.head? = some '{'
      · obtain ⟨rfl, hnext⟩ := hhole
        obtain ⟨cs, rfl⟩ := List.head?_eq_some_iff.mp hnext
        have hbrace : escapeMarks ('{' :: cs) = '{' :: escapeMarks cs := escapeMarks_cons '{' cs
        have hreplaced : replaceAll ['$', '{'] ['\\', '$', '{'] (['$', '{'] ++ escapeMarks cs) =
            ['\\', '$', '{'] ++ replaceAll ['$', '{'] ['\\', '$', '{'] (escapeMarks cs) :=
          replaceAll_append hne _
        rw [if_pos (.inr (.inr ⟨rfl, rfl⟩)), ih, hbrace, hpass (by decide)]
        exact hreplaced.symm
      · have hword : ¬['$', '{'] <+: c :: escapeMarks cs := by
          intro hword
          rw [List.cons_prefix_cons] at hword
          refine hhole ⟨hword.1.symm, (head?_escapeMarks cs).mp ?_⟩
          obtain ⟨rest, hrest⟩ := hword.2
          rw [← hrest]
          rfl
        rw [if_neg (by simp [hback, hquote, hhole]), ih, replaceAll_cons hne hword]
        rfl

/-! ### Line feeds -/

theorem lineFeeds_of_ne {c : Char} (hc : c ≠ '\r') (cs : List Char) :
    lineFeeds (c :: cs) = c :: lineFeeds cs := by
  rw [lineFeeds, if_neg hc]

theorem lineFeeds_pair {cs : List Char} (h : cs.head? = some '\n') :
    lineFeeds ('\r' :: cs) = lineFeeds cs := by
  rw [lineFeeds, if_pos rfl, if_pos h]

theorem lineFeeds_return {cs : List Char} (h : cs.head? ≠ some '\n') :
    lineFeeds ('\r' :: cs) = '\n' :: lineFeeds cs := by
  rw [lineFeeds, if_pos rfl, if_neg h]

theorem head?_lineFeeds {c : Char} (hc : c ≠ '\r' ∧ c ≠ '\n') (cs : List Char) :
    (lineFeeds cs).head? = some c ↔ cs.head? = some c := by
  induction cs with
  | nil => rfl
  | cons d cs ih =>
    rw [lineFeeds]
    split
    · rename_i hd
      subst hd
      split
      · rename_i hfeed
        rw [ih, hfeed]
        simp [hc.1.symm, hc.2.symm]
      · simp [hc.1.symm, hc.2.symm]
    · rfl

theorem lineFeeds_append_of_not_mem {cs : List Char} (h : '\r' ∉ cs) (ds : List Char) :
    lineFeeds (cs ++ ds) = cs ++ lineFeeds ds := by
  induction cs with
  | nil => rfl
  | cons c cs ih =>
    rw [List.mem_cons, not_or] at h
    rw [List.cons_append, lineFeeds_of_ne (Ne.symm h.1), ih h.2, List.cons_append]

theorem lineFeeds_append (cs : List Char) {ds : List Char} (h : ds.head? ≠ some '\n') :
    lineFeeds (cs ++ ds) = lineFeeds cs ++ lineFeeds ds := by
  induction cs with
  | nil => rfl
  | cons c cs ih =>
    have hhead : (cs ++ ds).head? = some '\n' ↔ cs.head? = some '\n' := by
      cases cs with
      | nil => simp [h]
      | cons d cs => rfl
    rw [List.cons_append, lineFeeds, lineFeeds, ih]
    simp only [hhead]
    split
    · split
      · rfl
      · rfl
    · rfl

theorem lineFeeds_escapeTemplate (cs : List Char) :
    lineFeeds (escapeTemplate cs) = escapeTemplate (lineFeeds cs) := by
  induction cs with
  | nil => rfl
  | cons c cs ih =>
    by_cases hc : c = '\r'
    · subst hc
      have hchar : templateChar '\r' cs.head? = ['\r'] := by
        simp [templateChar]
      have hhead := head?_escapeTemplate (c := '\n') (by decide) cs
      rw [escapeTemplate_cons, hchar, List.singleton_append]
      by_cases hfeed : cs.head? = some '\n'
      · rw [lineFeeds_pair (hhead.mpr hfeed), lineFeeds_pair hfeed, ih]
      · rw [lineFeeds_return (mt hhead.mp hfeed), lineFeeds_return hfeed, ih, escapeTemplate_cons]
        rfl
    · have hfeed : '\r' ∉ templateChar c cs.head? := by
        rw [templateChar]
        split
        · simp [Ne.symm hc]
        · simp [Ne.symm hc]
      have hchar : templateChar c (lineFeeds cs).head? = templateChar c cs.head? := by
        simp only [templateChar, head?_lineFeeds (show '{' ≠ '\r' ∧ '{' ≠ '\n' by decide)]
      rw [escapeTemplate_cons, lineFeeds_append_of_not_mem hfeed, ih, lineFeeds_of_ne hc,
        escapeTemplate_cons, hchar]

/-! ### Markup -/

/-- A character of markup is itself or one of the three entities. -/
theorem markupChar_cases (c : Char) :
    c ≠ '<' ∧ c ≠ '>' ∧ markupChar c = [c] ∨
      markupChar c ∈ ["&amp;".toList, "&lt;".toList, "&gt;".toList] := by
  unfold markupChar
  split
  · exact .inr (by decide)
  split
  · exact .inr (by decide)
  split
  · exact .inr (by decide)
  · rename_i hless hgreater
    exact .inl ⟨hless, hgreater, rfl⟩

/-- No entity has a character that is none of its letters. -/
theorem not_mem_entity {c : Char} {cs : List Char}
    (h : cs ∈ ["&amp;".toList, "&lt;".toList, "&gt;".toList]) (hc : c ∉ "&amp;ltg".toList) :
    c ∉ cs := by
  have hall : ∀ cs ∈ ["&amp;".toList, "&lt;".toList, "&gt;".toList],
      (cs.all fun d => decide (d ∈ "&amp;ltg".toList)) = true := by
    decide
  exact fun hmem => hc (of_decide_eq_true (List.all_eq_true.mp (hall cs h) c hmem))

/-- Markup shows what it was made of. -/
theorem shownMarkup?_escapeMarkup (cs : List Char) : shownMarkup? (escapeMarkup cs) = some cs := by
  induction cs with
  | nil => rfl
  | cons c cs ih =>
    change shownMarkup? (markupChar c ++ escapeMarkup cs) = _
    unfold markupChar
    split
    · subst c
      change ('&' :: ·) <$> shownMarkup? (escapeMarkup cs) = _
      rw [ih]
      rfl
    split
    · subst c
      change ('<' :: ·) <$> shownMarkup? (escapeMarkup cs) = _
      rw [ih]
      rfl
    split
    · subst c
      change ('>' :: ·) <$> shownMarkup? (escapeMarkup cs) = _
      rw [ih]
      rfl
    · rename_i hc _ _
      rw [List.singleton_append, shownMarkup?]
      · rw [if_neg hc, ih]
        rfl
      · exact fun _ h => absurd h hc
      · exact fun _ h => absurd h hc
      · exact fun _ h => absurd h hc

theorem bracket_not_mem_escapeMarkup (cs : List Char) :
    '<' ∉ escapeMarkup cs ∧ '>' ∉ escapeMarkup cs := by
  have hchar (c : Char) : '<' ∉ markupChar c ∧ '>' ∉ markupChar c := by
    rcases markupChar_cases c with ⟨hless, hgreater, hc⟩ | hc
    · simp [hc, hless.symm, hgreater.symm]
    · exact ⟨not_mem_entity hc (by decide), not_mem_entity hc (by decide)⟩
  simp only [escapeMarkup, List.mem_flatMap, not_exists, not_and]
  exact ⟨fun c _ => (hchar c).1, fun c _ => (hchar c).2⟩

theorem head?_escapeMarkup (cs : List Char) :
    (escapeMarkup cs).head? = some '\n' ↔ cs.head? = some '\n' := by
  cases cs with
  | nil => rfl
  | cons c cs =>
    change (markupChar c ++ escapeMarkup cs).head? = _ ↔ _
    rcases markupChar_cases c with ⟨-, -, h⟩ | h
    · rw [h]
      rfl
    · have hc : c ≠ '\n' := by
        rintro rfl
        exact absurd h (by decide)
      simp only [List.mem_cons, List.not_mem_nil, or_false] at h
      rcases h with h | h | h
      all_goals simp [h, hc]

theorem lineFeeds_escapeMarkup (cs : List Char) :
    lineFeeds (escapeMarkup cs) = escapeMarkup (lineFeeds cs) := by
  induction cs with
  | nil => rfl
  | cons c cs ih =>
    change lineFeeds (markupChar c ++ escapeMarkup cs) = _
    by_cases hc : c = '\r'
    · subst hc
      have hhead := head?_escapeMarkup cs
      change lineFeeds ('\r' :: escapeMarkup cs) = _
      by_cases hfeed : cs.head? = some '\n'
      · rw [lineFeeds_pair (hhead.mpr hfeed), lineFeeds_pair hfeed, ih]
      · rw [lineFeeds_return (mt hhead.mp hfeed), lineFeeds_return hfeed, ih]
        rfl
    · have hreturn : '\r' ∉ markupChar c := by
        rcases markupChar_cases c with ⟨-, -, h⟩ | h
        · simp [h, Ne.symm hc]
        · exact not_mem_entity h (by decide)
      rw [lineFeeds_append_of_not_mem hreturn, ih, lineFeeds_of_ne hc]
      rfl

end Playground.Text
