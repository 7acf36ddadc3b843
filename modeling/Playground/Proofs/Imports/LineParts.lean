import Playground.Proofs.Imports.Statement
import Playground.Proofs.Text.Search

/-! The parts of an import line. The test accepts a line exactly if it can be cut into these parts
(`isImportLine_iff`). The quotes tell where to cut, so the test finds the parts in one pass. -/

namespace Playground.Imports

open Text

/-! ### Parts of a line -/

def NoQuotes (cs : List Char) : Prop := ∀ c ∈ cs, isQuote c = false

def NoParens (cs : List Char) : Prop := ∀ c ∈ cs, c ≠ '(' ∧ c ≠ ')'

theorem NoQuotes.append {xs ys : List Char} (hx : NoQuotes xs) (hy : NoQuotes ys) :
    NoQuotes (xs ++ ys) :=
  List.forall_mem_append.mpr ⟨hx, hy⟩

theorem NoQuotes.countP_eq_zero {cs : List Char} (h : NoQuotes cs) : cs.countP isQuote = 0 :=
  List.countP_eq_zero.mpr fun c hc => by simp [h c hc]

theorem NoParens.append {xs ys : List Char} (hx : NoParens xs) (hy : NoParens ys) :
    NoParens (xs ++ ys) :=
  List.forall_mem_append.mpr ⟨hx, hy⟩

theorem noQuotes_of_blank {w : List Char} (h : AllBlank w) : NoQuotes w := by
  intro c hc
  by_contra hquote
  have := isBlank_of_isQuote (by simpa using hquote)
  rw [h c hc] at this
  cases this

theorem ne_paren_of_isQuote {c : Char} (h : isQuote c = true) : '(' ≠ c := by
  rintro rfl
  cases h

theorem noQuotes_import : NoQuotes "import".toList := forall_eq_false_of_any (by decide)

theorem noQuotes_from : NoQuotes "from".toList := forall_eq_false_of_any (by decide)

theorem noParens_of_blank {w : List Char} (h : AllBlank w) : NoParens w := by
  intro c hc
  constructor <;> rintro rfl <;> cases h _ hc

/-- What stands between `import` and the module: blanks, or any text without parentheses, `from` and
blanks. -/
inductive IsClause : List Char → Prop
  | blank {gap : List Char} : AllBlank gap → IsClause gap
  | bindings {names gap : List Char} :
      NoParens names → AllBlank gap → IsClause (names ++ ("from".toList ++ gap))

/-- What stands behind the module: blanks, with at most one semicolon among them. -/
inductive IsEnding : List Char → Prop
  | blank {gap : List Char} : AllBlank gap → IsEnding gap
  | semicolon {gap trail : List Char} :
      AllBlank gap → AllBlank trail → IsEnding (gap ++ ';' :: trail)

theorem IsClause.noParens {cs : List Char} (h : IsClause cs) : NoParens cs := by
  cases h with
  | blank hgap => exact noParens_of_blank hgap
  | bindings hnames hgap =>
    exact hnames.append (.append (by simp [NoParens]) (noParens_of_blank hgap))

theorem IsEnding.noParens {cs : List Char} (h : IsEnding cs) : NoParens cs := by
  cases h with
  | blank hgap => exact noParens_of_blank hgap
  | semicolon hgap htrail =>
    exact (noParens_of_blank hgap).append
      (List.forall_mem_cons.mpr ⟨by decide, noParens_of_blank htrail⟩)

/-- The parts of a line that is one import. -/
structure LineParts where
  lead : List Char
  clause : List Char
  opening : Char
  module : List Char
  closing : Char
  ending : List Char
  lead_blank : AllBlank lead
  clause_isClause : IsClause clause
  clause_noQuotes : NoQuotes clause
  opening_isQuote : isQuote opening = true
  module_ne_nil : module ≠ []
  module_noQuotes : NoQuotes module
  closing_isQuote : isQuote closing = true
  ending_isEnding : IsEnding ending

namespace LineParts

/-- What stands behind `import`. -/
def tail (p : LineParts) : List Char := p.clause ++ p.opening :: (p.module ++ p.closing :: p.ending)

def chars (p : LineParts) : List Char := p.lead ++ ("import".toList ++ p.tail)

end LineParts

/-! ### The test finds the parts -/

theorem takeWhile_noQuotes {xs : List Char} {quote : Char} (hxs : NoQuotes xs)
    (hquote : isQuote quote = true) (rest : List Char) :
    (xs ++ quote :: rest).takeWhile (!isQuote ·) = xs ∧
      (xs ++ quote :: rest).dropWhile (!isQuote ·) = quote :: rest := by
  have hxs' : ∀ c ∈ xs, (!isQuote c) = true := fun c hc => by simp [hxs c hc]
  rw [List.takeWhile_append_of_pos hxs', List.dropWhile_append_of_pos hxs',
    List.takeWhile_cons_of_neg (by simp [hquote]), List.dropWhile_cons_of_neg (by simp [hquote]),
    List.append_nil]
  exact ⟨rfl, rfl⟩

/-- A text with a quote in it is cut at the first one. -/
theorem exists_noQuotes {cs : List Char} {quote : Char} {rest : List Char}
    (h : cs.dropWhile (!isQuote ·) = quote :: rest) :
    NoQuotes (cs.takeWhile (!isQuote ·)) ∧ isQuote quote = true ∧
      cs = cs.takeWhile (!isQuote ·) ++ quote :: rest := by
  refine ⟨fun c hc => by simpa using List.mem_takeWhile_imp hc, ?_, ?_⟩
  · have := List.head?_dropWhile_not (!isQuote ·) cs
    rw [h] at this
    simpa using this
  · rw [← h, List.takeWhile_append_dropWhile]

/-- Blanks at the end do not matter for how the text ends. -/
theorem suffix_trimEnd_iff {word cs : List Char} (hne : word ≠ [])
    (hlast : ∀ c ∈ word.getLast?, isBlank c = false) :
    word <:+ trimEnd cs ↔ ∃ before gap, AllBlank gap ∧ cs = before ++ (word ++ gap) := by
  constructor
  · rintro ⟨before, hbefore⟩
    refine ⟨before, cs.rtakeWhile isBlank, fun c hc => List.mem_rtakeWhile_imp hc, ?_⟩
    rw [← List.append_assoc, hbefore]
    exact List.rdropWhile_append_rtakeWhile.symm
  · rintro ⟨before, gap, hgap, rfl⟩
    rw [← List.append_assoc, trimEnd_append_of_blank hgap, trimEnd_append,
      trimEnd_eq_self hlast, if_neg hne]
    exact List.suffix_append before word

theorem isBindings_eq_true {cs : List Char} :
    isBindings cs = true ↔ AllBlank cs ∨ "from".toList <:+ trimEnd cs ∧ NoParens cs := by
  have hfrom : (dropWord? "morf".toList (trimEnd cs).reverse).isSome = true ↔
      "from".toList <:+ trimEnd cs := by
    rw [isSome_dropWord?_iff, ← List.reverse_prefix]
    rfl
  rw [isBindings, Bool.or_eq_true, Bool.and_eq_true, hfrom, List.all_eq_true, List.all_eq_true]
  simp only [NoParens, AllBlank, Bool.and_eq_true, decide_eq_true_eq]

theorem isBindings_iff {cs : List Char} : isBindings cs = true ↔ IsClause cs := by
  rw [isBindings_eq_true, suffix_trimEnd_iff (by decide) (by rintro c ⟨⟩; decide)]
  constructor
  · rintro (hblank | ⟨⟨names, gap, hgap, rfl⟩, hparens⟩)
    · exact .blank hblank
    · exact .bindings (List.forall_mem_append.mp hparens).1 hgap
  · intro h
    cases h with
    | blank hblank => exact .inl hblank
    | bindings hnames hgap =>
      exact .inr ⟨⟨_, _, hgap, rfl⟩, (IsClause.bindings hnames hgap).noParens⟩

theorem isImportEnd_iff {cs : List Char} : isImportEnd cs = true ↔ IsEnding cs := by
  have hend : isImportEnd cs = true ↔ trim cs = [] ∨ trim cs = [';'] := by simp [isImportEnd]
  rw [hend]
  constructor
  · obtain ⟨gap, trail, hgap, htrail, hcs⟩ := exists_blanks cs
    rintro (hnone | hone)
    · rw [hcs, hnone]
      exact .blank (hgap.append htrail)
    · rw [hcs, hone]
      exact .semicolon hgap htrail
  · intro h
    cases h with
    | blank hgap => exact .inl (trim_eq_nil hgap)
    | semicolon hgap htrail =>
      right
      rw [trim_blank_append hgap, ← List.singleton_append, trim_append_blank htrail]
      decide

theorem isImportTail_append {clause module : List Char} {opening closing : Char}
    (hclause : NoQuotes clause) (hopening : isQuote opening = true) (hmodule : NoQuotes module)
    (hclosing : isQuote closing = true) (ending : List Char) :
    isImportTail (clause ++ opening :: (module ++ closing :: ending)) =
      (isBindings clause && (!module.isEmpty && isImportEnd ending)) := by
  obtain ⟨htake, hdrop⟩ := takeWhile_noQuotes hclause hopening (module ++ closing :: ending)
  obtain ⟨htake', hdrop'⟩ := takeWhile_noQuotes hmodule hclosing ending
  simp only [isImportTail, htake, hdrop, htake', hdrop']

/-- The parts of a line are found where its quotes are. -/
theorem isImportTail_iff {cs : List Char} :
    isImportTail cs = true ↔ ∃ p : LineParts, cs = p.tail := by
  constructor
  · intro h
    cases hfirst : cs.dropWhile (!isQuote ·) with
    | nil => simp [isImportTail, hfirst] at h
    | cons opening rest =>
      cases hsecond : rest.dropWhile (!isQuote ·) with
      | nil => simp [isImportTail, hfirst, hsecond] at h
      | cons closing ending =>
        obtain ⟨hclause, hopening, hcs⟩ := exists_noQuotes hfirst
        obtain ⟨hmodule, hclosing, hrest⟩ := exists_noQuotes hsecond
        rw [hcs, hrest, isImportTail_append hclause hopening hmodule hclosing, Bool.and_eq_true,
          Bool.and_eq_true, isBindings_iff, isImportEnd_iff] at h
        obtain ⟨hisClause, hne, hending⟩ := h
        exact ⟨⟨[], _, opening, _, closing, ending, by simp [AllBlank], hisClause,
          hclause, hopening, by simpa using hne, hmodule, hclosing, hending⟩, hrest ▸ hcs⟩
  · rintro ⟨p, rfl⟩
    rw [LineParts.tail,
      isImportTail_append p.clause_noQuotes p.opening_isQuote p.module_noQuotes p.closing_isQuote,
      isBindings_iff.mpr p.clause_isClause, isImportEnd_iff.mpr p.ending_isEnding]
    simp [p.module_ne_nil]

theorem isImportLine_append_tail {lead : List Char} (hlead : AllBlank lead) (cs : List Char) :
    isImportLine (lead ++ ("import".toList ++ cs)) = isImportTail cs := by
  have hword : trimStart ("import".toList ++ cs) = "import".toList ++ cs :=
    trimStart_eq_self (by rintro c ⟨⟩; decide)
  rw [isImportLine, trimStart_append hlead, hword, dropWord?_eq_some_iff.mpr rfl, Option.any_some]

theorem isImportLine_iff {line : List Char} :
    isImportLine line = true ↔ ∃ p : LineParts, line = p.chars := by
  constructor
  · intro h
    obtain ⟨tail, hword, htail⟩ := (Option.any_eq_true _ _).mp h
    obtain ⟨p, rfl⟩ := isImportTail_iff.mp htail
    refine ⟨{ p with lead := line.takeWhile isBlank, lead_blank := fun c hc =>
      List.mem_takeWhile_imp hc }, ?_⟩
    have hrest : line.dropWhile isBlank = "import".toList ++ p.tail :=
      dropWord?_eq_some_iff.mp hword
    calc line = line.takeWhile isBlank ++ line.dropWhile isBlank :=
      List.takeWhile_append_dropWhile.symm
      _ = line.takeWhile isBlank ++ ("import".toList ++ p.tail) := by rw [hrest]
  · rintro ⟨p, rfl⟩
    rw [LineParts.chars, isImportLine_append_tail p.lead_blank]
    exact isImportTail_iff.mpr ⟨p, rfl⟩

/-! ### What does not matter and what is left out -/

theorem trimEnd_from_append (rest : List Char) :
    trimEnd ("from".toList ++ rest) = "from".toList ++ trimEnd rest := by
  rw [trimEnd_append]
  split
  · rename_i hrest
    rw [hrest]
    decide
  · rfl

/-- Where the last `from` stands decides, and not what the names before it are. -/
theorem isBindings_append_from_append {names : List Char} (hnames : NoParens names)
    (rest : List Char) :
    isBindings (names ++ ("from".toList ++ rest)) = isBindings ("from".toList ++ rest) := by
  have hblank (xs : List Char) : ¬AllBlank (xs ++ ("from".toList ++ rest)) :=
    fun h => by cases h 'f' (by simp)
  have hne : "from".toList ++ trimEnd rest ≠ [] := List.cons_ne_nil _ _
  have hend : "from".toList <:+ trimEnd (names ++ ("from".toList ++ rest)) ↔
      "from".toList <:+ trimEnd ("from".toList ++ rest) := by
    rw [trimEnd_append, trimEnd_from_append, if_neg hne]
    constructor
    · intro h
      -- What is left of the end is as long as the word, so the word does not reach into the names.
      have hlength : "from".toList.length ≤ ("from".toList ++ trimEnd rest).length := by
        rw [List.length_append]
        exact Nat.le_add_right _ _
      exact List.suffix_of_suffix_length_le h (List.suffix_append names _) hlength
    · intro h
      exact h.trans (List.suffix_append names _)
  have hparens : NoParens (names ++ ("from".toList ++ rest)) ↔ NoParens ("from".toList ++ rest) :=
    ⟨fun h => (List.forall_mem_append.mp h).2, hnames.append⟩
  rw [Bool.eq_iff_iff, isBindings_eq_true, isBindings_eq_true, hend, hparens]
  exact or_congr_left (iff_of_false (hblank names) (hblank []))

theorem isImportTail_append_from {names : List Char} (hquotes : NoQuotes names)
    (hparens : NoParens names) (rest : List Char) :
    isImportTail (names ++ ("from".toList ++ rest)) = isImportTail ("from".toList ++ rest) := by
  have hnames : ∀ c ∈ names, (!isQuote c) = true := fun c hc => by simp [hquotes c hc]
  have hfrom : ∀ c ∈ "from".toList, (!isQuote c) = true := List.all_eq_true.mp (by decide)
  simp only [isImportTail, List.takeWhile_append_of_pos hnames, List.dropWhile_append_of_pos hnames,
    List.takeWhile_append_of_pos hfrom, isBindings_append_from_append hparens]

/-- An occurrence that is not in the first part is in the second. -/
theorem exists_of_append_eq {xs ys before after : List Char} {c : Char} (hc : c ∉ xs)
    (h : xs ++ ys = before ++ c :: after) :
    ∃ rest, before = xs ++ rest ∧ ys = rest ++ c :: after := by
  rcases List.append_eq_append_iff.mp h with ⟨rest, hbefore, hys⟩ | ⟨rest, hxs, hys⟩
  · exact ⟨rest, hbefore, hys⟩
  · cases rest with
    | nil => exact ⟨[], by simpa using hxs.symm, by simpa using hys.symm⟩
    | cons d rest =>
      cases hys
      exact absurd (by simp [hxs]) hc

/-- A parenthesis can stand in the module only, behind the first quote and before the second. -/
theorem LineParts.countP_isQuote {p : LineParts} {before after : List Char}
    (h : p.chars = before ++ '(' :: after) :
    before.countP isQuote = 1 := by
  have hquotes : NoQuotes (p.lead ++ ("import".toList ++ p.clause)) :=
    .append (noQuotes_of_blank p.lead_blank) (.append noQuotes_import p.clause_noQuotes)
  have hparens : NoParens (p.lead ++ ("import".toList ++ p.clause)) :=
    .append (noParens_of_blank p.lead_blank)
      (.append (by simp [NoParens]) p.clause_isClause.noParens)
  have hopening : '(' ∉ [p.opening] :=
    mt List.mem_singleton.mp (ne_paren_of_isQuote p.opening_isQuote)
  have hend : '(' ∉ p.closing :: p.ending := by
    rw [List.mem_cons, not_or]
    exact ⟨ne_paren_of_isQuote p.closing_isQuote,
      fun hmem => (p.ending_isEnding.noParens _ hmem).1 rfl⟩
  have hparts : (p.lead ++ ("import".toList ++ p.clause)) ++
      ([p.opening] ++ (p.module ++ p.closing :: p.ending)) = before ++ '(' :: after := by
    rw [← h]
    simp [chars, tail]
  obtain ⟨rest, rfl, hrest⟩ := exists_of_append_eq (fun hmem => (hparens _ hmem).1 rfl) hparts
  obtain ⟨start, rfl, hstart⟩ := exists_of_append_eq hopening hrest
  rcases List.append_eq_append_iff.mp hstart with ⟨more, -, hmore⟩ | ⟨more, hmodule, -⟩
  · exact absurd (by simp [hmore]) hend
  · have hstart : NoQuotes start := fun c hc => p.module_noQuotes c (by simp [hmodule, hc])
    rw [List.countP_append, hquotes.countP_eq_zero, List.countP_append, hstart.countP_eq_zero,
      List.countP_singleton, if_pos p.opening_isQuote]

end Playground.Imports
