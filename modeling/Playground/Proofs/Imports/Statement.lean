import Playground.Imports.Merge
import Playground.Proofs.Text.Lines

/-! Imports of names as text. `Named.Spelled` says how one is written and `Listed` how its names
are; `named?` and `Named.parts` read both back. A scan passes over any text in which the word
`import` is nowhere followed by blanks and an opening brace. -/

namespace Playground.Imports

open Text

/-! ### The names -/

/-- A name as it stands between commas. -/
structure IsBinding (name : List Char) : Prop where
  ne_nil : name ≠ []
  trimmed : Trimmed name
  comma : ',' ∉ name
  brace : '}' ∉ name

/-- Names with commas between them and blanks around them; one more comma may follow. -/
inductive Listed : List Char → List (List Char) → Prop
  | last {before name after : List Char} : AllBlank before → IsBinding name → AllBlank after →
      Listed (before ++ name ++ after) [name]
  | comma {before name after gap : List Char} :
      AllBlank before → IsBinding name → AllBlank after → AllBlank gap →
      Listed (before ++ name ++ after ++ ',' :: gap) [name]
  | more {before name after rest : List Char} {names : List (List Char)} :
      AllBlank before → IsBinding name →
      AllBlank after → Listed rest names → Listed (before ++ name ++ after ++ ',' :: rest)
      (name :: names)

theorem shown_binding {before name after : List Char} (hb : AllBlank before) (hn : IsBinding name)
    (ha : AllBlank after) : shown ',' (before ++ name ++ after) = [name] := by
  rw [shown_append_blank ',' ha, shown_blank_append ',' hb, hn.trimmed.shown_eq hn.ne_nil hn.comma]

/-- The names that are listed are the parts. -/
theorem Listed.parts_eq {text module : List Char} {names : List (List Char)}
    (h : Listed text names) :
    (Named.mk text module).parts = names := by
  change shown ',' text = names
  induction h with
  | last hb hn ha => exact shown_binding hb hn ha
  | comma hb hn ha hg =>
    rw [shown_append, shown_binding hb hn ha, shown_blank ',' hg, List.append_nil]
  | more hb hn ha _ ih => rw [shown_append, shown_binding hb hn ha, ih, List.singleton_append]

theorem Listed.ne_nil {text : List Char} {names : List (List Char)} (h : Listed text names) :
    text ≠ [] := by
  cases h with
  | last _ hn _ => simp [hn.ne_nil]
  | comma | more => simp

theorem Listed.brace {text : List Char} {names : List (List Char)} (h : Listed text names) :
    '}' ∉ text := by
  have hbrace : isBlank '}' = false := by decide
  induction h with
  | last hb hn ha => simp [hb.not_mem hbrace, hn.brace, ha.not_mem hbrace]
  | comma hb hn ha hg => simp [hb.not_mem hbrace, hn.brace, ha.not_mem hbrace, hg.not_mem hbrace]
  | more hb hn ha _ ih => simp [hb.not_mem hbrace, hn.brace, ha.not_mem hbrace, ih]

/-! ### One import -/

/-- At least one blank. -/
structure Gap where
  chars : List Char
  blank : AllBlank chars
  ne_nil : chars ≠ []

def space : Gap := ⟨[' '], by simp [AllBlank]; decide, List.cons_ne_nil _ _⟩

/-- The names between braces, as they are printed. -/
theorem listed_intercalate {names : List (List Char)} (hne : names ≠ [])
    (h : ∀ name ∈ names, IsBinding name) :
    Listed (' ' :: (", ".toList.intercalate names ++ [' '])) names := by
  have hblank : AllBlank [' '] := space.blank
  induction names with
  | nil => exact absurd rfl hne
  | cons name names ih =>
    obtain ⟨hname, hnames⟩ := List.forall_mem_cons.mp h
    cases names with
    | nil => simpa using Listed.last hblank hname hblank
    | cons next names =>
      have hnone : AllBlank [] := by simp [AllBlank]
      rw [List.intercalate_cons_cons]
      simpa using Listed.more hblank hname hnone (ih (List.cons_ne_nil next names) hnames)

/-- An import of names up to its closing quote. -/
def Named.chars (n : Named) (a b c : Gap) (quote : Char) : List Char :=
  "import".toList ++ (a.chars ++ '{' :: (n.names ++ '}' :: (b.chars ++ ("from".toList ++
    (c.chars ++ quote :: (n.module ++ [quote]))))))

/-- There is something between the braces and between the quotes. -/
structure Named.Fits (n : Named) : Prop where
  names_ne_nil : n.names ≠ []
  brace : '}' ∉ n.names
  module_ne_nil : n.module ≠ []
  quote : ∀ c ∈ n.module, isQuote c = false

/-- All blanks are passed over, as long as there is one. -/
theorem Gap.dropBlanks? (gap : Gap) {cs : List Char} (h : ∀ c ∈ cs.head?, isBlank c = false) :
    dropBlanks? (gap.chars ++ cs) = some cs := by
  obtain ⟨w, hw, hne⟩ := gap
  have hdrop : trimStart (w ++ cs) = cs := (trimStart_append hw cs).trans (trimStart_eq_self h)
  obtain ⟨d, w, rfl⟩ := List.exists_cons_of_ne_nil hne
  unfold trimStart at hdrop
  rw [List.cons_append] at hdrop ⊢
  simp [Imports.dropBlanks?, hw d List.mem_cons_self, hdrop]

theorem run?_append {p : Char → Bool} {xs : List Char} (hne : xs ≠ [])
    (h : ∀ c ∈ xs, p c = true) {c : Char} (hc : p c = false)
    (cs : List Char) : run? p (xs ++ c :: cs) = some (xs, c :: cs) := by
  simp [run?, List.takeWhile_append_of_pos h, List.dropWhile_append_of_pos h, hc, hne]

theorem isBlank_of_isQuote {c : Char} (h : isQuote c = true) : isBlank c = false := by
  unfold isQuote at h
  rcases Bool.or_eq_true_iff.mp h with h | h <;> rw [of_decide_eq_true h] <;> decide

/-- An import of names up to its closing quote, which need not be the one that opens. -/
def Named.written (n : Named) (a b c : Gap) (opening closing : Char) : List Char :=
  "import".toList ++ (a.chars ++ '{' :: (n.names ++ '}' :: (b.chars ++ ("from".toList ++
    (c.chars ++ opening :: (n.module ++ [closing]))))))

/-- An import of names is found where it stands, with the blanks and the semicolon after it. -/
theorem Named.Fits.named?_written {n : Named} (h : n.Fits) {a b c : Gap} {opening closing : Char}
    (ho : isQuote opening = true) (hc : isQuote closing = true) (after : List Char) :
    Imports.named? (n.written a b c opening closing ++ after) =
      some (n, dropSemicolon (after.dropWhile isBlank)) := by
  have hword (word cs : List Char) : dropWord? word (word ++ cs) = some cs :=
    dropWord?_eq_some_iff.mpr rfl
  have hopen (cs : List Char) : dropWord? ['{'] ('{' :: cs) = some cs := hword ['{'] cs
  have hclose (cs : List Char) : dropWord? ['}'] ('}' :: cs) = some cs := hword ['}'] cs
  have hquote {quote : Char} (hq : isQuote quote = true) (cs : List Char) :
      dropQuote? (quote :: cs) = some cs := by
    simp [dropQuote?, hq]
  have hnames : ∀ c ∈ n.names, decide (c ≠ '}') = true := by
    intro c hc
    refine decide_eq_true ?_
    rintro rfl
    exact h.brace hc
  have hmodule : ∀ c ∈ n.module, (!isQuote c) = true := fun c hc => by rw [h.quote c hc]; rfl
  -- The steps of the reading, one after the other.
  delta written
  simp only [Imports.named?, List.append_assoc, List.cons_append, List.nil_append,
    Option.bind_eq_bind]
  rw [hword, Option.bind_some, a.dropBlanks? (by simp; decide), Option.bind_some, hopen,
    Option.bind_some,
    run?_append h.names_ne_nil hnames (by simp), Option.bind_some, hclose, Option.bind_some,
    b.dropBlanks? (by simp; decide), Option.bind_some, hword, Option.bind_some,
    c.dropBlanks? (by simp [isBlank_of_isQuote ho]), Option.bind_some, hquote ho, Option.bind_some,
    run?_append h.module_ne_nil hmodule (by simp [hc]), Option.bind_some, hquote hc,
    Option.bind_some]
  rfl

theorem Named.Fits.named? {n : Named} (h : n.Fits) {a b c : Gap} {quote : Char}
    (hq : isQuote quote = true) (after : List Char) :
    named? (n.chars a b c quote ++ after) = some (n, dropSemicolon (after.dropWhile isBlank)) :=
  h.named?_written hq hq after

/-! ### Scans -/

/-- The text begins with `import`, blanks and an opening brace. -/
def opensNames (cs : List Char) : Bool :=
  ((dropWord? "import".toList cs).bind dropBlanks?).any (·.head? = some '{')

/-- Somewhere in the text stands `import`, then blanks and an opening brace. -/
def hasOpening : List Char → Bool
  | [] => false
  | c :: cs => opensNames (c :: cs) || hasOpening cs

theorem named?_eq_none {cs : List Char} (h : opensNames cs = false) : named? cs = none := by
  unfold opensNames at h
  unfold named?
  cases hw : dropWord? "import".toList cs with
  | none => rfl
  | some cs =>
    cases hb : dropBlanks? cs with
    | none => simp [hb]
    | some cs =>
      simp only [hw, hb, Option.bind_some, Option.any_some, decide_eq_false_iff_not] at h
      have hbrace : dropWord? ['{'] cs = none := by
        refine Option.eq_none_iff_forall_ne_some.mpr fun rest hrest => h ?_
        rw [dropWord?_eq_some_iff.mp hrest]
        rfl
      simp [hb, hbrace]

theorem exists_gap {cs rest : List Char} (h : dropBlanks? cs = some rest) :
    ∃ gap : Gap, cs = gap.chars ++ rest := by
  unfold dropBlanks? at h
  split at h
  · rename_i c cs
    split at h
    · rename_i hc
      cases h
      refine ⟨⟨(c :: cs).takeWhile isBlank, fun d hd => List.mem_takeWhile_imp hd, ?_⟩, ?_⟩
      · simp [hc]
      · exact List.takeWhile_append_dropWhile.symm
    · cases h
  · cases h

theorem exists_quote {cs rest : List Char} (h : dropQuote? cs = some rest) :
    ∃ quote, isQuote quote = true ∧ cs = quote :: rest := by
  unfold dropQuote? at h
  split at h
  · rename_i c cs
    split at h
    · rename_i hc
      cases h
      exact ⟨c, hc, rfl⟩
    · cases h
  · cases h

theorem exists_run {p : Char → Bool} {cs taken rest : List Char}
    (h : run? p cs = some (taken, rest)) :
    taken ≠ [] ∧ (∀ c ∈ taken, p c = true) ∧ cs = taken ++ rest := by
  unfold run? at h
  split at h
  · cases h
  · rename_i hne
    cases h
    exact ⟨by simpa using hne, fun c hc => List.mem_takeWhile_imp hc,
      List.takeWhile_append_dropWhile.symm⟩

/-- What is found is an import of names as it is written. -/
theorem exists_written {cs rest : List Char} {n : Named} (h : named? cs = some (n, rest)) :
    n.Fits ∧ ∃ (a b c : Gap) (opening closing : Char) (after : List Char), isQuote opening = true ∧
      isQuote closing = true ∧ cs = n.written a b c opening closing ++ after ∧
      rest = dropSemicolon (after.dropWhile isBlank) := by
  simp only [named?, Option.bind_eq_bind, Option.bind_eq_some_iff, Option.pure_def,
    Option.some.injEq, Prod.mk.injEq] at h
  obtain ⟨_, hword, _, ha, _, hopen, ⟨names, _⟩, hnames, _, hclose, _, hb, _, hfrom, _, hc, _, hq,
    ⟨module, _⟩, hmodule, after, hq', rfl, rfl⟩ := h
  obtain ⟨a, rfl⟩ := exists_gap ha
  obtain ⟨b, rfl⟩ := exists_gap hb
  obtain ⟨c, rfl⟩ := exists_gap hc
  obtain ⟨hne, hbrace, rfl⟩ := exists_run hnames
  obtain ⟨opening, ho, rfl⟩ := exists_quote hq
  obtain ⟨hne', hquote, rfl⟩ := exists_run hmodule
  obtain ⟨closing, hcl, heq⟩ := exists_quote hq'
  rw [dropWord?_eq_some_iff] at hword hopen hclose hfrom
  subst hword hopen heq
  cases hfrom
  cases hclose
  refine ⟨⟨hne, fun hmem => ?_, hne', fun d hd => by simpa using hquote d hd⟩, a, b, c, opening,
    closing, after, ho, hcl, ?_, rfl⟩
  · simpa using hbrace '}' hmem
  · delta Named.written
    simp

theorem exists_of_opensNames {cs : List Char} (h : opensNames cs = true) :
    ∃ (gap : Gap) (rest : List Char), cs = "import".toList ++ (gap.chars ++ '{' :: rest) := by
  unfold opensNames at h
  cases hw : dropWord? "import".toList cs with
  | none =>
    rw [hw] at h
    cases h
  | some mid =>
    rw [hw, Option.bind_some] at h
    cases hb : dropBlanks? mid with
    | none =>
      rw [hb] at h
      cases h
    | some rest =>
      rw [hb, Option.any_some, decide_eq_true_eq] at h
      obtain ⟨rest, rfl⟩ := List.head?_eq_some_iff.mp h
      obtain ⟨gap, rfl⟩ := exists_gap hb
      exact ⟨gap, rest, dropWord?_eq_some_iff.mp hw⟩

theorem opensNames_append (gap : Gap) (rest : List Char) :
    opensNames ("import".toList ++ (gap.chars ++ '{' :: rest)) = true := by
  rw [opensNames, dropWord?_eq_some_iff.mpr rfl, Option.bind_some,
    gap.dropBlanks? (by simp; decide)]
  rfl

theorem scan_nil : scan [] = ([], []) := by
  rw [scan]
  rfl

theorem scan_of_named? {cs rest : List Char} {n : Named} (h : named? cs = some (n, rest)) :
    scan cs = (n :: (scan rest).1, (scan rest).2) := by
  rw [scan]
  split
  · rename_i n' rest' h'
    rw [h] at h'
    cases h'
    rfl
  · rename_i h'
    rw [h] at h'
    cases h'

theorem scan_cons {c : Char} {cs : List Char} (h : named? (c :: cs) = none) :
    scan (c :: cs) = ((scan cs).1, c :: (scan cs).2) := by
  rw [scan]
  split
  · rename_i n' rest' h'
    rw [h] at h'
    cases h'
  · rfl

/-- What holds of the empty text, and is kept when a scan finds an import or goes on by a character,
holds of every text. -/
theorem scan_induction {motive : List Char → Prop} (nil : motive [])
    (found : ∀ cs n rest, named? cs = some (n, rest) → motive rest → motive cs)
    (skip : ∀ c cs, named? (c :: cs) = none → motive cs → motive (c :: cs))
    (cs : List Char) : motive cs := by
  induction hlen : cs.length using Nat.strong_induction_on generalizing cs with
  | _ k ih =>
    cases hnamed : named? cs with
    | some found =>
      obtain ⟨n, rest⟩ := found
      have hlt := length_named? hnamed
      exact found cs n rest hnamed (ih rest.length (hlen ▸ hlt) rest rfl)
    | none =>
      cases cs with
      | nil => exact nil
      | cons c cs => exact skip c cs hnamed (ih cs.length (by simp [← hlen]) cs rfl)

/-- A scan passes over a text in which no import of names begins. -/
theorem scan_skip {cs rest : List Char}
    (h : ∀ s, s ≠ [] → s <:+ cs → opensNames (s ++ rest) = false) :
    scan (cs ++ rest) = ((scan rest).1, cs ++ (scan rest).2) := by
  induction cs with
  | nil => rfl
  | cons c cs ih =>
    have hnone : named? (c :: (cs ++ rest)) = none :=
      named?_eq_none (h (c :: cs) (List.cons_ne_nil c cs) (List.suffix_refl _))
    rw [List.cons_append, scan_cons hnone,
      ih fun s hne hs => h s hne (hs.trans (List.suffix_cons c cs))]
    rfl

/-! ### Openings -/

theorem opensNames_of_head? {cs : List Char} (h : cs.head? ≠ some 'i') : opensNames cs = false := by
  rw [← Bool.not_eq_true]
  intro hopen
  obtain ⟨gap, rest, rfl⟩ := exists_of_opensNames hopen
  exact h rfl

theorem hasOpening_eq_false_iff {cs : List Char} :
    hasOpening cs = false ↔ ∀ s, s <:+ cs → opensNames s = false := by
  induction cs with
  | nil =>
    have : opensNames [] = false := opensNames_of_head? (by simp)
    simp [hasOpening, this]
  | cons c cs ih => simp [hasOpening, ih, List.suffix_cons_iff]

theorem hasOpening_of_not_mem {cs : List Char} (h : '{' ∉ cs) : hasOpening cs = false := by
  refine hasOpening_eq_false_iff.mpr fun s hs => ?_
  rw [← Bool.not_eq_true]
  intro hopen
  obtain ⟨gap, rest, rfl⟩ := exists_of_opensNames hopen
  exact h (hs.subset (by simp))

theorem hasOpening_cons_of_ne {c : Char} (h : c ≠ 'i') (cs : List Char) :
    hasOpening (c :: cs) = hasOpening cs := by
  rw [hasOpening, opensNames_of_head? (by simpa using h), Bool.false_or]

theorem hasOpening_append_of_not_mem {word : List Char} (h : 'i' ∉ word) (cs : List Char) :
    hasOpening (word ++ cs) = hasOpening cs := by
  induction word with
  | nil => rfl
  | cons c word ih =>
    rw [List.mem_cons, not_or] at h
    rw [List.cons_append, hasOpening_cons_of_ne (Ne.symm h.1), ih h.2]

/-- The character stands nowhere between the word and the brace that it opens names with. -/
structure Parts (c : Char) : Prop where
  word : c ∉ "import".toList
  blank : isBlank c = false
  brace : c ≠ '{'

theorem opensNames_append_cons {c : Char} (hc : Parts c) {xs : List Char}
    (h : opensNames xs = false) (ys : List Char) : opensNames (xs ++ c :: ys) = false := by
  rw [← Bool.not_eq_true]
  intro hopen
  obtain ⟨gap, tail, heq⟩ := exists_of_opensNames hopen
  rw [← List.append_assoc] at heq
  rcases List.append_eq_append_iff.mp heq with ⟨mid, hmid, hc'⟩ | ⟨mid, rfl, hmid⟩
  · cases mid with
    | nil =>
      cases hc'
      exact hc.brace rfl
    | cons d mid =>
      cases hc'
      have hmem : c ∈ "import".toList ++ gap.chars := by rw [hmid]; simp
      rcases List.mem_append.mp hmem with hmem | hmem
      · exact hc.word hmem
      · have := gap.blank c hmem
        rw [hc.blank] at this
        cases this
  · cases mid with
    | nil =>
      cases hmid
      exact hc.brace rfl
    | cons d mid =>
      cases hmid
      rw [List.append_assoc, opensNames_append] at h
      cases h

/-- No import of names goes across a character that parts it. -/
theorem hasOpening_append_cons {c : Char} (hc : Parts c) {xs ys : List Char}
    (hx : hasOpening xs = false) (hy : hasOpening ys = false) :
    hasOpening (xs ++ c :: ys) = false := by
  induction xs with
  | nil =>
    rw [List.nil_append, hasOpening, hy, opensNames_of_head?]
    · rfl
    · rintro ⟨⟩
      exact hc.word (by decide)
  | cons x xs ih =>
    rw [hasOpening, Bool.or_eq_false_iff] at hx
    rw [List.cons_append, hasOpening, ih hx.2, ← List.cons_append, opensNames_append_cons hc hx.1]
    rfl

end Playground.Imports
