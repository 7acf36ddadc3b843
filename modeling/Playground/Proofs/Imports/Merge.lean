import Playground.Proofs.Imports.Groups
import Playground.Proofs.Imports.Split
import Playground.Proofs.Imports.Statement

/-! Merging the lines of a header. Each line is an import of names or is carried along; the merged
text has one line for each module that names are imported from, and then the lines that are carried
along, in their order. -/

namespace Playground.Imports

open Text

/-! ### Lines of a header -/

/-- The line is one import of names; blanks and one semicolon may follow it. -/
inductive Named.Spelled (n : Named) : List Char → Prop
  | plain {a b c : Gap} {quote : Char} {after : List Char} :
      n.Fits → isQuote quote = true → AllBlank after →
      Spelled n (n.chars a b c quote ++ after)
  | closed {a b c : Gap} {quote : Char} {before after : List Char} : n.Fits → isQuote quote = true →
      AllBlank before → AllBlank after → Spelled n (n.chars a b c quote ++ (before ++ ';' :: after))

/-- The line is an import that takes no part in merging. -/
structure IsCarried (line : List Char) : Prop where
  word : "import".toList <+: line
  trimmed : Trimmed line
  feed : '\n' ∉ line
  opening : hasOpening line = false

/-- The lines are imports of names, or they are carried along. -/
inductive Parted : List (List Char) → List Named → List (List Char) → Prop
  | nil : Parted [] [] []
  | named {line : List Char} {n : Named} {lines : List (List Char)} {ns : List Named}
      {carried : List (List Char)} :
      n.Spelled line → Parted lines ns carried → Parted (line :: lines) (n :: ns) carried
  | carried {line : List Char} {lines : List (List Char)} {ns : List Named}
      {carried : List (List Char)} :
      IsCarried line → Parted lines ns carried → Parted (line :: lines) ns (line :: carried)

theorem Named.Spelled.word {n : Named} {line : List Char} (h : n.Spelled line) :
    "import".toList <+: line := by
  cases h with
  | plain | closed =>
    delta Named.chars
    rw [List.append_assoc]
    exact List.prefix_append _ _

theorem Parted.word {ls : List (List Char)} {ns : List Named} {cs : List (List Char)}
    (h : Parted ls ns cs) :
    ∀ line ∈ ls, "import".toList <+: line := by
  induction h with
  | nil => simp
  | named hn _ ih => exact List.forall_mem_cons.mpr ⟨hn.word, ih⟩
  | carried hc _ ih => exact List.forall_mem_cons.mpr ⟨hc.word, ih⟩

theorem head?_of_word {line : List Char} (h : "import".toList <+: line) :
    line.head? = some 'i' := by
  obtain ⟨rest, rfl⟩ := h
  rfl

theorem ne_nil_of_word {line : List Char} (h : "import".toList <+: line) : line ≠ [] := by
  rintro rfl
  cases head?_of_word h

/-- Lines that begin with the word make a text that does. -/
theorem head?_unlines {ls : List (List Char)} (h : ∀ line ∈ ls, "import".toList <+: line)
    (hne : ls ≠ []) :
    (unlines ls).head? = some 'i' := by
  obtain ⟨l, ls, rfl⟩ := List.exists_cons_of_ne_nil hne
  have hl := head?_of_word (h l List.mem_cons_self)
  cases ls with
  | nil => rwa [unlines_singleton]
  | cons m ls => rw [unlines_cons l (List.cons_ne_nil m ls), List.head?_append, hl]; rfl

theorem IsCarried.shown_eq {line : List Char} (h : IsCarried line) : shown '\n' line = [line] :=
  h.trimmed.shown_eq (ne_nil_of_word h.word) h.feed

/-! ### Scanning the lines -/

/-- Blanks are passed over. -/
theorem scan_blank {w : List Char} (hw : AllBlank w) (rest : List Char) :
    scan (w ++ rest) = ((scan rest).1, w ++ (scan rest).2) := by
  refine scan_skip fun s hne hs => opensNames_of_head? ?_
  obtain ⟨c, s, rfl⟩ := List.exists_cons_of_ne_nil hne
  have hblank : isBlank c = true := hw c (hs.subset List.mem_cons_self)
  rw [List.cons_append, List.head?_cons]
  rintro ⟨⟩
  cases hblank

/-- A gap at the end of a text is blank there. -/
theorem Gap.getLast?_append (gap : Gap) (cs : List Char) :
    ∃ c ∈ (cs ++ gap.chars).getLast?, isBlank c = true := by
  refine ⟨gap.chars.getLast gap.ne_nil, ?_, gap.blank _ (List.getLast_mem gap.ne_nil)⟩
  rw [List.getLast?_append_of_ne_nil _ gap.ne_nil, List.getLast?_eq_some_getLast gap.ne_nil]
  rfl

/-- No import of names begins in a text and goes on after it, if the text ends in something to be
seen and blanks follow it, and then no brace. -/
theorem opensNames_append_of_last {s rest : List Char} (hlast : ∀ c ∈ s.getLast?, isBlank c = false)
    (hrest : ∀ c ∈ rest.head?, isBlank c = true) (hbrace : (trimStart rest).head? ≠ some '{')
    (h : opensNames s = false) : opensNames (s ++ rest) = false := by
  rw [← Bool.not_eq_true]
  intro hopen
  obtain ⟨gap, tail, heq⟩ := exists_of_opensNames hopen
  rw [← List.append_assoc] at heq
  rcases List.append_eq_append_iff.mp heq with ⟨mid, hmid, rfl⟩ | ⟨mid, rfl, hmid⟩
  · -- The brace comes after the text, and all between them is blank.
    refine hbrace ?_
    have hblank : AllBlank mid := by
      rcases List.append_eq_append_iff.mp hmid with ⟨mid', -, hgap⟩ | ⟨mid', hword, rfl⟩
      · exact fun c hc => gap.blank c (hgap ▸ List.mem_append_right _ hc)
      · cases mid' with
        | nil => exact gap.blank
        | cons c mid' =>
          have hword' : ∀ c ∈ "import".toList, isBlank c = false :=
            forall_eq_false_of_any (by decide)
          have hc := hrest c rfl
          rw [hword' c (by rw [hword]; simp)] at hc
          cases hc
    rw [trimStart_append hblank]
    rfl
  · cases mid with
    | nil =>
      obtain ⟨c, hc, hblank⟩ := gap.getLast?_append "import".toList
      rw [List.append_nil] at hlast
      rw [hlast c hc] at hblank
      cases hblank
    | cons c mid =>
      cases hmid
      rw [List.append_assoc, opensNames_append] at h
      cases h

/-- A line that is carried along is passed over, if blanks follow it and then no brace. -/
theorem IsCarried.scan_append {line : List Char} (h : IsCarried line) {after : List Char}
    (hafter : ∀ c ∈ after.head?, isBlank c = true) (hbrace : (trimStart after).head? ≠ some '{') :
    scan (line ++ after) = ((scan after).1, line ++ (scan after).2) := by
  refine scan_skip fun s hne hs => ?_
  refine opensNames_append_of_last (fun c hc => ?_)
    hafter hbrace (hasOpening_eq_false_iff.mp h.opening s hs)
  obtain ⟨before, rfl⟩ := hs
  refine h.trimmed.last c ?_
  rwa [List.getLast?_append_of_ne_nil _ hne]

/-- An import of names is taken out, with the blanks after it up to a semicolon or to what comes
next. -/
theorem Named.Spelled.scan_append {n : Named} {line : List Char} (h : n.Spelled line)
    {w : List Char} (hw : AllBlank w) {rest : List Char}
    (hrest : ∀ c ∈ rest.head?, isBlank c = false ∧ c ≠ ';') :
    ∃ v, AllBlank v ∧ (v = [] ∨ w <:+ v) ∧
      scan (line ++ (w ++ rest)) = (n :: (scan rest).1, v ++ (scan rest).2) := by
  cases h with
  | @plain a b c quote after hn hq ha =>
    refine ⟨[], by simp [AllBlank], .inl rfl, ?_⟩
    have hdrop : dropSemicolon ((after ++ (w ++ rest)).dropWhile isBlank) = rest := by
      change dropSemicolon (trimStart (after ++ (w ++ rest))) = rest
      rw [trimStart_append ha, trimStart_append hw, trimStart_eq_self fun c hc => (hrest c hc).1]
      unfold dropSemicolon
      split
      · exact absurd rfl (hrest ';' rfl).2
      · rfl
    rw [List.append_assoc, scan_of_named? (hn.named? hq _), hdrop]
    rfl
  | @closed a b c quote before after hn hq hb ha =>
    refine ⟨after ++ w, ha.append hw, .inr (List.suffix_append after w), ?_⟩
    have hdrop : dropSemicolon ((before ++ ';' :: after ++ (w ++ rest)).dropWhile isBlank) =
        after ++ w ++ rest := by
      change dropSemicolon (trimStart (before ++ ';' :: after ++ (w ++ rest))) = after ++ w ++ rest
      rw [List.append_assoc, trimStart_append hb, List.cons_append,
        trimStart_eq_self (by simp; decide)]
      simp [dropSemicolon]
    rw [List.append_assoc, scan_of_named? (hn.named? hq _), hdrop, scan_blank (ha.append hw)]

/-- A scan of lines gives the imports of names, and leaves the lines that are carried along. -/
theorem Parted.scan_unlines {ls : List (List Char)} {ns : List Named} {cs : List (List Char)}
    (h : Parted ls ns cs) :
    (scan (unlines ls)).1 = ns ∧ shown '\n' (scan (unlines ls)).2 = cs ∧
      Flush (scan (unlines ls)).2 := by
  induction h with
  | nil =>
    rw [unlines_nil, scan_nil]
    exact ⟨rfl, rfl, AllBlank.flush (by simp [AllBlank])⟩
  | @named line n ls ns cs hn hls ih =>
    obtain ⟨hns, hcs, hflush⟩ := ih
    obtain ⟨w, hw, heq, hcase⟩ := exists_unlines_cons line ls
    have hrest : ∀ c ∈ (unlines ls).head?, isBlank c = false ∧ c ≠ ';' := by
      rcases hcase with ⟨-, rfl⟩ | ⟨-, hne⟩
      · simp
      · simp [head?_unlines hls.word hne]
        decide
    obtain ⟨v, hv, hend, hscan⟩ := hn.scan_append hw hrest
    rw [heq, hscan, hns, shown_blank_append '\n' hv, hcs]
    refine ⟨rfl, rfl, ?_⟩
    rcases hend with rfl | ⟨u, rfl⟩
    · exact hflush
    · rcases hcase with ⟨-, rfl⟩ | ⟨rfl, -⟩
      · rw [unlines_nil, scan_nil, List.append_nil]
        exact hv.flush
      · rw [List.append_assoc]
        exact flush_append.mpr ⟨AllBlank.flush (List.forall_mem_append.mp hv).1, hflush⟩
  | @carried line ls ns cs hc hls ih =>
    obtain ⟨hns, hcs, hflush⟩ := ih
    obtain ⟨w, hw, heq, hcase⟩ := exists_unlines_cons line ls
    rw [heq]
    rcases hcase with ⟨rfl, rfl⟩ | ⟨rfl, hne⟩
    · obtain ⟨⟩ := hls
      rw [unlines_nil, hc.scan_append (by simp) (by simp [trimStart]), List.append_nil, scan_nil,
        List.append_nil]
      exact ⟨rfl, hc.shown_eq, hc.trimmed.flush hc.feed⟩
    · have hhead := head?_unlines hls.word hne
      have hbrace : (trimStart (['\n'] ++ unlines ls)).head? ≠ some '{' := by
        rw [trimStart_append hw, trimStart_eq_self (by simp [hhead]; decide), hhead]
        decide
      rw [hc.scan_append (by simp; decide) hbrace, scan_blank hw, hns]
      exact ⟨rfl, by simp [shown_append, hcs, hc.shown_eq],
        flush_append.mpr ⟨hc.trimmed.flush hc.feed, hflush⟩⟩

/-! ### The merged text -/

/-- The line that stands for a group. -/
def Group.line (g : Group) : List Char :=
  "import \x7b ".toList ++ ", ".toList.intercalate g.names ++ " \x7d from '".toList ++
    g.module ++ ['\'']

theorem Group.chars_eq (g : Group) : g.chars = g.line ++ ['\n'] := by
  delta Group.chars Group.line
  rw [List.append_assoc _ ['\'']]
  rfl

theorem Group.word (g : Group) : "import".toList <+: g.line := by
  delta Group.line
  have hword : "import".toList <+: "import \x7b ".toList := ⟨" \x7b ".toList, rfl⟩
  simp only [List.append_assoc]
  exact hword.trans (List.prefix_append _ _)

theorem Group.trimmed_line (g : Group) : Trimmed g.line := by
  constructor
  · intro c hc
    rw [head?_of_word g.word] at hc
    cases hc
    decide
  · intro c hc
    have hlast : g.line.getLast? = some '\'' := List.getLast?_concat
    rw [hlast] at hc
    cases hc
    decide

theorem flatMap_chars (gs : List Group) (rest : List Char) :
    gs.flatMap Group.chars ++ rest = unlines (gs.map Group.line ++ [rest]) := by
  induction gs with
  | nil => simp
  | cons g gs ih =>
    rw [List.flatMap_cons, Group.chars_eq, List.append_assoc, ih, List.map_cons, List.cons_append,
      unlines_cons _ (by simp)]
    simp

/-- Groups and trimmed text after them are trimmed as a whole; without that text, the last line is
not ended. -/
theorem trim_flatMap_chars (gs : List Group) {rest : List Char} (h : Trimmed rest) :
    ∃ lines, trim (gs.flatMap Group.chars ++ rest) = unlines (gs.map Group.line ++ lines) ∧
      (lines.map trim).filter (!·.isEmpty) = shown '\n' rest := by
  have hlines : ∀ l ∈ gs.map Group.line, l ≠ [] ∧ Trimmed l := by
    intro l hl
    obtain ⟨g, -, rfl⟩ := List.mem_map.mp hl
    exact ⟨ne_nil_of_word g.word, g.trimmed_line⟩
  by_cases hrest : rest = []
  · subst hrest
    refine ⟨[], ?_, rfl⟩
    cases gs with
    | nil => rfl
    | cons g gs =>
      rw [flatMap_chars, unlines_append (by simp) (by simp), unlines_singleton, List.append_nil,
        trim_append_blank (by simp [AllBlank]; decide), (trimmed_unlines hlines).trim_eq]
  · refine ⟨cutAt (· = '\n') rest, ?_, rfl⟩
    have hall : ∀ l ∈ gs.map Group.line ++ [rest], l ≠ [] ∧ Trimmed l :=
      List.forall_mem_append.mpr ⟨hlines, by simpa using ⟨hrest, h⟩⟩
    rw [flatMap_chars, (trimmed_unlines hall).trim_eq, unlines_append_cutAt]

/-- The text has one import for each module, with exactly the names that `binds` gives it, and then
the lines that are carried along. -/
def Unified (binds : List Char → List Char → Prop) (carried : List (List Char)) (text : List Char) :
    Prop :=
  ∃ (gs : List Group) (lines : List (List Char)), Tidy gs ∧
    (∀ module name, Binds gs module name ↔ binds module name) ∧
    text = unlines (gs.map Group.line ++ lines) ∧ (lines.map trim).filter (!·.isEmpty) = carried

theorem Unified.congr {binds binds' : List Char → List Char → Prop}
    {carried carried' : List (List Char)} {text : List Char} (h : Unified binds carried text)
    (hbinds : ∀ module name, binds module name ↔ binds' module name)
    (hcarried : carried = carried') : Unified binds' carried' text := by
  obtain ⟨gs, lines, htidy, hgs, htext, hlines⟩ := h
  exact ⟨gs, lines, htidy, fun module name => (hgs module name).trans (hbinds module name), htext,
    hlines.trans hcarried⟩

/-- Merging lines unifies their imports of names, and carries the others along. -/
theorem Parted.unified_merge {ls : List (List Char)} {ns : List Named} {cs : List (List Char)}
    (h : Parted ls ns cs) :
    Unified (fun module name => ∃ n ∈ ns, n.module = module ∧ name ∈ n.parts)
      cs (merge (unlines ls)) := by
  obtain ⟨hns, hcs, -⟩ := h.scan_unlines
  obtain ⟨lines, htext, hlines⟩ :=
    trim_flatMap_chars (groups ns) (trimmed_trim (scan (unlines ls)).2)
  refine ⟨groups ns, lines, tidy_groups ns, fun _ _ => binds_groups, ?_, ?_⟩
  · rw [← htext, ← hns]
    rfl
  · rw [hlines, shown_trim, hcs]

/-! ### Plain lines -/

/-- The line is an import of names, each listed as a plain binding. -/
def IsNamedImport (line : List Char) : Prop :=
  ∃ (n : Named) (names : List (List Char)), n.Spelled line ∧ Listed n.names names

/-- The line is an import that brings in the name from the module. -/
def Brings (line module name : List Char) : Prop :=
  ∃ (text : List Char) (names : List (List Char)),
    (Named.mk text module).Spelled line ∧ Listed text names ∧ name ∈ names

theorem Named.Spelled.unique {n n' : Named} {line : List Char} (h : n.Spelled line)
    (h' : n'.Spelled line) : n = n' := by
  have hscan : ∀ {n : Named}, n.Spelled line → (scan line).1 = [n] := by
    intro n h
    obtain ⟨v, -, -, hv⟩ : ∃ v, AllBlank v ∧ (v = [] ∨ [] <:+ v) ∧
        scan (line ++ ([] ++ [])) = (n :: (scan []).1, v ++ (scan []).2) :=
      h.scan_append (by simp [AllBlank]) (by simp)
    rw [List.append_nil, List.append_nil, scan_nil] at hv
    rw [hv]
  simpa using (hscan h).symm.trans (hscan h')

theorem Named.Spelled.hasOpening {n : Named} {line : List Char} (h : n.Spelled line) :
    hasOpening line = true := by
  rw [← Bool.not_eq_false]
  intro hfalse
  have hopen := hasOpening_eq_false_iff.mp hfalse line (List.suffix_refl _)
  cases h with
  | plain | closed =>
    delta Named.chars at hopen
    simp only [List.append_assoc, List.cons_append] at hopen
    rw [opensNames_append] at hopen
    cases hopen

theorem brings_iff {n : Named} {line : List Char} {names : List (List Char)} (h : n.Spelled line)
    (hnames : Listed n.names names) {module name : List Char} :
    Brings line module name ↔ n.module = module ∧ name ∈ n.parts := by
  constructor
  · rintro ⟨text, names', h', hnames', hmem⟩
    cases h.unique h'
    exact ⟨rfl, hnames'.parts_eq ▸ hmem⟩
  · rintro ⟨rfl, hmem⟩
    exact ⟨n.names, names, h, hnames, hnames.parts_eq ▸ hmem⟩

theorem Brings.trim_ne_nil {line module name : List Char} (h : Brings line module name) :
    trim line ≠ [] := by
  obtain ⟨text, names, hn, -, -⟩ := h
  intro hnil
  obtain ⟨w, v, hw, hv, heq⟩ := exists_blanks line
  rw [hnil, List.nil_append] at heq
  have hblank := (heq ▸ hw.append hv) 'i' (List.mem_of_mem_head? (head?_of_word hn.word))
  cases hblank

theorem IsCarried.not_brings {line module name : List Char} (h : IsCarried line) :
    ¬ Brings line module name := by
  rintro ⟨text, names, h', -, -⟩
  have hopen := h'.hasOpening
  rw [h.opening] at hopen
  cases hopen

theorem IsNamedImport.hasOpening {line : List Char} (h : IsNamedImport line) :
    hasOpening line = true := by
  obtain ⟨n, names, hn, -⟩ := h
  exact hn.hasOpening

/-- Lines that are imports of plain bindings, or are carried along, can be told apart. -/
theorem exists_parted {ls : List (List Char)}
    (h : ∀ line ∈ ls, IsNamedImport line ∨ IsCarried line) :
    ∃ ns, Parted ls ns (ls.filter (!hasOpening ·)) ∧
      ∀ module name, (∃ n ∈ ns, n.module = module ∧ name ∈ n.parts) ↔
        ∃ line ∈ ls, Brings line module name := by
  induction ls with
  | nil => exact ⟨[], .nil, by simp⟩
  | cons line ls ih =>
    obtain ⟨hline, hls⟩ := List.forall_mem_cons.mp h
    obtain ⟨ns, hparted, hbrings⟩ := ih hls
    rcases hline with ⟨n, names, hn, hnames⟩ | hc
    · refine ⟨n :: ns, ?_, fun module name => ?_⟩
      · rw [List.filter_cons_of_neg (by simp [hn.hasOpening])]
        exact .named hn hparted
      · simp only [List.mem_cons, or_and_right, exists_or, exists_eq_left, hbrings,
          brings_iff hn hnames]
    · refine ⟨ns, ?_, fun module name => ?_⟩
      · rw [List.filter_cons_of_pos (by simp [hc.opening])]
        exact .carried hc hparted
      · simp only [List.mem_cons, or_and_right, exists_or, exists_eq_left, hbrings,
          hc.not_brings, false_or]

theorem unified_merge {ls : List (List Char)}
    (h : ∀ line ∈ ls, IsNamedImport line ∨ IsCarried line) :
    Unified (fun module name => ∃ line ∈ ls, Brings line module name) (ls.filter (!hasOpening ·))
      (merge (unlines ls)) := by
  obtain ⟨ns, hparted, hbrings⟩ := exists_parted h
  exact hparted.unified_merge.congr hbrings rfl

/-! ### Headers -/

/-- Every line of the header is an import of plain bindings, or one without another import in its
text. -/
def HasPlainHeader (code : List Char) : Prop :=
  ∀ line ∈ headerLines code, IsNamedImport line ∨ (trim line = line ∧ hasOpening line = false)

theorem isCarried_of_header {code line : List Char} (h : line ∈ headerLines code)
    (htrim : trim line = line) (hopen : hasOpening line = false) : IsCarried line := by
  obtain ⟨hheader, hblank⟩ := List.mem_filter.mp h
  have hword : isImportLine line = true := by
    have := List.mem_takeWhile_imp hheader
    simp only [isHeaderLine, Bool.or_eq_true] at this
    exact this.resolve_left (by simpa using hblank)
  have htrimmed := trim_eq_self_iff.mp htrim
  refine ⟨?_, htrimmed, not_mem_of_mem_lines ((List.takeWhile_prefix _).subset hheader), hopen⟩
  rw [isImportLine, trimStart_eq_self htrimmed.first, Option.any_eq_true] at hword
  obtain ⟨rest, hrest, -⟩ := hword
  exact ⟨rest, (dropWord?_eq_some_iff.mp hrest).symm⟩

theorem HasPlainHeader.told {code : List Char} (h : HasPlainHeader code) :
    ∀ line ∈ headerLines code, IsNamedImport line ∨ IsCarried line :=
  fun line hline => (h line hline).imp_right
    fun ⟨htrim, hopen⟩ => isCarried_of_header hline htrim hopen

end Playground.Imports
