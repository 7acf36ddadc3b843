import Playground.Proofs.Imports.Merged

/-! Merging a text of import lines. Whatever the order in which imports of names and other imports
stand in it, the merged text has one line for each module that names are imported from, then the
other lines as they were, and it is merged already. -/

namespace Playground.Imports

open Text

/-! ### Lines with something on them -/

/-- The lines of a text without the blank ones. -/
def seen (text : List Char) : List (List Char) := (cutAt (· = '\n') text).filter (!isBlankLine ·)

theorem isBlankLine_iff {l : List Char} : isBlankLine l = true ↔ AllBlank l := List.all_eq_true

theorem filter_isBlankLine {ls : List (List Char)} (h : ∀ l ∈ ls, AllBlank l ∨ Trimmed l) :
    ls.filter (!isBlankLine ·) = (ls.map trim).filter (!·.isEmpty) := by
  induction ls with
  | nil => rfl
  | cons l ls ih =>
    obtain ⟨hl, hls⟩ := List.forall_mem_cons.mp h
    rw [List.map_cons, List.filter_cons, List.filter_cons, ih hls]
    by_cases hblank : AllBlank l
    · simp [isBlankLine_iff.mpr hblank, trim_eq_nil hblank]
    · have hne : l ≠ [] := fun hnil => hblank (by simp [hnil, AllBlank])
      have hseen : isBlankLine l = false := by rwa [← Bool.not_eq_true, isBlankLine_iff]
      simp [hseen, (hl.resolve_left hblank).trim_eq, hne]

theorem seen_eq_shown {text : List Char} (h : Flush text) : seen text = shown '\n' text :=
  filter_isBlankLine h

theorem seen_trim {text : List Char} (h : Flush text) : seen (trim text) = seen text := by
  rw [seen_eq_shown h.trim, shown_trim, seen_eq_shown h]

/-! ### What is left of the lines -/

theorem head?_trimStart_unlines {ls : List (List Char)} (h : ∀ l ∈ ls, AllBlank l ∨ IsCarried l) :
    ∀ c ∈ (trimStart (unlines ls)).head?, c = 'i' := by
  induction ls with
  | nil => simp [trimStart]
  | cons l ls ih =>
    obtain ⟨hl, hls⟩ := List.forall_mem_cons.mp h
    obtain ⟨w, hw, heq, -⟩ := exists_unlines_cons l ls
    rw [heq]
    rcases hl with hblank | hcarried
    · rw [trimStart_append hblank, trimStart_append hw]
      exact ih hls
    · have hhead : (l ++ (w ++ unlines ls)).head? = some 'i' := by
        rw [List.head?_append, head?_of_word hcarried.word]
        rfl
      rw [trimStart_eq_self (by simp [hhead]; decide), hhead]
      rintro c ⟨⟩
      rfl

/-- A scan finds nothing in lines that are carried along, with blank ones between them. -/
theorem scan_unlines_carried {ls : List (List Char)} (h : ∀ l ∈ ls, AllBlank l ∨ IsCarried l) :
    (scan (unlines ls)).1 = [] := by
  induction ls with
  | nil => rw [unlines_nil, scan_nil]
  | cons l ls ih =>
    obtain ⟨hl, hls⟩ := List.forall_mem_cons.mp h
    obtain ⟨w, hw, heq, hcase⟩ := exists_unlines_cons l ls
    have hafter : (scan (w ++ unlines ls)).1 = [] := by rw [scan_blank hw, ih hls]
    rw [heq]
    rcases hl with hblank | hcarried
    · rw [scan_blank hblank, hafter]
    · have hgap : ∀ c ∈ (w ++ unlines ls).head?, isBlank c = true := by
        rcases hcase with ⟨rfl, rfl⟩ | ⟨rfl, -⟩
        · simp
        · simp
          decide
      have hbrace : (trimStart (w ++ unlines ls)).head? ≠ some '{' := by
        rw [trimStart_append hw]
        intro hbrace
        cases head?_trimStart_unlines hls '{' hbrace
      rw [hcarried.scan_append hgap hbrace, hafter]

variable {ls : List (List Char)} {ns : List Named} {cs : List (List Char)}

theorem Parted.isCarried (h : Parted ls ns cs) : ∀ line ∈ cs, IsCarried line := by
  induction h with
  | nil => simp
  | named _ _ ih => exact ih
  | carried hc _ ih => exact List.forall_mem_cons.mpr ⟨hc, ih⟩

/-- Behind the groups of the imports, a scan finds nothing more. -/
theorem Parted.settled (h : Parted ls ns cs) :
    Settled (groups ns) (trim (scan (unlines ls)).2) := by
  obtain ⟨hns, hcs, hflush⟩ := h.scan_unlines
  -- Blank lines aside, only those that are carried along are left.
  have hleft : ∀ l ∈ cutAt (· = '\n') (trim (scan (unlines ls)).2), AllBlank l ∨ IsCarried l := by
    intro l hl
    by_cases hblank : isBlankLine l = true
    · exact .inl (isBlankLine_iff.mp hblank)
    · have hseen : l ∈ seen (trim (scan (unlines ls)).2) :=
        List.mem_filter.mpr ⟨hl, by simpa using hblank⟩
      rw [seen_eq_shown hflush.trim, shown_trim, hcs] at hseen
      exact .inr (h.isCarried l hseen)
  have hhead := head?_trimStart_unlines hleft
  have hnothing := scan_unlines_carried hleft
  rw [unlines_cutAt] at hhead hnothing
  have htrimmed : Trimmed (trim (scan (unlines ls)).2) := trimmed_trim _
  refine ⟨tidy_groups ns, hns ▸ fits_groups (fits_of_mem_scan (unlines ls)), htrimmed,
    fun _ hsemicolon => ?_, hnothing⟩
  rw [trimStart_eq_self htrimmed.first] at hhead
  cases hhead ';' hsemicolon

theorem Parted.merge_merge (h : Parted ls ns cs) :
    merge (merge (unlines ls)) = merge (unlines ls) := by
  apply h.settled.merge_merge
  rw [merge_eq, h.scan_unlines.1]

/-! ### The lines of the merged text -/

theorem Group.isBlankLine_line (g : Group) : isBlankLine g.line = false := by
  rw [← Bool.not_eq_true, isBlankLine_iff]
  intro hblank
  have hfirst := hblank 'i' (List.mem_of_mem_head? (head?_of_word g.word))
  cases hfirst

theorem Group.feed_line {g : Group} (hmodule : '\n' ∉ g.module)
    (hnames : ∀ name ∈ g.names, '\n' ∉ name) :
    '\n' ∉ g.line := by
  have hlist : ∀ c ∈ ", ".toList.intercalate g.names, c ≠ '\n' :=
    forall_mem_intercalate (by simp)
      fun name hname c hc => ne_of_mem_of_not_mem hc (hnames name hname)
  delta Group.line
  simp only [List.mem_append, not_or]
  exact ⟨⟨⟨⟨by decide, fun hmem => hlist _ hmem rfl⟩, by decide⟩, hmodule⟩, by decide⟩

theorem cutAt_chars {gs : List Group} (h : ∀ g ∈ gs, '\n' ∉ g.line) (rest : List Char) :
    cutAt (· = '\n') (gs.flatMap Group.chars ++ rest) =
      gs.map Group.line ++ cutAt (· = '\n') rest := by
  induction gs with
  | nil => rfl
  | cons g gs ih =>
    obtain ⟨hg, hgs⟩ := List.forall_mem_cons.mp h
    rw [List.flatMap_cons, g.chars_eq, List.append_assoc, List.append_assoc, List.singleton_append,
      cutAt_append (by simp), cutAt_of_not_mem hg, ih hgs]
    rfl

/-- The lines that are to be seen after merging are those of the groups, and then those that are
carried along. -/
theorem Parted.seen_merge (h : Parted ls ns cs)
    (hfeed : ∀ n ∈ ns, '\n' ∉ n.module ∧ ∀ name ∈ n.parts, '\n' ∉ name) :
    seen (merge (unlines ls)) = (groups ns).map Group.line ++ cs := by
  obtain ⟨hns, hcs, hflush⟩ := h.scan_unlines
  have hline : ∀ g ∈ groups ns, '\n' ∉ g.line := by
    intro g hg
    have hall := forall_mem_groups ('\n' ∉ ·) ('\n' ∉ ·) hfeed g hg
    exact Group.feed_line hall.1 hall.2
  have hcut := cutAt_chars hline (trim (scan (unlines ls)).2)
  have hwhole : Flush ((groups ns).flatMap Group.chars ++ trim (scan (unlines ls)).2) := by
    unfold Flush
    rw [hcut]
    refine List.forall_mem_append.mpr ⟨?_, hflush.trim⟩
    simpa using fun g _ => .inr g.trimmed_line
  have hkept : ((groups ns).map Group.line).filter (!isBlankLine ·) =
      (groups ns).map Group.line := by
    refine List.filter_eq_self.mpr (List.forall_mem_map.mpr fun g _ => ?_)
    rw [g.isBlankLine_line]
    rfl
  rw [merge_eq, hns, seen_trim hwhole, seen, hcut, List.filter_append, hkept]
  congr 1
  exact (seen_trim hflush).trans ((seen_eq_shown hflush).trans hcs)

/-! ### Import lines -/

/-- An import of names that has a line to itself. -/
structure NamedLine where
  names : List (List Char)
  module : List Char
  quote : Char
  closed : Bool
  binding : ∀ name ∈ names, IsBinding name ∧ '\n' ∉ name
  module_ne_nil : module ≠ []
  plain : ∀ c ∈ module, isQuote c = false ∧ c ≠ '\n'
  isQuote_quote : isQuote quote = true

def NamedLine.chars (l : NamedLine) : List Char :=
  "import \x7b ".toList ++ ", ".toList.intercalate l.names ++ " \x7d from ".toList ++
    l.quote :: (l.module ++ l.quote :: if l.closed then [';'] else [])

/-- The import that is found in the line. -/
def NamedLine.named (l : NamedLine) : Named := Group.named ⟨l.module, l.names⟩

theorem NamedLine.fits (l : NamedLine) : Group.Fits ⟨l.module, l.names⟩ :=
  ⟨fun name hname => (l.binding name hname).1, l.module_ne_nil, fun c hc => (l.plain c hc).1⟩

theorem NamedLine.parts_named (l : NamedLine) : l.named.parts = l.names := l.fits.parts_named

theorem NamedLine.spelled (l : NamedLine) : l.named.Spelled l.chars := by
  have hchars : l.chars =
      l.named.chars space space space l.quote ++ if l.closed then [';'] else [] := by
    delta NamedLine.chars Named.chars NamedLine.named Group.named space
    simp
  have hblank : AllBlank [] := by simp [AllBlank]
  rw [hchars]
  split
  · have hclosed : l.named.Spelled (l.named.chars space space space l.quote ++ ([] ++ ';' :: [])) :=
      .closed l.fits.fits_named l.isQuote_quote hblank hblank
    exact hclosed
  · exact .plain l.fits.fits_named l.isQuote_quote hblank

/-- A line of a text of imports: names are imported on it, or it is carried along. -/
inductive ImportLine where
  | named (line : NamedLine)
  /-- Any other import that has no blank at its end, as it ends in a quote or a semicolon. -/
  | carried (line : List Char) (h : IsCarried line)

namespace ImportLine

def chars : ImportLine → List Char
  | named line => line.chars
  | carried line _ => line

def named? : ImportLine → Option NamedLine
  | named line => some line
  | carried _ _ => none

def carried? : ImportLine → Option (List Char)
  | named _ => none
  | carried line _ => some line

/-- The text of the lines. -/
def text (ls : List ImportLine) : List Char := unlines (ls.map chars)

theorem parted (ls : List ImportLine) :
    Parted (ls.map chars) ((ls.filterMap named?).map NamedLine.named) (ls.filterMap carried?) := by
  induction ls with
  | nil => exact .nil
  | cons l ls ih =>
    cases l with
    | named line => exact .named line.spelled ih
    | carried line h => exact .carried h ih

/-- The text of any import lines is merged to one line for each module, in the order in which the
modules are first named, on which every name that is imported from it stands once, in increasing
order. The lines that are carried along come after them as they were. Merging a second time changes
nothing. -/
theorem merge_text (ls : List ImportLine) : ∃ gs : List Group,
    gs.map Group.module = ((ls.filterMap named?).map NamedLine.module).eraseDups ∧
    (∀ g ∈ gs, g.names.Pairwise (· < ·) ∧
      ∀ name, name ∈ g.names ↔ ∃ l ∈ ls.filterMap named?, l.module = g.module ∧ name ∈ l.names) ∧
    seen (merge (text ls)) = gs.map Group.line ++ ls.filterMap carried? ∧
    merge (merge (text ls)) = merge (text ls) := by
  have hparted := parted ls
  generalize ls.filterMap named? = lines at hparted ⊢
  have htidy := tidy_groups (lines.map NamedLine.named)
  refine ⟨groups (lines.map NamedLine.named), ?_, fun g hg => ⟨htidy.names g hg, fun name => ?_⟩,
    hparted.seen_merge ?_, hparted.merge_merge⟩
  · rw [modules_groups, List.map_map]
    rfl
  · rw [htidy.mem_names_iff hg, binds_groups]
    simp only [List.mem_map, exists_exists_and_eq_and, NamedLine.parts_named]
    rfl
  · simp only [List.forall_mem_map, NamedLine.parts_named]
    intro l _
    exact ⟨fun hmem => (l.plain _ hmem).2 rfl, fun name hname => (l.binding name hname).2⟩

end ImportLine

end Playground.Imports
