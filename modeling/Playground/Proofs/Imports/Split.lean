import Playground.File
import Playground.Imports.Header
import Playground.Proofs.Text.Lines
import Playground.Proofs.Text.Search

/-! Taking the header off. A script is cut in two at its first line that can stand in no header:
nothing behind that place is looked at, and nothing but blank lines is lost before it. The script
that is put together from the two parts is cut at the same place again. -/

namespace Playground

namespace Text

/-! ### Lines joined again -/

/-- The text without a line feed at its end. -/
def dropFeed (cs : List Char) : List Char := if cs.getLast? = some '\n' then cs.dropLast else cs

/-- The text with a line feed for every pair of a carriage return and a line feed. -/
def joinPairs (cs : List Char) : List Char := replaceAll ['\r', '\n'] ['\n'] cs

theorem joinPairs_of_not_mem {l : List Char} (h : '\n' ∉ l) : joinPairs l = l :=
  replaceAll_of_not_mem (by simp) h

/-- At the end of a line only the last character before the line feed matters. -/
theorem joinPairs_append {l : List Char} (h : '\n' ∉ l) (rest : List Char) :
    joinPairs (l ++ '\n' :: rest) = dropReturn l ++ '\n' :: joinPairs rest := by
  have hne : ['\r', '\n'] ≠ [] := List.cons_ne_nil _ _
  induction l with
  | nil => exact replaceAll_cons hne (by simp)
  | cons c l ih =>
    rw [List.mem_cons, not_or] at h
    by_cases hpair : c = '\r' ∧ l = []
    · obtain ⟨rfl, rfl⟩ := hpair
      exact replaceAll_append hne rest
    · have hpass : ¬['\r', '\n'] <+: c :: (l ++ '\n' :: rest) := by
        intro hword
        rw [List.cons_prefix_cons] at hword
        cases l with
        | nil => exact hpair ⟨hword.1.symm, rfl⟩
        | cons d l =>
          rw [List.cons_append, List.cons_prefix_cons] at hword
          exact h.2 (by simp [← hword.2.1])
      have hreturn : dropReturn (c :: l) = c :: dropReturn l := by
        unfold dropReturn
        cases l with
        | nil =>
          have hc : c ≠ '\r' := fun hc => hpair ⟨hc, rfl⟩
          simp [hc]
        | cons d l =>
          rw [List.getLast?_cons_cons]
          split <;> rfl
      rw [hreturn, List.cons_append, List.cons_append, ← ih h.2]
      exact replaceAll_cons hne hpass

theorem joinPairs_eq_nil_iff {cs : List Char} : joinPairs cs = [] ↔ cs = [] := by
  constructor
  · intro h
    induction cs using mark_induction '\n' with
    | last l hl => rwa [joinPairs_of_not_mem hl] at h
    | more l rest hl _ =>
      rw [joinPairs_append hl] at h
      simp at h
  · rintro rfl
    rfl

theorem dropFeed_append (l rest : List Char) :
    dropFeed (l ++ '\n' :: rest) = if rest = [] then l else l ++ '\n' :: dropFeed rest := by
  cases rest using List.reverseRecOn with
  | nil => simp [dropFeed]
  | append_singleton rest c =>
    rw [if_neg (by simp), dropFeed, dropFeed]
    have hlast : (l ++ '\n' :: (rest ++ [c])).getLast? = (rest ++ [c]).getLast? := by
      simp [List.getLast?_cons]
    rw [hlast]
    split
    · rw [List.dropLast_append_of_ne_nil (by simp), List.dropLast_cons_of_ne_nil (by simp)]
    · rfl

/-- Joining the lines of a text loses the carriage return of every pair, and the line feed that ends
the last line. -/
theorem unlines_lines (cs : List Char) : unlines (lines cs) = dropFeed (joinPairs cs) := by
  induction cs using mark_induction '\n' with
  | last l hl =>
    have hend : l.getLast? ≠ some '\n' := fun hlast => hl (List.mem_of_getLast? hlast)
    rw [lines_of_not_mem hl, joinPairs_of_not_mem hl, dropFeed, if_neg hend]
    by_cases hne : l = [] <;> simp [hne]
  | more l rest hl ih =>
    rw [lines_append hl, joinPairs_append hl, dropFeed_append]
    by_cases hrest : rest = []
    · rw [if_pos (joinPairs_eq_nil_iff.mpr hrest), lines_eq_nil_iff.mpr hrest, unlines_singleton]
    · rw [if_neg (mt joinPairs_eq_nil_iff.mp hrest),
        unlines_cons _ (mt lines_eq_nil_iff.mp hrest), ih]

/-- A text is cut into lines on both sides of a line end. -/
theorem lines_append_of_feed (before rest : List Char) :
    lines (before ++ '\n' :: rest) = lines (before ++ ['\n']) ++ lines rest := by
  induction before using mark_induction '\n' with
  | last l hl =>
    rw [lines_append hl, lines_append hl]
    rfl
  | more l after hl ih =>
    rw [List.append_assoc, List.cons_append, lines_append hl, ih, List.append_assoc,
      List.cons_append, lines_append hl, List.cons_append]

end Text

namespace Imports

open Text

/-! ### The header -/

/-- The header ends where a line ends. All its lines can stand in one, and the first line behind it
cannot. -/
structure IsHeader (header rest : List Char) : Prop where
  ended : header = [] ∨ header.getLast? = some '\n' ∨ rest = []
  all : ∀ l ∈ lines header, isHeaderLine l = true
  other : ∀ l ∈ (lines rest).head?, isHeaderLine l = false

theorem exists_isHeader (code : List Char) :
    ∃ header rest, code = header ++ rest ∧ IsHeader header rest := by
  induction code using mark_induction '\n' with
  | last l hl =>
    by_cases hheader : ∀ m ∈ lines l, isHeaderLine m = true
    · exact ⟨l, [], (List.append_nil l).symm, .inr (.inr rfl),
        hheader, by simp [lines_eq_nil_iff.mpr rfl]⟩
    · refine ⟨[], l, rfl, .inl rfl, by simp [lines_eq_nil_iff.mpr rfl], fun m hm => ?_⟩
      rw [lines_of_not_mem hl] at hheader hm
      split at hheader
      · simp at hheader
      · rename_i hne
        rw [if_neg hne] at hm
        cases hm
        simpa using hheader
  | more l rest hl ih =>
    by_cases hheader : isHeaderLine (dropReturn l) = true
    · obtain ⟨header, rest, rfl, hended, hall, hother⟩ := ih
      refine ⟨l ++ '\n' :: header, rest, by simp, ?_, ?_, hother⟩
      · rcases hended with rfl | hlast | hnone
        · exact .inr (.inl (by simp))
        · exact .inr (.inl (by simp [List.getLast?_cons, hlast]))
        · exact .inr (.inr hnone)
      · rw [lines_append hl]
        exact List.forall_mem_cons.mpr ⟨hheader, hall⟩
    · refine ⟨[], l ++ '\n' :: rest, rfl, .inl rfl, by simp [lines_eq_nil_iff.mpr rfl],
        fun m hm => ?_⟩
      rw [lines_append hl] at hm
      cases hm
      simpa using hheader

variable {header rest : List Char}

theorem IsHeader.lines_append (h : IsHeader header rest) :
    lines (header ++ rest) = lines header ++ lines rest := by
  rcases h.ended with rfl | hlast | rfl
  · rfl
  · obtain ⟨before, rfl⟩ := List.getLast?_eq_some_iff.mp hlast
    rw [List.append_assoc, List.singleton_append, lines_append_of_feed]
  · rw [List.append_nil, lines_eq_nil_iff.mpr rfl, List.append_nil]

/-- Only the lines of a script matter. -/
theorem split_of_lines {code : List Char} {ls ms : List (List Char)}
    (hlines : lines code = ls ++ ms) (hall : ∀ l ∈ ls, isHeaderLine l = true)
    (hother : ∀ l ∈ ms.head?, isHeaderLine l = false) :
    split code = ⟨unlines (ls.filter (!isBlankLine ·)), unlines ms⟩ := by
  have htake : ms.takeWhile isHeaderLine = [] ∧ ms.dropWhile isHeaderLine = ms := by
    cases ms with
    | nil => exact ⟨rfl, rfl⟩
    | cons m ms =>
      have hm : ¬isHeaderLine m = true := by simp [hother m rfl]
      exact ⟨List.takeWhile_cons_of_neg hm, List.dropWhile_cons_of_neg hm⟩
  simp only [split, hlines, List.takeWhile_append_of_pos hall,
    List.dropWhile_append_of_pos hall, htake, List.append_nil]

theorem IsHeader.split_append (h : IsHeader header rest) :
    split (header ++ rest) = ⟨unlines ((lines header).filter (!isBlankLine ·)),
      dropFeed (joinPairs rest)⟩ := by
  rw [split_of_lines h.lines_append h.all h.other, unlines_lines]

/-! ### Putting the parts together -/

/-- The lines of the header that have something on them. -/
def headerLines (code : List Char) : List (List Char) :=
  ((lines code).takeWhile isHeaderLine).filter (!isBlankLine ·)

/-- The lines from the first one on that can stand in no header. -/
def bodyLines (code : List Char) : List (List Char) := (lines code).dropWhile isHeaderLine

theorem split_eq (code : List Char) :
    split code = ⟨unlines (headerLines code), unlines (bodyLines code)⟩ := rfl

/-- The script of a header and a body. -/
def Split.script (s : Split) : List Char :=
  if s.imports = [] then s.body else s.imports ++ '\n' :: s.body

theorem assembled_split {f : File} {s : Split}
    (h : f.prepared = some ⟨String.ofList s.imports, String.ofList s.body⟩) :
    f.assembled = some (String.ofList s.script) := by
  rw [File.assembled, h, Option.map_some, Split.script]
  by_cases hnone : s.imports = []
  · simp [hnone]
  · rw [if_neg (by simpa using hnone), if_neg hnone]
    simp [String.append_assoc]

theorem mem_lines_of_mem_headerLines {code l : List Char} (h : l ∈ headerLines code) :
    l ∈ lines code :=
  (List.takeWhile_prefix _).subset (List.mem_filter.mp h).1

theorem isHeaderLine_of_mem_headerLines {code l : List Char} (h : l ∈ headerLines code) :
    isHeaderLine l = true :=
  List.mem_takeWhile_imp (List.mem_filter.mp h).1

theorem isBlankLine_of_mem_headerLines {code l : List Char} (h : l ∈ headerLines code) :
    isBlankLine l = false := by
  simpa using (List.mem_filter.mp h).2

theorem isHeaderLine_head?_bodyLines {code : List Char} :
    ∀ l ∈ (bodyLines code).head?, isHeaderLine l = false := by
  intro l hl
  have hnot := List.head?_dropWhile_not isHeaderLine (lines code)
  rw [bodyLines] at hl
  rw [hl] at hnot
  exact hnot

theorem ne_nil_of_isBlankLine {l : List Char} (h : isBlankLine l = false) : l ≠ [] := by
  rintro rfl
  cases h

theorem unlines_headerLines_eq_nil_iff {code : List Char} :
    unlines (headerLines code) = [] ↔ headerLines code = [] := by
  constructor
  · intro hnil
    by_contra hne
    obtain ⟨l, ls, hls⟩ := List.exists_cons_of_ne_nil hne
    obtain ⟨w, -, hjoin, -⟩ := exists_unlines_cons l ls
    have hblank : isBlankLine l = false := isBlankLine_of_mem_headerLines (hls ▸ List.mem_cons_self)
    rw [hls, hjoin, List.append_eq_nil_iff] at hnil
    exact ne_nil_of_isBlankLine hblank hnil.1
  · intro hnil
    rw [hnil]
    rfl

theorem return_not_mem_lines {code : List Char} (h : '\r' ∉ code) : ∀ l ∈ lines code, '\r' ∉ l := by
  induction code using mark_induction '\n' with
  | last l hl =>
    rw [lines_of_not_mem hl]
    split
    · simp
    · simpa using h
  | more l rest hl ih =>
    simp only [List.mem_append, List.mem_cons, not_or] at h
    have hreturn : l.getLast? ≠ some '\r' := fun hlast => h.1 (List.mem_of_getLast? hlast)
    rw [lines_append_feed hl hreturn]
    exact List.forall_mem_cons.mpr ⟨h.1, ih h.2.2⟩

section

variable {code : List Char} (hreturn : '\r' ∉ code)
    (hlast : ∀ l ∈ (lines code).getLast?, isBlankLine l = false)

include hreturn

theorem isLine_of_mem_lines {l : List Char} (hl : l ∈ lines code) : IsLine l :=
  ⟨not_mem_of_mem_lines hl,
    fun hlast => return_not_mem_lines hreturn l hl (List.mem_of_getLast? hlast)⟩

include hlast

theorem lines_unlines_bodyLines : lines (unlines (bodyLines code)) = bodyLines code := by
  have hsuffix : bodyLines code <:+ lines code := List.dropWhile_suffix _
  apply lines_unlines
  · intro l hl
    exact isLine_of_mem_lines hreturn (hsuffix.subset hl)
  · intro l hl
    apply ne_nil_of_isBlankLine
    apply hlast l
    obtain ⟨before, hbefore⟩ := hsuffix
    rw [← hbefore, List.getLast?_append, hl]
    rfl

/-- The lines of the script that is put together: blank ones of the header are gone, all others are
as they were. -/
theorem lines_script : lines (split code).script = headerLines code ++ bodyLines code := by
  have hbody := lines_unlines_bodyLines hreturn hlast
  rw [split_eq, Split.script]
  by_cases hnone : headerLines code = []
  · rw [if_pos (unlines_headerLines_eq_nil_iff.mpr hnone), hbody, hnone, List.nil_append]
  · have hlines : ∀ l ∈ headerLines code, IsLine l := fun l hl =>
      isLine_of_mem_lines hreturn (mem_lines_of_mem_headerLines hl)
    rw [if_neg (mt unlines_headerLines_eq_nil_iff.mp hnone),
      lines_unlines_append hnone hlines, hbody]

theorem split_script : split (split code).script = split code := by
  have hshown : (headerLines code).filter (!isBlankLine ·) = headerLines code :=
    List.filter_eq_self.mpr fun l hl => by simp [isBlankLine_of_mem_headerLines hl]
  rw [split_of_lines (lines_script hreturn hlast) (fun l hl => isHeaderLine_of_mem_headerLines hl)
    isHeaderLine_head?_bodyLines, hshown, ← split_eq]

end

/-- Every script is a header and a rest, which begins with the first line that is neither blank nor
an import. Whatever the rest is, the imports are the lines of the header that are not blank, and the
body is the rest with single line feeds for line ends and without the last of them. If the script
has no carriage returns and its last line is not blank, then the header and the body can be taken
apart again after they were put together. -/
theorem split_parts (code : List Char) :
    (∃ header rest, code = header ++ rest ∧ IsHeader header rest) ∧
    (∀ header rest, code = header ++ rest → IsHeader header rest →
      split code = ⟨unlines ((lines header).filter (!isBlankLine ·)), dropFeed (joinPairs rest)⟩) ∧
    ('\r' ∉ code → (∀ l ∈ (lines code).getLast?, isBlankLine l = false) → ∀ f : File,
      f.prepared = some ⟨String.ofList (split code).imports, String.ofList (split code).body⟩ →
        ∃ script, f.assembled = some script ∧ split script.toList = split code) := by
  refine ⟨exists_isHeader code, ?_, fun hreturn hlast f hf => ?_⟩
  · rintro header rest rfl h
    exact h.split_append
  · refine ⟨_, assembled_split hf, ?_⟩
    rw [String.toList_ofList, split_script hreturn hlast]

/-- An import behind a blank line, and one behind a statement. -/
def lateImport : List Char := "\nimport 'a'\n\n".toList ++ "b()\nimport 'c'".toList

def lateImportFile : File :=
  { name := "late.js", content := "", prepared := some ⟨"import 'a'", "b()\nimport 'c'"⟩ }

theorem split_parts_lateImport :
    IsHeader "\nimport 'a'\n\n".toList "b()\nimport 'c'".toList ∧
    split lateImport = ⟨"import 'a'".toList, "b()\nimport 'c'".toList⟩ ∧
    '\r' ∉ lateImport ∧ (∀ l ∈ (lines lateImport).getLast?, isBlankLine l = false) ∧
    lateImportFile.prepared = some ⟨String.ofList (split lateImport).imports,
      String.ofList (split lateImport).body⟩ ∧
    ∃ script, lateImportFile.assembled = some script ∧ split script.toList = split lateImport := by
  obtain ⟨-, hparts, hassembled⟩ := split_parts lateImport
  have hheader : IsHeader "\nimport 'a'\n\n".toList "b()\nimport 'c'".toList := by
    have hfirst : (lines "b()\nimport 'c'".toList).head? = some "b()".toList := by decide
    refine ⟨.inr (.inl (by decide)), List.all_eq_true.mp (by decide), ?_⟩
    rw [hfirst]
    rintro l ⟨⟩
    decide
  have hsplit : split lateImport = ⟨"import 'a'".toList, "b()\nimport 'c'".toList⟩ :=
    (hparts _ _ rfl hheader).trans (by decide)
  have hreturn : '\r' ∉ lateImport := by decide
  have hlast : ∀ l ∈ (lines lateImport).getLast?, isBlankLine l = false := by
    have hline : (lines lateImport).getLast? = some "import 'c'".toList := by decide
    rw [hline]
    rintro l ⟨⟩
    decide
  have hprepared : lateImportFile.prepared =
      some ⟨String.ofList (split lateImport).imports, String.ofList (split lateImport).body⟩ := by
    rw [hsplit]
    rfl
  exact ⟨hheader, hsplit, hreturn, hlast, hprepared,
    hassembled hreturn hlast lateImportFile hprepared⟩

end Imports

end Playground
