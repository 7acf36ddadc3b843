import Mathlib.Computability.Language
import Playground.Proofs.Imports.LineParts
import Playground.Proofs.Imports.Split

/-! The pattern of import lines. By the pattern a part of a line may end at several places, and a
match is found by trying them. The test goes by the quotes and tries nothing, and accepts the same
lines. -/

namespace Playground.Imports

open Text Computability

namespace Pattern

/-- One character with a property. -/
def one (p : Char → Bool) : Language Char := {cs | ∃ c, p c = true ∧ cs = [c]}

def word (w : List Char) : Language Char := {cs | cs = w}

def blanks : Language Char := (one isBlank)∗

/-- Blanks, and perhaps bindings and `from`. -/
def clause : Language Char :=
  blanks * (1 + (one fun c => !isQuote c && (c ≠ '(' && c ≠ ')'))∗
    * blanks * word "from".toList * blanks)

def quoted : Language Char := one isQuote * (one (!isQuote ·) * (one (!isQuote ·))∗) * one isQuote

def ending : Language Char := blanks * (1 + word [';']) * blanks

/-- A line with one import: `^\s*import\s*(?:[^'"()]*?\s*from\s*)?['"][^'"]+['"]\s*;?\s*$`. Whether
a star takes few characters first or many makes no difference to which lines match. -/
def importLine : Language Char := blanks * word "import".toList * clause * quoted * ending

variable {cs : List Char}

theorem mem_one {p : Char → Bool} : cs ∈ one p ↔ ∃ c, p c = true ∧ cs = [c] := Iff.rfl

theorem mem_word {w : List Char} : cs ∈ word w ↔ cs = w := Iff.rfl

theorem mem_kstar_one {p : Char → Bool} : cs ∈ (one p)∗ ↔ ∀ c ∈ cs, p c = true := by
  constructor
  · rintro ⟨parts, rfl, hparts⟩ c hc
    obtain ⟨part, hpart, hmem⟩ := List.mem_flatten.mp hc
    obtain ⟨d, hd, rfl⟩ := hparts part hpart
    rwa [List.mem_singleton.mp hmem]
  · intro h
    refine ⟨cs.map ([·]), by simp [← List.flatMap_def], List.forall_mem_map.mpr
      fun c hc => ⟨c, h c hc, rfl⟩⟩

theorem mem_blanks : cs ∈ blanks ↔ AllBlank cs := mem_kstar_one

theorem mem_names :
    cs ∈ (one fun c => !isQuote c && (c ≠ '(' && c ≠ ')'))∗ ↔ NoQuotes cs ∧ NoParens cs := by
  rw [mem_kstar_one]
  simp only [NoQuotes, NoParens, Bool.and_eq_true, Bool.not_eq_true', decide_eq_true_eq]
  exact forall₂_and

/-- Where the blanks before the bindings and behind them end makes no difference. -/
theorem mem_clause : cs ∈ clause ↔ IsClause cs ∧ NoQuotes cs := by
  have hnone : AllBlank [] := by simp [AllBlank]
  simp only [clause, Language.mem_mul, Language.mem_add, Language.mem_one, mem_word,
    mem_blanks, mem_names]
  constructor
  · rintro ⟨gap, hgap, rest,
      rfl | ⟨_, ⟨_, ⟨names, ⟨hquotes, hparens⟩, gap', hgap', rfl⟩, _, rfl, rfl⟩, trail,
        htrail, rfl⟩, rfl⟩
    · rw [List.append_nil]
      exact ⟨.blank hgap, noQuotes_of_blank hgap⟩
    · have hassoc : gap ++ (names ++ gap' ++ "from".toList ++ trail) =
          (gap ++ (names ++ gap')) ++ ("from".toList ++ trail) := by simp only [List.append_assoc]
      rw [hassoc]
      constructor
      · exact .bindings (.append (noParens_of_blank hgap)
          (.append hparens (noParens_of_blank hgap'))) htrail
      · exact .append (.append (noQuotes_of_blank hgap) (.append hquotes (noQuotes_of_blank hgap')))
          (noQuotes_from.append (noQuotes_of_blank htrail))
  · rintro ⟨hclause, hquotes⟩
    cases hclause with
    | blank hblank => exact ⟨cs, hblank, [], .inl rfl, List.append_nil cs⟩
    | @bindings names gap hparens hgap =>
      have hnames : NoQuotes names := (List.forall_mem_append.mp hquotes).1
      refine ⟨[], hnone, _, .inr ⟨_, ⟨_, ⟨names, ⟨hnames, hparens⟩, [], hnone, rfl⟩, _, rfl, rfl⟩,
        gap, hgap, rfl⟩, ?_⟩
      simp

theorem mem_quoted :
    cs ∈ quoted ↔ ∃ (opening closing : Char) (module : List Char), isQuote opening = true ∧
    module ≠ [] ∧ NoQuotes module ∧ isQuote closing = true ∧
    cs = opening :: (module ++ [closing]) := by
  simp only [quoted, Language.mem_mul, mem_one, mem_kstar_one, Bool.not_eq_true']
  constructor
  · rintro ⟨_, ⟨_, ⟨opening, hopening, rfl⟩, _, ⟨_, ⟨c, hc, rfl⟩, rest, hrest, rfl⟩, rfl⟩, _,
      ⟨closing, hclosing, rfl⟩, rfl⟩
    exact ⟨opening, closing, c :: rest, hopening, by simp, List.forall_mem_cons.mpr ⟨hc, hrest⟩,
      hclosing, by simp⟩
  · rintro ⟨opening, closing, module, hopening, hne, hmodule, hclosing, rfl⟩
    obtain ⟨c, rest, rfl⟩ := List.exists_cons_of_ne_nil hne
    obtain ⟨hc, hrest⟩ := List.forall_mem_cons.mp hmodule
    exact ⟨_, ⟨_, ⟨opening, hopening, rfl⟩, _, ⟨_, ⟨c, hc, rfl⟩, rest, hrest, rfl⟩, rfl⟩, _,
      ⟨closing, hclosing, rfl⟩, by simp⟩

theorem mem_ending : cs ∈ ending ↔ IsEnding cs := by
  have hnone : AllBlank [] := by simp [AllBlank]
  simp only [ending, Language.mem_mul, Language.mem_add, Language.mem_one, mem_word, mem_blanks]
  constructor
  · rintro ⟨_, ⟨gap, hgap, _, rfl | rfl, rfl⟩, trail, htrail, rfl⟩
    · rw [List.append_nil]
      exact .blank (hgap.append htrail)
    · rw [List.append_assoc]
      exact .semicolon hgap htrail
  · intro h
    cases h with
    | blank hgap =>
      exact ⟨cs, ⟨cs, hgap, [], .inl rfl, List.append_nil cs⟩, [], hnone, List.append_nil cs⟩
    | @semicolon gap trail hgap htrail =>
      exact ⟨_, ⟨gap, hgap, [';'], .inr rfl, rfl⟩, trail, htrail, by simp⟩

theorem mem_importLine : cs ∈ importLine ↔ ∃ p : LineParts, cs = p.chars := by
  simp only [importLine, Language.mem_mul, mem_word, mem_blanks, mem_clause, mem_quoted, mem_ending]
  constructor
  · rintro ⟨_, ⟨_, ⟨_, ⟨lead, hlead, _, rfl, rfl⟩, clause, ⟨hclause, hquotes⟩, rfl⟩, _,
      ⟨opening, closing, module, hopening, hne, hmodule, hclosing, rfl⟩, rfl⟩, ending, hending, rfl⟩
    refine ⟨⟨lead, clause, opening, module, closing, ending, hlead, hclause, hquotes, hopening, hne,
      hmodule, hclosing, hending⟩, ?_⟩
    simp [LineParts.chars, LineParts.tail]
  · rintro ⟨p, rfl⟩
    refine ⟨_,
      ⟨_, ⟨_, ⟨p.lead, p.lead_blank, _, rfl, rfl⟩, p.clause,
        ⟨p.clause_isClause, p.clause_noQuotes⟩, rfl⟩, _,
      ⟨p.opening, p.closing, p.module, p.opening_isQuote, p.module_ne_nil, p.module_noQuotes,
        p.closing_isQuote, rfl⟩,
      rfl⟩, p.ending, p.ending_isEnding, ?_⟩
    simp [LineParts.chars, LineParts.tail]

end Pattern

/-- A script of one line has it as its header if the line is an import. -/
theorem imports_split_eq_iff {line : List Char} (hfeed : '\n' ∉ line)
    (hblank : isBlankLine line = false) :
    (split line).imports = line ↔ isImportLine line = true := by
  have hne := ne_nil_of_isBlankLine hblank
  have hlines : lines line = [line] ++ [] := by
    rw [lines_of_not_mem hfeed, if_neg hne, List.append_nil]
  have hlines' : lines line = [] ++ [line] := hlines
  cases h : isImportLine line with
  | true =>
    have hheader : isHeaderLine line = true := by simp [isHeaderLine, h]
    rw [split_of_lines hlines (by simpa using hheader) (by simp)]
    simp [hblank]
  | false =>
    have hheader : isHeaderLine line = false := by simp [isHeaderLine, h, hblank]
    rw [split_of_lines hlines' (by simp) (by simpa using hheader)]
    simpa using hne.symm

/-- The test accepts exactly the lines that can be cut into the parts of an import, which are the
lines that match the pattern; a script that is one line with something on it has the line as its
header exactly then. The names that are imported do not matter, so neither does a `from` in them. A
call of `import` is not accepted, unless its text is part of the module's name. -/
theorem isImportLine_iff_parts (line : List Char) :
    (isImportLine line = true ↔ ∃ p : LineParts, line = p.chars) ∧
    (line ∈ Pattern.importLine ↔ ∃ p : LineParts, line = p.chars) ∧
    ('\n' ∉ line → isBlankLine line = false →
      ((split line).imports = line ↔ ∃ p : LineParts, line = p.chars)) ∧
    (∀ lead names rest, AllBlank lead → NoQuotes names → NoParens names →
      line = lead ++ ("import".toList ++ (names ++ ("from".toList ++ rest))) →
        isImportLine line = isImportLine (lead ++ ("import".toList ++ ("from".toList ++ rest)))) ∧
    (∀ before gap after, AllBlank gap → before.countP isQuote ≠ 1 →
      line = before ++ ("import".toList ++ (gap ++ '(' :: after)) → isImportLine line = false) := by
  refine ⟨isImportLine_iff, Pattern.mem_importLine, fun hfeed hblank => ?_, ?_, ?_⟩
  · rw [← isImportLine_iff]
    exact imports_split_eq_iff hfeed hblank
  · rintro lead names rest hlead hquotes hparens rfl
    rw [isImportLine_append_tail hlead, isImportLine_append_tail hlead,
      isImportTail_append_from hquotes hparens]
  · rintro before gap after hgap hcount rfl
    by_contra haccepted
    obtain ⟨p, hp⟩ := isImportLine_iff.mp (by simpa using haccepted)
    have hcall : p.chars = (before ++ ("import".toList ++ gap)) ++ '(' :: after := by simp [← hp]
    have hone := p.countP_isQuote hcall
    have hnone : NoQuotes ("import".toList ++ gap) :=
      .append noQuotes_import (noQuotes_of_blank hgap)
    rw [List.countP_append, hnone.countP_eq_zero, Nat.add_zero] at hone
    exact hcount hone

end Playground.Imports
