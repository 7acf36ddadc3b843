import Playground.Proofs.Imports.Pattern
import Playground.Proofs.Imports.Statement

/-! The pattern of named imports, and what a search with it finds. By the pattern the blanks and the
semicolon behind an import may be left or taken, and a search takes them. `named?` reads one import
off without trying anything, and `scan` goes on from there; they find what the search finds. -/

namespace Playground.Imports

open Text Computability

namespace Pattern

variable {cs : List Char} {n : Named}

/-- At least one character, each with a property. -/
def ones (p : Char → Bool) : Language Char := one p * (one p)∗

theorem mem_ones {p : Char → Bool} : cs ∈ ones p ↔ cs ≠ [] ∧ ∀ c ∈ cs, p c = true := by
  simp only [ones, Language.mem_mul, mem_one, mem_kstar_one]
  constructor
  · rintro ⟨_, ⟨c, hc, rfl⟩, rest, hrest, rfl⟩
    exact ⟨List.cons_ne_nil c rest, List.forall_mem_cons.mpr ⟨hc, hrest⟩⟩
  · rintro ⟨hne, h⟩
    obtain ⟨c, rest, rfl⟩ := List.exists_cons_of_ne_nil hne
    obtain ⟨hc, hrest⟩ := List.forall_mem_cons.mp h
    exact ⟨[c], ⟨c, hc, rfl⟩, rest, hrest, rfl⟩

theorem mem_ones_isBlank : cs ∈ ones isBlank ↔ ∃ gap : Gap, gap.chars = cs := by
  rw [mem_ones]
  constructor
  · rintro ⟨hne, hblank⟩
    exact ⟨⟨cs, hblank, hne⟩, rfl⟩
  · rintro ⟨gap, rfl⟩
    exact ⟨gap.ne_nil, gap.blank⟩

/-- At least one character, each with a property, caught as a whole. -/
def caught (p : Char → Bool) (w : List Char) : Language Char := {cs | cs ∈ ones p ∧ cs ∈ word w}

theorem mem_caught {p : Char → Bool} {w : List Char} :
    cs ∈ caught p w ↔ cs = w ∧ w ≠ [] ∧ ∀ c ∈ w, p c = true := by
  change cs ∈ ones p ∧ cs ∈ word w ↔ _
  rw [mem_ones, mem_word]
  constructor
  · rintro ⟨h, rfl⟩
    exact ⟨rfl, h⟩
  · rintro ⟨rfl, h⟩
    exact ⟨h, rfl⟩

def braced (names : List Char) : Language Char :=
  word "import".toList * ones isBlank * word ['{'] * caught (· ≠ '}') names * word ['}']

def fromModule (module : List Char) : Language Char :=
  ones isBlank * word "from".toList * ones isBlank
    * one isQuote * caught (!isQuote ·) module * one isQuote

/-- Blanks, and perhaps a semicolon. -/
def close : Language Char := blanks * (1 + word [';'])

/-- A named import: `import\s+\{([^}]+)\}\s+from\s+['"]([^'"]+)['"]\s*(;)?`. The two groups catch
the text between the braces and the module. -/
def namedImport (n : Named) : Language Char := braced n.names * fromModule n.module * close

theorem mem_braced {names : List Char} : cs ∈ braced names ↔ (names ≠ [] ∧ '}' ∉ names) ∧
    ∃ a : Gap, cs = "import".toList ++ (a.chars ++ '{' :: (names ++ ['}'])) := by
  have hbrace : (∀ c ∈ names, decide (c ≠ '}') = true) ↔ '}' ∉ names := by
    simp only [decide_eq_true_eq]
    exact ⟨fun h hmem => h '}' hmem rfl, fun h c hc heq => h (heq ▸ hc)⟩
  simp only [braced, Language.mem_mul, mem_word, mem_ones_isBlank, mem_caught, hbrace]
  constructor
  · rintro ⟨_, ⟨_, ⟨_, ⟨_, rfl, _, ⟨a, rfl⟩, rfl⟩, _, rfl, rfl⟩, _, ⟨rfl, hnames⟩, rfl⟩, _, rfl,
      rfl⟩
    exact ⟨hnames, a, by simp⟩
  · rintro ⟨hnames, a, rfl⟩
    exact ⟨_, ⟨_, ⟨_, ⟨_, rfl, _, ⟨a, rfl⟩, rfl⟩, _, rfl, rfl⟩, _, ⟨rfl, hnames⟩, rfl⟩,
      _, rfl, by simp⟩

theorem mem_fromModule {module : List Char} :
    cs ∈ fromModule module ↔ (module ≠ [] ∧ ∀ c ∈ module, isQuote c = false) ∧
      ∃ (b c : Gap) (opening closing : Char), isQuote opening = true ∧ isQuote closing = true ∧
        cs = b.chars ++ ("from".toList ++ (c.chars ++ opening :: (module ++ [closing]))) := by
  simp only [fromModule, Language.mem_mul, mem_word, mem_one, mem_ones_isBlank, mem_caught,
    Bool.not_eq_true']
  constructor
  · rintro ⟨_,
      ⟨_, ⟨_, ⟨_, ⟨_, ⟨b, rfl⟩, _, rfl, rfl⟩, _, ⟨c, rfl⟩, rfl⟩, _, ⟨opening, ho, rfl⟩, rfl⟩, _,
      ⟨rfl, hmodule⟩, rfl⟩, _, ⟨closing, hc, rfl⟩, rfl⟩
    exact ⟨hmodule, b, c, opening, closing, ho, hc, by simp⟩
  · rintro ⟨hmodule, b, c, opening, closing, ho, hc, rfl⟩
    exact ⟨_,
      ⟨_, ⟨_, ⟨_, ⟨_, ⟨b, rfl⟩, _, rfl, rfl⟩, _, ⟨c, rfl⟩, rfl⟩, _, ⟨opening, ho, rfl⟩, rfl⟩, _,
      ⟨rfl, hmodule⟩, rfl⟩, _, ⟨closing, hc, rfl⟩, by simp⟩

theorem mem_close : cs ∈ close ↔ ∃ w, AllBlank w ∧ (cs = w ∨ cs = w ++ [';']) := by
  simp only [close, Language.mem_mul, Language.mem_add, Language.mem_one, mem_word, mem_blanks]
  constructor
  · rintro ⟨w, hw, _, rfl | rfl, rfl⟩
    · exact ⟨w, hw, .inl (List.append_nil w)⟩
    · exact ⟨w, hw, .inr rfl⟩
  · rintro ⟨w, hw, rfl | rfl⟩
    · exact ⟨cs, hw, [], .inl rfl, List.append_nil cs⟩
    · exact ⟨w, hw, [';'], .inr rfl, rfl⟩

theorem mem_namedImport : cs ∈ namedImport n ↔
    n.Fits ∧ ∃ (a b c : Gap) (opening closing : Char) (tail : List Char), isQuote opening = true ∧
      isQuote closing = true ∧ tail ∈ close ∧ cs = n.written a b c opening closing ++ tail := by
  delta Named.written
  simp only [namedImport, Language.mem_mul, mem_braced, mem_fromModule]
  constructor
  · rintro ⟨_,
      ⟨_, ⟨⟨hnames, hbrace⟩, a, rfl⟩, _, ⟨⟨hmodule, hquote⟩, b, c, opening, closing, ho, hc, rfl⟩,
      rfl⟩, tail, htail, rfl⟩
    exact ⟨⟨hnames, hbrace, hmodule, hquote⟩, a, b, c, opening, closing, tail, ho, hc,
      htail, by simp⟩
  · rintro ⟨⟨hnames, hbrace, hmodule, hquote⟩, a, b, c, opening, closing, tail, ho, hc, htail, rfl⟩
    exact ⟨_,
      ⟨_, ⟨⟨hnames, hbrace⟩, a, rfl⟩, _, ⟨⟨hmodule, hquote⟩, b, c, opening, closing, ho, hc, rfl⟩,
      rfl⟩, tail, htail, by simp⟩

/-- The pattern matches at the start of a text and catches `n`. Of all matches there it is the one
that takes most, so that `rest` is left. -/
structure Matches (cs : List Char) (n : Named) (rest : List Char) : Prop where
  text : ∃ text ∈ namedImport n, cs = text ++ rest
  longest : ∀ m, ∀ text ∈ namedImport m, ∀ rest', cs = text ++ rest' → rest.length ≤ rest'.length

theorem length_dropSemicolon_close {tail : List Char} (h : tail ∈ close) (rest : List Char) :
    (dropSemicolon ((tail ++ rest).dropWhile isBlank)).length ≤ rest.length := by
  obtain ⟨w, hw, rfl | rfl⟩ := mem_close.mp h
  · rw [List.dropWhile_append_of_pos hw]
    exact (length_dropSemicolon _).trans (List.dropWhile_suffix _).length_le
  · rw [List.append_assoc, List.dropWhile_append_of_pos hw]
    exact Nat.le_refl _

theorem exists_close (after : List Char) :
    ∃ tail ∈ close, after = tail ++ dropSemicolon (after.dropWhile isBlank) := by
  have hblank : AllBlank (after.takeWhile isBlank) := fun c hc => List.mem_takeWhile_imp hc
  have hparts : after = after.takeWhile isBlank ++ after.dropWhile isBlank :=
    List.takeWhile_append_dropWhile.symm
  unfold dropSemicolon
  split
  · rename_i cs hcs
    refine ⟨_, mem_close.mpr ⟨_, hblank, .inr rfl⟩, ?_⟩
    rw [hcs] at hparts
    simpa using hparts
  · exact ⟨_, mem_close.mpr ⟨_, hblank, .inl rfl⟩, hparts⟩

/-- Wherever a match begins, an import is read, and with it no less than the match takes. -/
theorem exists_named? {text : List Char} (h : text ∈ namedImport n) (rest : List Char) :
    ∃ rest', named? (text ++ rest) = some (n, rest') ∧ rest'.length ≤ rest.length := by
  obtain ⟨hfits, a, b, c, opening, closing, tail, ho, hc, htail, rfl⟩ := mem_namedImport.mp h
  rw [List.append_assoc]
  exact ⟨_, hfits.named?_written ho hc _, length_dropSemicolon_close htail rest⟩

theorem matches_of_named? {rest : List Char} (h : named? cs = some (n, rest)) :
    Matches cs n rest := by
  constructor
  · obtain ⟨hfits, a, b, c, opening, closing, after, ho, hc, rfl, rfl⟩ := exists_written h
    obtain ⟨tail, htail, hafter⟩ := exists_close after
    refine ⟨_, mem_namedImport.mpr ⟨hfits, a, b, c, opening, closing, tail, ho, hc, htail, rfl⟩, ?_⟩
    rw [List.append_assoc, ← hafter]
  · rintro m text htext rest' rfl
    obtain ⟨rest'', hnamed, hle⟩ := exists_named? htext rest'
    obtain ⟨-, rfl⟩ : m = n ∧ rest'' = rest := by simpa [hnamed] using h
    exact hle

/-- An import is read where the pattern matches, and what the match catches and leaves is what is
read and left. -/
theorem matches_iff {rest : List Char} : Matches cs n rest ↔ named? cs = some (n, rest) := by
  refine ⟨?_, matches_of_named?⟩
  rintro ⟨⟨text, htext, rfl⟩, hlongest⟩
  obtain ⟨rest', hnamed, hle⟩ := exists_named? htext rest
  obtain ⟨text', htext', heq⟩ := (matches_of_named? hnamed).text
  -- Both are ends of one text, and neither is longer than the other.
  have hlength : rest.length = rest'.length :=
    Nat.le_antisymm (hlongest n text' htext' rest' heq) hle
  obtain ⟨-, rfl⟩ := List.append_inj' heq hlength
  exact hnamed

end Pattern

end Playground.Imports
