import Playground.Proofs.Imports.Header
import Playground.Proofs.Imports.LineParts
import Playground.Proofs.Imports.Merge
import Playground.Proofs.Script.Grammar.Names
import Playground.Proofs.Script.Layout.Imports

/-! Printed imports as lines of a header. The line of an import that has nothing unusual in it is
taken for an import; it is an import of plain bindings, or it has no other import in its text. -/

namespace Playground

open Text Script

theorem Script.IsName.isBinding {name : List Char} (h : IsName name) : Imports.IsBinding name := by
  have hblank : ∀ c ∈ name, isBlank c = false := by
    intro c hc
    have hspace := Reader.isSpace_eq_false (p := isIdentPart) (by decide +kernel) (h.parts c hc)
    simp only [Reader.isSpace, Bool.or_eq_false_iff] at hspace
    exact hspace.2
  have hother (d : Char) (hd : isIdentPart d = false) : d ∉ name := by
    intro hmem
    rw [h.parts d hmem] at hd
    cases hd
  obtain ⟨c, rest, rfl, -⟩ := h.visible
  exact ⟨List.cons_ne_nil c rest,
    ⟨fun d hd => hblank d (List.mem_of_mem_head? hd),
      fun d hd => hblank d (List.mem_of_getLast? hd)⟩,
    hother ',' (by decide), hother '}' (by decide)⟩

/-! ### Plain imports -/

namespace Script

open Imports

/-- The module is named between quotes, and nothing in its name looks like an import or ends the
line. -/
def StringLit.isPlain (lit : StringLit) : Bool :=
  match lit.raw.toList with
  | quote :: rest =>
    let module := rest.dropLast
    isQuote quote && rest.getLast? == some quote && !module.isEmpty && module.all (!isQuote ·) &&
      !module.contains '\n' && !hasOpening module
  | [] => false

/-- What is imported is not told by a string. -/
def ImportSpecifier.isPlain : ImportSpecifier → Bool
  | .named _ (some (.string _)) _ => false
  | _ => true

/-- An import of that kind; a phase needs something that is imported in it. -/
def ModuleItem.isPlainImport : ModuleItem → Bool
  | .importFrom _ phase ss lit =>
    (phase.name?.isNone || !ss.isEmpty) && ss.all (·.isPlain) && lit.isPlain
  | _ => false

theorem StringLit.exists_of_isPlain {lit : StringLit} (h : lit.isPlain = true) :
    ∃ quote module, lit.raw.toList = quote :: (module ++ [quote]) ∧
      isQuote quote = true ∧ module ≠ [] ∧
      (∀ c ∈ module, isQuote c = false) ∧ '\n' ∉ module ∧ hasOpening module = false := by
  unfold isPlain at h
  split at h
  · rename_i quote rest hraw
    simp only [Bool.and_eq_true, beq_iff_eq, Bool.not_eq_true', List.isEmpty_eq_false_iff,
      List.all_eq_true, List.contains_eq_mem, decide_eq_false_iff_not] at h
    obtain ⟨⟨⟨⟨⟨hquote, hlast⟩, hne⟩, hquotes⟩, hfeed⟩, hopen⟩ := h
    obtain ⟨module, rfl⟩ := List.getLast?_eq_some_iff.mp hlast
    rw [List.dropLast_concat] at hne hquotes hfeed hopen
    exact ⟨quote, module, hraw, hquote, hne, hquotes, hfeed, hopen⟩
  · cases h

/-- What names and the words between them are made of. -/
def isClauseChar (c : Char) : Bool := isIdentPart c || c = ' ' || c = '*'

theorem IsName.clause {name : List Char} (h : IsName name) : ∀ c ∈ name, isClauseChar c = true := by
  intro c hc
  simp [isClauseChar, h.parts c hc]

theorem ImportSpecifier.clause_text {s : ImportSpecifier} (h : s.Names)
    (hplain : s.isPlain = true) :
    ∀ c ∈ s.text, isClauseChar c = true := by
  have hstar : ∀ c ∈ "* as ".toList, isClauseChar c = true := List.all_eq_true.mp (by decide)
  have has : ∀ c ∈ " as ".toList, isClauseChar c = true := List.all_eq_true.mp (by decide)
  cases s with
  | default id => exact h.clause
  | star span id => exact List.forall_mem_append.mpr ⟨hstar, IsName.clause h⟩
  | named span imported id =>
    cases imported with
    | none => exact h.1.clause
    | some ext =>
      cases ext with
      | name ext =>
        exact List.forall_mem_append.mpr ⟨List.forall_mem_append.mpr ⟨(h.2 ext rfl).clause, has⟩,
          h.1.clause⟩
      | string => cases hplain

theorem not_mem_of_clause {cs : List Char} (h : ∀ c ∈ cs, isClauseChar c = true) {d : Char}
    (hd : isClauseChar d = false) : d ∉ cs := by
  intro hmem
  rw [h d hmem] at hd
  cases hd

/-- A plain specifier with a name is a binding. -/
theorem ImportSpecifier.isBinding_text {s : ImportSpecifier} (h : s.Names)
    (hplain : s.isPlain = true) (hnamed : s.isNamed = true) : IsBinding s.text := by
  have hclause := clause_text h hplain
  have hcomma : ',' ∉ s.text := not_mem_of_clause hclause (by decide)
  have hbrace : '}' ∉ s.text := not_mem_of_clause hclause (by decide)
  cases s with
  | named span imported id =>
    have hid := h.1.isBinding
    cases imported with
    | none => exact hid
    | some ext =>
      cases ext with
      | name ext =>
        have hext := (h.2 ext rfl).isBinding
        refine ⟨?_, ⟨fun c hc => hext.trimmed.first c ?_, fun c hc => hid.trimmed.last c ?_⟩,
          hcomma, hbrace⟩
        · simp [text]
        · rw [text, ExternalName.text, List.append_assoc, List.head?_append_of_ne_nil _ hext.ne_nil]
            at hc
          exact hc
        · rw [text, List.getLast?_append_of_ne_nil _ hid.ne_nil] at hc
          exact hc
      | string => cases hplain
  | _ => cases hnamed

/-! ### The line of a plain import -/

/-- What may stand between the word and the module. -/
def isHeadChar (c : Char) : Bool := isClauseChar c || c = ',' || c = '{' || c = '}'

theorem isHeadChar_of_clause {cs : List Char} (h : ∀ c ∈ cs, isClauseChar c = true) :
    ∀ c ∈ cs, isHeadChar c = true := by
  intro c hc
  simp [isHeadChar, h c hc]

section

variable {ss : List ImportSpecifier} (hnames : ∀ s ∈ ss, s.Names)
    (hplain : ∀ s ∈ ss, s.isPlain = true)

include hnames hplain

theorem clause_intercalate : ∀ c ∈ ", ".toList.intercalate (ss.map ImportSpecifier.text),
    isClauseChar c = true ∨ c = ',' := by
  refine forall_mem_intercalate (by simp [isClauseChar]) ?_
  simp only [List.forall_mem_map]
  exact fun s hs c hc => .inl (s.clause_text (hnames s hs) (hplain s hs) c hc)

theorem not_mem_intercalate {d : Char} (hd : isClauseChar d = false) (hcomma : d ≠ ',') :
    d ∉ ", ".toList.intercalate (ss.map ImportSpecifier.text) := by
  intro hmem
  rcases clause_intercalate hnames hplain d hmem with hclause | rfl
  · rw [hclause] at hd
    cases hd
  · exact hcomma rfl

theorem head_intercalate :
    ∀ c ∈ ", ".toList.intercalate (ss.map ImportSpecifier.text), isHeadChar c = true := by
  intro c hc
  rcases clause_intercalate hnames hplain c hc with hclause | rfl
  · simp [isHeadChar, hclause]
  · rfl

theorem head_importClause : ∀ c ∈ importClause ss, isHeadChar c = true := by
  have hpart (p : ImportSpecifier → Bool) :
      ∀ c ∈ ", ".toList.intercalate ((ss.filter p).map ImportSpecifier.text), isHeadChar c = true :=
    head_intercalate (fun s hs => hnames s (List.mem_filter.mp hs).1)
      fun s hs => hplain s (List.mem_filter.mp hs).1
  have hword (cs : List Char) (b : Bool) (h : ∀ c ∈ cs, isHeadChar c = true) :
      ∀ c ∈ (if b then [] else cs), isHeadChar c = true := by
    cases b with
    | false => exact h
    | true => simp
  have hfrom : ∀ c ∈ " from ".toList, isHeadChar c = true := List.all_eq_true.mp (by decide)
  have hcomma : ∀ c ∈ ", ".toList, isHeadChar c = true := List.all_eq_true.mp (by decide)
  have hopen : ∀ c ∈ "\x7b ".toList, isHeadChar c = true := List.all_eq_true.mp (by decide)
  have hclose : ∀ c ∈ " \x7d".toList, isHeadChar c = true := List.all_eq_true.mp (by decide)
  delta importClause
  refine List.forall_mem_append.mpr ⟨List.forall_mem_append.mpr ⟨hpart _, hword _ _ ?_⟩,
    hword _ _ hfrom⟩
  exact List.forall_mem_append.mpr ⟨hword _ _ hcomma, List.forall_mem_append.mpr
    ⟨List.forall_mem_append.mpr ⟨hopen, hpart _⟩, hclose⟩⟩

end

/-- The word for the phase, with a blank after it. -/
def ImportPhase.text (phase : ImportPhase) : List Char := phase.name?.elim [] (·.toList ++ [' '])

theorem ImportPhase.clause_text (phase : ImportPhase) :
    ∀ c ∈ phase.text, isClauseChar c = true := by
  cases phase <;> exact List.all_eq_true.mp (by decide)

/-- What is imported ends with the word `from`. -/
theorem exists_importClause {ss : List ImportSpecifier} (h : ss ≠ []) :
    ∃ bindings, importClause ss = bindings ++ " from ".toList := by
  delta importClause
  rw [if_neg (by simpa using h : ¬ ss.isEmpty = true)]
  exact ⟨_, rfl⟩

theorem isBindings_append_from {bindings : List Char} (h : ∀ c ∈ bindings, isHeadChar c = true) :
    isBindings (' ' :: (bindings ++ " from ".toList)) = true := by
  have hbindings : NoParens bindings := by
    intro c hc
    constructor <;> rintro rfl <;> cases h _ hc
  have hspace : NoParens [' '] := noParens_of_blank space.blank
  have hsplit : ' ' :: (bindings ++ " from ".toList) =
      ([' '] ++ (bindings ++ [' '])) ++ ("from".toList ++ [' ']) := by simp
  rw [hsplit]
  exact isBindings_iff.mpr (.bindings (hspace.append (hbindings.append hspace)) space.blank)

/-- A line with a module between quotes that nothing but bindings stand before. -/
theorem isImportLine_append {bindings module : List Char} {quote : Char}
    (hquote : isQuote quote = true) (hb : isBindings (' ' :: bindings) = true)
    (hbq : ∀ c ∈ bindings, isQuote c = false) (hne : module ≠ [])
    (hmq : ∀ c ∈ module, isQuote c = false) :
    isImportLine ("import ".toList ++ (bindings ++ quote :: (module ++ [quote, ';']))) = true := by
  have hclause : NoQuotes (' ' :: bindings) := List.forall_mem_cons.mpr ⟨by decide, hbq⟩
  have hnone : AllBlank [] := by simp [AllBlank]
  have htail := isImportTail_append hclause hquote hmq hquote [';']
  rw [hb, show isImportEnd [';'] = true by decide] at htail
  refine (isImportLine_append_tail hnone _).trans (htail.trans ?_)
  simp [hne]

/-- The text of an import that comes before the module. -/
def importHead (phase : ImportPhase) (ss : List ImportSpecifier) : List Char :=
  phase.text ++ importClause ss

theorem importLine_eq {span : Span} {phase : ImportPhase} {ss : List ImportSpecifier}
    {lit : StringLit} {quote : Char} {module : List Char}
    (hraw : lit.raw.toList = quote :: (module ++ [quote])) :
    (ModuleItem.importFrom span phase ss lit).importLine =
      "import ".toList ++ (importHead phase ss ++ quote :: (module ++ [quote, ';'])) := by
  change "import ".toList ++ (phase.text ++ (importClause ss ++ (lit.raw.toList ++ [';']))) = _
  rw [hraw, importHead, List.append_assoc phase.text, List.cons_append, List.append_assoc module]
  rfl

theorem isBindings_importHead {phase : ImportPhase} {ss : List ImportSpecifier}
    (hphase : phase.name? = none ∨ ss ≠ [])
    (h : ∀ c ∈ importHead phase ss, isHeadChar c = true) :
    isBindings (' ' :: importHead phase ss) = true := by
  by_cases hss : ss = []
  · subst hss
    rw [importHead, ImportPhase.text, hphase.resolve_right (by simp)]
    decide
  · obtain ⟨bindings, hclause⟩ := exists_importClause hss
    rw [importHead, hclause, ← List.append_assoc] at h ⊢
    exact isBindings_append_from (List.forall_mem_append.mp h).1

theorem parts_of_isQuote {c : Char} (h : isQuote c = true) : Parts c := by
  unfold isQuote at h
  rcases Bool.or_eq_true_iff.mp h with h | h <;> rw [of_decide_eq_true h] <;>
    exact ⟨by decide, by decide, by decide⟩

theorem parts_comma : Parts ',' := ⟨by decide, by decide, by decide⟩

/-- Names between braces, with nothing before them that makes them an import. -/
theorem hasOpening_braces {text : List Char} (h : '{' ∉ text) :
    hasOpening (' ' :: '{' :: text) = false := by
  rw [hasOpening_cons_of_ne (by decide), hasOpening_cons_of_ne (by decide), hasOpening_of_not_mem h]

/-- The word for a phase stands between the word `import` and the brace. -/
theorem hasOpening_phase {phase : ImportPhase} (hphase : phase ≠ .evaluation) {text : List Char}
    (h : '{' ∉ text) :
    hasOpening ("import ".toList ++ (phase.text ++ '{' :: text)) = false := by
  have hopen : opensNames ("import ".toList ++ (phase.text ++ '{' :: text)) = false := by
    cases phase with
    | evaluation => exact absurd rfl hphase
    | source | defer => rfl
  have hrest : hasOpening ("mport ".toList ++ (phase.text ++ '{' :: text)) = false := by
    have hi : 'i' ∉ phase.text := by cases phase <;> decide
    rw [hasOpening_append_of_not_mem (by decide), hasOpening_append_of_not_mem hi,
      hasOpening_cons_of_ne (by decide), hasOpening_of_not_mem h]
  change (opensNames ("import ".toList ++ (phase.text ++ '{' :: text)) ||
    hasOpening ("mport ".toList ++ (phase.text ++ '{' :: text))) = false
  rw [hopen, hrest]
  rfl

section

variable {phase : ImportPhase} {ss : List ImportSpecifier} (hnames : ∀ s ∈ ss, s.Names)
  (hplain : ∀ s ∈ ss, s.isPlain = true)

include hnames hplain

theorem head_importHead : ∀ c ∈ importHead phase ss, isHeadChar c = true :=
  List.forall_mem_append.mpr ⟨isHeadChar_of_clause phase.clause_text,
    head_importClause hnames hplain⟩

theorem not_mem_importHead {d : Char} (hd : isHeadChar d = false) : d ∉ importHead phase ss := by
  intro hmem
  rw [head_importHead hnames hplain d hmem] at hd
  cases hd

/-- If an import does not bring names alone, no import of names begins in what comes before its
module. -/
theorem hasOpening_importHead (hother : phase ≠ .evaluation ∨ ∃ s ∈ ss, s.isNamed = false) :
    hasOpening ("import ".toList ++ importHead phase ss) = false := by
  have hpart (p : ImportSpecifier → Bool) :
      '{' ∉ ", ".toList.intercalate ((ss.filter p).map ImportSpecifier.text) :=
    not_mem_intercalate (fun s hs => hnames s (List.mem_filter.mp hs).1)
      (fun s hs => hplain s (List.mem_filter.mp hs).1) (by decide) (by decide)
  have hphase : '{' ∉ phase.text := not_mem_of_clause phase.clause_text (by decide)
  have hword : '{' ∉ "import ".toList := by decide
  have hfrom : '{' ∉ (if ss.isEmpty then [] else " from ".toList) := by split <;> decide
  have hnamed := hpart (·.isNamed)
  have hothers := hpart (!·.isNamed)
  have hfew : ss.filter (!·.isNamed) = [] → phase ≠ .evaluation := by
    intro hnil
    refine hother.resolve_right ?_
    rintro ⟨s, hs, hfalse⟩
    have : s ∈ ss.filter (!·.isNamed) := List.mem_filter.mpr ⟨hs, by rw [hfalse]; rfl⟩
    rw [hnil] at this
    cases this
  rw [importHead]
  delta importClause
  dsimp only
  generalize ss.filter (·.isNamed) = named at *
  generalize ss.filter (!·.isNamed) = others at *
  generalize (if ss.isEmpty then [] else " from ".toList) = ending at *
  by_cases hn : named = []
  · subst hn
    refine hasOpening_of_not_mem ?_
    simp only [List.isEmpty_nil, ↓reduceIte, List.append_nil, List.mem_append, not_or]
    exact ⟨hword, hphase, hothers, hfrom⟩
  · have hbehind : '{' ∉ ' ' :: (", ".toList.intercalate (named.map ImportSpecifier.text) ++
        (" \x7d".toList ++ ending)) := by
      simp only [List.mem_cons, List.mem_append, not_or]
      exact ⟨by decide, hnamed, by decide, hfrom⟩
    rw [if_neg (by simpa using hn : ¬ named.isEmpty = true)]
    by_cases ho : others = []
    · subst ho
      simpa using hasOpening_phase (hfew rfl) hbehind
    · rw [if_neg (by simpa using ho : ¬ others.isEmpty = true)]
      -- The comma before the brace belongs to no import of names.
      have hbefore : '{' ∉ "import ".toList ++
          (phase.text ++ ", ".toList.intercalate (others.map ImportSpecifier.text)) := by
        simp only [List.mem_append, not_or]
        exact ⟨hword, hphase, hothers⟩
      simpa using hasOpening_append_cons parts_comma (hasOpening_of_not_mem hbefore)
        (hasOpening_braces hbehind)

end

/-- The module in quotes and the semicolon behind it do not open names either. -/
theorem hasOpening_importLine {head module : List Char} {quote : Char}
    (hquote : isQuote quote = true) (hhead : hasOpening ("import ".toList ++ head) = false)
    (hmodule : hasOpening module = false) :
    hasOpening ("import ".toList ++ (head ++ quote :: (module ++ [quote, ';']))) = false := by
  have hc := parts_of_isQuote hquote
  have hend : hasOpening [';'] = false := by decide
  rw [← List.append_assoc]
  exact hasOpening_append_cons hc hhead (hasOpening_append_cons hc hmodule hend)

/-- Names alone, printed between braces, are an import of plain bindings. -/
theorem isNamedImport_importLine {ss : List ImportSpecifier} (hne : ss ≠ [])
    (hnames : ∀ s ∈ ss, s.Names) (hplain : ∀ s ∈ ss, s.isPlain = true)
    (hnamed : ∀ s ∈ ss, s.isNamed = true) {module : List Char} {quote : Char}
    (hquote : isQuote quote = true) (hmodule : module ≠ [])
    (hmq : ∀ c ∈ module, isQuote c = false) :
    IsNamedImport ("import ".toList ++
      (importHead .evaluation ss ++ quote :: (module ++ [quote, ';']))) := by
  have hclause : importHead .evaluation ss =
      '{' :: (' ' :: (", ".toList.intercalate (ss.map ImportSpecifier.text) ++ [' ']) ++
          '}' :: " from ".toList) := by
    have hall : ss.filter (·.isNamed) = ss := List.filter_eq_self.mpr hnamed
    have hnone : ss.filter (!·.isNamed) = [] := List.filter_eq_nil_iff.mpr fun s hs => by
      simp [hnamed s hs]
    rw [importHead]
    delta importClause
    dsimp only
    rw [hall, hnone]
    simp [hne, ImportPhase.text, ImportPhase.name?]
  have hbinding : ∀ name ∈ ss.map ImportSpecifier.text, IsBinding name :=
    List.forall_mem_map.mpr fun s hs => s.isBinding_text (hnames s hs) (hplain s hs) (hnamed s hs)
  have hlisted := listed_intercalate (by simpa using hne) hbinding
  refine ⟨⟨_, module⟩, _, ?_, hlisted⟩
  have hline : "import ".toList ++
      (importHead .evaluation ss ++ quote :: (module ++ [quote, ';'])) =
      Named.chars ⟨' ' :: (", ".toList.intercalate (ss.map ImportSpecifier.text) ++ [' ']), module⟩
        space space space quote ++ ([] ++ ';' :: []) := by
    rw [hclause]
    delta Named.chars space
    simp
  rw [hline]
  exact .closed ⟨hlisted.ne_nil, hlisted.brace, hmodule, hmq⟩ hquote (by simp [AllBlank])
    (by simp [AllBlank])

/-- The line of an import fits into a header: it is taken for an import, it ends where the import
does, and merging understands it or carries it along. -/
structure FitsHeader (line : List Char) : Prop where
  imports : isImportLine line = true
  feed : '\n' ∉ line
  last : line.getLast? = some ';'
  plain : IsNamedImport line ∨ (trim line = line ∧ hasOpening line = false)

theorem ModuleItem.fitsHeader {item : ModuleItem} (hitem : item.isPlainImport = true)
    (hnames : item.Names) :
    FitsHeader item.importLine := by
  cases item with
  | importFrom span phase ss lit =>
    simp only [isPlainImport, Bool.and_eq_true, Bool.or_eq_true, Option.isNone_iff_eq_none,
      Bool.not_eq_true', List.isEmpty_eq_false_iff, List.all_eq_true] at hitem
    obtain ⟨⟨hphase, hplain⟩, hlit⟩ := hitem
    have hss := hnames.imported span phase ss lit rfl
    obtain ⟨quote, module, hraw, hquote, hne, hmq, hfeed, hopen⟩ := lit.exists_of_isPlain hlit
    have hchar {d : Char} (hd : isHeadChar d = false) : d ∉ importHead phase ss :=
      not_mem_importHead hss hplain hd
    have hhq : ∀ c ∈ importHead phase ss, isQuote c = false := by
      intro c hc
      rw [← Bool.not_eq_true]
      intro hcq
      unfold isQuote at hcq
      rcases Bool.or_eq_true_iff.mp hcq with hcq | hcq <;> rw [of_decide_eq_true hcq] at hc <;>
        exact hchar (by decide) hc
    have hlast :
        ("import ".toList ++ (importHead phase ss ++ quote :: (module ++ [quote, ';']))).getLast? =
            some ';' := by
      simp [List.getLast?_append, List.getLast?_cons]
    rw [importLine_eq hraw]
    refine ⟨isImportLine_append hquote (isBindings_importHead hphase (head_importHead hss hplain))
      hhq hne hmq, ?_, hlast, ?_⟩
    · have hquote' : '\n' ≠ quote := by
        rintro rfl
        cases hquote
      simp only [List.mem_append, List.mem_cons, not_or]
      exact ⟨by decide, hchar (by decide), hquote', hfeed, hquote', by decide, List.not_mem_nil⟩
    · by_cases hbrings : phase = .evaluation ∧ ss ≠ [] ∧ ∀ s ∈ ss, s.isNamed = true
      · obtain ⟨rfl, hne', hnamed⟩ := hbrings
        exact .inl (isNamedImport_importLine hne' hss hplain hnamed hquote hne hmq)
      · refine .inr ⟨trim_eq_self_iff.mpr ⟨?_, ?_⟩, ?_⟩
        · rintro c ⟨⟩
          decide
        · intro c hc
          rw [hlast] at hc
          cases hc
          decide
        · refine hasOpening_importLine hquote ?_ hopen
          by_cases hempty : ss = []
          · subst hempty
            rw [importHead, ImportPhase.text, hphase.resolve_right (by simp)]
            decide
          · refine hasOpening_importHead hss hplain ?_
            simpa [hempty, Classical.or_iff_not_imp_left] using hbrings
  | _ => cases hitem

/-! ### The header of a module -/

theorem lines_importLines {items : List ModuleItem} (h : ∀ item ∈ items, FitsHeader item.importLine)
    (rest : List Char) :
    lines (items.flatMap (fun item => item.importLine ++ ['\n']) ++ rest) =
      items.map ModuleItem.importLine ++ lines rest := by
  induction items with
  | nil => rfl
  | cons item items ih =>
    obtain ⟨hitem, hitems⟩ := List.forall_mem_cons.mp h
    have hreturn : item.importLine.getLast? ≠ some '\r' := by
      rw [hitem.last]
      decide
    rw [List.flatMap_cons, List.append_assoc, List.append_assoc, List.singleton_append,
      lines_append_feed hitem.feed hreturn, ih hitems, List.map_cons, List.cons_append]

/-- Items before the first one that is no import. -/
def Module.firstImports (m : Module) : List ModuleItem := m.items.takeWhile (·.isImport)

/-- The module begins with its imports, each of them plain, with no comment kept for any of their
places. -/
structure Source.ImportsAhead (s : Source) : Prop where
  shebang : s.module.shebang = none
  start : s.comments.Free s.module.span.start
  plain : ∀ item ∈ s.module.firstImports, item.isPlainImport = true
  free : ∀ item ∈ s.module.firstImports, ∀ place ∈ item.importPlaces, s.comments.Free place
  others : ∀ item ∈ s.module.items.drop s.module.firstImports.length, item.isImport = false

/-- The imports come first, and what is printed behind them does not look like one more. -/
structure Source.ImportsFirst (s : Source) : Prop extends s.ImportsAhead where
  line : ∀ l ∈ (lines (s.textFrom s.module.firstImports.length)).head?, isImportLine l = false

instance (s : Source) : Decidable s.ImportsAhead :=
  decidable_of_iff (_ ∧ _ ∧ _ ∧ _ ∧ _)
    ⟨fun ⟨h₁, h₂, h₃, h₄, h₅⟩ => ⟨h₁, h₂, h₃, h₄, h₅⟩,
      fun h => ⟨h.shebang, h.start, h.plain, h.free, h.others⟩⟩

instance (s : Source) : Decidable s.ImportsFirst :=
  decidable_of_iff (s.ImportsAhead ∧ _) ⟨fun ⟨h₁, h₂⟩ => ⟨h₁, h₂⟩,
    fun h => ⟨h.toImportsAhead, h.line⟩⟩

theorem Module.take_firstImports (m : Module) :
    m.items.take m.firstImports.length = m.firstImports :=
  (List.prefix_iff_eq_take.mp (List.takeWhile_prefix _)).symm

/-- Text printed of what follows the first imports. -/
def Source.bodyText (s : Source) : List Char := s.textFrom s.module.firstImports.length

section

variable {s : Source} (h : s.ImportsFirst) (hnames : ∀ item ∈ s.module.items, item.Names)

include h hnames

theorem Source.ImportsFirst.fitsHeader :
    ∀ item ∈ s.module.firstImports, FitsHeader item.importLine :=
  fun item hitem => item.fitsHeader (h.plain item hitem)
    (hnames item ((List.takeWhile_prefix _).subset hitem))

/-- The imports are printed on a line each, and then comes the rest. -/
theorem Source.ImportsFirst.lines_print :
    lines s.print.toList = s.module.firstImports.map ModuleItem.importLine ++ lines s.bodyText := by
  have hprint := s.print_imports (k := s.module.firstImports.length) h.shebang h.start (by
    rw [s.module.take_firstImports]
    exact fun item hitem => ⟨List.mem_takeWhile_imp hitem, h.free item hitem⟩)
  rw [s.module.take_firstImports] at hprint
  rw [hprint]
  exact lines_importLines (h.fitsHeader hnames) s.bodyText

theorem Source.ImportsFirst.isHeaderLine : ∀ line ∈ s.module.firstImports.map ModuleItem.importLine,
    isHeaderLine line = true ∧ isBlankLine line = false := by
  intro line hline
  obtain ⟨item, hitem, rfl⟩ := List.mem_map.mp hline
  have hfits := h.fitsHeader hnames item hitem
  refine ⟨by simp [Imports.isHeaderLine, hfits.imports], ?_⟩
  exact List.all_eq_false.mpr ⟨';', List.mem_of_getLast? hfits.last, by decide⟩

variable (hshows : ∀ item ∈ s.module.items, item.Shows)

include hshows

omit hnames in
/-- The header ends where the imports do. -/
theorem Source.ImportsFirst.not_isHeaderLine :
    ∀ l ∈ (lines s.bodyText).head?, Imports.isHeaderLine l = false := by
  intro l hl
  obtain ⟨ls, hlines⟩ := List.head?_eq_some_iff.mp hl
  have hblank := isBlankLine_first (s.started_textFrom hshows _) hlines
  rw [Imports.isHeaderLine, hblank, h.line l hl]
  rfl

/-- Taking the header off takes the first imports off, each as the line that it is printed on. -/
theorem Source.ImportsFirst.split_print :
    headerLines s.print.toList = s.module.firstImports.map ModuleItem.importLine ∧
      (split s.print.toList).body = unlines (lines s.bodyText) := by
  have hheader := h.isHeaderLine hnames
  have hstop := h.not_isHeaderLine hshows
  have htake : (lines s.bodyText).takeWhile Imports.isHeaderLine = [] ∧
      (lines s.bodyText).dropWhile Imports.isHeaderLine = lines s.bodyText := by
    cases hlines : lines s.bodyText with
    | nil => exact ⟨rfl, rfl⟩
    | cons l ls =>
      have hl := hstop l (by rw [hlines]; rfl)
      simp [hl]
  have hpos : ∀ line ∈ s.module.firstImports.map ModuleItem.importLine,
      Imports.isHeaderLine line = true :=
    fun line hline => (hheader line hline).1
  rw [headerLines, body_split, h.lines_print hnames, List.takeWhile_append_of_pos hpos,
    List.dropWhile_append_of_pos hpos, htake.1, htake.2, List.append_nil]
  exact ⟨List.filter_eq_self.mpr fun line hline => by rw [(hheader line hline).2]; rfl, rfl⟩

theorem Source.ImportsFirst.hasPlainHeader : HasPlainHeader s.print.toList := by
  rw [HasPlainHeader, (h.split_print hnames hshows).1]
  intro line hline
  obtain ⟨item, hitem, rfl⟩ := List.mem_map.mp hline
  exact (h.fitsHeader hnames item hitem).plain

end

end Script

end Playground
