import Playground.Proofs.Batch.Exports
import Playground.Proofs.Batch.Unified
import Playground.Proofs.Imports.Ahead

/-! Assembled scripts. If the imports of each file come first and are plain, none of them is left
behind in a body. So an assembled script has one import of names for each module, and nothing is
imported by hand and then once more. -/

namespace Playground

open Text Script

namespace Imports

theorem hasOpening_blank_append {w : List Char} (h : AllBlank w) (cs : List Char) :
    hasOpening (w ++ cs) = hasOpening cs :=
  hasOpening_append_of_not_mem (h.not_mem (by decide)) cs

theorem hasOpening_append_blank {cs w : List Char} (h : hasOpening cs = false) (hw : AllBlank w) :
    hasOpening (cs ++ w) = false := by
  induction cs with
  | nil => rw [List.nil_append, ← List.append_nil w, hasOpening_blank_append hw]; rfl
  | cons c cs ih =>
    rw [hasOpening, Bool.or_eq_false_iff] at h
    rw [List.cons_append, hasOpening, ih h.2, Bool.or_false, ← Bool.not_eq_true]
    intro hopen
    obtain ⟨gap, tail, heq⟩ := exists_of_opensNames hopen
    rw [← List.cons_append, ← List.append_assoc] at heq
    -- The brace is not blank, so it stands before the blanks.
    rcases List.append_eq_append_iff.mp heq with ⟨mid, -, hmid⟩ | ⟨mid, hcs, hmid⟩
    · have hbrace : '{' ∈ w := by rw [hmid]; simp
      exact hw.not_mem (by decide) hbrace
    · cases mid with
      | nil =>
        have hbrace : '{' ∈ w := by rw [← List.nil_append w, ← hmid]; simp
        exact hw.not_mem (by decide) hbrace
      | cons d mid =>
        cases hmid
        rw [hcs, List.append_assoc, opensNames_append] at h
        cases h.1

theorem hasOpening_of_trim {cs : List Char} (h : hasOpening (trim cs) = false) :
    hasOpening cs = false := by
  obtain ⟨w, v, hw, hv, heq⟩ := exists_blanks cs
  rw [heq, hasOpening_blank_append hw]
  exact hasOpening_append_blank h hv

/-- Before its body, the script has one import for each module, with exactly the names that `binds`
gives it, and lines with no import of names in them. -/
def ImportsOnce (binds : List Char → List Char → Prop) (body script : List Char) : Prop :=
  ∃ (gs : List Group) (lines : List (List Char)), Tidy gs ∧
    (∀ module name, Binds gs module name ↔ binds module name) ∧
    (∀ line ∈ lines, hasOpening line = false) ∧
    script = unlines (gs.map Group.line ++ (lines ++ [body]))

/-- Putting a body behind unified imports. -/
theorem Unified.importsOnce {binds : List Char → List Char → Prop}
    {carried : List (List Char)} {f : File} {prepared : Prepared}
    (h : Unified binds carried prepared.imports.toList)
    (hcarried : ∀ line ∈ carried, hasOpening line = false) (hf : f.prepared = some prepared) :
    ∃ script, f.assembled = some script ∧ ImportsOnce binds prepared.body.toList script.toList := by
  obtain ⟨gs, lines, htidy, hbinds, htext, hlines⟩ := h
  refine ⟨_, by rw [File.assembled, hf]; rfl, ?_⟩
  have hopen : ∀ line ∈ lines, hasOpening line = false := by
    intro line hline
    refine hasOpening_of_trim ?_
    by_cases hblank : trim line = []
    · rw [hblank]
      rfl
    · refine hcarried _ ?_
      rw [← hlines]
      exact List.mem_filter.mpr ⟨List.mem_map_of_mem hline, by simpa using hblank⟩
  by_cases hempty : prepared.imports.toList = []
  · -- Then there is no group, as each of them takes a line that is not empty.
    have hgs : gs = [] := by
      cases gs with
      | nil => rfl
      | cons g gs =>
        have hhead := head?_of_word g.word
        rw [htext, List.map_cons, List.cons_append] at hempty
        cases hrest : gs.map Group.line ++ lines with
        | nil =>
          rw [hrest, unlines_singleton] at hempty
          rw [hempty] at hhead
          cases hhead
        | cons l ls =>
          rw [hrest, unlines_cons _ (by simp)] at hempty
          simp at hempty
    subst hgs
    have : prepared.imports.isEmpty = true := by simpa using hempty
    exact ⟨[], [], htidy, hbinds, by simp, by simp [this]⟩
  · have : prepared.imports.isEmpty = false := by simpa using hempty
    refine ⟨gs, lines, htidy, hbinds, hopen, ?_⟩
    have hne : gs.map Group.line ++ lines ≠ [] := by
      intro hnil
      rw [htext, hnil] at hempty
      exact hempty rfl
    rw [← List.append_assoc, unlines_append hne (by simp), ← htext, unlines_singleton]
    simp [this]

end Imports

namespace Batch

open Imports

variable {config : Config} {files others : List File} {entry : File}

/-- In the code that is formatted last, the imports come first. -/
def FormatsImportsFirst (p : Pipeline) (script : String) : Prop :=
  ∀ mid, Pipeline.run p.dropLast script = .ok mid → ∀ last, Source.read mid = .ok last →
    last.ImportsFirst

instance (p : Pipeline) (script : String) : Decidable (FormatsImportsFirst p script) := by
  unfold FormatsImportsFirst
  infer_instance

/-- The imports of a file come first. -/
inductive ImportsComeFirst (p : Pipeline) (script : String) : Prop
  /-- They do in its own code, what is printed and guarded before the last stage reads back with the
  same imports, and what is printed behind them in the end does not look like one more. -/
  | own {source : Source} : Source.read script = .ok source → source.ImportsAhead →
      Pipeline.Rereads Source.SameImports Source.SameImports p.dropLast script →
      (∀ mid, Pipeline.run p.dropLast script = .ok mid → ∀ last, Source.read mid = .ok last →
        ∀ l ∈ (lines last.bodyText).head?, isImportLine l = false) → ImportsComeFirst p script
  /-- They do in the code that is formatted last. -/
  | formatted : FormatsImportsFirst p script → ImportsComeFirst p script

theorem ImportsComeFirst.formats {p : Pipeline} {script : String} (h : ImportsComeFirst p script) :
    FormatsImportsFirst p script := by
  cases h with
  | own hsource hahead hback hline =>
    intro mid hmid last hlast
    exact ⟨(hback.importsAhead hsource hahead hmid hlast).1, hline mid hmid last hlast⟩
  | formatted h => exact h

/-- The file comes out with its own imports and the ones it needs, each module named once, before
the text of the items behind its imports, and none of these is an import. Its own imports are those
of the code that is formatted last; where the stages before keep the imports, they are those of its
code as it was given. -/
def Assembles (config : Config) (entry : String) (functions : List String)
    (usesTests : Bool) (p : Pipeline) (f out : File) : Prop :=
  ∃ mid last script, Pipeline.run p.dropLast f.script = .ok mid ∧ Source.read mid = .ok last ∧
    out.assembled = some script ∧
    (∀ item ∈ last.module.items.drop last.module.firstImports.length, item.isImport = false) ∧
    (∀ source, Source.read f.script = .ok source → source.ImportsAhead →
      Pipeline.Rereads Source.SameImports Source.SameImports p.dropLast f.script →
      last.module.firstImports.map ModuleItem.importLine =
        source.module.firstImports.map ModuleItem.importLine) ∧
    ImportsOnce
      (Needs config (last.module.firstImports.map ModuleItem.importLine) entry functions usesTests
        (usesTerminal config (unlines (lines last.bodyText))))
      (unlines (lines last.bodyText)) script.toList

/-- What is printed last has a plain header, and behind it the items that are no imports. -/
theorem FormatsImportsFirst.exists_last {p : Pipeline} {script code : String}
    (h : FormatsImportsFirst p script) (hp : p = p.dropLast ++ [.format])
    (hcode : p.run script = .ok code) :
    ∃ mid last, Pipeline.run p.dropLast script = .ok mid ∧ Source.read mid = .ok last ∧
      last.ImportsFirst ∧ HasPlainHeader code.toList ∧
      headerLines code.toList = last.module.firstImports.map ModuleItem.importLine ∧
      (split code.toList).body = unlines (lines last.bodyText) := by
  obtain ⟨mid, last, hmid, hlast, rfl⟩ := Pipeline.exists_print hp hcode
  have hfirst := h mid hmid last hlast
  have hnames := Source.names_of_read hlast
  have hshows : ∀ item ∈ last.module.items, item.Shows :=
    fun item hi s hs => (Source.read_good hlast item hi s hs).shows
  obtain ⟨hheader, hbody⟩ := hfirst.split_print hnames hshows
  exact ⟨mid, last, hmid, hlast, hfirst, hfirst.hasPlainHeader hnames hshows, hheader, hbody⟩

/-- A file that was prepared from a plain header and unified imports. -/
theorem FormatsImportsFirst.assembles {p : Pipeline} {f : File} {code : String}
    (h : FormatsImportsFirst p f.script) (hp : p = p.dropLast ++ [.format])
    (hcode : p.run f.script = .ok code) {prepared : Prepared}
    (hbody : prepared.body.toList = (split code.toList).body) {functions : List String}
    {usesTests : Bool} {ls : List (List Char)}
    (hunified : HasPlainHeader code.toList →
      Unified
        (Needs config (headerLines code.toList) entry.name functions usesTests
          (usesTerminal config prepared.body.toList))
        (ls.filter (!hasOpening ·)) prepared.imports.toList) :
    Assembles config entry.name functions usesTests p f { f with prepared := some prepared } := by
  obtain ⟨mid, last, hmid, hlast, hfirst, hplain, hheader, hsplit⟩ := h.exists_last hp hcode
  have hcarried : ∀ line ∈ ls.filter (!hasOpening ·), hasOpening line = false := by
    intro line hline
    simpa using (List.mem_filter.mp hline).2
  obtain ⟨script, hscript, honce⟩ :=
    (hunified hplain).importsOnce (f := { f with prepared := some prepared }) hcarried rfl
  rw [hbody, hsplit, hheader] at honce
  exact ⟨mid, last, script, hmid, hlast, hscript, hfirst.others,
    fun source hsource hahead hback => (hback.importsAhead hsource hahead hmid hlast).2, honce⟩

/-- In a batch that is done: if the imports of every file come first, are plain, and have no
comments, then every assembled script has one import of names for each module. The helpers may be
left out or be imports of any kind, and the name of the entry has no quotes. -/
theorem run_done_imports_once {e : File} {rest : List File} {state final : BatchState}
    (h : (run config files).run state = (some (.done (e :: rest)), final))
    (hp : Picks config files entry others)
    (hterminal : IsHelper config.terminalImport) (htests : IsHelper config.testsImport)
    (hname : ∀ c ∈ entry.name.toList, isQuote c = false)
    (hentry : ImportsComeFirst (pipeline config true) entry.script)
    (hothers :
      ∀ f ∈ others, ImportsComeFirst (pipeline config config.options.exportFunctions) f.script) :
    Assembles config entry.name [] true (pipeline config true) entry e ∧
    List.Forall₂ (fun f out => ∃ functions, e.exports = some (.ok functions) ∧
      Assembles config entry.name functions (f.name == config.testsFile)
        (pipeline config config.options.exportFunctions) f out) others rest := by
  cases (run_eq_some_iff.mp h).1 with
  | @done _ prepared _ _ _ hp' he hall =>
    obtain ⟨rfl, rfl⟩ := hp.unique hp'
    obtain ⟨code, hcode, hprepared⟩ := prepareEntry_eq_ok_iff.mp he
    constructor
    · have hbody : prepared.body.toList = (split code.toList).body :=
        hprepared ▸ String.toList_ofList
      exact hentry.formats.assembles (pipeline_eq config) hcode hbody fun hplain =>
        unified_entry hterminal htests hname hplain hprepared
    · refine ((List.forall₂_and_left _ _).mpr ⟨hothers, hall⟩).imp ?_
      rintro f _ ⟨hf, own, hown, rfl⟩
      obtain ⟨source, code', hsource, hcode', hown⟩ := prepareOther_eq_ok_iff.mp hown
      have hfunctions : ∀ name ∈ source.module.exportedFunctions, IsBinding name.toList :=
        fun name hmem => (Source.isName_of_read hsource name hmem).isBinding
      have hbody : own.body.toList = (split code'.toList).body := hown ▸ String.toList_ofList
      refine ⟨source.module.exportedFunctions, by simp [File.exports, hsource, Except.map], ?_⟩
      exact hf.formats.assembles (pipeline_eq config) hcode' hbody fun hplain =>
        unified_besideEntry hterminal htests hname hfunctions hplain hown

/-- Everything that is asked of a file can be tried out. -/
theorem importsComeFirst_of_isOk {p : Pipeline} {script : String}
    (h : (Source.read script).isOk = true ∧
      (∀ source, Source.read script = .ok source → source.ImportsAhead) ∧
      Pipeline.Rereads Source.SameImports Source.SameImports p.dropLast script ∧
      ∀ mid, Pipeline.run p.dropLast script = .ok mid → ∀ last, Source.read mid = .ok last →
        ∀ l ∈ (lines last.bodyText).head?, isImportLine l = false) : ImportsComeFirst p script := by
  obtain ⟨hok, hahead, hback, hline⟩ := h
  obtain ⟨source, hsource⟩ := Source.exists_of_isOk hok
  exact .own hsource (hahead source hsource) hback hline

/-- A file that imports one function of the entry by hand, and the entry, which has two. -/
def byHand : List File := [
  { name := "u", content := ""
    compiled := some { js := some "import \x7b f \x7d from './main'\nimport x from 'y'\nf()" } },
  { name := "main", content := "",
    compiled := some { js := some "function f()\x7b\x7d function g()\x7b\x7d" } }]

theorem run_done_imports_once_byHand :
    ∃ e out, ((run {} byHand).run .start).1 = some (.done [e, out]) ∧
      e.exports = some (.ok ["f", "g"]) ∧
      out.assembled = some "import \x7b f, g \x7d from './main'\nimport x from 'y';\nf();" ∧
      Assembles {} "main" ["f", "g"] false (pipeline {} false) byHand[0] out := by
  have hn : ∀ f ∈ byHand, f.error = none := by decide
  have hp : Picks {} byHand byHand[1] [byHand[0]] := pickEntry_eq_iff.mp (by decide)
  let prepared : Prepared := ⟨"import \x7b prueba \x7d from '@es-js/prueba'",
    "export function f() \x7b\x7d\nexport function g() \x7b\x7d"⟩
  let own : Prepared := ⟨"import \x7b f, g \x7d from './main'\nimport x from 'y';", "f();"⟩
  have hcodeEntry : (pipeline {} true).run byHand[1].script =
      .ok "export function f() \x7b\x7d\nexport function g() \x7b\x7d\n" := by decide +kernel
  have hcodeOwn : (pipeline {} false).run byHand[0].script =
      .ok "import \x7b f \x7d from './main';\nimport x from 'y';\nf();\n" := by decide +kernel
  have hread : (Source.read prepared.body).map (·.module.exportedFunctions) = .ok ["f", "g"] := by
    decide +kernel
  have hexports : { byHand[1] with prepared := some prepared }.exports = some (.ok ["f", "g"]) :=
    congrArg some hread
  have hprepared : prepareEntry {} byHand[1] = .ok prepared :=
    prepareEntry_eq_ok_iff.mpr ⟨_, hcodeEntry, assemble_eq (by decide +kernel) (by decide +kernel)⟩
  have hbeside : besideEntry {} "main" ["f", "g"] false
      "import \x7b f \x7d from './main';\nimport x from 'y';\nf();\n" = own :=
    assemble_eq (by decide +kernel) (by decide +kernel)
  have hrun : ((run {} byHand).run .start).1 =
      some (.done [{ byHand[1] with prepared := some prepared },
        { byHand[0] with prepared := some own }]) := by
    have hown : prepareOther {} byHand[1].name prepared byHand[0] = .ok own :=
      hbeside ▸ prepareOther_of_exports hread hcodeOwn
    rw [Decided.run_eq (.done hn hp hprepared (.cons ⟨_, hown, rfl⟩ .nil))]
  have hentry : ImportsComeFirst (pipeline {} true) byHand[1].script :=
    importsComeFirst_of_isOk (by decide +kernel)
  have hother : ∀ f ∈ [byHand[0]], ImportsComeFirst (pipeline {} false) f.script :=
    List.forall_mem_singleton.mpr (importsComeFirst_of_isOk (by decide +kernel))
  obtain ⟨final, hdone⟩ := exists_of_fst hrun
  obtain ⟨-, hall⟩ := run_done_imports_once hdone hp (.inr (.inl isNamedImport_terminal))
    (.inr (.inl isNamedImport_tests)) (forall_eq_false_of_any (by decide)) hentry hother
  refine ⟨_, _, hrun, hexports, by decide +kernel, ?_⟩
  cases hall with
  | cons hout _ =>
    obtain ⟨functions, hfunctions, hassembles⟩ := hout
    obtain rfl : ["f", "g"] = functions :=
      Except.ok.inj (Option.some.inj (hexports.symm.trans hfunctions))
    exact hassembles

/-- An entry, and a file with a comment above the import of its function. -/
def commented : List File := [
  { name := "main", content := "", compiled := some { js := some "function f()\x7b\x7d" } },
  { name := "u", content := ""
    compiled := some { js := some "// c\nimport \x7b f \x7d from './main'\nf()" } }]

/-- A comment above the first import ends the header, so that the function is imported twice,
although imports come first in the file. -/
theorem run_imports_twice :
    (Source.read commented[1].script).map (·.module.items.map (·.isImport)) = .ok [true, false] ∧
      ∃ e out, ((run {} commented).run .start).1 = some (.done [e, out]) ∧
        out.assembled = some
          "import \x7b f \x7d from './main'\n// c\nimport \x7b f \x7d from './main';\nf();" := by
  let prepared : Prepared :=
    ⟨"import \x7b prueba \x7d from '@es-js/prueba'", "export function f() \x7b\x7d"⟩
  let own : Prepared :=
    ⟨"import \x7b f \x7d from './main'", "// c\nimport \x7b f \x7d from './main';\nf();"⟩
  exact ⟨by decide +kernel, { commented[0] with prepared := some prepared },
    { commented[1] with prepared := some own }, by decide +kernel, by decide +kernel⟩

end Batch

end Playground
