import Playground.Proofs.Batch.Independence
import Playground.Proofs.Imports.Printed

/-! The imports of a prepared script. They come from the file's own header, from the functions of
the entry, and from the two helpers; merged, there is one import for each module, with exactly the
names that some of these bring in. -/

namespace Playground

open Text Script

namespace Imports

/-! ### Generated imports -/

theorem toList_importOf (path name : String) : (importOf path name).toList =
    (Named.mk (' ' :: name.toList ++ [' ']) path.toList).chars space space space '\'' := by
  delta importOf Named.chars space
  simp

theorem spelled_importOf {path name : String} (hname : IsBinding name.toList)
    (hpath : path.toList ≠ []) (hquote : ∀ c ∈ path.toList, isQuote c = false) :
    (Named.mk (' ' :: name.toList ++ [' ']) path.toList).Spelled (importOf path name).toList := by
  have hfits : (Named.mk (' ' :: name.toList ++ [' ']) path.toList).Fits :=
    ⟨by simp, by simp [hname.brace], hpath, hquote⟩
  rw [toList_importOf, ← List.append_nil (Named.chars _ _ _ _ _)]
  exact .plain hfits (by decide) (by simp [AllBlank])

theorem listed_importOf {name : String} (hname : IsBinding name.toList) :
    Listed (' ' :: name.toList ++ [' ']) [name.toList] :=
  .last space.blank hname space.blank

theorem brings_importOf {path name : String} (hname : IsBinding name.toList)
    (hpath : path.toList ≠ []) (hquote : ∀ c ∈ path.toList, isQuote c = false)
    {module b : List Char} :
    Brings (importOf path name).toList module b ↔ module = path.toList ∧ b = name.toList := by
  rw [brings_iff (spelled_importOf hname hpath hquote) (listed_importOf hname),
    (listed_importOf hname).parts_eq, List.mem_singleton, eq_comm]

end Imports

namespace Batch

open Imports

/-! ### Joining -/

/-- The part is made of these lines; there are none if it is left out, or blank. -/
def Makes (part : Option String) (ls : List (List Char)) : Prop :=
  part.elim (ls = []) fun text => text.toList = unlines ls ∨ (trim text.toList = [] ∧ ls = [])

theorem trim_unlines_eq_nil_iff {ls : List (List Char)}
    (h : ∀ line ∈ ls, "import".toList <+: line) :
    trim (unlines ls) = [] ↔ ls = [] := by
  constructor
  · intro htrim
    by_contra hne
    have hhead := head?_unlines h hne
    have hstart : trimStart (unlines ls) = unlines ls := by
      refine trimStart_eq_self fun c hc => ?_
      rw [hhead] at hc
      cases hc
      decide
    rw [trim, hstart, trimEnd_eq_nil_iff] at htrim
    have := htrim 'i' (List.mem_of_mem_head? hhead)
    cases this
  · rintro rfl
    rfl

/-- Parts that are made of lines with imports are joined to all these lines. -/
theorem toList_joinImports {parts : List (Option String)} {lss : List (List (List Char))}
    (h : List.Forall₂ Makes parts lss) (hword : ∀ line ∈ lss.flatten, "import".toList <+: line) :
    (joinImports parts).toList = unlines lss.flatten := by
  have hshown :
      (((parts.filterMap id).filter fun part => !(trim part.toList).isEmpty).map String.toList) =
        (lss.filter (!·.isEmpty)).map unlines := by
    induction h with
    | nil => rfl
    | @cons part ls parts lss hpart hparts ih =>
      obtain ⟨hls, hlss⟩ := List.forall_mem_append.mp hword
      cases part with
      | none =>
        cases hpart
        exact ih hlss
      | some text =>
        rw [List.filterMap_cons_some (show id (some text) = some text from rfl)]
        rcases hpart with hpart | ⟨hblank, rfl⟩
        · have hnil := trim_unlines_eq_nil_iff hls
          rw [← hpart] at hnil
          by_cases hne : ls = []
          · rw [List.filter_cons_of_neg (by simp [hnil.mpr hne]),
              List.filter_cons_of_neg (by simp [hne]), ih hlss]
          · rw [List.filter_cons_of_pos (by simpa using mt hnil.mp hne),
              List.filter_cons_of_pos (by simp [hne]), List.map_cons, List.map_cons, hpart, ih hlss]
        · rw [List.filter_cons_of_neg (by simp [hblank]),
            List.filter_cons_of_neg (by simp), ih hlss]
  rw [joinImports, String.toList_intercalate, hshown]
  change unlines ((lss.filter (!·.isEmpty)).map unlines) = _
  rw [unlines_map_unlines (by simp), List.flatten_filter_not_isEmpty]

theorem assemble_eq {parts : List (Option String)} {body : List Char} {prepared : Prepared}
    (himports :
      merge (unlines (((parts.filterMap id).filter
        fun part => !(trim part.toList).isEmpty).map String.toList)) = prepared.imports.toList)
    (hbody : body = prepared.body.toList) :
    assemble parts body = prepared := by
  have hjoin : (joinImports parts).toList =
      unlines (((parts.filterMap id).filter
        fun part => !(trim part.toList).isEmpty).map String.toList) :=
    String.toList_intercalate
  rw [assemble, hjoin, himports, hbody, String.ofList_toList, String.ofList_toList]

theorem unified_assemble {parts : List (Option String)} {lss : List (List (List Char))}
    (body : List Char) (h : List.Forall₂ Makes parts lss)
    (hlines : ∀ line ∈ lss.flatten, IsNamedImport line ∨ IsCarried line) :
    Unified (fun module name => ∃ line ∈ lss.flatten, Brings line module name)
      (lss.flatten.filter (!hasOpening ·)) (assemble parts body).imports.toList := by
  have hword : ∀ line ∈ lss.flatten, "import".toList <+: line := by
    intro line hline
    rcases hlines line hline with ⟨n, -, hn, -⟩ | hc
    · exact hn.word
    · exact hc.word
  rw [assemble, String.toList_ofList, toList_joinImports h hword]
  exact unified_merge hlines

/-! ### Files -/

/-- What can be given as the import of a helper: nothing, an import of plain bindings, or another
one. -/
def IsHelper (text : String) : Prop :=
  trim text.toList = [] ∨ IsNamedImport text.toList ∨ IsCarried text.toList

/-- The lines with the import of a helper, if it is wanted and there is one. -/
def helperLines (isWanted : Bool) (text : String) : List (List Char) :=
  if isWanted && !(trim text.toList).isEmpty then [text.toList] else []

theorem makes_some (text : String) : Makes (some text) (helperLines true text) := by
  by_cases hblank : trim text.toList = [] <;> simp [Makes, helperLines, hblank]

theorem makes_onlyIf (isWanted : Bool) (text : String) :
    Makes (onlyIf isWanted text) (helperLines isWanted text) := by
  cases isWanted with
  | false => rfl
  | true => exact makes_some text

theorem mem_helperLines {isWanted : Bool} {text : String} {line : List Char} :
    line ∈ helperLines isWanted text ↔
      (isWanted = true ∧ trim text.toList ≠ []) ∧ line = text.toList := by
  unfold helperLines
  split <;> simp_all

theorem told_helperLines {isWanted : Bool} {text : String} (h : IsHelper text) :
    ∀ line ∈ helperLines isWanted text, IsNamedImport line ∨ IsCarried line := by
  intro line hline
  obtain ⟨⟨-, hne⟩, rfl⟩ := mem_helperLines.mp hline
  exact h.resolve_left hne

theorem brings_helperLines {isWanted : Bool} {text : String} {module name : List Char} :
    (∃ line ∈ helperLines isWanted text, Brings line module name) ↔
      isWanted = true ∧ Brings text.toList module name := by
  constructor
  · rintro ⟨line, hline, hbrings⟩
    obtain ⟨⟨hwanted, -⟩, rfl⟩ := mem_helperLines.mp hline
    exact ⟨hwanted, hbrings⟩
  · rintro ⟨hwanted, hbrings⟩
    exact ⟨_, mem_helperLines.mpr ⟨⟨hwanted, hbrings.trim_ne_nil⟩, rfl⟩, hbrings⟩

theorem filter_hasOpening {ls : List (List Char)} (h : ∀ line ∈ ls, IsNamedImport line) :
    ls.filter (!hasOpening ·) = [] := by
  simpa using fun line hline => (h line hline).hasOpening

/-- The lines with the imports that are made from the functions of the entry. -/
def functionLines (entry : String) (functions : List String) : List (List Char) :=
  functions.map fun name => (importOf ("./" ++ entry) name).toList

theorem makes_functionLines (entry : String) (functions : List String) :
    Makes (some ("\n".intercalate (functions.map (importOf ("./" ++ entry)))))
      (functionLines entry functions) := by
  exact .inl (by simp [functionLines, unlines, String.toList_intercalate, Function.comp_def])

/-- The name is needed from the module: by the file's own header, as a function of the entry, or as
a helper. -/
def Needs (config : Config) (header : List (List Char)) (entry : String) (functions : List String)
    (usesTests usesTerminal : Bool) (module name : List Char) : Prop :=
  (∃ line ∈ header, Brings line module name) ∨
  (module = ("./" ++ entry).toList ∧ name ∈ functions.map String.toList) ∨
  (usesTests = true ∧ Brings config.testsImport.toList module name) ∨
  (usesTerminal = true ∧ Brings config.terminalImport.toList module name)

variable {config : Config} {files others : List File} {entry : File}

section

variable {functions : List String} (hname : ∀ c ∈ entry.name.toList, isQuote c = false)
  (hfunctions : ∀ name ∈ functions, IsBinding name.toList)

include hname hfunctions

theorem isNamedImport_functionLines :
    ∀ line ∈ functionLines entry.name functions, IsNamedImport line := by
  intro line hline
  obtain ⟨f, hf, rfl⟩ := List.mem_map.mp hline
  have hb := hfunctions f hf
  exact ⟨_, _, spelled_importOf hb (by simp) (by simpa [isQuote] using hname), listed_importOf hb⟩

theorem brings_functionLines {module name : List Char} :
    (∃ line ∈ functionLines entry.name functions, Brings line module name) ↔
      module = ("./" ++ entry.name).toList ∧ name ∈ functions.map String.toList := by
  have hiff : ∀ f ∈ functions, Brings (importOf ("./" ++ entry.name) f).toList module name ↔
      module = ("./" ++ entry.name).toList ∧ name = f.toList :=
    fun f hf => brings_importOf (hfunctions f hf) (by simp) (by simpa [isQuote] using hname)
  constructor
  · rintro ⟨line, hline, hbrings⟩
    obtain ⟨f, hf, rfl⟩ := List.mem_map.mp hline
    obtain ⟨hmodule, rfl⟩ := (hiff f hf).mp hbrings
    exact ⟨hmodule, List.mem_map_of_mem hf⟩
  · rintro ⟨hmodule, hmem⟩
    obtain ⟨f, hf, rfl⟩ := List.mem_map.mp hmem
    exact ⟨_, List.mem_map_of_mem hf, (hiff f hf).mpr ⟨hmodule, rfl⟩⟩

end

theorem makes_header (code : String) :
    Makes (some (String.ofList (split code.toList).imports)) (headerLines code.toList) :=
  .inl String.toList_ofList

section

variable (hterminal : IsHelper config.terminalImport) (htests : IsHelper config.testsImport)
  (hname : ∀ c ∈ entry.name.toList, isQuote c = false)

include hterminal htests hname

/-- Parts that are made of a file's header, the functions of the entry and the helpers give what the
file needs. -/
theorem unified_needs {parts : List (Option String)} {lss : List (List (List Char))}
    (h : List.Forall₂ Makes parts lss) {functions : List String}
    (hfunctions : ∀ name ∈ functions, IsBinding name.toList) {code body : List Char}
    (hplain : HasPlainHeader code) {usesTests usesTerminal : Bool}
    (hlines : ∀ line, line ∈ lss.flatten ↔
      line ∈ headerLines code ∨ line ∈ functionLines entry.name functions ∨
      line ∈ helperLines usesTests config.testsImport ∨
      line ∈ helperLines usesTerminal config.terminalImport) :
    Unified (Needs config (headerLines code) entry.name functions usesTests usesTerminal)
      (lss.flatten.filter (!hasOpening ·)) (assemble parts body).imports.toList := by
  refine (unified_assemble body h ?_).congr (fun module name => ?_) rfl
  · intro line hline
    rcases (hlines line).mp hline with hline | hline | hline | hline
    · exact hplain.told line hline
    · exact .inl (isNamedImport_functionLines hname hfunctions line hline)
    · exact told_helperLines htests line hline
    · exact told_helperLines hterminal line hline
  · simp only [hlines, or_and_right, exists_or, brings_functionLines hname hfunctions,
      brings_helperLines, Needs]

theorem unified_entry {code : String} (hplain : HasPlainHeader code.toList) {prepared : Prepared}
    (h : assemble
      [onlyIf (usesTerminal config (split code.toList).body) config.terminalImport,
        some config.testsImport,
        some (String.ofList (split code.toList).imports)]
      (split code.toList).body = prepared) :
    Unified
      (Needs config (headerLines code.toList) entry.name [] true
        (usesTerminal config prepared.body.toList))
      ((helperLines (usesTerminal config prepared.body.toList) config.terminalImport ++
        (helperLines true config.testsImport ++ headerLines code.toList)).filter (!hasOpening ·))
      prepared.imports.toList := by
  subst h
  rw [show (assemble _ (split code.toList).body).body.toList = (split code.toList).body
    from String.toList_ofList]
  set isUsed := usesTerminal config (split code.toList).body
  have hmakes : List.Forall₂ Makes
      [onlyIf isUsed config.terminalImport, some config.testsImport,
        some (String.ofList (split code.toList).imports)]
      [helperLines isUsed config.terminalImport, helperLines true config.testsImport,
          headerLines code.toList] :=
    .cons (makes_onlyIf _ _) (.cons (makes_some _) (.cons (makes_header code) .nil))
  have hnone : ∀ name ∈ ([] : List String), IsBinding name.toList := by simp
  refine (unified_needs hterminal htests hname hmakes hnone hplain fun line => ?_).congr
    (fun _ _ => .rfl) (by simp)
  simp only [List.flatten_cons, List.flatten_nil, List.append_nil, List.mem_append,
    functionLines, List.map_nil, List.not_mem_nil, false_or]
  grind

theorem unified_besideEntry {functions : List String}
    (hfunctions : ∀ name ∈ functions, IsBinding name.toList) {code : String}
    (hplain : HasPlainHeader code.toList) {prepared : Prepared} {isTests : Bool}
    (h : besideEntry config entry.name functions isTests code = prepared) :
    Unified
      (Needs config (headerLines code.toList) entry.name functions isTests
        (usesTerminal config prepared.body.toList))
      ((functionLines entry.name functions ++
        (headerLines code.toList ++
          (helperLines isTests config.testsImport ++
            helperLines (usesTerminal config prepared.body.toList)
              config.terminalImport))).filter (!hasOpening ·))
      prepared.imports.toList := by
  subst h
  unfold besideEntry
  rw [show (assemble _ (split code.toList).body).body.toList = (split code.toList).body
    from String.toList_ofList]
  set isUsed := usesTerminal config (split code.toList).body
  have hmakes : List.Forall₂ Makes
      [some ("\n".intercalate (functions.map (importOf ("./" ++ entry.name)))),
        some (String.ofList (split code.toList).imports), onlyIf isTests config.testsImport,
        onlyIf isUsed config.terminalImport]
      [functionLines entry.name functions, headerLines code.toList,
        helperLines isTests config.testsImport,
        helperLines isUsed config.terminalImport] :=
    .cons (makes_functionLines _ _) (.cons (makes_header code)
      (.cons (makes_onlyIf _ _) (.cons (makes_onlyIf _ _) .nil)))
  refine (unified_needs hterminal htests hname hmakes hfunctions hplain fun line => ?_).congr
    (fun _ _ => .rfl) (by simp)
  simp only [List.flatten_cons, List.flatten_nil, List.append_nil, List.mem_append]
  exact or_left_comm

end

/-- Helpers that are imports of names are not carried along. -/
theorem filter_helperLines {text : String} (h : IsNamedImport text.toList) (isWanted : Bool) :
    (helperLines isWanted text).filter (!hasOpening ·) = [] :=
  filter_hasOpening fun _ hline => (mem_helperLines.mp hline).2 ▸ h

/-- In a batch that is done, with helpers that are imports of names and an entry whose name has no
quotes: if the headers are plain, then the imports of every script have one line for each module,
with exactly the names that the script needs from it, and after these come the other lines of its
header in their order. -/
theorem run_done_unified {e : File} {rest : List File} {state final : BatchState}
    (h : (run config files).run state = (some (.done (e :: rest)), final))
    (hp : Picks config files entry others) (hterminal : IsNamedImport config.terminalImport.toList)
    (htests : IsNamedImport config.testsImport.toList)
    (hname : ∀ c ∈ entry.name.toList, isQuote c = false)
    (hentry : ∀ code, (pipeline config true).run entry.script = .ok code →
      HasPlainHeader code.toList)
    (hothers : ∀ f ∈ others, ∀ code, (pipeline config config.options.exportFunctions).run f.script =
      .ok code →
      HasPlainHeader code.toList) :
    (∃ prepared code, e.prepared = some prepared ∧
      (pipeline config true).run entry.script = .ok code ∧
      Unified
        (Needs config (headerLines code.toList) entry.name [] true
          (usesTerminal config prepared.body.toList))
        ((headerLines code.toList).filter (!hasOpening ·)) prepared.imports.toList) ∧
    List.Forall₂ (fun f out => ∃ prepared code functions, out.prepared = some prepared ∧
      (pipeline config config.options.exportFunctions).run f.script = .ok code ∧
      e.exports = some (.ok functions) ∧
      Unified
        (Needs config (headerLines code.toList) entry.name functions (f.name == config.testsFile)
          (usesTerminal config prepared.body.toList))
        ((headerLines code.toList).filter (!hasOpening ·)) prepared.imports.toList)
      others rest := by
  cases (run_eq_some_iff.mp h).1 with
  | @done _ prepared _ _ _ hp' he hall =>
    obtain ⟨rfl, rfl⟩ := hp.unique hp'
    obtain ⟨code, hcode, hprepared⟩ := prepareEntry_eq_ok_iff.mp he
    have hhelpers : IsHelper config.terminalImport ∧ IsHelper config.testsImport :=
      ⟨.inr (.inl hterminal), .inr (.inl htests)⟩
    refine ⟨⟨prepared, code, rfl, hcode, ?_⟩, ?_⟩
    · refine (unified_entry hhelpers.1 hhelpers.2 hname (hentry code hcode) hprepared).congr
        (fun _ _ => .rfl) ?_
      simp [filter_helperLines hterminal, filter_helperLines htests]
    refine ((List.forall₂_and_left _ _).mpr ⟨hothers, hall⟩).imp ?_
    rintro f _ ⟨hplain, own, hown, rfl⟩
    obtain ⟨source, code', hsource, hcode', hown⟩ := prepareOther_eq_ok_iff.mp hown
    refine ⟨own, code', source.module.exportedFunctions, rfl, hcode', ?_, ?_⟩
    · simp [File.exports, hsource, Except.map]
    · have hfunctions : ∀ name ∈ source.module.exportedFunctions, IsBinding name.toList :=
        fun name hmem => (Source.isName_of_read hsource name hmem).isBinding
      refine (unified_besideEntry hhelpers.1 hhelpers.2 hname hfunctions (hplain code' hcode')
        hown).congr
        (fun _ _ => .rfl) ?_
      simp [filter_hasOpening (isNamedImport_functionLines hname hfunctions),
        filter_helperLines hterminal, filter_helperLines htests]

theorem isNamedImport_terminal : IsNamedImport ({} : Config).terminalImport.toList := by
  have hb : IsBinding "Terminal".toList :=
    IsName.isBinding ⟨by decide, List.all_eq_true.mp (by decide)⟩
  rw [show ({} : Config).terminalImport = importOf "@es-js/terminal" "Terminal" by decide]
  exact ⟨_, _, spelled_importOf hb (by decide) (forall_eq_false_of_any (by decide)),
    listed_importOf hb⟩

theorem isNamedImport_tests : IsNamedImport ({} : Config).testsImport.toList := by
  have hb : IsBinding "prueba".toList :=
    IsName.isBinding ⟨by decide, List.all_eq_true.mp (by decide)⟩
  rw [show ({} : Config).testsImport = importOf "@es-js/prueba" "prueba" by decide]
  exact ⟨_, _, spelled_importOf hb (by decide) (forall_eq_false_of_any (by decide)),
    listed_importOf hb⟩

theorem exists_of_fst {result : Option Outcome × BatchState} {out : Option Outcome}
    (h : result.1 = out) :
    ∃ final, result = (out, final) :=
  ⟨result.2, Prod.ext h rfl⟩

/-- An entry, and the file for tests, which imports from it by hand. -/
def lesson : List File := [
  { name := "main.test", content := "",
    compiled := some {
      js := some "import 'x'\nimport \x7b b, q \x7d from './main'\nTerminal.log(a())" } },
  { name := "main", content := "",
    compiled := some { js := some "function a() \x7b\x7d function b() \x7b\x7d" } }]

/-- What the file for tests is prepared to. -/
def lessonTests : Prepared :=
  ⟨"\n".intercalate ["import \x7b a, b, q \x7d from './main'",
    "import \x7b prueba \x7d from '@es-js/prueba'",
    "import \x7b Terminal \x7d from '@es-js/terminal'", "import 'x';"], "Terminal.log(a());"⟩

theorem run_done_unified_lesson :
    ∃ e, ((run {} lesson).run .start).1 =
      some (.done [e, { lesson[0] with prepared := some lessonTests }]) ∧
      e.exports = some (.ok ["a", "b"]) ∧
      Unified
        (Needs {} ["import 'x';".toList, "import \x7b b, q \x7d from './main';".toList]
          "main" ["a", "b"] true true)
        ["import 'x';".toList] lessonTests.imports.toList := by
  have hn : ∀ f ∈ lesson, f.error = none := by decide
  have hp : Picks {} lesson lesson[1] [lesson[0]] := pickEntry_eq_iff.mp (by decide)
  let prepared : Prepared := ⟨"import \x7b prueba \x7d from '@es-js/prueba'",
    "export function a() \x7b\x7d\nexport function b() \x7b\x7d"⟩
  have hcodeEntry : (pipeline {} true).run lesson[1].script =
      .ok "export function a() \x7b\x7d\nexport function b() \x7b\x7d\n" := by decide +kernel
  have hcodeTests : (pipeline {} false).run lesson[0].script =
      .ok "import 'x';\nimport \x7b b, q \x7d from './main';\nTerminal.log(a());\n" := by
    decide +kernel
  have hread : (Source.read prepared.body).map (·.module.exportedFunctions) = .ok ["a", "b"] := by
    decide +kernel
  have hexports : { lesson[1] with prepared := some prepared }.exports = some (.ok ["a", "b"]) :=
    congrArg some hread
  -- The imports are put together as lists of characters, which is much less to evaluate than their
  -- strings.
  have hprepared : prepareEntry {} lesson[1] = .ok prepared :=
    prepareEntry_eq_ok_iff.mpr ⟨_, hcodeEntry, assemble_eq (by decide +kernel) (by decide +kernel)⟩
  have htests : besideEntry {} "main" ["a", "b"] true
      "import 'x';\nimport \x7b b, q \x7d from './main';\nTerminal.log(a());\n" = lessonTests := by
    refine assemble_eq ?_ (by decide +kernel)
    rw [lessonTests, String.toList_intercalate]
    decide +kernel
  have hrun : ((run {} lesson).run .start).1 =
      some (.done [{ lesson[1] with prepared := some prepared },
        { lesson[0] with prepared := some lessonTests }]) := by
    have hown : prepareOther {} lesson[1].name prepared lesson[0] = .ok lessonTests :=
      htests ▸ prepareOther_of_exports hread hcodeTests
    rw [Decided.run_eq (.done hn hp hprepared (.cons ⟨_, hown, rfl⟩ .nil))]
  refine ⟨_, hrun, hexports, ?_⟩
  have hnamed : IsNamedImport "import \x7b b, q \x7d from './main';".toList := by
    refine ⟨⟨" b, q ".toList, "./main".toList⟩, ["b".toList, "q".toList], ?_, ?_⟩
    · rw [show "import \x7b b, q \x7d from './main';".toList =
        Named.chars ⟨" b, q ".toList, "./main".toList⟩ space space space '\'' ++
        ([] ++ ';' :: []) by decide +kernel]
      exact .closed ⟨by decide, by decide, by decide, forall_eq_false_of_any (by decide)⟩
        (by decide)
        (by simp [AllBlank]) (by simp [AllBlank])
    · have hb : IsBinding "b".toList :=
        IsName.isBinding ⟨by decide, List.all_eq_true.mp (by decide)⟩
      have hq : IsBinding "q".toList :=
        IsName.isBinding ⟨by decide, List.all_eq_true.mp (by decide)⟩
      have hnone : AllBlank [] := by simp [AllBlank]
      exact .more space.blank hb hnone (.last space.blank hq space.blank)
  have hentry : ∀ code, (pipeline {} true).run lesson[1].script = .ok code →
      HasPlainHeader code.toList := by
    intro code h
    rw [hcodeEntry] at h
    cases h
    rw [HasPlainHeader, show headerLines _ = [] by decide +kernel]
    simp
  have hheader : ∀ code, (pipeline {} false).run lesson[0].script = .ok code →
      headerLines code.toList =
        ["import 'x';".toList, "import \x7b b, q \x7d from './main';".toList] := by
    intro code h
    rw [hcodeTests] at h
    cases h
    decide +kernel
  have hother : ∀ f ∈ [lesson[0]], ∀ code, (pipeline {} false).run f.script = .ok code →
      HasPlainHeader code.toList := by
    refine List.forall_mem_singleton.mpr fun code hcode => ?_
    rw [HasPlainHeader, hheader code hcode]
    exact List.forall_mem_cons.mpr ⟨.inr (by decide), List.forall_mem_singleton.mpr (.inl hnamed)⟩
  obtain ⟨final, hdone⟩ := exists_of_fst hrun
  obtain ⟨-, hall⟩ := run_done_unified hdone hp isNamedImport_terminal isNamedImport_tests
    (forall_eq_false_of_any (by decide)) hentry hother
  cases hall with
  | cons hout _ =>
    obtain ⟨own, code, functions, hown, hcode, hfunctions, hunified⟩ := hout
    obtain rfl : lessonTests = own := Option.some.inj hown
    obtain rfl : ["a", "b"] = functions :=
      Except.ok.inj (Option.some.inj (hexports.symm.trans hfunctions))
    have hused : usesTerminal {} lessonTests.body.toList = true := by decide +kernel
    have hcarried :
        ["import 'x';".toList, "import \x7b b, q \x7d from './main';".toList].filter
          (!hasOpening ·) = ["import 'x';".toList] := by decide +kernel
    rw [hheader code hcode, hused, hcarried] at hunified
    exact hunified

/-- An entry that imports a module for its effects alone, and then names from another one. -/
def torn : File :=
  { name := "main", content := ""
    compiled := some { js := some "import \"import \x7b\";\nimport \x7b a \x7d from \"x\";" } }

/-- Where an import that brings no names has the beginning of another one in its text, it is torn
apart, and is not found among the imports any more. -/
theorem run_tears_import :
    ∃ prepared, ((run {} [torn]).run .start).1 =
      some (.done [{ torn with prepared := some prepared }]) ∧
      (∀ code, (pipeline {} true).run torn.script = .ok code →
        headerLines code.toList =
        ["import \"import \x7b\";".toList, "import \x7b a \x7d from \"x\";".toList]) ∧
      ¬ "import \"import \x7b\";".toList <:+: prepared.imports.toList := by
  let prepared : Prepared := ⟨"import \x7b prueba \x7d from '@es-js/prueba'\n"
    ++ "import \x7b \";\nimport \x7b a \x7d from 'x'\nimport \"", ""⟩
  refine ⟨prepared, by decide +kernel, ?_, by decide +kernel⟩
  have hcode : (pipeline {} true).run torn.script =
      .ok "import \"import \x7b\";\nimport \x7b a \x7d from \"x\";\n" := by decide +kernel
  intro code h
  rw [hcode] at h
  cases h
  decide +kernel

end Batch

end Playground
