import Mathlib.Data.List.Perm.Basic
import Playground.Proofs.Batch.Completion

/-! What a prepared script hangs on. Beside an entry, a file's script is made from the
configuration, its own code, whether it is the file for tests, and the name and the exported
functions of the entry. So the order of the files beside the entry plays no part, nor does anything
that is done to the other ones. -/

namespace Playground

open Script

/-- The functions that a prepared file exports. -/
def File.exports (f : File) : Option (Except CodeError (List String)) :=
  f.prepared.map fun p => (Source.read p.body).map (·.module.exportedFunctions)

namespace Batch

/-- The script made from the code that the stages give for a file, beside an entry that exports the
functions. -/
def besideEntry (config : Config) (entry : String) (functions : List String) (isTests : Bool)
    (code : String) : Prepared :=
  let split := Imports.split code.toList
  assemble
    [some ("\n".intercalate (functions.map (Imports.importOf ("./" ++ entry)))),
      some (String.ofList split.imports),
      onlyIf isTests config.testsImport,
      onlyIf (usesTerminal config split.body) config.terminalImport]
    split.body

variable {config : Config} {files files' others others' : List File} {entry entry' f g : File}
  {prepared own : Prepared}

theorem prepareOther_eq_ok_iff : prepareOther config entry.name prepared f = .ok own ↔
    ∃ source code, Source.read prepared.body = .ok source ∧
      (pipeline config config.options.exportFunctions).run f.script = .ok code ∧
      besideEntry config entry.name source.module.exportedFunctions
        (f.name == config.testsFile) code = own := by
  unfold prepareOther Imports.ofExports
  cases Source.read prepared.body <;>
    cases (pipeline config config.options.exportFunctions).run f.script <;>
    simp [bind, Except.bind, pure, Except.pure, Except.map, Except.mapError, besideEntry]

theorem prepareOther_of_exports {functions : List String} {code : String}
    (hexports : (Source.read prepared.body).map (·.module.exportedFunctions) = .ok functions)
    (hcode : (pipeline config config.options.exportFunctions).run f.script = .ok code) :
    prepareOther config entry.name prepared f =
      .ok (besideEntry config entry.name functions (f.name == config.testsFile) code) := by
  cases hsource : Source.read prepared.body with
  | error e =>
    rw [hsource] at hexports
    cases hexports
  | ok source =>
    rw [hsource] at hexports
    cases hexports
    exact prepareOther_eq_ok_iff.mpr ⟨source, code, hsource, hcode, rfl⟩

/-- Beside entries of one name that export the same functions, files with the same code are prepared
alike, if both or none of them are for tests. -/
theorem prepareOther_eq_of_exports {prepared' own' : Prepared} (hname : entry'.name = entry.name)
    (hexports : (Source.read prepared'.body).map (·.module.exportedFunctions) =
      (Source.read prepared.body).map (·.module.exportedFunctions))
    (hscript : g.script = f.script) (htests : g.name = config.testsFile ↔ f.name = config.testsFile)
    (h : prepareOther config entry.name prepared f = .ok own)
    (h' : prepareOther config entry'.name prepared' g = .ok own') : own' = own := by
  obtain ⟨source, code, hsource, hcode, rfl⟩ := prepareOther_eq_ok_iff.mp h
  obtain ⟨source', code', hsource', hcode', rfl⟩ := prepareOther_eq_ok_iff.mp h'
  rw [hscript, hcode] at hcode'
  cases hcode'
  have hfunctions : source'.module.exportedFunctions = source.module.exportedFunctions := by
    simpa [hsource, hsource', Except.map] using hexports
  have hbeq : (g.name == config.testsFile) = (f.name == config.testsFile) := by
    rw [Bool.eq_iff_iff, beq_iff_eq, beq_iff_eq, htests]
  rw [hname, hfunctions, hbeq]

/-- The script of the entry is a matter of its code alone. -/
theorem prepareEntry_congr (h : entry'.script = entry.script) :
    prepareEntry config entry' = prepareEntry config entry := by
  unfold prepareEntry
  rw [h]

/-- A batch that is done, as what was picked from it and what each file was prepared to. -/
theorem run_eq_done_iff (hn : ∀ f ∈ files, f.error = none)
    (hp : Picks config files entry others) {e : File} {rest : List File}
    {state final : BatchState} :
    (run config files).run state = (some (.done (e :: rest)), final) ↔
      final = .done ∧ ∃ prepared, prepareEntry config entry = .ok prepared ∧
        e = { entry with prepared := some prepared } ∧
        List.Forall₂ (Prepares config entry prepared) others rest := by
  rw [run_eq_some_iff]
  constructor
  · rintro ⟨h, rfl⟩
    cases h with
    | done _ hp' he hall =>
      obtain ⟨rfl, rfl⟩ := hp.unique hp'
      exact ⟨rfl, _, he, rfl, hall⟩
  · rintro ⟨rfl, prepared, he, rfl, hall⟩
    exact ⟨.done hn hp he hall, rfl⟩

/-- Preparing a file beside an entry has one result. -/
theorem rightUnique_prepares (config : Config) (entry : File) (prepared : Prepared) :
    Relator.RightUnique (Prepares config entry prepared) := by
  rintro f _ _ ⟨own, h, rfl⟩ ⟨own', h', rfl⟩
  rw [h] at h'
  cases h'
  rfl

/-- Files in another order are prepared to the same files in that order. -/
theorem perm_of_prepares {rest rest' : List File} (hperm : others'.Perm others)
    (h : List.Forall₂ (Prepares config entry prepared) others rest)
    (h' : List.Forall₂ (Prepares config entry prepared) others' rest') : rest'.Perm rest := by
  obtain ⟨mid, hmid, hrest⟩ := List.perm_comp_forall₂ hperm h
  rwa [(rightUnique_prepares config entry prepared).forall₂ h' hmid]

/-- Every file that comes out was prepared from one of the others. -/
theorem exists_of_mem_prepares {rest : List File}
    (h : List.Forall₂ (Prepares config entry prepared) others rest) (hg : g ∈ rest) :
    ∃ f ∈ others, Prepares config entry prepared f g := by
  induction h with
  | nil => cases hg
  | cons hf _ ih =>
    rcases List.mem_cons.mp hg with rfl | hg
    · exact ⟨_, List.mem_cons_self, hf⟩
    · obtain ⟨f, hmem, hf⟩ := ih hg
      exact ⟨f, List.mem_cons_of_mem _ hmem, hf⟩

/-- Whether files can be prepared beside an entry is a matter of their code. -/
theorem exists_prepareOther_congr (hscript : g.script = f.script)
    (h : ∃ own, prepareOther config entry.name prepared f = .ok own) :
    ∃ own, prepareOther config entry.name prepared g = .ok own := by
  rw [prepareOther_ok_iff] at h ⊢
  rwa [hscript]

/-- The scripts of two batches that are done, as far as their files have what they hang on in
common. -/
theorem prepared_eq_of_exports {prepared' : Prepared} {rest rest' : List File}
    (hall : List.Forall₂ (Prepares config entry prepared) others rest)
    (hall' : List.Forall₂ (Prepares config entry' prepared') others' rest')
    (hname : entry'.name = entry.name)
    (hexports : (Source.read prepared'.body).map (·.module.exportedFunctions) =
      (Source.read prepared.body).map (·.module.exportedFunctions))
    (hf : f ∈ rest) (hg : g ∈ rest') (hscript : g.script = f.script)
    (htests : g.name = config.testsFile ↔ f.name = config.testsFile) : g.prepared = f.prepared := by
  obtain ⟨_, -, _, hown, rfl⟩ := exists_of_mem_prepares hall hf
  obtain ⟨_, -, _, hown', rfl⟩ := exists_of_mem_prepares hall' hg
  exact congrArg some (prepareOther_eq_of_exports hname hexports hscript htests hown hown')

/-- Two batches that bring no errors. If they have the same entry, and the same files beside it in
whatever order, then both are done or none is, and they hand out the same scripts. If one is done,
then so is the other with the same code for its entry and, beside it, files with code from the first
batch or files that can be prepared; in any two that are done, equal code gives equal scripts beside
entries of one name that export the same functions, apart from the file for tests. -/
theorem run_done_independent (hn : ∀ f ∈ files, f.error = none) (hn' : ∀ f ∈ files', f.error = none)
    (hp : Picks config files entry others) (hp' : Picks config files' entry' others')
    (state state' : BatchState) :
    (entry' = entry → others'.Perm others →
      ((∃ e rest final, (run config files).run state = (some (.done (e :: rest)), final)) ↔
        ∃ e rest final, (run config files').run state' = (some (.done (e :: rest)), final)) ∧
      ∀ e rest final e' rest' final',
        (run config files).run state = (some (.done (e :: rest)), final) →
        (run config files').run state' = (some (.done (e' :: rest')), final') →
        e' = e ∧ rest'.Perm rest) ∧
    ∀ e rest final, (run config files).run state = (some (.done (e :: rest)), final) →
      (entry'.name = entry.name → entry'.script = entry.script →
        (∀ g ∈ others', (∃ f ∈ others, g.script = f.script) ∨
          ∃ prepared own, e.prepared = some prepared ∧
          prepareOther config entry.name prepared g = .ok own) →
        ∃ e' rest' final', (run config files').run state' = (some (.done (e' :: rest')), final') ∧
          e'.prepared = e.prepared ∧ e'.exports = e.exports) ∧
      ∀ e' rest' final', (run config files').run state' = (some (.done (e' :: rest')), final') →
        e'.name = e.name → e'.exports = e.exports →
        ∀ f ∈ rest, ∀ g ∈ rest', g.script = f.script →
          (g.name = config.testsFile ↔ f.name = config.testsFile) → g.prepared = f.prepared := by
  simp only [run_eq_done_iff hn hp, run_eq_done_iff hn' hp']
  refine ⟨?_, ?_⟩
  · rintro rfl hperm
    refine ⟨?_, ?_⟩
    · constructor
      · rintro ⟨_, rest, _, rfl, prepared, he, rfl, hall⟩
        obtain ⟨rest', hall', -⟩ := List.perm_comp_forall₂ hperm hall
        exact ⟨_, rest', _, rfl, prepared, he, rfl, hall'⟩
      · rintro ⟨_, rest, _, rfl, prepared, he, rfl, hall⟩
        obtain ⟨rest', hall', -⟩ := List.perm_comp_forall₂ hperm.symm hall
        exact ⟨_, rest', _, rfl, prepared, he, rfl, hall'⟩
    · rintro _ rest _ _ rest' _ ⟨-, prepared, he, rfl, hall⟩ ⟨-, prepared', he', rfl, hall'⟩
      rw [he] at he'
      cases he'
      exact ⟨rfl, perm_of_prepares hperm hall hall'⟩
  · rintro _ rest _ ⟨rfl, prepared, he, rfl, hall⟩
    refine ⟨fun hname hscript hothers => ?_, ?_⟩
    · have he' : prepareEntry config entry' = .ok prepared := (prepareEntry_congr hscript).trans he
      have hown : ∀ g ∈ others', ∃ own, prepareOther config entry'.name prepared g = .ok own := by
        intro g hg
        rw [hname]
        rcases hothers g hg with ⟨f, hf, hscript⟩ | ⟨_, own, hprepared, hown⟩
        · exact exists_prepareOther_congr hscript (exists_forall₂_prepares_iff.mp ⟨rest, hall⟩ f hf)
        · cases hprepared
          exact ⟨own, hown⟩
      obtain ⟨rest', hall'⟩ := exists_forall₂_prepares_iff.mpr hown
      exact ⟨_, rest', _, ⟨rfl, prepared, he', rfl, hall'⟩, rfl, rfl⟩
    · rintro _ rest' _ ⟨-, prepared', -, rfl, hall'⟩ hname hexports f hf g hg hscript htests
      exact prepared_eq_of_exports hall hall' hname (Option.some.inj hexports) hf hg hscript htests

theorem exists_cons_of_done {out : List File} {state final : BatchState}
    (h : (run config files).run state = (some (.done out), final)) : ∃ e rest, out = e :: rest := by
  cases (run_eq_some_iff.mp h).1 with
  | done _ _ _ _ => exact ⟨_, _, rfl⟩

/-- An entry between the file for tests and another one. -/
def trio : List File := [
  { name := "main.test", content := "", compiled := some { js := some "Terminal(a)" } },
  { name := "main", content := "", compiled := some { js := some "function a() \x7b\x7d" } },
  { name := "utils", content := "", compiled := some { js := some "a()" } }]

/-- The same entry and the same file beside it, written in other words, with a new file in front. -/
def trioChanged : List File := [
  { name := "extra", content := "b", compiled := some { js := some "b()" } },
  { name := "lib", content := "c", compiled := some { esjs := some "c", js := some "a()" } },
  { name := "main", content := "d",
    compiled := some { esjs := some "d", js := some "function a() \x7b\x7d" } }]

theorem run_done_independent_trio :
    ∃ e rest final e' rest' final', (run {} trio).run .start = (some (.done (e :: rest)), final) ∧
      (run {} trio.reverse).run .start = (some (.done (e' :: rest')), final') ∧ e' = e ∧
      rest'.Perm rest ∧
      ∃ e' rest' final', (run {} trioChanged).run .start = (some (.done (e' :: rest')), final') ∧
        e'.exports = e.exports ∧
        ∀ f ∈ rest, ∀ g ∈ rest', g.script = f.script →
          (g.name = "main.test" ↔ f.name = "main.test") → g.prepared = f.prepared := by
  have hn : ∀ f ∈ trio, f.error = none := by decide
  have hn' : ∀ f ∈ trioChanged, f.error = none := by decide
  have hp : Picks {} trio trio[1] [trio[0], trio[2]] := pickEntry_eq_iff.mp (by decide)
  have hp' : Picks {} trioChanged trioChanged[2] [trioChanged[0], trioChanged[1]] :=
    pickEntry_eq_iff.mp (by decide)
  have hdone : ((run {} trio).run .start).1.map Outcome.isFailed = some false := by decide +kernel
  obtain ⟨out, final, h⟩ := exists_done hdone
  obtain ⟨e, rest, rfl⟩ := exists_cons_of_done h
  obtain ⟨-, prepared, -, he, hall⟩ := (run_eq_done_iff hn hp).mp h
  have hreversed : Picks {} trio.reverse trio[1] [trio[2], trio[0]] :=
    pickEntry_eq_iff.mp (by decide)
  obtain ⟨hiff, hsame⟩ :=
    (run_done_independent hn (by decide) hp hreversed .start .start).1 rfl (List.Perm.swap _ _ [])
  obtain ⟨e', rest', final', h'⟩ := hiff.mp ⟨e, rest, final, h⟩
  obtain ⟨heq, hperm⟩ := hsame e rest final e' rest' final' h h'
  refine ⟨e, rest, final, e', rest', final', h, h', heq, hperm, ?_⟩
  obtain ⟨hdone, hcode⟩ := (run_done_independent hn hn' hp hp' .start .start).2 e rest final h
  have hbeside : ∀ g ∈ [trioChanged[0], trioChanged[1]],
      (∃ f ∈ [trio[0], trio[2]], g.script = f.script) ∨
        ∃ prepared own, e.prepared = some prepared ∧
          prepareOther {} trio[1].name prepared g = .ok own := by
    have hread :=
      (prepareOther_ok_iff.mp (exists_forall₂_prepares_iff.mp ⟨rest, hall⟩ trio[0] (by simp))).1
    have hcode : (pipeline {} false).run trioChanged[0].script = .ok "b();\n" := by decide +kernel
    obtain ⟨own, hown⟩ := prepareOther_ok_iff.mpr ⟨hread, _, hcode⟩
    simp only [List.forall_mem_cons]
    exact ⟨.inr ⟨prepared, own, he ▸ rfl, hown⟩, .inl ⟨trio[2], by simp, rfl⟩, by simp⟩
  obtain ⟨e'', rest'', final'', h'', -, hexports⟩ := hdone rfl rfl hbeside
  obtain ⟨-, _, -, he'', -⟩ := (run_eq_done_iff hn' hp').mp h''
  exact ⟨e'', rest'', final'', h'', hexports,
    hcode e'' rest'' final'' h'' (he ▸ he'' ▸ rfl) hexports⟩

end Batch

end Playground
