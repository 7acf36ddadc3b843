import Playground.Proofs.Batch.Completion

/-! Which file is to blame. The others import from the entry's body, so each of them reads it before
its own code. As long as the body can be read, a file beside the entry is blamed for its own code
only. A body that cannot be read is blamed on the first of the others, whatever its code: the header
is cut off by lines, and the cut can fall inside a statement that only looks like an import. -/

namespace Playground.Batch

open Script

variable {config : Config} {files others : List File} {entry f g : File} {prepared : Prepared}

theorem ofExports_eq_error_iff {code path : String} {e : CodeError} :
    Imports.ofExports code path = .error e ↔ Source.read code = .error e := by
  unfold Imports.ofExports
  cases Source.read code <;> simp [Except.map]

/-- A file beside the entry fails with the error of the entry's body or, if that can be read, of its
own pipeline. -/
theorem OtherFails.read_or_run {e : CodeError} (h : OtherFails config entry prepared f (.code e)) :
    Source.read prepared.body = .error e ∨
      (∃ source, Source.read prepared.body = .ok source) ∧
        (pipeline config config.options.exportFunctions).run f.script = .error (.code e) := by
  cases h with
  | imports h => exact .inl (ofExports_eq_error_iff.mp h)
  | stage h hf =>
    refine .inr ⟨?_, Pipeline.run_eq_error_iff.mpr hf⟩
    cases hr : Source.read prepared.body with
    | ok source => exact ⟨source, rfl⟩
    | error e' =>
      rw [ofExports_eq_error_iff.mpr hr] at h
      cases h

/-- No file is prepared beside an entry whose body cannot be read. -/
theorem eq_nil_of_prepares {before out : List File} {e : CodeError}
    (hr : Source.read prepared.body = .error e)
    (h : List.Forall₂ (Prepares config entry prepared) before out) : before = [] := by
  cases h with
  | nil => rfl
  | cons hf _ =>
    obtain ⟨own, hown, -⟩ := hf
    obtain ⟨source, hsource⟩ := (prepareOther_ok_iff.mp ⟨own, hown⟩).1
    rw [hr] at hsource
    cases hsource

/-- If a batch without errors from before fails once its entry is prepared, it fails on one of the
others. Where the entry's body can be read, that file's own pipeline fails on its code alone, and
with the same error. Otherwise the file is the first of the others, and the error is that of the
body. -/
theorem run_failed_alone {state final : BatchState} (hn : ∀ f ∈ files, f.error = none)
    (hp : Picks config files entry others) (he : prepareEntry config entry = .ok prepared)
    (h : (run config files).run state = (some (.failed g), final)) :
    ∃ before f after e, others = before ++ f :: after ∧ g = f.blamed e ∧
      ((∃ source, Source.read prepared.body = .ok source) →
        (pipeline config config.options.exportFunctions).run f.script = .error (.code e)) ∧
      ((∀ source, Source.read prepared.body ≠ .ok source) →
        before = [] ∧ Source.read prepared.body = .error e) := by
  cases (run_eq_some_iff.mp h).1 with
  | upstream heq _ hf =>
    subst heq
    exact absurd (hn g (by simp)) hf
  | entry _ hp' hf =>
    obtain ⟨rfl, -⟩ := hp.unique hp'
    rw [prepareEntry_eq_error_iff.mpr hf] at he
    cases he
  | @other _ _ before _ after f e _ hp' he' hall hf =>
    obtain ⟨rfl, rfl⟩ := hp.unique hp'
    rw [he] at he'
    cases he'
    refine ⟨before, f, after, e, rfl, rfl, ?_⟩
    rcases hf.read_or_run with hr | ⟨⟨source, hr⟩, hrun⟩
    · refine ⟨?_, fun _ => ⟨eq_nil_of_prepares hr hall, hr⟩⟩
      rintro ⟨source, hsource⟩
      rw [hr] at hsource
      cases hsource
    · exact ⟨fun _ => hrun, fun hno => absurd hr (hno source)⟩

theorem exists_failed {result : Option Outcome × BatchState}
    (h : result.1.map Outcome.isFailed = some true) :
    ∃ g final, result = (some (.failed g), final) := by
  obtain ⟨_ | ⟨out⟩ | ⟨g⟩, final⟩ := result
  · cases h
  · cases h
  · exact ⟨g, final, rfl⟩

/-- An entry beside two files, of which the second cannot be read. -/
def brokenLast : List File := [
  { name := "utils", content := "", compiled := some { js := some "a()" } },
  { name := "main", content := "", compiled := some { js := some "function a() \x7b\x7d" } },
  { name := "lib", content := "", compiled := some { js := some "b(" } }]

theorem run_failed_alone_brokenLast :
    ∃ prepared g final, prepareEntry {} brokenLast[1] = .ok prepared ∧
      (∃ source, Source.read prepared.body = .ok source) ∧
      (run {} brokenLast).run .start = (some (.failed g), final) ∧
      ∃ f ∈ [brokenLast[0], brokenLast[2]], ∃ e, g = f.blamed e ∧
        (pipeline {} false).run f.script = .error (.code e) := by
  have hn : ∀ f ∈ brokenLast, f.error = none := by decide
  have hp : Picks {} brokenLast brokenLast[1] [brokenLast[0], brokenLast[2]] :=
    pickEntry_eq_iff.mp (by decide)
  have he : prepareEntry {} brokenLast[1] =
      .ok ⟨"import \x7b prueba \x7d from '@es-js/prueba'", "export function a() \x7b\x7d"⟩ := by
    decide +kernel
  have hread : ∃ source, Source.read "export function a() \x7b\x7d" = .ok source :=
    Source.exists_of_isOk (by decide +kernel)
  obtain ⟨g, final, h⟩ : ∃ g final, (run {} brokenLast).run .start = (some (.failed g), final) :=
    exists_failed (by decide +kernel)
  obtain ⟨before, f, after, e, heq, hg, hown, -⟩ := run_failed_alone hn hp he h
  exact ⟨_, g, final, he, hread, h, f, heq ▸ by simp, e, hg, hown hread⟩

/-- An entry with a template that begins on a line which looks like an import and ends on the next
one. -/
def lookalike : File :=
  { name := "main", content := "", compiled := some { js := some "importar`de from 'x'\n`" } }

/-- A file beside it. -/
def innocent : File := { name := "utils", content := "", compiled := some { js := some "a" } }

/-- The entry is prepared, and its body is cut off inside the template. The file beside it is blamed
for that, though nothing is wrong with its own code. -/
theorem run_blames_innocent :
    (run {} [lookalike, innocent]).run .start =
        (some (.failed (innocent.blamed (.malformedAt "Unexpected eof" 1 3))), .failed) ∧
      (prepareEntry {} lookalike).isOk = true ∧
      (pipeline {} false).run innocent.script = .ok "a;\n" := by
  have hrun : ((run {} [lookalike, innocent]).run .start).1 =
      some (.failed (innocent.blamed (.malformedAt "Unexpected eof" 1 3))) := by decide +kernel
  have hstate : ((run {} [lookalike, innocent]).run .start).2 = .failed := by decide +kernel
  exact ⟨Prod.ext hrun hstate, by decide +kernel, by decide +kernel⟩

end Playground.Batch
