import Playground.Proofs.Batch.Files

/-! How the records of an outcome end. A file that is prepared has a script to run and no error. A
file that fails has an error beside whatever its record brought along, so it ends with an error
alone only if the record had no script. -/

namespace Playground

/-- The file ends with a script to run or with an error, and not with both. -/
def File.IsSettled (f : File) : Prop := f.prepared.isSome = !f.error.isSome

instance (f : File) : Decidable f.IsSettled := inferInstanceAs (Decidable (_ = _))

/-- The files that an outcome is made of. -/
def Outcome.members : Outcome → List File
  | .done files => files
  | .failed file => [file]

namespace Batch

variable {config : Config} {files : List File} {state final : BatchState}

theorem Picks.mem {entry : File} {others : List File} (h : Picks config files entry others) :
    (entry ∈ files ∨ entry = absentEntry config) ∧ ∀ f ∈ others, f ∈ files := by
  cases h with
  | found heq _ _ =>
    subst heq
    refine ⟨.inl (by simp), fun f hf => ?_⟩
    rw [List.mem_append] at hf
    rw [List.mem_append, List.mem_cons]
    exact hf.imp_right .inr
  | missing _ => exact ⟨.inr rfl, fun _ => id⟩

/-- A file fails as a record of the batch, or as the entry that was missing, with nothing changed
but the error. -/
theorem Decided.failed_record {f : File} (h : Decided config files (.failed f)) :
    f.error.isSome = true ∧ ∃ g, (g ∈ files ∨ g = absentEntry config) ∧
      f = { g with error := f.error } := by
  cases h with
  | upstream heq _ hf =>
    subst heq
    exact ⟨Option.isSome_iff_ne_none.mpr hf, f, .inl (by simp), rfl⟩
  | @entry entry _ _ _ hp _ => exact ⟨rfl, entry, hp.mem.1, rfl⟩
  | @other _ _ _ _ _ g _ _ hp _ _ _ => exact ⟨rfl, g, .inl (hp.mem.2 g (by simp)), rfl⟩

/-- Every file of a batch that is done has a script and no error. The file of one that failed has an
error, and a script as well exactly if its record brought one along; so if no record does, every
file is settled. -/
theorem run_settles {outcome : Outcome} (h : (run config files).run state = (some outcome, final)) :
    (∀ out, outcome = .done out → ∀ f ∈ out, f.prepared.isSome = true ∧ f.error = none) ∧
      (∀ f, outcome = .failed f → f.error.isSome = true ∧
        ∃ g, (g ∈ files ∨ g = absentEntry config) ∧ f = { g with error := f.error } ∧
          (f.IsSettled ↔ g.prepared = none)) ∧
      ((∀ g ∈ files, g.prepared = none) → ∀ f ∈ outcome.members, f.IsSettled) := by
  have hd : Decided config files outcome := (run_eq_some_iff.mp h).1
  have hdone : ∀ out, outcome = .done out → ∀ f ∈ out, f.prepared.isSome = true ∧
      f.error = none := by
    intro out ho f hf
    subst ho
    exact ((hd.done_files (picks_pickEntry config files)).2 f hf).symm
  have hfailed : ∀ f, outcome = .failed f → f.error.isSome = true ∧
      ∃ g, (g ∈ files ∨ g = absentEntry config) ∧ f = { g with error := f.error } ∧
        (f.IsSettled ↔ g.prepared = none) := by
    intro f ho
    subst ho
    obtain ⟨he, g, hg, heq⟩ := hd.failed_record
    have hp : f.prepared = g.prepared := by rw [heq]
    refine ⟨he, g, hg, heq, ?_⟩
    rw [File.IsSettled, he, hp]
    simp
  refine ⟨hdone, hfailed, fun hnone f hf => ?_⟩
  cases outcome with
  | done out =>
    obtain ⟨hp, he⟩ := hdone out rfl f hf
    rw [File.IsSettled, hp, he]
    rfl
  | failed g =>
    obtain rfl : f = g := by simpa [Outcome.members] using hf
    obtain ⟨-, g, hg, -, hiff⟩ := hfailed f rfl
    rcases hg with hg | rfl
    · exact hiff.mpr (hnone g hg)
    · exact hiff.mpr rfl

/-- A file beside an entry that cannot be read. -/
def unreadableEntry : List File := [
  { name := "utils", content := "a", compiled := some { js := some "a" } },
  { name := "main", content := "if(a)", compiled := some { js := some "if(a)" } }]

theorem run_settles_unreadableEntry :
    ∃ f, (run {} unreadableEntry).run .start = (some (.failed f), .failed) ∧
    (∀ g ∈ unreadableEntry, g.prepared = none) ∧ f.error.isSome = true ∧ f.IsSettled := by
  let f : File := unreadableEntry[1].blamed (.malformedAt "Unexpected eof" 1 6)
  have hrun : ((run {} unreadableEntry).run .start).1 = some (.failed f) := by decide +kernel
  have hstate : ((run {} unreadableEntry).run .start).2 = .failed := by decide +kernel
  have hfresh : ∀ g ∈ unreadableEntry, g.prepared = none := by decide
  have h : (run {} unreadableEntry).run .start = (some (.failed f), .failed) := Prod.ext hrun hstate
  obtain ⟨-, hfailed, hsettled⟩ := run_settles h
  exact ⟨f, h, hfresh, (hfailed f rfl).1, hsettled hfresh f (List.mem_singleton.mpr rfl)⟩

/-- An entry that was prepared before and cannot be read any more. -/
def spoiledEntry : File :=
  { name := "main", content := "if(a)", compiled := some { js := some "if(a)" },
    prepared := some ⟨"", "a;"⟩ }

/-- The entry fails with an error, and the script that it was prepared to before is still there. -/
theorem run_keeps_old_script :
    (run {} [spoiledEntry]).run .start =
        (some (.failed (spoiledEntry.blamed (.malformedAt "Unexpected eof" 1 6))), .failed) ∧
      ¬ (spoiledEntry.blamed (.malformedAt "Unexpected eof" 1 6)).IsSettled := by
  have hrun : ((run {} [spoiledEntry]).run .start).1 =
      some (.failed (spoiledEntry.blamed (.malformedAt "Unexpected eof" 1 6))) := by decide +kernel
  have hstate : ((run {} [spoiledEntry]).run .start).2 = .failed := by decide +kernel
  exact ⟨Prod.ext hrun hstate, by decide⟩

end Batch

end Playground
