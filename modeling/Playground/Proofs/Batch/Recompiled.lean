import Playground.Proofs.Batch.Compiled

/-! Files that are compiled again. Each compile writes down what it gave and leaves what an earlier
one wrote: an error stays beside the new script, and a script beside the new error.
`compileFiles_reflects_iff` says which records tell of their last compile alone, and what the others
tell after any number of compiles. -/

namespace Playground

/-- A content that is given to a compiler. -/
structure Attempt where
  content : String
  compiler : Compiler

namespace Attempt

/-- The compiler makes a script of the content. -/
inductive Accepted (a : Attempt) : Compiled → Prop
  | mk {text js : String} : Terminated a.content text → a.compiler text = .ok js →
      Accepted a { esjs := some a.content, js := some js }

/-- The compiler fails on the content, and the file of that name is blamed. -/
inductive Rejected (a : Attempt) (name : String) : FileError → Prop
  | mk {text : String} {e : CodeError} : Terminated a.content text → a.compiler text = .error e →
      Rejected a name ⟨e.message, e.line, e.column,
        "SyntaxError: " ++ e.message ++ "\n    at " ++ name ++ ":" ++ toString e.line ++ ":" ++
        toString e.column⟩

/-- The file tells what the attempt gave, and nothing of an earlier one. -/
inductive Told (a : Attempt) (f : File) : Prop
  | accepted {script : Compiled} :
      a.Accepted script → f.compiled = some script → f.error = none → Told a f
  | rejected {error : FileError} :
      a.Rejected f.name error → f.error = some error → f.compiled = none → Told a f

end Attempt

namespace File

/-- The learner gives the file a content, and it is compiled. -/
def attempt (f : File) (a : Attempt) : File := { f with content := a.content }.compile a.compiler

/-- What the file was given before is out of the way: there is no error if the compiler accepts the
content, and no script if it rejects it. -/
structure IsClear (f : File) (compiler : Compiler) : Prop where
  error : (∃ script, Attempt.Accepted ⟨f.content, compiler⟩ script) → f.error = none
  compiled : (∃ error, Attempt.Rejected ⟨f.content, compiler⟩ f.name error) → f.compiled = none

/-! ### One attempt -/

section

variable {f : File} {a : Attempt} {script : Compiled} {error : FileError}

theorem attempt_accepted (h : a.Accepted script) :
    f.attempt a = { f with content := a.content, compiled := some script } := by
  obtain ⟨htext, hjs⟩ := h
  rw [terminated_iff (f := { f with content := a.content }).mp htext] at hjs
  exact compile_ok hjs

theorem attempt_rejected (h : a.Rejected f.name error) :
    f.attempt a = { f with content := a.content, error := some error } := by
  obtain ⟨htext, he⟩ := h
  rw [terminated_iff (f := { f with content := a.content }).mp htext] at he
  exact compile_error he

end

end File

namespace Attempt

variable {a : Attempt}

/-- A compiler gives a script or an error for any content. -/
theorem accepted_or_rejected (a : Attempt) (name : String) :
    (∃ script, a.Accepted script) ∨ ∃ error, a.Rejected name error := by
  let f : File := { name, content := a.content }
  have htext : Terminated a.content f.source := File.terminated_iff (f := f).mpr rfl
  cases h : a.compiler f.source with
  | ok js => exact .inl ⟨_, .mk htext h⟩
  | error e => exact .inr ⟨_, .mk htext h⟩

theorem Accepted.not_rejected {script : Compiled} {name : String} {error : FileError}
    (h : a.Accepted script) :
    ¬a.Rejected name error := by
  intro hr
  have hscript := File.attempt_accepted (f := { name, content := "" }) h
  have herror := File.attempt_rejected (f := { name, content := "" }) hr
  rw [hscript] at herror
  cases congrArg File.error herror

end Attempt

namespace File

/-- A compiled file tells of its last compile alone exactly if nothing was in the way. -/
theorem told_compile_iff (f : File) (compiler : Compiler) :
    Attempt.Told ⟨f.content, compiler⟩ (f.compile compiler) ↔ f.IsClear compiler := by
  have hname : (f.compile compiler).name = f.name := congrArg Prod.fst (own_compile compiler f)
  change Attempt.Told ⟨f.content, compiler⟩ (f.attempt ⟨f.content, compiler⟩) ↔ _
  constructor
  · intro h
    cases h with
    | @accepted script ha hscript hnone =>
      rw [attempt_accepted ha] at hnone
      refine ⟨fun _ => hnone, ?_⟩
      rintro ⟨error, hr⟩
      exact absurd hr ha.not_rejected
    | @rejected error hr herror hnone =>
      rw [attempt, hname] at hr
      rw [attempt_rejected hr] at hnone
      refine ⟨?_, fun _ => hnone⟩
      rintro ⟨script, ha⟩
      exact absurd hr ha.not_rejected
  · rintro ⟨herror, hcompiled⟩
    rcases Attempt.accepted_or_rejected ⟨f.content, compiler⟩ f.name with ⟨script, ha⟩ | ⟨error, hr⟩
    · rw [attempt_accepted ha]
      exact .accepted ha rfl (herror ⟨script, ha⟩)
    · rw [attempt_rejected hr]
      exact .rejected hr rfl (hcompiled ⟨error, hr⟩)

/-! ### Any number of attempts -/

/-- The file after one attempt after the other. -/
def attempts (f : File) (as : List Attempt) : File := as.foldl attempt f

variable {f : File} {as before after : List Attempt} {a : Attempt}

theorem attempts_append (f : File) (before : List Attempt) (a : Attempt) (after : List Attempt) :
    f.attempts (before ++ a :: after) = ((f.attempts before).attempt a).attempts after :=
  List.foldl_append

/-- What every attempt keeps is kept by all of them. -/
theorem attempts_induction {motive : File → Prop} (start : motive f)
    (step : ∀ a ∈ as, ∀ g, motive g → motive (g.attempt a)) : motive (f.attempts as) := by
  induction as generalizing f with
  | nil => exact start
  | cons a as ih =>
    refine ih (step a List.mem_cons_self f start) ?_
    exact fun b hb => step b (List.mem_cons_of_mem a hb)

theorem name_attempt (f : File) (a : Attempt) : (f.attempt a).name = f.name :=
  congrArg Prod.fst (own_compile a.compiler { f with content := a.content })

theorem name_attempts (f : File) (as : List Attempt) : (f.attempts as).name = f.name := by
  refine attempts_induction (motive := fun g => g.name = f.name) rfl fun a _ g hg => ?_
  exact (name_attempt g a).trans hg

/-- Attempts that the compiler accepts leave an error where it is. -/
theorem error_attempts_of_accepted (h : ∀ a ∈ as, ∃ script, a.Accepted script) :
    (f.attempts as).error = f.error := by
  refine attempts_induction (motive := fun g => g.error = f.error) rfl fun a ha g hg => ?_
  obtain ⟨script, hscript⟩ := h a ha
  rw [attempt_accepted hscript]
  exact hg

/-- Attempts that the compiler rejects leave a script where it is. -/
theorem compiled_attempts_of_rejected (h : ∀ a ∈ as, ∃ error, a.Rejected f.name error) :
    (f.attempts as).compiled = f.compiled := by
  -- The name goes along, as the error of a rejected attempt has it in its text.
  suffices hkept : (f.attempts as).name = f.name ∧ (f.attempts as).compiled = f.compiled from
    hkept.2
  refine attempts_induction (motive := fun g => g.name = f.name ∧ g.compiled = f.compiled)
    ⟨rfl, rfl⟩ ?_
  intro a ha g hg
  obtain ⟨error, herror⟩ := h a ha
  rw [← hg.1] at herror
  rw [attempt_rejected herror]
  exact hg

theorem error_attempts_of_last {error : FileError} (ha : a.Rejected f.name error)
    (hafter : ∀ b ∈ after, ∃ script, b.Accepted script) :
    (f.attempts (before ++ a :: after)).error = some error := by
  rw [← name_attempts f before] at ha
  rw [attempts_append, error_attempts_of_accepted hafter, attempt_rejected ha]

theorem compiled_attempts_of_last {script : Compiled} (ha : a.Accepted script)
    (hafter : ∀ b ∈ after, ∃ error, b.Rejected f.name error) :
    (f.attempts (before ++ a :: after)).compiled = some script := by
  have hname : ((f.attempts before).attempt a).name = f.name := by rw [name_attempt, name_attempts]
  rw [← hname] at hafter
  rw [attempts_append, compiled_attempts_of_rejected hafter, attempt_accepted ha]

theorem error_attempt_ne_none {g : File} (h : g.error ≠ none) (a : Attempt) :
    (g.attempt a).error ≠ none := by
  rcases a.accepted_or_rejected g.name with ⟨script, ha⟩ | ⟨error, hr⟩
  · rw [attempt_accepted ha]
    exact h
  · rw [attempt_rejected hr]
    exact Option.some_ne_none error

/-- An error that has come to a file never leaves it again. -/
theorem error_attempts_ne_none (h : ∃ a ∈ as, ∃ error, a.Rejected f.name error) :
    (f.attempts as).error ≠ none := by
  obtain ⟨a, ha, error, hr⟩ := h
  obtain ⟨before, after, rfl⟩ := List.append_of_mem ha
  rw [attempts_append]
  refine attempts_induction (motive := fun g => g.error ≠ none) ?_
    fun b _ g hg => error_attempt_ne_none hg b
  rw [← name_attempts f before] at hr
  rw [attempt_rejected hr]
  exact Option.some_ne_none error

end File

namespace Batch

/-- Every compiled file tells of this compile alone exactly if the records were clear for it.
Otherwise the records remember: whatever a learner tries, the error is the one of the last attempt
that the compiler rejected and the script the one of the last attempt that it accepted, and those
from before if there was none. So a file that was rejected once carries an error for good, and a
batch in which it is the first to do so fails with it. -/
theorem compileFiles_reflects_iff (compiler : Compiler) (files : List File) :
    (List.Forall₂ (fun f g => g.own = f.own ∧ Attempt.Told ⟨f.content, compiler⟩ g) files
      (compileFiles compiler files) ↔ ∀ f ∈ files, f.IsClear compiler) ∧
    ∀ (f : File) (as : List Attempt),
      ((∀ a ∈ as, ∃ script, a.Accepted script) → (f.attempts as).error = f.error) ∧
      (∀ before a after error, as = before ++ a :: after → a.Rejected f.name error →
        (∀ b ∈ after, ∃ script, b.Accepted script) → (f.attempts as).error = some error) ∧
      ((∀ a ∈ as, ∃ error, a.Rejected f.name error) → (f.attempts as).compiled = f.compiled) ∧
      (∀ before a after script, as = before ++ a :: after → a.Accepted script →
        (∀ b ∈ after, ∃ error, b.Rejected f.name error) → (f.attempts as).compiled = some script) ∧
      ((∃ a ∈ as, ∃ error, a.Rejected f.name error) → ∀ config before after state,
        (∀ g ∈ before, g.error = none) →
          (run config (before ++ f.attempts as :: after)).run state =
            (some (.failed (f.attempts as)), .failed)) := by
  refine ⟨?_,
    fun f as => ⟨File.error_attempts_of_accepted, ?_, File.compiled_attempts_of_rejected, ?_, ?_⟩⟩
  · rw [compileFiles, List.forall₂_map_right_iff, List.forall₂_same]
    simp only [File.own_compile, File.told_compile_iff, true_and]
  · rintro before a after error rfl ha hafter
    exact File.error_attempts_of_last ha hafter
  · rintro before a after script rfl ha hafter
    exact File.compiled_attempts_of_last ha hafter
  · intro hrejected config before after state hbefore
    exact run_upstream hbefore (File.error_attempts_ne_none hrejected)

/-- A function without a name. -/
def nameless : Attempt := ⟨"funcion () \x7b\x7d", namedFunctions⟩

/-- The same function with a name. -/
def named : Attempt := ⟨"funcion a() \x7b\x7d", namedFunctions⟩

theorem rejected_nameless (name : String) :
    nameless.Rejected name
      (Blame.ofCodeError name (.malformedAt "Identificador esperado" 1 9)).toFileError := by
  have h : nameless.compiler ({ name := "", content := nameless.content } : File).source =
      .error (.malformedAt "Identificador esperado" 1 9) := by decide +kernel
  exact .mk (File.terminated_iff (f := { name := "", content := nameless.content }).mpr rfl) h

theorem accepted_named : named.Accepted ⟨some named.content, some "funcion a() \x7b\x7d\n"⟩ :=
  .mk (File.terminated_iff (f := { name := "", content := named.content }).mpr rfl)
    (by decide +kernel)

/-- Each file was compiled before, to what is written over now. -/
def oldResults : List File := [
  { name := "main", content := named.content, compiled := some { js := some "viejo" } },
  { name := "utils", content := nameless.content, error := some ⟨"viejo", 1, 1, ""⟩ }]

/-- The name is put in at the second try. The function is compiled and the error is still there. -/
theorem compileFiles_reflects_iff_secondTry :
    (∀ f ∈ oldResults, f.IsClear namedFunctions) ∧
    List.Forall₂ (fun f g => g.own = f.own ∧ Attempt.Told ⟨f.content, namedFunctions⟩ g) oldResults
      (compileFiles namedFunctions oldResults) ∧
    (oldResults[0].attempts [nameless, named]).compiled =
      some ⟨some named.content, some "funcion a() \x7b\x7d\n"⟩ ∧
    (oldResults[0].attempts [nameless, named]).error =
      some ⟨"Identificador esperado", 1, 9,
        "SyntaxError: Identificador esperado\n    at main:1:9"⟩ ∧
    (run {} [oldResults[0].attempts [nameless, named]]).run .start =
      (some (.failed (oldResults[0].attempts [nameless, named])), .failed) := by
  have hclear : ∀ f ∈ oldResults, f.IsClear namedFunctions := by
    refine List.forall_mem_cons.mpr ⟨⟨fun _ => rfl, ?_⟩,
      List.forall_mem_singleton.mpr ⟨?_, fun _ => rfl⟩⟩
    · rintro ⟨error, hr⟩
      exact absurd hr accepted_named.not_rejected
    · rintro ⟨script, ha⟩
      exact absurd (rejected_nameless "utils") ha.not_rejected
  obtain ⟨htold, htries⟩ := compileFiles_reflects_iff namedFunctions oldResults
  obtain ⟨-, herror, -, hscript, hfails⟩ := htries oldResults[0] [nameless, named]
  refine ⟨hclear, htold.mpr hclear, ?_, ?_, ?_⟩
  · exact hscript [nameless] named [] _ rfl accepted_named (by simp)
  · refine (herror [] nameless [named] _ rfl (rejected_nameless "main") ?_).trans
      (by decide +kernel)
    exact List.forall_mem_singleton.mpr ⟨_, accepted_named⟩
  · exact hfails ⟨nameless, List.mem_cons_self, _, rejected_nameless "main"⟩ {} [] [] .start
      (by simp)

/-- A file with the error of a function that has its name by now, and one with the script of a
function that has lost its name. -/
def repairedAndSpoiled : List File := [
  { name := "main", content := named.content,
    error := some ⟨"Identificador esperado", 1, 9,
      "SyntaxError: Identificador esperado\n    at main:1:9"⟩ },
  { name := "utils", content := nameless.content,
    compiled := some ⟨some named.content, some "function a() \x7b\x7d\n"⟩ }]

/-- Both files come out with an error and a script, so neither tells of this compile alone. -/
theorem compileFiles_keeps_old :
    compileFiles namedFunctions repairedAndSpoiled = [
      { repairedAndSpoiled[0] with
        compiled := some ⟨some named.content, some "funcion a() \x7b\x7d\n"⟩ },
      { repairedAndSpoiled[1] with
        error := some ⟨"Identificador esperado", 1, 9,
          "SyntaxError: Identificador esperado\n    at utils:1:9"⟩ }] ∧
    ∀ f ∈ repairedAndSpoiled,
      ¬Attempt.Told ⟨f.content, namedFunctions⟩ (f.compile namedFunctions) := by
  refine ⟨by decide +kernel, ?_⟩
  simp only [File.told_compile_iff]
  refine List.forall_mem_cons.mpr ⟨fun hmain => ?_, List.forall_mem_singleton.mpr fun hutils => ?_⟩
  · cases hmain.error ⟨_, accepted_named⟩
  · cases hutils.compiled ⟨_, rejected_nameless "utils"⟩

end Batch

end Playground
