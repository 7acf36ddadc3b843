import Playground.Compile
import Playground.Proofs.Batch.Outcome

/-! Batches that are compiled first. Compiling goes through all files and only notes what fails; the
run that follows stops at the first note, before it reads anything. -/

namespace Playground

/-- The text a compiler gets for a content: the content, with a line feed behind it unless one is
there already. -/
inductive Terminated (content : String) : String → Prop
  | already {line : List Char} : content.toList = line ++ ['\n'] → Terminated content content
  | added : (∀ line, content.toList ≠ line ++ ['\n']) → Terminated content (content ++ "\n")

namespace File

/-- Nothing has been made of the file yet. -/
structure IsFresh (f : File) : Prop where
  compiled : f.compiled = none
  prepared : f.prepared = none
  error : f.error = none

instance (f : File) : Decidable f.IsFresh :=
  decidable_of_iff (f.compiled = none ∧ f.prepared = none ∧ f.error = none)
    ⟨fun h => ⟨h.1, h.2.1, h.2.2⟩, fun h => ⟨h.compiled, h.prepared, h.error⟩⟩

/-- What the learner decides about a file. -/
def own (f : File) : String × String × Bool := (f.name, f.content, f.isMain)

theorem terminated_iff {f : File} {text : String} :
    Terminated f.content text ↔ text = f.source := by
  unfold source
  constructor
  · intro h
    cases h with
    | already h => simp [h]
    | added h =>
      rw [if_neg]
      intro hlast
      obtain ⟨line, hline⟩ := List.getLast?_eq_some_iff.mp hlast
      exact h line hline
  · rintro rfl
    split
    · rename_i hlast
      obtain ⟨line, hline⟩ := List.getLast?_eq_some_iff.mp hlast
      exact .already hline
    · rename_i hlast
      exact .added fun line hline => hlast (by simp [hline])

variable {compiler : Compiler} {f : File}

theorem compile_ok {js : String} (h : compiler f.source = .ok js) :
    f.compile compiler = { f with compiled := some { esjs := some f.content, js := some js } } := by
  rw [compile, h]

theorem compile_error {e : CodeError} (h : compiler f.source = .error e) :
    f.compile compiler = f.blamed e := by
  rw [compile, h]
  rfl

theorem own_compile (compiler : Compiler) (f : File) : (f.compile compiler).own = f.own := by
  cases h : compiler f.source with
  | ok js =>
    rw [compile_ok h]
    rfl
  | error e =>
    rw [compile_error h]
    rfl

end File

namespace Batch

variable {config : Config} {compiler : Compiler} {files : List File} {state : BatchState}

/-- The first file that the compiler rejects ends the run, whatever the others were compiled to. -/
theorem run_compileFiles_failed {before after : List File} {f : File} {e : CodeError}
    (hfresh : ∀ g ∈ before, g.error = none)
    (hbefore : ∀ g ∈ before, ∃ js, compiler g.source = .ok js) (hf : compiler f.source = .error e) :
    (run config (compileFiles compiler (before ++ f :: after))).run state =
      (some (.failed (f.blamed e)), .failed) := by
  rw [compileFiles, List.map_append, List.map_cons, File.compile_error hf]
  refine run_upstream (fun g hg => ?_) nofun
  obtain ⟨g, hmem, rfl⟩ := List.mem_map.mp hg
  obtain ⟨js, hjs⟩ := hbefore g hmem
  rw [File.compile_ok hjs]
  exact hfresh g hmem

/-- Compiling keeps the files, their order and what the learner decides about them. If the compiler
rejects a file, the run of the compiled batch fails on the first such file with the compiler's
message and position, though a file before it or the entry may have been compiled to what is no
script. If it rejects none, every file gets to the run without an error, with its content and with
the script that the compiler made of the content's lines. -/
theorem run_compileFiles (config : Config) (compiler : Compiler) {files : List File}
    (state : BatchState) (hfresh : ∀ f ∈ files, f.IsFresh) :
    (compileFiles compiler files).map File.own = files.map File.own ∧
      (∀ before f after text e, files = before ++ f :: after →
        (∀ g ∈ before, ∃ text js, Terminated g.content text ∧ compiler text = .ok js) →
        Terminated f.content text → compiler text = .error e →
        (run config (compileFiles compiler files)).run state =
          (some (.failed { f with error := some ⟨e.message, e.line, e.column,
            "SyntaxError: " ++ e.message ++ "\n    at " ++ f.name ++ ":" ++ toString e.line ++ ":"
              ++ toString e.column⟩ }), .failed)) ∧
      ((∀ f ∈ files, ∃ text js, Terminated f.content text ∧ compiler text = .ok js) →
        List.Forall₂ (fun f g => g.error = none ∧ ∃ text js, Terminated f.content text ∧
            compiler text = .ok js ∧ g.compiled = some { esjs := some f.content, js := some js })
          files (compileFiles compiler files)) := by
  refine ⟨?_, ?_, ?_⟩
  · simp [compileFiles, File.own_compile]
  · rintro before f after text e rfl hbefore htext he
    rw [File.terminated_iff.mp htext] at he
    refine run_compileFiles_failed (fun g hg => (hfresh g (by simp [hg])).error) (fun g hg => ?_) he
    obtain ⟨text', js, htext', hjs⟩ := hbefore g hg
    rw [File.terminated_iff.mp htext'] at hjs
    exact ⟨js, hjs⟩
  · intro hall
    rw [compileFiles, List.forall₂_map_right_iff, List.forall₂_same]
    intro f hf
    obtain ⟨text, js, htext, hjs⟩ := hall f hf
    have hcompile := File.compile_ok (File.terminated_iff.mp htext ▸ hjs)
    rw [hcompile]
    exact ⟨(hfresh f hf).error, text, js, htext, hjs, rfl⟩

/-- A compiler that rejects functions without a name. -/
def namedFunctions : Compiler := fun text =>
  if "funcion (".toList.isPrefixOf text.toList
    then .error (.malformedAt "Identificador esperado" 1 9) else .ok text

/-- An entry and another file that are no scripts, then two files that the compiler rejects. -/
def namelessFunctions : List File := [
  { name := "utils", content := "if(" }, { name := "main", content := "\x7d\n", isMain := true },
  { name := "saludo", content := "funcion () \x7b\x7d" },
  { name := "tests", content := "funcion (x) \x7b\x7d\n" }]

theorem run_compileFiles_namelessFunctions :
    (∀ f ∈ namelessFunctions, f.IsFresh) ∧
      (run {} (compileFiles namedFunctions namelessFunctions)).run .start =
        (some (.failed { namelessFunctions[2] with
          error := some ⟨"Identificador esperado", 1, 9,
            "SyntaxError: Identificador esperado\n    at saludo:1:9"⟩ }), .failed) ∧
      (∀ f ∈ namelessFunctions.take 2, f.IsFresh) ∧
      (compileFiles namedFunctions (namelessFunctions.take 2)).map File.own =
        [("utils", "if(", false), ("main", "\x7d\n", true)] ∧
      List.Forall₂ (fun f g => g.error = none ∧ ∃ text js, Terminated f.content text ∧
        namedFunctions text = .ok js ∧
        g.compiled = some { esjs := some f.content, js := some js }) (namelessFunctions.take 2)
        (compileFiles namedFunctions (namelessFunctions.take 2)) := by
  have hfresh : ∀ f ∈ namelessFunctions, f.IsFresh := by decide
  have hfresh' : ∀ f ∈ namelessFunctions.take 2, f.IsFresh := by decide
  have hok : ∀ f ∈ namelessFunctions.take 2, ∃ text js, Terminated f.content text ∧
      namedFunctions text = .ok js := by
    intro f hf
    refine ⟨f.source, f.source, File.terminated_iff.mpr rfl, ?_⟩
    revert f
    decide +kernel
  obtain ⟨-, hfailed, -⟩ := run_compileFiles {} namedFunctions .start hfresh
  obtain ⟨hkept, -, hcompiled⟩ := run_compileFiles {} namedFunctions .start hfresh'
  refine ⟨hfresh, ?_, hfresh', hkept, hcompiled hok⟩
  exact hfailed (namelessFunctions.take 2) _ _ _ (.malformedAt "Identificador esperado" 1 9) rfl hok
    (File.terminated_iff.mpr rfl) (by decide +kernel)

end Batch

end Playground
