import Mathlib.Control.Monad.Basic
import Playground.Script.Stage

/-! How stages and pipelines fail: errors tell a line and a column that begin at one, and a pipeline
fails with the error of the first stage that gives no code. Formatting alone does not settle: what
it prints can read differently. -/

namespace Playground.Script

theorem Source.parse_of_read {code : String} {source : Source} (h : Source.read code = .ok source) :
    Source.parse code.toList = .ok source := by
  unfold Source.read at h
  cases hp : Source.parse code.toList with
  | error fault =>
    rw [hp] at h
    cases h
  | ok source' =>
    rw [hp] at h
    cases h
    rfl

theorem Source.exists_of_isOk {code : String} (h : (Source.read code).isOk = true) :
    ∃ source, Source.read code = .ok source := by
  cases hr : Source.read code with
  | ok source => exact ⟨source, rfl⟩
  | error e =>
    rw [hr] at h
    cases h

/-- Reading from characters. -/
theorem Source.read_ofList (cs : List Char) :
    Source.read (String.ofList cs) = (Source.parse cs).mapError (Fault.toCodeError cs) := by
  rw [Source.read, String.toList_ofList]

theorem Source.read_eq_error {code : String} {e : CodeError} (h : Source.read code = .error e) :
    ∃ message line column, e = .malformedAt message line column := by
  unfold Source.read at h
  cases hp : Source.parse code.toList with
  | error fault =>
    rw [hp] at h
    cases h
    exact ⟨_, _, _, rfl⟩
  | ok source =>
    rw [hp] at h
    cases h

/-- Lines and columns of reading errors begin at one. -/
theorem Source.read_error_position {code : String} {e : CodeError}
    (h : Source.read code = .error e) :
    1 ≤ e.line ∧ 1 ≤ e.column := by
  obtain ⟨message, line, column, rfl⟩ := Source.read_eq_error h
  exact ⟨Nat.le_max_right line 1, Nat.le_max_right column 1⟩

namespace Stage

/-- Reading is the only thing that fails while a stage prints code again. -/
theorem reprint_eq_error_iff {change : Module → Module} {code : String} {error : StageError} :
    reprint change code = .error error ↔ ∃ e, Source.read code = .error e ∧ error = .code e := by
  unfold reprint
  cases Source.read code <;> simp [eq_comm]

theorem reprint_eq_ok_iff {change : Module → Module} {code out : String} :
    reprint change code = .ok out ↔
      ∃ source, Source.read code = .ok source ∧
        { source with module := change source.module }.print = out := by
  unfold reprint
  cases Source.read code <;> simp

theorem guard_eq_error_iff {timeout : Nat} {code : String} {error : StageError} :
    guard timeout code = .error error ↔
      (∃ e, Source.read code = .error e ∧ error = .code e) ∨
      (∃ source, Source.read code = .ok source ∧
        Patch.applyAll? (LoopGuard.itemPatches timeout 1 source.module.items) code = none ∧
        error = .insideCharacter) := by
  unfold guard LoopGuard.patches
  cases Source.read code with
  | error e => simp [Except.map, eq_comm]
  | ok source =>
    simp only [Except.map]
    cases ha : Patch.applyAll? (LoopGuard.itemPatches timeout 1 source.module.items) code <;>
      simp [ha, eq_comm]

theorem guard_eq_ok_iff {timeout : Nat} {code out : String} :
    guard timeout code = .ok out ↔
      ∃ source, Source.read code = .ok source ∧
        Patch.applyAll? (LoopGuard.itemPatches timeout 1 source.module.items) code = some out := by
  unfold guard LoopGuard.patches
  cases Source.read code with
  | error e => simp [Except.map]
  | ok source =>
    simp only [Except.map]
    cases ha : Patch.applyAll? (LoopGuard.itemPatches timeout 1 source.module.items) code <;>
      simp [ha]

/-- A code error of a stage is the error of reading its code. -/
theorem read_eq_error {stage : Stage} {code : String} {e : CodeError}
    (h : stage.run code = .error (.code e)) :
    Source.read code = .error e := by
  cases stage with
  | format | exportFunctions | removeAwaits =>
    rw [run, reprint_eq_error_iff] at h
    obtain ⟨e', hr, he⟩ := h
    cases he
    exact hr
  | guardLoops timeout =>
    rw [run, guard_eq_error_iff] at h
    obtain ⟨e', hr, he⟩ | ⟨source, hr, ha, he⟩ := h
    · cases he
      exact hr
    · cases he

/-- Every stage reads its code first. -/
theorem run_of_read_error {stage : Stage} {code : String} {e : CodeError}
    (h : Source.read code = .error e) :
    stage.run code = .error (.code e) := by
  cases stage with
  | format | exportFunctions | removeAwaits => exact reprint_eq_error_iff.mpr ⟨e, h, rfl⟩
  | guardLoops timeout => exact guard_eq_error_iff.mpr (.inl ⟨e, h, rfl⟩)

end Stage

/-- The first stage of a pipeline that gives no code fails with `error`. -/
inductive Pipeline.Fails : Pipeline → String → StageError → Prop
  | here {stage : Stage} {rest : Pipeline} {code : String} {error : StageError} :
      stage.run code = .error error → Fails (stage :: rest) code error
  | later {stage : Stage} {rest : Pipeline} {code out : String} {error : StageError} :
      stage.run code = .ok out → Fails rest out error → Fails (stage :: rest) code error

namespace Pipeline

@[simp] theorem run_nil (code : String) : run [] code = .ok code := rfl

theorem run_cons_ok {stage : Stage} {rest : Pipeline} {code out : String}
    (h : stage.run code = .ok out) :
    run (stage :: rest) code = run rest out := by
  simp [run, h, bind, Except.bind]

theorem run_cons_error {stage : Stage} {rest : Pipeline} {code : String} {error : StageError}
    (h : stage.run code = .error error) : run (stage :: rest) code = .error error := by
  simp [run, h, bind, Except.bind]

theorem run_eq_error_iff {p : Pipeline} {code : String} {error : StageError} :
    p.run code = .error error ↔ p.Fails code error := by
  induction p generalizing code with
  | nil =>
    constructor
    · intro h
      cases h
    · intro h
      cases h
  | cons stage rest ih =>
    cases hs : stage.run code with
    | error e =>
      rw [run_cons_error hs]
      constructor
      · rintro ⟨⟩
        exact .here hs
      · rintro (h | ⟨h, -⟩)
        · rw [hs] at h
          exact h
        · rw [hs] at h
          cases h
    | ok out =>
      rw [run_cons_ok hs, ih]
      constructor
      · exact .later hs
      · rintro (h | ⟨h, hf⟩)
        · rw [hs] at h
          cases h
        · rw [hs] at h
          cases h
          exact hf

/-- The code error of a pipeline tells a line and a column. -/
theorem Fails.position {p : Pipeline} {code : String} {e : CodeError} (h : p.Fails code (.code e)) :
    1 ≤ e.line ∧ 1 ≤ e.column := by
  generalize hs : StageError.code e = error at h
  induction h with
  | here h =>
    subst hs
    exact Source.read_error_position (Stage.read_eq_error h)
  | later _ _ ih => exact ih hs

/-- Code that is formatted twice need not keep what the first time gave. A loop with its test at the
end is printed without a semicolon, so the empty statement behind it reads as the end of the loop
and is lost. -/
theorem run_default_twice_loses :
    Pipeline.run (ofOptions {} defaultTimeout) "do ;while(a);;" = .ok "do ;\nwhile (a)\n;\n"
      ∧ Pipeline.run (ofOptions {} defaultTimeout) "do ;\nwhile (a)\n;\n" =
        .ok "do ;\nwhile (a)\n" := by
  decide +kernel

end Pipeline

end Playground.Script
