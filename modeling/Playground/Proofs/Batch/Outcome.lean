import Mathlib.Data.List.Forall2
import Playground.Batch
import Playground.Proofs.Script.Stage

/-! What a batch comes to. `Decided` says it without the machinery of a run: an error that a file
brings along wins, then the entry, then the first of the others that fails. `run_eq_some_iff` joins
the two, and `history_eq_map` says that a batch does not see the batches before it. -/

namespace Playground

/-- The state in which an outcome leaves the batch. -/
def Outcome.state : Outcome → BatchState
  | .done _ => .done
  | .failed _ => .failed

/-- The file with an error that tells why its code gave nothing. -/
def File.blamed (f : File) (e : CodeError) : File :=
  { f with error := some ⟨e.message, e.line, e.column, (Blame.ofCodeError f.name e).stack⟩ }

namespace Batch

open Script (Pipeline StageError)

/-! ### The entry -/

/-- The entry of a batch in which no file is one. -/
def absentEntry (config : Config) : File := { name := config.entryFile, content := "" }

/-- What makes a file an entry: its mark, or the name that the configuration gives. -/
inductive IsEntry (config : Config) (f : File) : Prop
  | marked : f.isMain = true → IsEntry config f
  | named : f.name = config.entryFile → IsEntry config f

theorem isEntry_iff {config : Config} {f : File} : isEntry config f = true ↔ IsEntry config f := by
  rw [isEntry, Bool.or_eq_true, beq_iff_eq]
  constructor
  · rintro (h | h)
    · exact .marked h
    · exact .named h
  · rintro (h | h)
    · exact .inl h
    · exact .inr h

instance (config : Config) (f : File) : Decidable (IsEntry config f) :=
  decidable_of_iff _ isEntry_iff

theorem isEntry_eq_false_iff {config : Config} {f : File} :
    isEntry config f = false ↔ ¬IsEntry config f := by
  rw [← isEntry_iff, Bool.not_eq_true]

/-- The first file that is an entry, and the others in their order. -/
inductive Picks (config : Config) (files : List File) : File → List File → Prop
  | found {before after : List File} {entry : File} :
      files = before ++ entry :: after → (∀ f ∈ before, ¬IsEntry config f) → IsEntry config entry →
      Picks config files entry (before ++ after)
  | missing : (∀ f ∈ files, ¬IsEntry config f) → Picks config files (absentEntry config) files

theorem findIdx?_isEntry {config : Config} {files : List File}
    (h : ∀ f ∈ files, ¬IsEntry config f) :
    files.findIdx? (isEntry config) = none :=
  List.findIdx?_eq_none_iff.2 fun f hf => isEntry_eq_false_iff.2 (h f hf)

theorem pickEntry_found {config : Config} {before after : List File} {entry : File}
    (hb : ∀ f ∈ before, ¬IsEntry config f) (he : IsEntry config entry) :
    pickEntry config (before ++ entry :: after) = (entry, before ++ after) := by
  have hi : (before ++ entry :: after).findIdx? (isEntry config) = some before.length := by
    rw [List.findIdx?_append, findIdx?_isEntry hb, List.findIdx?_cons, isEntry_iff.2 he]
    simp
  simp [pickEntry, hi, List.eraseIdx_append_of_length_le]

theorem pickEntry_missing {config : Config} {files : List File}
    (h : ∀ f ∈ files, ¬IsEntry config f) :
    pickEntry config files = (absentEntry config, files) := by
  simp only [pickEntry, findIdx?_isEntry h]
  rfl

theorem picks_pickEntry (config : Config) (files : List File) :
    Picks config files (pickEntry config files).1 (pickEntry config files).2 := by
  cases hf : files.find? (isEntry config) with
  | none =>
    have hnone : ∀ f ∈ files, ¬IsEntry config f := by
      intro f hm
      exact isEntry_eq_false_iff.1 (by simpa using List.find?_eq_none.1 hf f hm)
    rw [pickEntry_missing hnone]
    exact .missing hnone
  | some entry =>
    obtain ⟨he, before, after, rfl, hb⟩ := List.find?_eq_some_iff_append.1 hf
    have hnone : ∀ f ∈ before, ¬IsEntry config f := by
      intro f hm
      exact isEntry_eq_false_iff.1 (by simpa using hb f hm)
    rw [pickEntry_found hnone (isEntry_iff.1 he)]
    exact .found rfl hnone (isEntry_iff.1 he)

theorem pickEntry_eq_iff {config : Config} {files others : List File} {entry : File} :
    pickEntry config files = (entry, others) ↔ Picks config files entry others := by
  constructor
  · intro h
    have := picks_pickEntry config files
    rwa [h] at this
  · intro h
    cases h with
    | found heq hb he =>
      subst heq
      exact pickEntry_found hb he
    | missing h => exact pickEntry_missing h

/-! ### What the files come to -/

/-- The reason why a file other than the entry gives nothing: the imports made from the entry's
code, or else the first stage that fails on its own code. -/
inductive OtherFails (config : Config) (entry : File) (prepared : Prepared) (f : File) :
    StageError → Prop
  | imports {e : CodeError} : Imports.ofExports prepared.body ("./" ++ entry.name) = .error e →
      OtherFails config entry prepared f (.code e)
  | stage {generated : String} {error : StageError} :
      Imports.ofExports prepared.body ("./" ++ entry.name) = .ok generated →
      Pipeline.Fails (pipeline config config.options.exportFunctions) f.script error →
      OtherFails config entry prepared f error

/-- The file `g` is what preparing `f` beside the entry gives. -/
def Prepares (config : Config) (entry : File) (prepared : Prepared) (f g : File) : Prop :=
  ∃ own, prepareOther config entry.name prepared f = .ok own ∧ g = { f with prepared := some own }

/-- The outcome that a batch has to come to. -/
inductive Decided (config : Config) (files : List File) : Outcome → Prop
  /-- A file brings an error along; the first one that does is told, as it is. -/
  | upstream {before after : List File} {f : File} :
      files = before ++ f :: after → (∀ g ∈ before, g.error = none) → f.error ≠ none →
      Decided config files (.failed f)
  /-- The entry fails, whatever the others would come to. -/
  | entry {entry : File} {others : List File} {e : CodeError} :
      (∀ f ∈ files, f.error = none) → Picks config files entry others →
      Pipeline.Fails (pipeline config true) entry.script (.code e) →
      Decided config files (.failed (entry.blamed e))
  /-- The first of the others that fails, when the entry and those before it are prepared. -/
  | other {entry : File} {prepared : Prepared} {before out after : List File} {f : File}
      {e : CodeError} :
      (∀ f ∈ files, f.error = none) → Picks config files entry (before ++ f :: after) →
      prepareEntry config entry = .ok prepared →
      List.Forall₂ (Prepares config entry prepared) before out →
      OtherFails config entry prepared f (.code e) →
      Decided config files (.failed (f.blamed e))
  /-- Nothing fails. -/
  | done {entry : File} {prepared : Prepared} {others out : List File} :
      (∀ f ∈ files, f.error = none) → Picks config files entry others →
      prepareEntry config entry = .ok prepared →
      List.Forall₂ (Prepares config entry prepared) others out →
      Decided config files (.done ({ entry with prepared := some prepared } :: out))

/-- A text would have to go inside a character, so that the batch breaks off in the given state. -/
inductive BreaksOff (config : Config) (files : List File) : BatchState → Prop
  | entry {entry : File} {others : List File} :
      (∀ f ∈ files, f.error = none) → Picks config files entry others →
      Pipeline.Fails (pipeline config true) entry.script .insideCharacter →
      BreaksOff config files .processingEntry
  | other {entry : File} {prepared : Prepared} {before out after : List File} {f : File} :
      (∀ f ∈ files, f.error = none) → Picks config files entry (before ++ f :: after) →
      prepareEntry config entry = .ok prepared →
      List.Forall₂ (Prepares config entry prepared) before out →
      OtherFails config entry prepared f .insideCharacter →
      BreaksOff config files .processingOthers

/-! ### Preparing one file -/

theorem prepareEntry_eq_error_iff {config : Config} {f : File} {error : StageError} :
    prepareEntry config f = .error error ↔
      Pipeline.Fails (pipeline config true) f.script error := by
  rw [← Pipeline.run_eq_error_iff, prepareEntry]
  cases (pipeline config true).run f.script <;> simp [bind, Except.bind, pure, Except.pure]

/-- With the imports at hand, only the pipeline can fail. -/
theorem prepareOther_of_imports {config : Config} {entry f : File} {prepared : Prepared}
    {generated : String} {error : StageError}
    (hi : Imports.ofExports prepared.body ("./" ++ entry.name) = .ok generated) :
    prepareOther config entry.name prepared f = .error error ↔
      Pipeline.Fails (pipeline config config.options.exportFunctions) f.script error := by
  rw [← Pipeline.run_eq_error_iff, prepareOther, hi]
  cases (pipeline config config.options.exportFunctions).run f.script <;>
    simp [bind, Except.bind, pure, Except.pure, Except.mapError]

theorem prepareOther_eq_error_iff {config : Config} {entry f : File} {prepared : Prepared}
    {error : StageError} :
    prepareOther config entry.name prepared f = .error error ↔
      OtherFails config entry prepared f error := by
  cases hi : Imports.ofExports prepared.body ("./" ++ entry.name) with
  | error e =>
    rw [prepareOther, hi]
    constructor
    · rintro ⟨⟩
      exact .imports hi
    · rintro (h | ⟨h, -⟩)
      · rw [hi] at h
        cases h
        rfl
      · rw [hi] at h
        cases h
  | ok generated =>
    rw [prepareOther_of_imports hi]
    constructor
    · exact .stage hi
    · rintro (h | ⟨-, h⟩)
      · rw [hi] at h
        cases h
      · exact h

/-! ### Runs -/

theorem run_fail (f : File) (error : FileError) (state : BatchState) :
    (fail f error).run state = (some (.failed { f with error := some error }), .failed) := rfl

theorem run_orFail_ok (f : File) (prepared : Prepared) (next : Prepared → Run Outcome) :
    orFail f (.ok prepared) next = next prepared := rfl

theorem run_orFail_code (f : File) (e : CodeError) (next : Prepared → Run Outcome)
    (state : BatchState) :
    (orFail f (.error (.code e)) next).run state = (some (.failed (f.blamed e)), .failed) := rfl

theorem run_orFail_inside (f : File) (next : Prepared → Run Outcome) (state : BatchState) :
    (orFail f (.error .insideCharacter) next).run state = (none, state) := rfl

variable {config : Config} {entry : File} {prepared : Prepared}

/-- Files that can be prepared are passed over. -/
theorem prepareOthers_append {before out after ready : List File}
    (h : List.Forall₂ (Prepares config entry prepared) before out) :
    prepareOthers config entry prepared ready (before ++ after) =
      prepareOthers config entry prepared (out.reverse ++ ready) after := by
  induction h generalizing ready with
  | nil => rfl
  | cons hf _ ih =>
    obtain ⟨own, hp, rfl⟩ := hf
    rw [List.cons_append, prepareOthers, hp, run_orFail_ok, ih]
    simp

theorem run_prepareOthers_done {others out : List File} {state : BatchState}
    (h : List.Forall₂ (Prepares config entry prepared) others out) :
    (prepareOthers config entry prepared [] others).run state =
      (some (.done ({ entry with prepared := some prepared } :: out)), .done) := by
  rw [← List.append_nil others, prepareOthers_append h, prepareOthers, List.append_nil,
    List.reverse_reverse]
  rfl

theorem run_prepareOthers_failed {before out after : List File} {f : File} {e : CodeError}
    {state : BatchState} (h : List.Forall₂ (Prepares config entry prepared) before out)
    (hf : OtherFails config entry prepared f (.code e)) :
    (prepareOthers config entry prepared [] (before ++ f :: after)).run state =
      (some (.failed (f.blamed e)), .failed) := by
  rw [prepareOthers_append h, prepareOthers, prepareOther_eq_error_iff.2 hf, run_orFail_code]

theorem run_prepareOthers_inside {before out after : List File} {f : File} {state : BatchState}
    (h : List.Forall₂ (Prepares config entry prepared) before out)
    (hf : OtherFails config entry prepared f .insideCharacter) :
    (prepareOthers config entry prepared [] (before ++ f :: after)).run state = (none, state) := by
  rw [prepareOthers_append h, prepareOthers, prepareOther_eq_error_iff.2 hf, run_orFail_inside]

/-- All files can be prepared, or there is a first one that cannot. -/
theorem prepares_or_fails (config : Config) (entry : File) (prepared : Prepared)
    (others : List File) :
    (∃ out, List.Forall₂ (Prepares config entry prepared) others out) ∨
      ∃ before out f after error, others = before ++ f :: after ∧
        List.Forall₂ (Prepares config entry prepared) before out ∧
        OtherFails config entry prepared f error := by
  induction others with
  | nil => exact .inl ⟨[], .nil⟩
  | cons f fs ih =>
    cases hp : prepareOther config entry.name prepared f with
    | error error => exact .inr ⟨[], [], f, fs, error, rfl, .nil, prepareOther_eq_error_iff.1 hp⟩
    | ok own =>
      have hf : Prepares config entry prepared f { f with prepared := some own } := ⟨own, hp, rfl⟩
      rcases ih with ⟨out, h⟩ | ⟨before, out, g, after, error, rfl, h, hg⟩
      · exact .inl ⟨_, .cons hf h⟩
      · exact .inr ⟨f :: before, _, g, after, error, rfl, .cons hf h, hg⟩

variable {files : List File} {state : BatchState}

theorem run_upstream {before after : List File} {f : File} (hb : ∀ g ∈ before, g.error = none)
    (hf : f.error ≠ none) :
    (run config (before ++ f :: after)).run state = (some (.failed f), .failed) := by
  obtain ⟨error, he⟩ := Option.ne_none_iff_exists'.1 hf
  have hfind : (before ++ f :: after).find? (·.error.isSome) = some f := by
    rw [List.find?_append, List.find?_eq_none.2 (by simpa using hb)]
    simp [he]
  simp only [run, hfind, he, Option.getD_some, run_fail]
  rw [← he]

/-- Without errors from before, a run prepares the entry and then the others. -/
theorem run_fresh {others : List File} (hn : ∀ f ∈ files, f.error = none)
    (hp : Picks config files entry others) :
    (run config files).run state =
      (orFail entry (prepareEntry config entry) fun prepared => do
        enter .processingOthers
        prepareOthers config entry prepared [] others).run .processingEntry := by
  have hfind : files.find? (·.error.isSome) = none := List.find?_eq_none.2 fun f hf => by
    simp [hn f hf]
  simp only [run, hfind, pickEntry_eq_iff.2 hp]
  rfl

/-- Once the entry is prepared, a run comes to what the others come to. -/
theorem run_prepared {others : List File} (hn : ∀ f ∈ files, f.error = none)
    (hp : Picks config files entry others) (he : prepareEntry config entry = .ok prepared) :
    (run config files).run state =
      (prepareOthers config entry prepared [] others).run .processingOthers := by
  rw [run_fresh hn hp, he]
  rfl

theorem Decided.run_eq {outcome : Outcome} (h : Decided config files outcome) :
    (run config files).run state = (some outcome, outcome.state) := by
  cases h with
  | upstream heq hb hf =>
    subst heq
    exact run_upstream hb hf
  | entry hn hp hf =>
    rw [run_fresh hn hp, prepareEntry_eq_error_iff.2 hf, run_orFail_code, Outcome.state]
  | other hn hp he hb hf =>
    rw [run_prepared hn hp he, run_prepareOthers_failed hb hf, Outcome.state]
  | done hn hp he hall => rw [run_prepared hn hp he, run_prepareOthers_done hall, Outcome.state]

theorem BreaksOff.run_eq {reached : BatchState} (h : BreaksOff config files reached) :
    (run config files).run state = (none, reached) := by
  cases h with
  | entry hn hp hf => rw [run_fresh hn hp, prepareEntry_eq_error_iff.2 hf, run_orFail_inside]
  | other hn hp he hb hf => rw [run_prepared hn hp he, run_prepareOthers_inside hb hf]

/-- Every batch comes to an outcome or breaks off. -/
theorem decided_or_breaksOff (config : Config) (files : List File) :
    (∃ outcome, Decided config files outcome) ∨ ∃ reached, BreaksOff config files reached := by
  cases hfind : files.find? (·.error.isSome) with
  | some f =>
    obtain ⟨hf, before, after, heq, hb⟩ := List.find?_eq_some_iff_append.1 hfind
    exact .inl ⟨_, .upstream heq (by simpa using hb)
      (by simpa [Option.isSome_iff_ne_none] using hf)⟩
  | none =>
    have hn : ∀ f ∈ files, f.error = none := by simpa using hfind
    have hp := picks_pickEntry config files
    cases he : prepareEntry config (pickEntry config files).1 with
    | error error =>
      cases error with
      | code e => exact .inl ⟨_, .entry hn hp (prepareEntry_eq_error_iff.1 he)⟩
      | insideCharacter => exact .inr ⟨_, .entry hn hp (prepareEntry_eq_error_iff.1 he)⟩
    | ok prepared =>
      rcases prepares_or_fails config (pickEntry config files).1 prepared (pickEntry config files).2
        with ⟨out, h⟩ | ⟨before, out, f, after, error, heq, hb, hf⟩
      · exact .inl ⟨_, .done hn hp he h⟩
      · rw [heq] at hp
        cases error with
        | code e => exact .inl ⟨_, .other hn hp he hb hf⟩
        | insideCharacter => exact .inr ⟨_, .other hn hp he hb hf⟩

/-- A run gives exactly the outcome that is decided, and ends in its state. -/
theorem run_eq_some_iff {outcome : Outcome} {final : BatchState} :
    (run config files).run state = (some outcome, final) ↔
      Decided config files outcome ∧ final = outcome.state := by
  constructor
  · intro h
    rcases decided_or_breaksOff config files with ⟨o, ho⟩ | ⟨reached, hr⟩
    · rw [ho.run_eq] at h
      cases h
      exact ⟨ho, rfl⟩
    · rw [hr.run_eq] at h
      cases h
  · rintro ⟨h, rfl⟩
    exact h.run_eq

/-- The state in which a run begins does not matter. -/
theorem run_state_eq (config : Config) (files : List File) (first second : BatchState) :
    (run config files).run first = (run config files).run second := by
  rcases decided_or_breaksOff config files with ⟨o, ho⟩ | ⟨reached, hr⟩
  · rw [ho.run_eq, ho.run_eq]
  · rw [hr.run_eq, hr.run_eq]

/-! ### One batch after the other -/

/-- The results of batches that are run one after the other, each from the state that the one before
left. -/
def history (config : Config) : BatchState → List (List File) → List (Option Outcome × BatchState)
  | _, [] => []
  | state, files :: batches =>
    (run config files).run state :: history config ((run config files).run state).2 batches

theorem history_eq_map (config : Config) (state : BatchState) (batches : List (List File)) :
    history config state batches = batches.map fun files => (run config files).run .start := by
  induction batches generalizing state with
  | nil => rfl
  | cons files batches ih => rw [history, ih, List.map_cons, run_state_eq config files state .start]

theorem OtherFails.position {f : File} {e : CodeError}
    (h : OtherFails config entry prepared f (.code e)) :
    1 ≤ e.line ∧ 1 ≤ e.column := by
  cases h with
  | imports h =>
    rw [Imports.ofExports] at h
    cases hr : Script.Source.read prepared.body with
    | error e' =>
      rw [hr] at h
      cases h
      exact Script.Source.read_error_position hr
    | ok source =>
      rw [hr] at h
      cases h
  | stage _ h => exact h.position

/-- A file that fails in a batch without errors from before tells a line and a column, both from one
on. -/
theorem Decided.position {f : File} (h : Decided config files (.failed f))
    (hn : ∀ g ∈ files, g.error = none) :
    ∃ error, f.error = some error ∧ 1 ≤ error.line ∧ 1 ≤ error.column := by
  cases h with
  | upstream heq _ hf =>
    subst heq
    exact absurd (hn f (by simp)) hf
  | entry _ _ hf => exact ⟨_, rfl, hf.position⟩
  | other _ _ _ _ hf => exact ⟨_, rfl, hf.position⟩

/-- Batches that are run one after the other come each to what they come to alone: the outcome that
`Decided` gives, in the state of that outcome, with a position in every error that the batch itself
finds. -/
theorem history_decided (config : Config) (state : BatchState) (batches : List (List File)) :
    (history config state batches = batches.map fun files => (run config files).run .start) ∧
      ∀ files ∈ batches,
        (∀ outcome final, (run config files).run .start = (some outcome, final) ↔
          Decided config files outcome ∧ final = outcome.state) ∧
        ∀ f, Decided config files (.failed f) → (∀ g ∈ files, g.error = none) →
          ∃ error, f.error = some error ∧ 1 ≤ error.line ∧ 1 ≤ error.column := by
  refine ⟨history_eq_map config state batches,
    fun files _ => ⟨fun outcome final => run_eq_some_iff, ?_⟩⟩
  intro f h hn
  exact h.position hn

end Batch

end Playground
