import Playground.CommandLine
import Playground.Proofs.Batch.Settled
import Playground.Proofs.Report

/-! What the page is told. Batches that are delivered one after the other over a channel that takes
every message post one message for each batch that is done, with the very files that come back, and
none for the others. A file with an error among those files means that the batch failed, which is
what the command line goes by. -/

namespace Playground

/-- What a batch comes to on its own; `none` if it breaks off. -/
def Batch.outcome? (config : Config) (files : List File) : Option Outcome :=
  ((run config files).run .start).1

namespace Channel

/-- Posts messages one after the other, whether they get through or not. -/
def postAll (channel : Channel σ) : List Message → σ → List (Except DeliveryError Unit) × σ
  | [], state => ([], state)
  | m :: ms, state =>
    let (result, state) := channel.post m state
    let (results, state) := channel.postAll ms state
    (result :: results, state)

/-- Every message gets through. -/
def Accepts (channel : Channel σ) : Prop := ∀ m state, (channel.post m state).1 = .ok ()

theorem accepts_memory : memory.Accepts := fun _ _ => rfl

theorem postAll_memory (messages posted : List Message) :
    (memory.postAll messages posted).2 = posted ++ messages := by
  induction messages generalizing posted with
  | nil => simp [postAll]
  | cons m ms ih =>
    change (memory.postAll ms (posted ++ [m])).2 = _
    rw [ih, List.append_assoc, List.singleton_append]

end Channel

/-- Delivers batches one after the other over one channel. -/
def deliverAll (channel : Channel σ) (config : Config) :
    List (List File) → σ → List (Option (Except DeliveryError (List File))) × σ
  | [], state => ([], state)
  | files :: batches, state =>
    let (result, state) := deliver channel config files state
    let (results, state) := deliverAll channel config batches state
    (result :: results, state)

/-- What delivering batches has to give back, and what the page has to be told. -/
inductive Told (config : Config) :
    List (List File) → List (Option (Except DeliveryError (List File))) → List Message → Prop
  | nil : Told config [] [] []
  /-- The page is told of the files that come back. -/
  | done {files ready : List File} {batches results messages} :
      Batch.outcome? config files = some (.done ready) → Told config batches results messages →
      Told config (files :: batches) (some (.ok ready) :: results)
        (⟨"cmd_files_compiled", ready⟩ :: messages)
  /-- One file comes back that reports the error, and the page is told nothing. -/
  | failed {files : List File} {f shown : File} {error : FileError} {batches results messages} :
      Batch.outcome? config files = some (.failed f) → Report.Reports f error shown →
      Told config batches results messages →
      Told config (files :: batches) (some (.ok [shown]) :: results) messages
  | brokenOff {files : List File} {batches results messages} :
      Batch.outcome? config files = none → Told config batches results messages →
      Told config (files :: batches) (none :: results) messages

section

variable {channel : Channel σ} {config : Config} {files ready : List File} {f : File} {state : σ}

theorem deliver_done (hc : channel.Accepts) (h : Batch.outcome? config files = some (.done ready)) :
    deliver channel config files state =
      (some (.ok ready), (channel.post (.filesCompiled ready) state).2) := by
  unfold deliver
  rw [← Batch.outcome?, h]
  dsimp only
  have hok := hc (.filesCompiled ready) state
  split
  · rename_i heq
    rw [heq]
  · rename_i heq
    rw [heq] at hok
    cases hok

theorem deliver_failed (h : Batch.outcome? config files = some (.failed f)) :
    deliver channel config files state = (some (.ok [Report.ofFile f]), state) := by
  unfold deliver
  rw [← Batch.outcome?, h]
  rfl

theorem deliver_brokenOff (h : Batch.outcome? config files = none) :
    deliver channel config files state = (none, state) := by
  unfold deliver
  rw [← Batch.outcome?, h]

theorem Batch.decided_of_outcome? {outcome : Outcome} (h : outcome? config files = some outcome) :
    Decided config files outcome :=
  (run_eq_some_iff.mp (Prod.ext h rfl)).1

theorem Batch.reports_of_failed (h : outcome? config files = some (.failed f)) :
    ∃ error, Report.Reports f error (Report.ofFile f) := by
  obtain ⟨error, herror⟩ := Option.isSome_iff_exists.mp (decided_of_outcome? h).failed_record.1
  exact ⟨error, Report.reports_ofFile herror⟩

/-- The channel is left as the messages that the page has to be told leave it, and nothing else is
posted. -/
theorem told_deliverAll (hc : channel.Accepts) (config : Config)
    (batches : List (List File)) (state : σ) :
    ∃ messages, Told config batches (deliverAll channel config batches state).1 messages ∧
      (deliverAll channel config batches state).2 = (channel.postAll messages state).2 := by
  induction batches generalizing state with
  | nil => exact ⟨[], .nil, rfl⟩
  | cons files batches ih =>
    rw [deliverAll]
    cases ho : Batch.outcome? config files with
    | none =>
      rw [deliver_brokenOff ho]
      obtain ⟨messages, htold, hstate⟩ := ih state
      exact ⟨messages, .brokenOff ho htold, hstate⟩
    | some outcome =>
      cases outcome with
      | done ready =>
        rw [deliver_done hc ho]
        obtain ⟨messages, htold, hstate⟩ := ih (channel.post (.filesCompiled ready) state).2
        exact ⟨_, .done ho htold, hstate⟩
      | failed f =>
        obtain ⟨error, hreports⟩ := Batch.reports_of_failed ho
        rw [deliver_failed ho]
        obtain ⟨messages, htold, hstate⟩ := ih state
        exact ⟨messages, .failed ho hreports htold, hstate⟩

end

section

variable {config : Config} {files : List File}

theorem Batch.any_error_of_done {ready : List File}
    (h : outcome? config files = some (.done ready)) :
    ready.any (·.error.isSome) = false := by
  have hready := ((decided_of_outcome? h).done_files (picks_pickEntry config files)).2
  rw [List.any_eq_false]
  intro f hf
  rw [(hready f hf).1]
  decide

theorem Batch.any_error_of_failed {f : File} (h : outcome? config files = some (.failed f)) :
    [Report.ofFile f].any (·.error.isSome) = true := by
  obtain ⟨error, hreports⟩ := reports_of_failed h
  simp [hreports.errorKept]

/-- What comes back has an error in it exactly if the batch failed, and then nothing is posted. -/
theorem any_error_iff_failed {channel : Channel σ} (hc : channel.Accepts) {ready : List File}
    {state state' : σ} (h : deliver channel config files state = (some (.ok ready), state')) :
    ready.any (·.error.isSome) = true ↔
      (∃ f, Batch.outcome? config files = some (.failed f)) ∧ state' = state := by
  cases ho : Batch.outcome? config files with
  | none =>
    rw [deliver_brokenOff ho] at h
    cases h
  | some outcome =>
    cases outcome with
    | done out =>
      rw [deliver_done hc ho] at h
      cases h
      simp [Batch.any_error_of_done ho]
    | failed f =>
      rw [deliver_failed ho] at h
      cases h
      simp [Batch.any_error_of_failed ho]

namespace CommandLine

theorem resultOf_done {ready : List File}
    (h : Batch.outcome? config (compileFiles Compiler.identity files) = some (.done ready)) :
    resultOf config files = { exit := 0, stdout := (Message.filesCompiled ready).line } := by
  unfold resultOf
  rw [deliver_done Channel.accepts_memory h]
  simp [Channel.memory, Batch.any_error_of_done h]

theorem resultOf_failed {f : File}
    (h : Batch.outcome? config (compileFiles Compiler.identity files) = some (.failed f)) :
    resultOf config files =
      { exit := 2, stdout := (Json.array [(Report.ofFile f).toJson]).render ++ "\n" } := by
  unfold resultOf
  rw [deliver_failed h]
  simp [Batch.any_error_of_failed h]

theorem resultOf_brokenOff (h :
    Batch.outcome? config (compileFiles Compiler.identity files) = none) :
    resultOf config files = { exit := 101 } := by
  unfold resultOf
  rw [deliver_brokenOff h]

end CommandLine

end

/-- Over a channel that takes every message, batches post one message for each that is done, in
their order and with the files that come back, and none for the others. An error among the files
that come back means that the batch failed and nothing was posted, and the command line exits
accordingly. -/
theorem deliverAll_tells_of_done {channel : Channel σ} (hc : channel.Accepts) (config : Config)
    (batches : List (List File)) (state : σ) :
    (∃ messages, Told config batches (deliverAll channel config batches state).1 messages ∧
        (deliverAll channel config batches state).2 = (channel.postAll messages state).2) ∧
      (∀ files before after ready, deliver channel config files before = (some (.ok ready), after) →
        (ready.any (·.error.isSome) = true ↔
          (∃ f, Batch.outcome? config files = some (.failed f)) ∧ after = before)) ∧
      ∀ files,
        (∀ ready, Batch.outcome? config (compileFiles Compiler.identity files) =
          some (.done ready) →
          CommandLine.resultOf config files =
            { exit := 0, stdout := (Message.filesCompiled ready).line }) ∧
        (∀ f, Batch.outcome? config (compileFiles Compiler.identity files) = some (.failed f) →
          ∃ error shown, Report.Reports f error shown ∧ CommandLine.resultOf config files =
            { exit := 2, stdout := (Json.array [shown.toJson]).render ++ "\n" }) ∧
        (Batch.outcome? config (compileFiles Compiler.identity files) = none →
          CommandLine.resultOf config files = { exit := 101 }) := by
  refine ⟨told_deliverAll hc config batches state,
    fun files before after ready h => any_error_iff_failed hc h, ?_⟩
  intro files
  refine ⟨fun ready h => CommandLine.resultOf_done h, fun f h => ?_, CommandLine.resultOf_brokenOff⟩
  obtain ⟨error, hreports⟩ := Batch.reports_of_failed h
  exact ⟨error, _, hreports, CommandLine.resultOf_failed h⟩

/-- A batch that is done. -/
def soundBatch : List File :=
  [{ name := "main", content := "a", compiled := some { js := some "a" } }]

/-- A batch that fails. -/
def brokenBatch : List File :=
  [{ name := "main", content := "if(a)", compiled := some { js := some "if(a)" } }]

def brokenError : FileError :=
  { message := "Unexpected eof", line := 1, column := 6
    stack := "SyntaxError: Unexpected eof\n    at main:1:6" }

/-- The file that comes back in its place, with the script that shows the error. -/
def brokenReport (script : List Char) : File :=
  { name := "main", content := "if(a)", compiled := some { js := some "if(a)" }
    error := some brokenError
    prepared := some ⟨
      "import \x7b Terminal \x7d from '@es-js/terminal'; import \x7b tiza \x7d from '@es-js/tiza';",
      String.ofList script⟩ }

theorem eq_brokenReport {f shown : File} {error : FileError}
    (hf : Batch.outcome? {} brokenBatch = some (.failed f)) (h : Report.Reports f error shown) :
    ∃ script tokens markup, shown = brokenReport script ∧
      Script.Reader.Lexes (fun _ => false) (Script.Reader.ofText script) tokens ∧
      tokens.map Script.Lexeme.meaning = Report.skeleton "main" markup brokenError ∧
      Text.shownMarkup? markup = some "> 1 | if(a)\n    |      ^ Unexpected eof".toList := by
  have hbroken : Batch.outcome? {} brokenBatch = some (.failed
      { name := "main", content := "if(a)", compiled := some { js := some "if(a)" }
        error := some brokenError }) := by decide +kernel
  rw [hbroken] at hf
  cases hf
  obtain rfl : brokenError = error := Option.some.inj h.failed
  obtain ⟨script, markup, hscript, hlexes, -, -, hmarkup⟩ := h.script
  obtain ⟨tokens, htokens, hmeanings⟩ := hlexes fun _ => false
  refine ⟨script, tokens, markup, ?_, htokens, hmeanings, hmarkup.trans ?_⟩
  · rw [h.record, hscript]
    rfl
  · decide +kernel

theorem deliverAll_tells_of_done_brokenBetween :
    Channel.memory.Accepts ∧ ∃ ready script tokens markup,
      deliverAll Channel.memory {} [soundBatch, brokenBatch, soundBatch] [] =
        ([some (.ok ready), some (.ok [brokenReport script]), some (.ok ready)],
          [⟨"cmd_files_compiled", ready⟩, ⟨"cmd_files_compiled", ready⟩]) ∧
      Script.Reader.Lexes (fun _ => false) (Script.Reader.ofText script) tokens ∧
      tokens.map Script.Lexeme.meaning = Report.skeleton "main" markup brokenError ∧
      Text.shownMarkup? markup = some "> 1 | if(a)\n    |      ^ Unexpected eof".toList := by
  have hsound : (Batch.outcome? {} soundBatch).map Outcome.isFailed = some false := by
    decide +kernel
  have hbroken : (Batch.outcome? {} brokenBatch).map Outcome.isFailed = some true := by
    decide +kernel
  refine ⟨Channel.accepts_memory, ?_⟩
  obtain ⟨⟨messages, htold, hposted⟩, -, -⟩ :=
    deliverAll_tells_of_done Channel.accepts_memory {} [soundBatch, brokenBatch, soundBatch] []
  rw [Channel.postAll_memory, List.nil_append] at hposted
  generalize deliverAll Channel.memory {} [soundBatch, brokenBatch, soundBatch]
    [] = all at htold hposted
  obtain ⟨results, posted⟩ := all
  dsimp only at htold hposted
  subst hposted
  -- The other ways to be told of a batch contradict what it comes to.
  rcases htold with _ | ⟨hready, _ | ⟨h, -⟩ |
    ⟨hf, hreports, _ | ⟨hready', ⟨⟩⟩ | ⟨h, -, -⟩ | ⟨h, -⟩⟩ | ⟨h, -⟩⟩ | ⟨h, -, -⟩ | ⟨h, -⟩
  case done.failed.done =>
    rw [hready, Option.some.injEq, Outcome.done.injEq] at hready'
    subst hready'
    obtain ⟨script, tokens, markup, rfl, hscript⟩ := eq_brokenReport hf hreports
    exact ⟨_, script, tokens, markup, rfl, hscript⟩
  all_goals simp [h, Outcome.isFailed] at hsound hbroken

end Playground
