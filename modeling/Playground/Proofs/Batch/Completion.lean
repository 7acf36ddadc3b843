import Playground.Proofs.Batch.Files
import Playground.Proofs.Script.LoopGuard

/-! Which batches of readable files are done. Reading a file once is not enough: every stage reads
what the one before it made, and the others need the entry's code without its header. `Smooth` says
that all of these are readable, and `run_done_iff_smooth` that a batch of readable files is done
exactly then. A batch breaks off only where guards are put in behind a byte order mark. -/

namespace Playground

open Script

namespace Script

/-- A stage makes something of the code that the next one cannot read, or has to put a text inside a
character. -/
inductive Pipeline.Spoils : Pipeline → String → Prop
  | inside {stage : Stage} {rest : Pipeline} {code : String} :
      stage.run code = .error .insideCharacter → Spoils (stage :: rest) code
  | rejected {stage next : Stage} {rest : Pipeline} {code out : String} {e : CodeError} :
      stage.run code = .ok out → Source.read out = .error e → Spoils (stage :: next :: rest) code
  | later {stage : Stage} {rest : Pipeline} {code out : String} :
      stage.run code = .ok out → Spoils rest out → Spoils (stage :: rest) code

namespace Pipeline

theorem not_spoils_nil (code : String) : ¬ Spoils [] code := nofun

theorem spoils_cons_iff {stage : Stage} {rest : Pipeline} {code out : String}
    (h : stage.run code = .ok out) :
    Spoils (stage :: rest) code ↔
      (rest ≠ [] ∧ ∃ e, Source.read out = .error e) ∨ Spoils rest out := by
  constructor
  · intro hs
    cases hs with
    | inside h' =>
      rw [h] at h'
      cases h'
    | rejected h' he =>
      rw [h] at h'
      cases h'
      exact .inl ⟨List.cons_ne_nil _ _, _, he⟩
    | later h' hs =>
      rw [h] at h'
      cases h'
      exact .inr hs
  · rintro (⟨hne, e, he⟩ | hs)
    · obtain ⟨next, rest, rfl⟩ := List.exists_cons_of_ne_nil hne
      exact .rejected h he
    · exact .later h hs

/-- Code that can be read passes through a pipeline exactly if no stage spoils it. -/
theorem run_ok_iff_not_spoils {p : Pipeline} {code : String} {source : Source}
    (h : Source.read code = .ok source) :
    (∃ out, p.run code = .ok out) ↔ ¬ p.Spoils code := by
  induction p generalizing code source with
  | nil => exact iff_of_true ⟨code, rfl⟩ (not_spoils_nil code)
  | cons stage rest ih =>
    cases hs : stage.run code with
    | error error =>
      rw [run_cons_error hs]
      cases error with
      | code e =>
        rw [Stage.read_eq_error hs] at h
        cases h
      | insideCharacter => exact iff_of_false nofun fun hn => hn (.inside hs)
    | ok out =>
      rw [run_cons_ok hs, spoils_cons_iff hs]
      cases hr : Source.read out with
      | ok source' => simpa using ih hr
      | error e =>
        -- Only a pipeline that ends here does not read what the stage made.
        cases rest with
        | nil => exact iff_of_true ⟨out, rfl⟩ (by simp [not_spoils_nil])
        | cons next rest =>
          rw [run_cons_error (Stage.run_of_read_error hr)]
          exact iff_of_false nofun (by simp)

end Pipeline

end Script

namespace Batch

/-- Everything that is read while a batch is prepared can be read: what the stages make of each
file, and the entry's code without its header if there are others to import from it. -/
structure Smooth (config : Config) (entry : File) (others : List File) : Prop where
  ofEntry : ¬ (pipeline config true).Spoils entry.script
  ofBody : others ≠ [] → ∀ code, (pipeline config true).run entry.script = .ok code →
    ∃ source, Source.read (String.ofList (Imports.split code.toList).body) = .ok source
  ofOthers : ∀ f ∈ others, ¬ (pipeline config config.options.exportFunctions).Spoils f.script

variable {config : Config} {entry f : File} {others : List File}

theorem prepareEntry_eq_ok_iff {prepared : Prepared} : prepareEntry config entry = .ok prepared ↔
    ∃ code, (pipeline config true).run entry.script = .ok code ∧
      assemble
        [onlyIf (usesTerminal config (Imports.split code.toList).body) config.terminalImport,
          some config.testsImport,
          some (String.ofList (Imports.split code.toList).imports)]
        (Imports.split code.toList).body = prepared := by
  unfold prepareEntry
  cases (pipeline config true).run entry.script <;> simp [bind, Except.bind, pure, Except.pure]

theorem prepareOther_ok_iff {prepared : Prepared} :
    (∃ own, prepareOther config entry.name prepared f = .ok own) ↔
      (∃ source, Source.read prepared.body = .ok source) ∧
        ∃ code, (pipeline config config.options.exportFunctions).run f.script = .ok code := by
  unfold prepareOther Imports.ofExports
  cases Source.read prepared.body <;>
    cases (pipeline config config.options.exportFunctions).run f.script <;>
    simp [bind, Except.bind, pure, Except.pure, Except.map, Except.mapError]

theorem exists_forall₂_prepares_iff {prepared : Prepared} :
    (∃ out, List.Forall₂ (Prepares config entry prepared) others out) ↔
      ∀ f ∈ others, ∃ own, prepareOther config entry.name prepared f = .ok own := by
  constructor
  · rintro ⟨out, h⟩
    induction h with
    | nil => simp
    | cons hf _ ih =>
      obtain ⟨own, hown, -⟩ := hf
      exact List.forall_mem_cons.mpr ⟨⟨own, hown⟩, ih⟩
  · intro h
    rcases prepares_or_fails config entry prepared others
      with hall | ⟨before, _, f, after, error, rfl, -, hf⟩
    · exact hall
    · obtain ⟨own, hown⟩ := h f (by simp)
      rw [prepareOther_eq_error_iff.mpr hf] at hown
      cases hown

variable {files : List File} {state : BatchState}

theorem run_done_iff_prepares (hn : ∀ f ∈ files, f.error = none)
    (hp : Picks config files entry others) :
    (∃ out final, (run config files).run state = (some (.done out), final)) ↔
      ∃ prepared, prepareEntry config entry = .ok prepared ∧
        ∀ f ∈ others, ∃ own, prepareOther config entry.name prepared f = .ok own := by
  constructor
  · rintro ⟨out, final, h⟩
    cases (run_eq_some_iff.mp h).1 with
    | done _ hp' he hall =>
      obtain ⟨rfl, rfl⟩ := hp.unique hp'
      exact ⟨_, he, exists_forall₂_prepares_iff.mp ⟨_, hall⟩⟩
  · rintro ⟨prepared, he, hall⟩
    obtain ⟨out, hout⟩ := exists_forall₂_prepares_iff.mpr hall
    exact ⟨_, _, Decided.run_eq (.done hn hp he hout)⟩

/-- The entry and the others can be read if all files of the batch can; an entry that is missing is
empty. -/
theorem Picks.readable (hp : Picks config files entry others)
    (hr : ∀ f ∈ files, ∃ source, Source.read f.script = .ok source) :
    (∃ source, Source.read entry.script = .ok source) ∧
      ∀ f ∈ others, ∃ source, Source.read f.script = .ok source := by
  cases hp with
  | found heq _ _ =>
    subst heq
    simp only [List.forall_mem_append, List.forall_mem_cons] at hr ⊢
    exact ⟨hr.2.1, hr.1, hr.2.2⟩
  | missing _ =>
    exact ⟨Source.exists_of_isOk (show (Source.read "").isOk = true by decide +kernel), hr⟩

/-- For readable files, being prepared is being smooth. -/
theorem smooth_iff_prepares (he : ∃ source, Source.read entry.script = .ok source)
    (ho : ∀ f ∈ others, ∃ source, Source.read f.script = .ok source) :
    Smooth config entry others ↔ ∃ prepared, prepareEntry config entry = .ok prepared ∧
      ∀ f ∈ others, ∃ own, prepareOther config entry.name prepared f = .ok own := by
  obtain ⟨source, hsource⟩ := he
  constructor
  · intro h
    obtain ⟨code, hcode⟩ := (Pipeline.run_ok_iff_not_spoils hsource).mpr h.ofEntry
    refine ⟨_, prepareEntry_eq_ok_iff.mpr ⟨code, hcode, rfl⟩,
      fun f hf => prepareOther_ok_iff.mpr ⟨?_, ?_⟩⟩
    · exact h.ofBody (List.ne_nil_of_mem hf) code hcode
    · obtain ⟨own, hown⟩ := ho f hf
      exact (Pipeline.run_ok_iff_not_spoils hown).mpr (h.ofOthers f hf)
  · rintro ⟨prepared, hprepared, hall⟩
    obtain ⟨code, hcode, rfl⟩ := prepareEntry_eq_ok_iff.mp hprepared
    refine ⟨(Pipeline.run_ok_iff_not_spoils hsource).mp ⟨code, hcode⟩, fun hne code' hcode' => ?_,
      fun f hf => ?_⟩
    · obtain ⟨f, hf⟩ := List.exists_mem_of_ne_nil others hne
      rw [hcode] at hcode'
      cases hcode'
      exact (prepareOther_ok_iff.mp (hall f hf)).1
    · obtain ⟨own, hown⟩ := ho f hf
      exact (Pipeline.run_ok_iff_not_spoils hown).mp (prepareOther_ok_iff.mp (hall f hf)).2

/-- A batch breaks off only if guards are all that is asked for and a file other than the entry,
whose functions are always exported first, begins with a mark. -/
theorem BreaksOff.behind_mark {reached : BatchState} (h : BreaksOff config files reached)
    (hp : Picks config files entry others) :
    config.options = { guardLoops := true } ∧
      ∃ f ∈ others, Reader.withoutMark f.script.toList ≠ f.script.toList := by
  cases h with
  | entry _ _ hf =>
    obtain ⟨-, hoptions⟩ := Pipeline.insideCharacter_of_ofOptions hf
    have hexports : true = false := congrArg Options.exportFunctions hoptions
    cases hexports
  | @other _ _ _ _ _ f _ hp' _ _ hf =>
    obtain ⟨rfl, rfl⟩ := hp.unique hp'
    cases hf with
    | stage _ hf =>
      obtain ⟨hmark, hoptions⟩ := Pipeline.insideCharacter_of_ofOptions hf
      exact ⟨hoptions, f, by simp, hmark⟩

/-- A batch of files that can be read and bring no errors is done exactly if no stage spoils what it
is given. It breaks off only if guards are all that is asked for and one of the files beside the
entry begins with a mark. -/
theorem run_done_iff_smooth (hn : ∀ f ∈ files, f.error = none)
    (hr : ∀ f ∈ files, ∃ source, Source.read f.script = .ok source)
    (hp : Picks config files entry others) :
    ((∃ out final, (run config files).run state = (some (.done out), final)) ↔
      Smooth config entry others) ∧
      ((∃ final, (run config files).run state = (none, final)) →
        config.options = { guardLoops := true } ∧
          ∃ f ∈ others, Reader.withoutMark f.script.toList ≠ f.script.toList) := by
  obtain ⟨he, ho⟩ := hp.readable hr
  refine ⟨(run_done_iff_prepares hn hp).trans (smooth_iff_prepares he ho).symm, ?_⟩
  rintro ⟨final, h⟩
  rcases decided_or_breaksOff config files with ⟨outcome, hd⟩ | ⟨reached, hb⟩
  · rw [hd.run_eq] at h
    cases h
  · exact hb.behind_mark hp

/-- A batch whose entry uses a name that it does not declare, with one file beside it. -/
def pair : List File := [
  { name := "utils", content := "", compiled := some { js := some "a()" } },
  { name := "main", content := "", compiled := some { js := some "function a() \x7b\x7d b" } }]

theorem run_done_iff_smooth_pair :
    (∀ f ∈ pair, f.error = none) ∧ (∀ f ∈ pair, ∃ source, Source.read f.script = .ok source) ∧
      (∃ out final, (run {} pair).run .start = (some (.done out), final)) ∧
      Smooth {} (pickEntry {} pair).1 (pickEntry {} pair).2 := by
  have hn : ∀ f ∈ pair, f.error = none := by decide
  have hr : ∀ f ∈ pair, ∃ source, Source.read f.script = .ok source := by
    refine fun f hf => Source.exists_of_isOk ?_
    revert f
    decide +kernel
  have hd : ((run {} pair).run .start).1.map Outcome.isFailed = some false := by decide +kernel
  exact ⟨hn, hr, exists_done hd,
    (run_done_iff_smooth hn hr (picks_pickEntry {} pair)).1.mp (exists_done hd)⟩

/-! ### Behind a mark -/

/-- A patch behind the mark leaves it in front. -/
theorem putIn?_keeps_mark {cs code : List Char} {p : Patch} (hp : 3 ≤ p.position)
    (h : Patch.putIn? ('\ufeff' :: cs) p = some code) : ∃ rest, code = '\ufeff' :: rest := by
  have hsize : ('\ufeff' : Char).utf8Size = 3 := by decide
  unfold Patch.putIn? at h
  split at h
  · cases h
    exact ⟨cs, rfl⟩
  · obtain ⟨n, hn⟩ : ∃ n, min p.position (Text.byteSize ('\ufeff' :: cs)) = n + 3 := by
      refine Nat.exists_eq_add_of_le' (Nat.le_min.mpr ⟨hp, ?_⟩)
      rw [Text.byteSize_cons, hsize]
      exact Nat.le_add_right 3 _
    rw [hn, Patch.insertAt?, hsize, if_pos (Nat.le_add_left 3 n)] at h
    obtain ⟨rest, -, rfl⟩ := Option.map_eq_some_iff.mp h
    exact ⟨rest, rfl⟩

/-- The first byte is inside the mark. -/
theorem putIn?_inside_mark {cs : List Char} {text : String} (ht : text.isEmpty = false) :
    Patch.putIn? ('\ufeff' :: cs) ⟨1, text⟩ = none := by
  have hmin : min 1 (Text.byteSize ('\ufeff' :: cs)) = 1 := by
    refine Nat.min_eq_left (Nat.le_trans ?_ (Nat.le_add_right _ _))
    decide
  simp only [Patch.putIn?, ht, hmin, Bool.false_eq_true, if_false]
  rfl

theorem applyAll?_inside_mark {code text : String} {cs : List Char} {p : Patch}
    (hcode : code.toList = '\ufeff' :: cs) (hp : 3 ≤ p.position) (ht : text.isEmpty = false) :
    Patch.applyAll? [p, ⟨1, text⟩] code = none := by
  have hlt : (⟨1, text⟩ : Patch).position < p.position :=
    Nat.lt_of_lt_of_le (show 1 < 3 by decide) hp
  unfold Patch.applyAll?
  rw [Patch.ordered_pair hlt, hcode]
  cases hput : Patch.putIn? ('\ufeff' :: cs) p with
  | none => simp [hput]
  | some code' =>
    obtain ⟨rest, rfl⟩ := putIn?_keeps_mark hp hput
    simp [hput, putIn?_inside_mark ht]

/-- Guards alone, which no printing stage comes before. -/
def guardsOnly : Config := { options := { guardLoops := true } }

/-- A loop behind a mark and a space, in a file beside an entry that is missing. -/
def markedLoop : File :=
  { name := "utils", content := "", compiled := some { js := some "\ufeff while(a)\x7b\x7d" } }

theorem guard_markedLoop :
    (Stage.guardLoops 5000).run markedLoop.script = .error .insideCharacter := by
  have hpatches : LoopGuard.patches 5000 markedLoop.script =
      .ok [⟨10, LoopGuard.check 1 5000⟩, ⟨1, LoopGuard.start 1⟩] := by decide +kernel
  have hscript : markedLoop.script.toList = '\ufeff' :: " while(a)\x7b\x7d".toList := by
    decide +kernel
  have hnone : Patch.applyAll? [⟨10, LoopGuard.check 1 5000⟩, ⟨1, LoopGuard.start 1⟩]
      markedLoop.script = none :=
    applyAll?_inside_mark hscript (Nat.le_add_left 3 7) (by decide +kernel)
  change Stage.guard 5000 markedLoop.script = _
  unfold Stage.guard
  rw [hpatches]
  dsimp only
  rw [hnone]

/-- Guards that are put in behind a mark break a batch off, though its one file brings no error and
can be read. -/
theorem run_breaks_off_behind_mark :
    (markedLoop.error = none ∧ ∃ source, Source.read markedLoop.script = .ok source) ∧
      (run guardsOnly [markedLoop]).run .start = (none, .processingOthers) := by
  refine ⟨⟨rfl, Source.exists_of_isOk (by decide +kernel)⟩, ?_⟩
  have hguard : (Stage.guardLoops 5000).run "" = .ok "" := by
    have hpatches : LoopGuard.patches 5000 "" = .ok [] := by decide +kernel
    have hnone : Patch.applyAll? [] "" = some "" := by simp [Patch.applyAll?, Patch.ordered]
    change Stage.guard 5000 "" = _
    unfold Stage.guard
    rw [hpatches]
    dsimp only
    rw [hnone]
  have hcode : (pipeline guardsOnly true).run (absentEntry guardsOnly).script = .ok "" := by
    change Pipeline.run [.exportFunctions, .guardLoops 5000, .format] "" = _
    rw [Pipeline.run_cons_ok (show Stage.exportFunctions.run "" = .ok "" by decide +kernel),
      Pipeline.run_cons_ok hguard,
      Pipeline.run_cons_ok (show Stage.format.run "" = .ok "" by decide +kernel),
      Pipeline.run_nil]
  have himports : Imports.ofExports "" "./main" = .ok "" := by decide +kernel
  have hfails : Pipeline.Fails (pipeline guardsOnly false) markedLoop.script .insideCharacter :=
    .here guard_markedLoop
  exact BreaksOff.run_eq (.other (by decide) (.missing (by decide))
    (prepareEntry_eq_ok_iff.mpr ⟨"", hcode, rfl⟩) .nil (.stage himports hfails))

end Batch

end Playground
