import Playground.Proofs.Batch.Outcome

/-! The files that a batch hands out when it is done: every file of the batch once, the entry first
and the others in their order, each with a script to run. -/

namespace Playground

/-- What a file is before anything is made of it: its name, its content, its mark and what it was
compiled to. -/
def File.given (f : File) : String × String × Bool × Option Compiled :=
  (f.name, f.content, f.isMain, f.compiled)

namespace Batch

variable {config : Config} {files : List File}

/-- The files prepared beside the entry are those that were to be prepared. -/
theorem given_of_prepares {entry : File} {prepared : Prepared} {others out : List File}
    (h : List.Forall₂ (Prepares config entry prepared) others out) :
    out.map File.given = others.map File.given := by
  induction h with
  | nil => rfl
  | cons hf _ ih =>
    obtain ⟨own, -, rfl⟩ := hf
    rw [List.map_cons, ih, List.map_cons]
    rfl

theorem ready_of_prepares {entry : File} {prepared : Prepared} {others out : List File}
    (h : List.Forall₂ (Prepares config entry prepared) others out)
    (hn : ∀ f ∈ others, f.error = none) :
    ∀ g ∈ out, g.error = none ∧ g.prepared.isSome = true := by
  induction h with
  | nil => simp
  | cons hf _ ih =>
    obtain ⟨own, -, rfl⟩ := hf
    simp only [List.forall_mem_cons] at hn ⊢
    exact ⟨⟨hn.1, rfl⟩, ih hn.2⟩

/-- The entry and the others bring no errors if no file of the batch does. -/
theorem Picks.error_eq_none {entry : File} {others : List File}
    (h : Picks config files entry others) (hn : ∀ f ∈ files, f.error = none) :
    entry.error = none ∧ ∀ f ∈ others, f.error = none := by
  cases h with
  | found heq _ _ =>
    subst heq
    simp only [List.forall_mem_append, List.forall_mem_cons] at hn ⊢
    exact ⟨hn.2.1, hn.1, hn.2.2⟩
  | missing _ => exact ⟨rfl, hn⟩

/-- The first entry of a batch by its index. -/
theorem picks_getElem {i : Nat} (hi : i < files.length) (he : IsEntry config files[i])
    (hb : ∀ j (hj : j < i), ¬IsEntry config files[j]) :
    Picks config files files[i] (files.eraseIdx i) := by
  have hsplit : files = files.take i ++ files[i] :: files.drop (i + 1) := by
    rw [List.getElem_cons_drop, List.take_append_drop]
  rw [List.eraseIdx_eq_take_drop_succ]
  refine .found hsplit (fun f hf => ?_) he
  obtain ⟨j, hj, rfl⟩ := List.getElem_of_mem hf
  rw [List.getElem_take]
  exact hb j (by simp at hj; omega)

/-- A batch has one entry. -/
theorem Picks.unique {entry entry' : File} {others others' : List File}
    (h : Picks config files entry others) (h' : Picks config files entry' others') :
    entry = entry' ∧ others = others' := by
  have := (pickEntry_eq_iff.2 h).symm.trans (pickEntry_eq_iff.2 h')
  simpa using this

theorem Decided.done_files {out : List File} (h : Decided config files (.done out)) {entry : File}
    {others : List File} (hp : Picks config files entry others) :
    out.map File.given = (entry :: others).map File.given ∧
      ∀ f ∈ out, f.error = none ∧ f.prepared.isSome = true := by
  cases h with
  | done hn hp' _ hall =>
    obtain ⟨rfl, rfl⟩ := hp.unique hp'
    obtain ⟨he, ho⟩ := hp.error_eq_none hn
    constructor
    · rw [List.map_cons, given_of_prepares hall]
      rfl
    · simp only [List.forall_mem_cons]
      exact ⟨⟨he, rfl⟩, ready_of_prepares hall ho⟩

/-- A batch that is done hands out its own files: the first one that is marked or has the entry's
name and then the others in their order, or, if there is none, an empty entry and then all files.
None of them has an error, and each has a script to run. -/
theorem run_done_files {state final : BatchState} {out : List File}
    (h : (run config files).run state = (some (.done out), final)) :
    (∀ i (hi : i < files.length), IsEntry config files[i] →
      (∀ j (hj : j < i), ¬IsEntry config files[j]) →
        out.length = files.length ∧
        out.map File.given = (files[i] :: files.eraseIdx i).map File.given) ∧
      ((∀ f ∈ files, ¬IsEntry config f) →
        out.map File.given = (absentEntry config :: files).map File.given) ∧
      ∀ f ∈ out, f.error = none ∧ f.prepared.isSome = true := by
  have hd : Decided config files (.done out) := (run_eq_some_iff.1 h).1
  refine ⟨fun i hi he hb => ?_, fun hm => (hd.done_files (.missing hm)).1,
    (hd.done_files (picks_pickEntry config files)).2⟩
  have hg := (hd.done_files (picks_getElem hi he hb)).1
  refine ⟨?_, hg⟩
  have hlen := congrArg List.length hg
  simp only [List.length_map, List.length_cons, List.length_eraseIdx_of_lt hi] at hlen
  omega

theorem exists_done {result : Option Outcome × BatchState}
    (h : result.1.map Outcome.isFailed = some false) :
    ∃ out final, result = (some (.done out), final) := by
  obtain ⟨_ | ⟨out⟩ | ⟨f⟩, final⟩ := result
  · cases h
  · exact ⟨out, final, rfl⟩
  · cases h

/-- A batch with two marked files and two of the entry's name, one of them both. The first one that
is an entry is marked and has another name. -/
def twins : List File := [
  { name := "utils", content := "a", compiled := some { js := some "b(`c`)" } },
  { name := "utils", content := "e", isMain := true },
  { name := "main", content := "d", compiled := some { js := some "function b() {}" } },
  { name := "main", content := "f", isMain := true, compiled := some { esjs := some "g" } }]

theorem run_done_files_twins : ∃ out final, (run {} twins).run .start = (some (.done out), final) ∧
    out.length = 4 ∧ out.map File.given =
      [("utils", "e", true, none),
        ("utils", "a", false, some { js := some "b(`c`)" }),
        ("main", "d", false, some { js := some "function b() {}" }),
        ("main", "f", true, some { esjs := some "g" })] := by
  have hd : ((run {} twins).run .start).1.map Outcome.isFailed = some false := by decide +kernel
  obtain ⟨out, final, h⟩ := exists_done hd
  refine ⟨out, final, h, (run_done_files h).1 1 (by decide) (.marked rfl) fun j hj => ?_⟩
  obtain rfl : j = 0 := by omega
  exact isEntry_eq_false_iff.1 rfl

end Batch

end Playground
