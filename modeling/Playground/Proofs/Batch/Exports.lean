import Playground.Proofs.Batch.Completion
import Playground.Proofs.Imports.Header

/-! What the others import. The functions that the entry declares at its top level pass through all
stages and come out exported, and taking the header off leaves them in the body. So the imports that
are made from the body name exactly those functions. -/

namespace Playground

open Script

namespace Script.Pipeline

theorem Rereads.dropLast {printed guarded : Source → Source → Prop} {p : Pipeline} {code : String}
    (h : p.Rereads printed guarded code) : Rereads printed guarded p.dropLast code := by
  induction p generalizing code with
  | nil => trivial
  | cons stage rest ih =>
    cases rest with
    | nil => trivial
    | cons next rest => exact ⟨h.1, fun out hout => ih (h.2 out hout)⟩

/-- A pipeline that formats last prints what the stages before made. -/
theorem exists_print {p : Pipeline} {code out : String} (hp : p = p.dropLast ++ [.format])
    (h : p.run code = .ok out) :
    ∃ mid last, run p.dropLast code = .ok mid ∧ Source.read mid = .ok last ∧ last.print = out := by
  rw [hp] at h
  generalize p.dropLast = q at h ⊢
  induction q generalizing code with
  | nil =>
    obtain ⟨mid, hmid, hrest⟩ := run_cons_eq_ok h
    cases hrest
    obtain ⟨last, hlast, hout⟩ := Stage.reprint_eq_ok_iff.mp hmid
    exact ⟨code, last, rfl, hlast, hout⟩
  | cons stage rest ih =>
    obtain ⟨mid, hmid, hrest⟩ := run_cons_eq_ok h
    rw [run_cons_ok hmid]
    exact ih hrest

end Script.Pipeline

/-- Imports at the top export no functions. -/
theorem Script.Outline.filterMap_exported_drop {os : List Outline} {n : Nat}
    (h : ∀ o ∈ os.take n, o = .importFrom) :
    (os.drop n).filterMap exported? = os.filterMap exported? := by
  have hnone : (os.take n).filterMap exported? = [] := by
    refine List.filterMap_eq_nil_iff.mpr fun o ho => ?_
    rw [h o ho]
    rfl
  conv => rhs; rw [← List.take_append_drop n os, List.filterMap_append, hnone, List.nil_append]

namespace Batch

variable {config : Config} {entry : File} {others files : List File}

/-- What is printed of the entry on the way reads back with the same items, what is guarded with the
same ones but for loops and variables, and what is printed last has its imports in lines. -/
structure ReadsBack (config : Config) (entry : File) : Prop where
  stages : (pipeline config true).Rereads Source.SameItems Source.SameBesideGuards entry.script
  printed : ∀ mid, Pipeline.run (pipeline config true).dropLast entry.script = .ok mid →
    ∀ last, Source.read mid = .ok last → last.PrintsInLines

instance (config : Config) (entry : File) : Decidable (ReadsBack config entry) :=
  decidable_of_iff (_ ∧ _) ⟨fun h => ⟨h.1, h.2⟩, fun h => ⟨h.stages, h.printed⟩⟩

theorem pipeline_eq (config : Config) {exportsFunctions : Bool} :
    pipeline config exportsFunctions =
      (pipeline config exportsFunctions).dropLast ++ [.format] := by
  unfold pipeline Pipeline.ofOptions
  rw [List.dropLast_concat]

theorem exportFunctions_mem_pipeline (config : Config) :
    .exportFunctions ∈ (pipeline config true).dropLast := by
  unfold pipeline Pipeline.ofOptions
  rw [List.dropLast_concat]
  simp

/-- The body of the entry exports the functions that the entry declares. -/
theorem ReadsBack.exportedFunctions (h : ReadsBack config entry)
    {source last body : Source} {mid : String} (hs : Source.read entry.script = .ok source)
    (hm : Pipeline.run (pipeline config true).dropLast entry.script = .ok mid)
    (hl : Source.read mid = .ok last)
    (hb : Source.read (String.ofList (Imports.split last.print.toList).body) = .ok body) :
    body.module.exportedFunctions = source.module.declaredFunctions := by
  have hshows : ∀ item ∈ last.module.items, item.Shows :=
    fun item hi s hs => (Source.read_good hl item hi s hs).shows
  obtain ⟨n, himports, houtline⟩ := (h.printed mid hm last hl).split hshows hb
  obtain ⟨hdeclared, hexports⟩ := h.stages.dropLast.functions hs hm hl
  have hall : last.module.ExportsAll := hexports (.inr (exportFunctions_mem_pipeline config))
  calc body.module.exportedFunctions
    _ = (last.module.outline.drop n).filterMap Outline.exported? := by
      rw [Module.exportedFunctions_eq, houtline]
    _ = last.module.exportedFunctions := by
      rw [Outline.filterMap_exported_drop himports, Module.exportedFunctions_eq]
    _ = last.module.declaredFunctions := hall.exportedFunctions
    _ = source.module.declaredFunctions := hdeclared

/-- If a batch is done, the imports that are made for the others name the functions that the entry
declares at its top level, plainly or exported, each once for each declaration and in their
order. -/
theorem run_done_imports {state final : BatchState} {out : List File}
    (h : (run config files).run state = (some (.done out), final))
    (hp : Picks config files entry others) (hb : ReadsBack config entry) :
    ∃ source prepared, Source.read entry.script = .ok source ∧
      out.head? = some { entry with prepared := some prepared } ∧
      (others ≠ [] → Imports.ofExports prepared.body ("./" ++ entry.name) =
        .ok ("\n".intercalate
          (source.module.declaredFunctions.map (Imports.importOf ("./" ++ entry.name))))) := by
  cases (run_eq_some_iff.mp h).1 with
  | @done _ prepared _ _ _ hp' he hall =>
    obtain ⟨rfl, rfl⟩ := hp.unique hp'
    obtain ⟨code, hcode, rfl⟩ := prepareEntry_eq_ok_iff.mp he
    obtain ⟨mid, last, hmid, hlast, rfl⟩ := Pipeline.exists_print (pipeline_eq config) hcode
    obtain ⟨source, hsource⟩ := Pipeline.exists_read_of_run hmid hlast
    refine ⟨source, _, hsource, rfl, fun hne => ?_⟩
    obtain ⟨f, hf⟩ := List.exists_mem_of_ne_nil others hne
    obtain ⟨body, hbody⟩ :=
      (prepareOther_ok_iff.mp (exists_forall₂_prepares_iff.mp ⟨_, hall⟩ f hf)).1
    rw [Imports.ofExports, hbody, Except.map, hb.exportedFunctions hsource hmid hlast hbody]

/-- An entry with a generator and an exported function behind an import. -/
def library : File :=
  ⟨"main", "", false,
    some { js := some "import'y';function*a()\x7b\x7dexport function b()\x7b\x7d" }, none, none⟩

/-- A file beside it. -/
def user : File := { name := "utils", content := "" }

/-- The code of the entry as it is printed. -/
def libraryCode : String :=
  "import 'y';\nexport function* a() \x7b\x7d\nexport function b() \x7b\x7d\n"

theorem exportFunctions_library : Stage.exportFunctions.run library.script = .ok libraryCode := by
  decide +kernel

theorem format_libraryCode : Stage.format.run libraryCode = .ok libraryCode := by decide +kernel

theorem readsBack_library : ReadsBack {} library := by
  -- What is read are the characters that the strings stand for, so that these need not be
  -- evaluated.
  have hscript : Source.read library.script = (Source.parse _).mapError _ := Source.read_ofList _
  have hcode : Source.read libraryCode = (Source.parse _).mapError _ := Source.read_ofList _
  constructor
  · refine Pipeline.rereads_cons.mpr ⟨fun s hs t ht => ?_, fun out hout => ?_⟩
    · have hprint := Stage.print_of_run hs exportFunctions_library nofun
      have hsame : ∀ s, Source.read library.script = .ok s → ∀ t, Source.read libraryCode = .ok t →
          (Stage.exportFunctions.writes s).SameItems t := by
        rw [hscript, hcode]
        decide +kernel
      exact hsame s hs t (hprint ▸ ht)
    · obtain rfl : libraryCode = out := Except.ok.inj (exportFunctions_library.symm.trans hout)
      refine Pipeline.rereads_cons.mpr ⟨fun s hs t ht => ?_, fun _ _ => trivial⟩
      have hprint := Stage.print_of_run hs format_libraryCode nofun
      cases hs.symm.trans (hprint ▸ ht)
      rfl
  · intro mid hmid
    obtain rfl : libraryCode = mid :=
      Except.ok.inj ((Pipeline.run_cons_ok exportFunctions_library).symm.trans hmid)
    rw [hcode]
    decide +kernel

theorem run_done_imports_library :
    ∃ out final prepared, (run {} [user, library]).run .start = (some (.done out), final) ∧
      ReadsBack {} library ∧ out.head? = some { library with prepared := some prepared } ∧
      Imports.ofExports prepared.body "./main" =
        .ok "import \x7b a \x7d from './main'\nimport \x7b b \x7d from './main'" := by
  have hn : ∀ f ∈ [user, library], f.error = none := by decide
  have hp : Picks {} [user, library] library [user] := pickEntry_eq_iff.mp (by decide)
  have hb : ReadsBack {} library := readsBack_library
  have hcode : (pipeline {} true).run library.script = .ok libraryCode :=
    (Pipeline.run_cons_ok exportFunctions_library).trans (Pipeline.run_cons_ok format_libraryCode)
  obtain ⟨out, final, h⟩ : ∃ out final, (run {} [user, library]).run .start =
      (some (.done out), final) := by
    refine (run_done_iff_prepares hn hp).mpr ⟨_, prepareEntry_eq_ok_iff.mpr ⟨_, hcode, rfl⟩, ?_⟩
    refine List.forall_mem_singleton.mpr
      (prepareOther_ok_iff.mpr ⟨Source.exists_of_isOk ?_, "", ?_⟩)
    · decide +kernel
    · decide +kernel
  obtain ⟨source, prepared, hsource, hhead, himports⟩ := run_done_imports h hp hb
  have hfunctions : ∀ source, Source.read library.script = .ok source →
      source.module.declaredFunctions = ["a", "b"] := by decide +kernel
  refine ⟨out, final, prepared, h, hb, hhead, ?_⟩
  rw [show "./main" = "./" ++ library.name from rfl, himports nofun, hfunctions source hsource]
  rfl

end Batch

end Playground
