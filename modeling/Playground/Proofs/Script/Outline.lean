import Playground.Proofs.Script.Stage

/-! What a module is at its top level. An `Outline` tells what an item is and what it declares, and
leaves out where it stands. `Source.PrintsBack` and `Source.GuardsBack` say what is asked of
printing and of putting guards in: read again, the text has the items that it was made from. Then
the stages change outlines in few ways, and none of them takes a function away or brings one in. -/

namespace Playground.Script

/-- What an item is at the top level. -/
inductive Outline
  /-- A plain function declaration. -/
  | function (name : String)
  /-- A function declaration that is exported. -/
  | exportedFunction (name : String)
  | importFrom
  /-- A statement that only waits. -/
  | wait
  | loop
  | variables
  | other
deriving DecidableEq, Repr

namespace Outline

/-- The function that is declared. -/
def declared? : Outline → Option String
  | .function name | .exportedFunction name => some name
  | _ => none

/-- The function that is declared and exported. -/
def exported? : Outline → Option String
  | .exportedFunction name => some name
  | _ => none

def isFunction : Outline → Bool
  | .function _ => true
  | _ => false

/-- What guards change or put in: loops, and variables for their start times. -/
def isGuarding : Outline → Bool
  | .loop | .variables => true
  | _ => false

end Outline

def ModuleItem.outline : ModuleItem → Outline
  | .stmt (.function _ name _) => .function name.name
  | .exportDecl _ (.function _ name _) => .exportedFunction name.name
  | .importFrom .. => .importFrom
  | .stmt (.expr _ (.await ..)) => .wait
  | .stmt (.var _) => .variables
  | .stmt s => if s.loopBody?.isSome then .loop else .other
  | _ => .other

/-- The name of the function that an item declares, exported or not. A default export declares
none. -/
def ModuleItem.declaredFunction? : ModuleItem → Option String
  | .stmt (.function _ name _) | .exportDecl _ (.function _ name _) => some name.name
  | _ => none

namespace Module

def outline (m : Module) : List Outline := m.items.map ModuleItem.outline

/-- The functions declared at the top level, in their order. -/
def declaredFunctions (m : Module) : List String := m.items.filterMap ModuleItem.declaredFunction?

end Module

/-- A plain function that gets exported. -/
def Outline.exporting : Outline → Outline
  | .function name => .exportedFunction name
  | o => o

/-- The outline of an item tells which function it declares, which one it exports, what it becomes
when functions are exported, and whether it only waits. -/
theorem ModuleItem.outline_tells (item : ModuleItem) :
    item.outline.declared? = item.declaredFunction? ∧
      item.outline.exported? = item.exportedFunction? ∧
      item.exportFunction.outline = item.outline.exporting ∧
      item.isAwait = decide (item.outline = .wait) := by
  cases item with
  | stmt s =>
    cases s with
    | expr _ e => cases e <;> exact ⟨rfl, rfl, rfl, rfl⟩
    | _ => exact ⟨rfl, rfl, rfl, rfl⟩
  | exportDecl _ decl => cases decl <;> exact ⟨rfl, rfl, rfl, rfl⟩
  | _ => exact ⟨rfl, rfl, rfl, rfl⟩

theorem Module.declaredFunctions_eq (m : Module) :
    m.declaredFunctions = m.outline.filterMap Outline.declared? := by
  have : Outline.declared? ∘ ModuleItem.outline = ModuleItem.declaredFunction? :=
    funext fun item => item.outline_tells.1
  rw [outline, List.filterMap_map, this, declaredFunctions]

theorem Module.exportedFunctions_eq (m : Module) :
    m.exportedFunctions = m.outline.filterMap Outline.exported? := by
  have : Outline.exported? ∘ ModuleItem.outline = ModuleItem.exportedFunction? :=
    funext fun item => item.outline_tells.2.1
  rw [outline, List.filterMap_map, this, exportedFunctions]

theorem Module.outline_exportFunctions (m : Module) :
    m.exportFunctions.outline = m.outline.map Outline.exporting := by
  simp [outline, exportFunctions, ModuleItem.outline_tells]

theorem Module.outline_removeAwaits (m : Module) :
    m.removeAwaits.outline = m.outline.filter fun o => !decide (o = .wait) := by
  simp [outline, removeAwaits, List.filter_map, Function.comp_def, ModuleItem.outline_tells]

/-! ### Reading back -/

/-- Both have the same items at the top level. -/
def Source.SameItems (s t : Source) : Prop := t.module.outline = s.module.outline

/-- Both have the same items at the top level, loops and variables left aside. -/
def Source.SameBesideGuards (s t : Source) : Prop :=
  t.module.outline.filter (!·.isGuarding) = s.module.outline.filter (!·.isGuarding)

/-- The text that is printed of a source reads as what `kept` allows, as far as it can be read. -/
def Source.PrintsBack (kept : Source → Source → Prop) (s : Source) : Prop :=
  ∀ t, Source.read s.print = .ok t → kept s t

/-- The code of a source with guards put into its loops reads as what `kept` allows, as far as it
can be read. -/
def Source.GuardsBack (kept : Source → Source → Prop) (timeout : Nat) (code : String) (s : Source) :
    Prop :=
  ∀ guarded, Patch.applyAll? (LoopGuard.itemPatches timeout 1 s.module.items) code = some guarded →
    ∀ t, Source.read guarded = .ok t → kept s t

namespace Stage

/-- The source that a stage prints. Guards are put into the code, which is not printed. -/
def writes (s : Source) : Stage → Source
  | .format | .guardLoops _ => s
  | .exportFunctions => { s with module := s.module.exportFunctions }
  | .removeAwaits => { s with module := s.module.removeAwaits }

/-- What the stage makes of a source reads back: as `printed` allows if it is printed, as `guarded`
does otherwise. -/
def ReadsBack (printed guarded : Source → Source → Prop) (code : String) (s : Source) : Stage → Prop
  | .guardLoops timeout => s.GuardsBack guarded timeout code
  | stage => (stage.writes s).PrintsBack printed

/-- What is kept of the source that a stage writes. -/
def Keeps (printed guarded : Source → Source → Prop) (s t : Source) : Stage → Prop
  | .guardLoops _ => guarded s t
  | stage => printed (stage.writes s) t

variable {printed guarded : Source → Source → Prop} {stage : Stage}
    {code out : String} {s t : Source}

/-- Every stage but the one for guards prints the source that it writes. -/
theorem print_of_run (hs : Source.read code = .ok s) (h : stage.run code = .ok out)
    (hstage : ∀ timeout, stage ≠ .guardLoops timeout) : (stage.writes s).print = out := by
  cases stage with
  | format | exportFunctions | removeAwaits =>
    rw [run] at h
    obtain ⟨source, hsource, hout⟩ := reprint_eq_ok_iff.mp h
    cases hs.symm.trans hsource
    exact hout
  | guardLoops timeout => exact absurd rfl (hstage timeout)

theorem ReadsBack.keeps (h : stage.ReadsBack printed guarded code s) (hs : Source.read code = .ok s)
    (hrun : stage.run code = .ok out) (ht : Source.read out = .ok t) :
    stage.Keeps printed guarded s t := by
  cases stage with
  | format | exportFunctions | removeAwaits =>
    have hprint := print_of_run hs hrun nofun
    exact h t (hprint ▸ ht)
  | guardLoops timeout =>
    obtain ⟨source, hsource, hout⟩ := guard_eq_ok_iff.mp hrun
    cases hs.symm.trans hsource
    exact h out hout t ht

end Stage

/-! ### What stages do to outlines -/

/-- At its top level, `m'` is what the stage writes for `m`. Guards may change only loops and
variables there. -/
def Stage.Turns (m m' : Module) : Stage → Prop
  | .format => m'.outline = m.outline
  | .exportFunctions => m'.outline = m.exportFunctions.outline
  | .removeAwaits => m'.outline = m.removeAwaits.outline
  | .guardLoops _ => m'.outline.filter (!·.isGuarding) = m.outline.filter (!·.isGuarding)

theorem Stage.Keeps.turns {stage : Stage} {s t : Source}
    (h : stage.Keeps Source.SameItems Source.SameBesideGuards s t) :
    stage.Turns s.module t.module := by
  cases stage <;> exact h

/-- No stage takes a function away or brings one in. -/
theorem Stage.Turns.declaredFunctions {stage : Stage} {m m' : Module} (h : stage.Turns m m') :
    m'.declaredFunctions = m.declaredFunctions := by
  rw [m'.declaredFunctions_eq, m.declaredFunctions_eq]
  cases stage with
  | format => rw [show m'.outline = m.outline from h]
  | exportFunctions =>
    have : Outline.declared? ∘ Outline.exporting = Outline.declared? := funext fun o => by
      cases o <;> rfl
    rw [show m'.outline = m.exportFunctions.outline from h, m.outline_exportFunctions,
      List.filterMap_map, this]
  | removeAwaits =>
    rw [show m'.outline = m.removeAwaits.outline from h, m.outline_removeAwaits,
      List.filterMap_filter]
    congr
    funext o
    cases o <;> rfl
  | guardLoops timeout =>
    have hfilter (os : List Outline) :
        (os.filter (!·.isGuarding)).filterMap Outline.declared? =
          os.filterMap Outline.declared? := by
      rw [List.filterMap_filter]
      congr
      funext o
      cases o <;> rfl
    rw [← hfilter m'.outline, show m'.outline.filter _ = _ from h, hfilter]

/-- No function is left that is not exported. -/
def Module.ExportsAll (m : Module) : Prop := ∀ o ∈ m.outline, o.isFunction = false

theorem Stage.Turns.exportsAll {stage : Stage} {m m' : Module} (h : stage.Turns m m')
    (hm : m.ExportsAll ∨ stage = .exportFunctions) : m'.ExportsAll := by
  unfold Module.ExportsAll
  cases stage with
  | format =>
    rw [show m'.outline = m.outline from h]
    exact hm.resolve_right nofun
  | exportFunctions =>
    rw [show m'.outline = m.exportFunctions.outline from h, m.outline_exportFunctions]
    refine List.forall_mem_map.mpr fun o _ => ?_
    cases o <;> rfl
  | removeAwaits =>
    rw [show m'.outline = m.removeAwaits.outline from h, m.outline_removeAwaits]
    exact fun o ho => hm.resolve_right nofun o (List.mem_filter.mp ho).1
  | guardLoops timeout =>
    intro o ho
    cases o with
    | function name =>
      -- Guards did not put it in.
      have hkept : .function name ∈ m'.outline.filter (!·.isGuarding) :=
        List.mem_filter.mpr ⟨ho, rfl⟩
      rw [show m'.outline.filter _ = _ from h] at hkept
      exact hm.resolve_right nofun _ (List.mem_filter.mp hkept).1
    | _ => rfl

theorem Module.ExportsAll.exportedFunctions {m : Module} (h : m.ExportsAll) :
    m.exportedFunctions = m.declaredFunctions := by
  rw [m.exportedFunctions_eq, m.declaredFunctions_eq]
  unfold ExportsAll at h
  generalize m.outline = outlines at h ⊢
  induction outlines with
  | nil => rfl
  | cons o os ih =>
    obtain ⟨ho, hos⟩ := List.forall_mem_cons.mp h
    have heq : o.exported? = o.declared? := by
      cases o with
      | function name => cases ho
      | _ => rfl
    rw [List.filterMap_cons, List.filterMap_cons, heq, ih hos]

/-! ### Pipelines -/

instance decidableForallOk {x : Except ε α} {P : α → Prop} [DecidablePred P] :
    Decidable (∀ a, x = .ok a → P a) :=
  match x with
  | .error _ => isTrue nofun
  | .ok a => decidable_of_iff (P a) (by simp)

instance decidableForallSome {x : Option α} {P : α → Prop} [DecidablePred P] :
    Decidable (∀ a, x = some a → P a) :=
  match x with
  | none => isTrue nofun
  | some a => decidable_of_iff (P a) (by simp)

instance (s t : Source) : Decidable (s.SameItems t) := inferInstanceAs (Decidable (_ = _))

instance (s t : Source) : Decidable (s.SameBesideGuards t) := inferInstanceAs (Decidable (_ = _))

section

variable (printed guarded : Source → Source → Prop) [DecidableRel printed] [DecidableRel guarded]

instance (s : Source) : Decidable (s.PrintsBack printed) := by
  unfold Source.PrintsBack
  infer_instance

instance (timeout : Nat) (code : String) (s : Source) :
    Decidable (s.GuardsBack guarded timeout code) := by
  unfold Source.GuardsBack
  infer_instance

instance (code : String) (s : Source) :
    (stage : Stage) → Decidable (stage.ReadsBack printed guarded code s)
  | .guardLoops timeout => inferInstanceAs (Decidable (s.GuardsBack guarded timeout code))
  | .format => inferInstanceAs (Decidable ((Stage.format.writes s).PrintsBack printed))
  | .exportFunctions =>
    inferInstanceAs (Decidable ((Stage.exportFunctions.writes s).PrintsBack printed))
  | .removeAwaits => inferInstanceAs (Decidable ((Stage.removeAwaits.writes s).PrintsBack printed))

/-- Whatever the stages make of the code, one after the other, reads back. -/
def Pipeline.Rereads (printed guarded : Source → Source → Prop) : Pipeline → String → Prop
  | [], _ => True
  | stage :: rest, code =>
    (∀ s, Source.read code = .ok s → stage.ReadsBack printed guarded code s) ∧
      ∀ out, stage.run code = .ok out → Rereads printed guarded rest out

theorem Pipeline.rereads_cons {printed guarded : Source → Source → Prop} {stage : Stage}
    {rest : Pipeline} {code : String} :
    Rereads printed guarded (stage :: rest) code ↔
      (∀ s, Source.read code = .ok s → stage.ReadsBack printed guarded code s) ∧
        ∀ out, stage.run code = .ok out → rest.Rereads printed guarded out := Iff.rfl

instance Pipeline.decidableRereads :
    (p : Pipeline) → (code : String) → Decidable (p.Rereads printed guarded code)
  | [], _ => isTrue trivial
  | stage :: rest, code =>
    have := decidableRereads rest
    inferInstanceAs (Decidable ((∀ s, _ → stage.ReadsBack printed guarded code s) ∧
      ∀ out, _ → Rereads printed guarded rest out))

end

namespace Pipeline

theorem run_cons_eq_ok {stage : Stage} {rest : Pipeline} {code out : String}
    (h : run (stage :: rest) code = .ok out) :
    ∃ mid, stage.run code = .ok mid ∧ run rest mid = .ok out := by
  cases hs : stage.run code with
  | error e =>
    rw [run_cons_error hs] at h
    cases h
  | ok mid =>
    rw [run_cons_ok hs] at h
    exact ⟨mid, rfl, h⟩

/-- Code that a pipeline makes something readable of could be read. -/
theorem exists_read_of_run {p : Pipeline} {code out : String} {last : Source}
    (h : p.run code = .ok out) (hl : Source.read out = .ok last) :
    ∃ source, Source.read code = .ok source := by
  cases p with
  | nil =>
    cases h
    exact ⟨last, hl⟩
  | cons stage rest =>
    obtain ⟨mid, hs, -⟩ := run_cons_eq_ok h
    cases hr : Source.read code with
    | ok source => exact ⟨source, rfl⟩
    | error e =>
      rw [Stage.run_of_read_error hr] at hs
      cases hs

/-- Functions pass through a pipeline, and come out exported if that is one of its stages. -/
theorem Rereads.functions {p : Pipeline} {code out : String} {source last : Source}
    (hp : p.Rereads Source.SameItems Source.SameBesideGuards code)
    (hs : Source.read code = .ok source) (h : p.run code = .ok out)
    (hl : Source.read out = .ok last) :
    last.module.declaredFunctions = source.module.declaredFunctions ∧
      (source.module.ExportsAll ∨ .exportFunctions ∈ p → last.module.ExportsAll) := by
  induction p generalizing code source with
  | nil =>
    cases h
    rw [hs] at hl
    cases hl
    exact ⟨rfl, fun h => h.resolve_right List.not_mem_nil⟩
  | cons stage rest ih =>
    obtain ⟨mid, hmid, hrest⟩ := run_cons_eq_ok h
    obtain ⟨source', hs'⟩ := exists_read_of_run hrest hl
    have hturns := ((hp.1 source hs).keeps hs hmid hs').turns
    obtain ⟨hdeclared, hexports⟩ := ih (hp.2 mid hmid) hs' hrest
    refine ⟨?_, fun h => hexports ?_⟩
    · rw [hdeclared, hturns.declaredFunctions]
    · rcases h with hm | hin
      · exact .inl (hturns.exportsAll (.inl hm))
      · rcases List.mem_cons.mp hin with heq | hin
        · exact .inl (hturns.exportsAll (.inr heq.symm))
        · exact .inr hin

end Pipeline

end Playground.Script
