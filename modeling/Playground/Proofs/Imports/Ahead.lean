import Playground.Proofs.Imports.Printed
import Playground.Proofs.Script.Outline

/-! Imports that stay first. No stage touches an import or puts one in. So if what is printed and
what is guarded reads back with the imports that it begins with, code that begins with its imports
still does behind a pipeline. -/

namespace Playground.Script

/-- A script that is put together from imports and other items begins with those imports. -/
theorem Module.firstImports_of_append {m : Module} {imports rest : List ModuleItem}
    (h : m.items = imports ++ rest) (himports : ∀ item ∈ imports, item.isImport = true)
    (hrest : ∀ item ∈ rest, item.isImport = false) :
    m.firstImports = imports ∧
      ∀ item ∈ m.items.drop m.firstImports.length, item.isImport = false := by
  have hnone : rest.takeWhile (·.isImport) = [] := by
    cases rest with
    | nil => rfl
    | cons item rest => simp [hrest item List.mem_cons_self]
  have hfirst : m.firstImports = imports := by
    rw [firstImports, h, List.takeWhile_append_of_pos himports, hnone, List.append_nil]
  refine ⟨hfirst, ?_⟩
  rwa [hfirst, h, List.drop_left]

theorem ModuleItem.exportFunction_of_isImport {item : ModuleItem} (h : item.isImport = true) :
    item.exportFunction = item := by
  cases item with
  | importFrom => rfl
  | _ => cases h

theorem ModuleItem.isImport_exportFunction (item : ModuleItem) :
    item.exportFunction.isImport = item.isImport := by
  unfold exportFunction
  split <;> rfl

theorem ModuleItem.isAwait_of_isImport {item : ModuleItem} (h : item.isImport = true) :
    item.isAwait = false := by
  cases item with
  | importFrom => rfl
  | _ => cases h

theorem Module.firstImports_append (m : Module) :
    m.items = m.firstImports ++ m.items.drop m.firstImports.length := by
  conv => lhs; rw [← List.take_append_drop m.firstImports.length m.items, m.take_firstImports]

/-- What a stage writes begins with the imports that the code begins with. -/
theorem Stage.firstImports_writes (stage : Stage) {s : Source}
    (h : ∀ item ∈ s.module.items.drop s.module.firstImports.length, item.isImport = false) :
    (stage.writes s).module.firstImports = s.module.firstImports ∧
      ∀ item ∈ (stage.writes s).module.items.drop (stage.writes s).module.firstImports.length,
        item.isImport = false := by
  have himports : ∀ item ∈ s.module.firstImports, item.isImport = true :=
    fun item hi => List.mem_takeWhile_imp hi
  have hitems := s.module.firstImports_append
  generalize s.module.items.drop s.module.firstImports.length = rest at h hitems
  cases stage with
  | format | guardLoops timeout => exact Module.firstImports_of_append hitems himports h
  | exportFunctions =>
    have hsame : s.module.firstImports.map ModuleItem.exportFunction = s.module.firstImports := by
      conv => rhs; rw [← List.map_id s.module.firstImports]
      exact List.map_congr_left
        fun item hi => ModuleItem.exportFunction_of_isImport (himports item hi)
    have hnew : s.module.exportFunctions.items =
        s.module.firstImports ++ rest.map ModuleItem.exportFunction := by
      conv => lhs; rw [Module.exportFunctions, hitems, List.map_append, hsame]
    have hrest : ∀ item ∈ rest.map ModuleItem.exportFunction, item.isImport = false :=
      List.forall_mem_map.mpr fun item hi => item.isImport_exportFunction.trans (h item hi)
    exact Module.firstImports_of_append hnew himports hrest
  | removeAwaits =>
    have hsame : s.module.firstImports.filter (fun item => !item.isAwait) = s.module.firstImports :=
      List.filter_eq_self.mpr fun item hi => by
        rw [ModuleItem.isAwait_of_isImport (himports item hi)]; rfl
    have hnew : s.module.removeAwaits.items =
        s.module.firstImports ++ rest.filter fun item => !item.isAwait := by
      conv => lhs; rw [Module.removeAwaits, hitems, List.filter_append, hsame]
    have hrest : ∀ item ∈ rest.filter fun item => !item.isAwait, item.isImport = false :=
      fun item hi => h item (List.mem_filter.mp hi).1
    exact Module.firstImports_of_append hnew himports hrest

/-- A stage changes nothing but the items. -/
theorem Stage.writes_keeps (stage : Stage) (s : Source) : (stage.writes s).comments = s.comments ∧
    (stage.writes s).module.shebang = s.module.shebang ∧
    (stage.writes s).module.span = s.module.span := by
  cases stage <;> exact ⟨rfl, rfl, rfl⟩

theorem Source.ImportsAhead.writes {s : Source} (h : s.ImportsAhead) (stage : Stage) :
    (stage.writes s).ImportsAhead := by
  obtain ⟨hfirst, hothers⟩ := stage.firstImports_writes h.others
  obtain ⟨hcomments, hshebang, hspan⟩ := stage.writes_keeps s
  constructor
  · rw [hshebang, h.shebang]
  · rw [hcomments, hspan]
    exact h.start
  · rw [hfirst]
    exact h.plain
  · rw [hfirst, hcomments]
    exact h.free
  · exact hothers

/-- The imports at the top are the same, and if nothing stands between them, nothing does again. -/
structure Source.SameImports (s t : Source) : Prop where
  lines : t.module.firstImports.map ModuleItem.importLine =
    s.module.firstImports.map ModuleItem.importLine
  ahead : s.ImportsAhead → t.ImportsAhead

instance (s t : Source) : Decidable (s.SameImports t) :=
  decidable_of_iff (_ ∧ _) ⟨fun ⟨h₁, h₂⟩ => ⟨h₁, h₂⟩, fun h => ⟨h.lines, h.ahead⟩⟩

/-- Imports come first behind a pipeline if they did before it, and they are the same ones. -/
theorem Pipeline.Rereads.importsAhead {p : Pipeline} {code out : String} {source last : Source}
    (hp : p.Rereads Source.SameImports Source.SameImports code) (hs : Source.read code = .ok source)
    (hfirst : source.ImportsAhead) (h : p.run code = .ok out) (hl : Source.read out = .ok last) :
    last.ImportsAhead ∧
      last.module.firstImports.map ModuleItem.importLine =
        source.module.firstImports.map ModuleItem.importLine := by
  induction p generalizing code source with
  | nil =>
    cases h
    cases hs.symm.trans hl
    exact ⟨hfirst, rfl⟩
  | cons stage rest ih =>
    obtain ⟨mid, hmid, hrest⟩ := run_cons_eq_ok h
    obtain ⟨source', hs'⟩ := exists_read_of_run hrest hl
    have hkept : (stage.writes source).SameImports source' := by
      have := (hp.1 source hs).keeps hs hmid hs'
      cases stage <;> exact this
    obtain ⟨hahead, hlines⟩ := ih (hp.2 mid hmid) hs' (hkept.ahead (hfirst.writes stage)) hrest
    exact ⟨hahead, by rw [hlines, hkept.lines, (stage.firstImports_writes hfirst.others).1]⟩

end Playground.Script
