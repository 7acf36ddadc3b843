import Mathlib.Data.List.Forall2
import Playground.Proofs.Script.Stage

/-! The two changes to the items of a module. Exporting wraps the functions declared at the top
level and nothing else, and leaving out what waits takes away whole statements and nothing inside
one. Neither change sees what the other one does, so the order in which they are made does not
matter. -/

namespace Playground.Script

/-- The list without the elements that have a property; the others stay as they are and in their
order. -/
inductive LeavesOut (p : α → Prop) : List α → List α → Prop
  | nil : LeavesOut p [] []
  | drop {a : α} {as bs : List α} : p a → LeavesOut p as bs → LeavesOut p (a :: as) bs
  | keep {a : α} {as bs : List α} : ¬p a → LeavesOut p as bs → LeavesOut p (a :: as) (a :: bs)

theorem leavesOut_iff {p : α → Prop} {test : α → Bool} (htest : ∀ a, test a = true ↔ p a)
    {as bs : List α} :
    LeavesOut p as bs ↔ bs = as.filter (!test ·) := by
  constructor
  · intro h
    induction h with
    | nil => rfl
    | drop ha _ ih => simp [(htest _).mpr ha, ih]
    | keep ha _ ih => simp [mt (htest _).mp ha, ih]
  · rintro rfl
    induction as with
    | nil => exact .nil
    | cons a as ih =>
      by_cases ha : p a
      · simpa [(htest a).mpr ha] using LeavesOut.drop ha ih
      · simpa [mt (htest a).mp ha] using LeavesOut.keep ha ih

namespace ModuleItem

/-- A function is declared and not exported. -/
inductive IsPlainFunction : ModuleItem → Prop
  | mk (span : Span) (name : Ident) (fn : Func) : IsPlainFunction (.stmt (.function span name fn))

/-- A statement is an expression that waits, with nothing around it. -/
inductive Waits : ModuleItem → Prop
  | mk (span inner : Span) (e : Expr) : Waits (.stmt (.expr span (.await inner e)))

/-- What becomes of an item when functions are exported. The declaration of a function stays as it
was read. -/
inductive Exports : ModuleItem → ModuleItem → Prop
  | function (span : Span) (name : Ident) (fn : Func) :
      Exports (.stmt (.function span name fn)) (.exportDecl fn.span (.function span name fn))
  | other {item : ModuleItem} : ¬item.IsPlainFunction → Exports item item

theorem isAwait_iff (item : ModuleItem) : item.isAwait = true ↔ item.Waits := by
  constructor
  · intro h
    unfold isAwait at h
    split at h
    · exact .mk ..
    · cases h
  · rintro ⟨⟩
    rfl

theorem exportFunction_of_not {item : ModuleItem} (h : ¬item.IsPlainFunction) :
    item.exportFunction = item := by
  unfold exportFunction
  split
  · exact absurd (.mk ..) h
  · rfl

theorem exports_iff {item out : ModuleItem} : item.Exports out ↔ item.exportFunction = out := by
  constructor
  · intro h
    cases h with
    | function span name fn => rfl
    | other h => exact exportFunction_of_not h
  · rintro rfl
    by_cases h : item.IsPlainFunction
    · obtain ⟨span, name, fn⟩ := h
      exact .function span name fn
    · rw [exportFunction_of_not h]
      exact .other h

/-- What comes out of an export is no plain function. -/
theorem Exports.not_isPlainFunction {item out : ModuleItem} (h : item.Exports out) :
    ¬out.IsPlainFunction := by
  cases h with
  | function span name fn => rintro ⟨⟩
  | other h => exact h

@[simp] theorem exportFunction_exportFunction (item : ModuleItem) :
    item.exportFunction.exportFunction = item.exportFunction :=
  exportFunction_of_not (exports_iff.mpr rfl).not_isPlainFunction

/-- A function does not wait, whether it is exported or not. -/
@[simp] theorem isAwait_exportFunction (item : ModuleItem) :
    item.exportFunction.isAwait = item.isAwait := by
  by_cases h : item.IsPlainFunction
  · obtain ⟨span, name, fn⟩ := h
    rfl
  · rw [exportFunction_of_not h]

end ModuleItem

namespace Module

variable (m : Module)

theorem exportFunctions_exportFunctions :
    m.exportFunctions.exportFunctions = m.exportFunctions := by
  simp [exportFunctions]

theorem removeAwaits_removeAwaits : m.removeAwaits.removeAwaits = m.removeAwaits := by
  simp [removeAwaits]

theorem removeAwaits_exportFunctions :
    m.exportFunctions.removeAwaits = m.removeAwaits.exportFunctions := by
  simp [exportFunctions, removeAwaits, List.filter_map, Function.comp_def]

theorem exportFunctions_eq_iff {items : List ModuleItem} :
    m.exportFunctions = { m with items } ↔ List.Forall₂ ModuleItem.Exports m.items items := by
  have hitems : List.Forall₂ ModuleItem.Exports m.items items ↔
      m.items.map ModuleItem.exportFunction = items := by
    simp only [← List.forall₂_eq_eq_eq, List.forall₂_map_left_iff, ← ModuleItem.exports_iff]
  rw [hitems]
  simp [exportFunctions]

theorem removeAwaits_eq_iff {items : List ModuleItem} :
    m.removeAwaits = { m with items } ↔ LeavesOut ModuleItem.Waits m.items items := by
  rw [leavesOut_iff ModuleItem.isAwait_iff]
  simp [removeAwaits, eq_comm]

/-- Each change does nothing the second time, and they can be made in either order. Exporting
changes the items of a module one by one: a function that is declared at the top level is wrapped,
with its declaration as it was, and every other item stays; no plain function is left. Leaving out
what waits takes away exactly the statements that are nothing but a wait. The stages print the
module with these items. -/
theorem passes_commute :
    m.exportFunctions.exportFunctions = m.exportFunctions ∧
    m.removeAwaits.removeAwaits = m.removeAwaits ∧
    m.exportFunctions.removeAwaits = m.removeAwaits.exportFunctions ∧
    (∀ items, m.exportFunctions = { m with items } ↔
      List.Forall₂ ModuleItem.Exports m.items items) ∧
    (∀ item ∈ m.exportFunctions.items, ¬item.IsPlainFunction) ∧
    (∀ items, m.removeAwaits = { m with items } ↔ LeavesOut ModuleItem.Waits m.items items) ∧
    ∀ code source, Source.read code = .ok source → source.module = m →
      Stage.exportFunctions.run code = .ok { source with module := m.exportFunctions }.print ∧
      Stage.removeAwaits.run code = .ok { source with module := m.removeAwaits }.print := by
  refine ⟨m.exportFunctions_exportFunctions, m.removeAwaits_removeAwaits,
    m.removeAwaits_exportFunctions,
    fun _ => m.exportFunctions_eq_iff, ?_, fun _ => m.removeAwaits_eq_iff, ?_⟩
  · refine List.forall_mem_map.mpr fun item _ => ?_
    exact (ModuleItem.exports_iff.mpr rfl).not_isPlainFunction
  · rintro code source hread rfl
    exact ⟨Stage.reprint_eq_ok_iff.mpr ⟨source, hread, rfl⟩,
      Stage.reprint_eq_ok_iff.mpr ⟨source, hread, rfl⟩⟩

end Module

end Playground.Script
