import Playground.Proofs.Patch
import Playground.Proofs.Script.Layout.Module
import Playground.Proofs.Script.Stage

/-! Guards go in between characters. The places that the grammar gives for loops and their bodies
count from behind a byte order mark, so that this holds of every text without one, and of all text
that a stage has printed. A pipeline breaks off only where guards come first and the text begins
with a mark. -/

namespace Playground.Script

open Text

variable {text : List Char}

namespace LoopGuard

theorem loopPatches_isBoundary {timeout id : Nat} {loop body : Stmt} (hloop : loop.Placed text)
    (hbody : body.Placed text) :
    ∀ p ∈ loopPatches timeout id loop body, IsBoundary text p.position := by
  unfold loopPatches
  split
  · rename_i b
    simp only [List.cons_append, List.nil_append, List.forall_mem_cons, List.not_mem_nil,
      false_imp_iff, implies_true, and_true]
    obtain ⟨before, rest, htext, hsize⟩ := hbody.brace b rfl
    exact ⟨⟨before ++ ['{'], rest, by simp [htext], by simp [hsize]; decide⟩, hloop.span.start⟩
  · simp only [List.cons_append, List.nil_append, List.forall_mem_cons, List.not_mem_nil,
      false_imp_iff, implies_true, and_true]
    exact ⟨hbody.span.start, hbody.span.stop, hloop.span.start⟩

theorem itemPatches_isBoundary (timeout id : Nat) {items : List ModuleItem}
    (h : ∀ item ∈ items, item.Good text) :
    ∀ p ∈ itemPatches timeout id items, IsBoundary text p.position := by
  fun_induction itemPatches timeout id items with
  | case1 => simp
  | case2 id s items body hbody ih =>
    have hs : s.Good text := h (.stmt s) List.mem_cons_self s rfl
    intro p hp
    rcases List.mem_append.mp hp with hp | hp
    · exact loopPatches_isBoundary hs.placed (hs.body body hbody) p hp
    · exact ih (fun item hi => h item (List.mem_cons_of_mem _ hi)) p hp
  | case3 id s items _ ih => exact ih fun item hi => h item (List.mem_cons_of_mem _ hi)
  | case4 id item items _ ih => exact ih fun item hi => h item (List.mem_cons_of_mem _ hi)

end LoopGuard

theorem Source.read_good {code : String} {source : Source} (h : Source.read code = .ok source) :
    ∀ item ∈ source.module.items, item.Good (Reader.withoutMark code.toList) :=
  Source.parse_good (Source.parse_of_read h)

/-- Text without a byte order mark in front takes its guards. -/
theorem Stage.guard_ne_insideCharacter {timeout : Nat} {code : String}
    (h : Reader.withoutMark code.toList = code.toList) :
    guard timeout code ≠ .error .insideCharacter := by
  intro hg
  rcases guard_eq_error_iff.mp hg with ⟨e, -, he⟩ | ⟨source, hr, hnone, -⟩
  · cases he
  · have hgood := Source.read_good hr
    rw [h] at hgood
    have hsome := Patch.applyAll?_isSome (LoopGuard.itemPatches_isBoundary timeout 1 hgood)
    rw [hnone] at hsome
    cases hsome

/-! ### Pipelines -/

namespace Stage

/-- The stage puts guards in; every other one prints code again. -/
def isGuard : Stage → Bool
  | .guardLoops _ => true
  | _ => false

theorem exportFunction_shows {item : ModuleItem} (h : item.Shows) : item.exportFunction.Shows := by
  unfold ModuleItem.exportFunction
  split
  · exact nofun
  · exact h

/-- What a stage prints begins with no mark. -/
theorem withoutMark_of_run {stage : Stage} (hg : stage.isGuard = false) {code out : String}
    (h : stage.run code = .ok out) : Reader.withoutMark out.toList = out.toList := by
  have hprint (change : Module → Module)
      (hc : ∀ m : Module, (∀ item ∈ m.items, item.Shows) → ∀ item ∈ (change m).items, item.Shows)
      (h : reprint change code = .ok out) : Reader.withoutMark out.toList = out.toList := by
    obtain ⟨source, hr, rfl⟩ := reprint_eq_ok_iff.mp h
    refine Source.withoutMark_print (hc source.module fun item hi s hs => ?_)
    exact (Source.read_good hr item hi s hs).shows
  cases stage with
  | format => exact hprint id (fun _ h => h) h
  | exportFunctions =>
    refine hprint Module.exportFunctions (fun m hm item hi => ?_) h
    obtain ⟨item', hi', rfl⟩ := List.mem_map.mp hi
    exact exportFunction_shows (hm item' hi')
  | removeAwaits =>
    exact hprint Module.removeAwaits (fun m hm item hi => hm item (List.mem_filter.mp hi).1) h
  | guardLoops timeout => cases hg

/-- A text falls inside a character only while guards are put in behind a mark. -/
theorem insideCharacter_of_run {stage : Stage} {code : String}
    (h : stage.run code = .error .insideCharacter) :
    stage.isGuard = true ∧ Reader.withoutMark code.toList ≠ code.toList := by
  have hprint (change : Module → Module) : reprint change code ≠ .error .insideCharacter := by
    intro h
    obtain ⟨_, -, he⟩ := reprint_eq_error_iff.mp h
    cases he
  cases stage with
  | format => exact absurd h (hprint id)
  | exportFunctions => exact absurd h (hprint Module.exportFunctions)
  | removeAwaits => exact absurd h (hprint Module.removeAwaits)
  | guardLoops timeout => exact ⟨rfl, fun hc => guard_ne_insideCharacter hc h⟩

end Stage

namespace Pipeline

/-- A pipeline that puts guards in once breaks off only if that is the first thing it does and the
text begins with a mark. -/
theorem Fails.insideCharacter {p : Pipeline} {code : String} (h : p.Fails code .insideCharacter)
    (hp : p.Pairwise fun a b => a.isGuard = false ∨ b.isGuard = false) :
    Reader.withoutMark code.toList ≠ code.toList ∧ ∃ stage rest, p = stage :: rest ∧
      stage.isGuard = true := by
  generalize herror : StageError.insideCharacter = error at h
  induction h with
  | here h =>
    subst herror
    obtain ⟨hg, hmark⟩ := Stage.insideCharacter_of_run h
    exact ⟨hmark, _, _, rfl, hg⟩
  | @later stage rest code out _ hr hrest ih =>
    obtain ⟨hmark, next, _, rfl, hnext⟩ := ih hp.of_cons herror
    have hstage : stage.isGuard = false := by
      rcases List.rel_of_pairwise_cons hp List.mem_cons_self with hs | hs
      · exact hs
      · rw [hnext] at hs
        cases hs
    exact absurd (Stage.withoutMark_of_run hstage hr) hmark

theorem ofOptions_pairwise (options : Options) (timeout : Nat) :
    (ofOptions options timeout).Pairwise fun a b => a.isGuard = false ∨ b.isGuard = false := by
  obtain ⟨_ | _, _ | _, _ | _, _ | _⟩ := options <;> simp [ofOptions, Stage.isGuard]

/-- A pipeline of options breaks off only if guards are all that is asked for and the text begins
with a mark. -/
theorem insideCharacter_of_ofOptions {options : Options} {timeout : Nat} {code : String}
    (h : (ofOptions options timeout).Fails code .insideCharacter) :
    Reader.withoutMark code.toList ≠ code.toList ∧ options = { guardLoops := true } := by
  obtain ⟨hmark, stage, rest, heq, hg⟩ := h.insideCharacter (ofOptions_pairwise options timeout)
  refine ⟨hmark, ?_⟩
  -- Every other option puts a stage that prints in front of the guards.
  obtain ⟨preFormat, exports, guards, awaits⟩ := options
  have : preFormat = false ∧ awaits = false ∧ exports = false ∧ guards = true := by
    cases preFormat <;> cases awaits <;> cases exports <;> cases guards <;> cases heq <;> cases hg
    exact ⟨rfl, rfl, rfl, rfl⟩
  obtain ⟨rfl, rfl, rfl, rfl⟩ := this
  rfl

end Pipeline

end Playground.Script
