import Playground.Patch
import Playground.Proofs.Script.Lexer

/-! Patches between characters can all be put in. They go in from the last position to the first, so
that each finds the text before its position as it was. -/

namespace Playground

open Text

theorem Text.IsBoundary.le_byteSize {text : List Char} {n : Nat} (h : IsBoundary text n) :
    n ≤ byteSize text := by
  obtain ⟨before, rest, rfl, rfl⟩ := h
  simp

namespace Patch

theorem insertAt?_append (text before rest : List Char) :
    insertAt? text (byteSize before) (before ++ rest) = some (before ++ text ++ rest) := by
  induction before with
  | nil => cases rest <;> rfl
  | cons c before ih =>
    have hpos : 0 < c.utf8Size := c.utf8Size_pos
    obtain ⟨n, hn⟩ : ∃ n, byteSize (c :: before) = n + 1 :=
      ⟨byteSize (c :: before) - 1, by simp; omega⟩
    have hle : c.utf8Size ≤ n + 1 := by simp at hn; omega
    have hrest : n + 1 - c.utf8Size = byteSize before := by simp at hn; omega
    rw [hn, List.cons_append]
    simp only [insertAt?, hle, hrest, ih, if_true, Option.map_some, List.cons_append]

/-- What stands before the end of `before` is a part of it. -/
theorem isBoundary_of_le {before rest : List Char} {n : Nat} (h : IsBoundary (before ++ rest) n)
    (hn : n ≤ byteSize before) : IsBoundary before n := by
  obtain ⟨start, more, heq, rfl⟩ := h
  rcases List.append_eq_append_iff.mp heq with ⟨between, hstart, -⟩ | ⟨between, hbefore, -⟩
  · -- Nothing lies between the two, since `start` is not longer.
    have hnone : byteSize between = 0 := by simp [hstart] at hn; omega
    have : between = [] := by
      cases between with
      | nil => rfl
      | cons c cs =>
        have := c.utf8Size_pos
        simp at hnone
        omega
    exact ⟨start, [], by simp [hstart, this], rfl⟩
  · exact ⟨start, between, hbefore, rfl⟩

/-- A patch between characters can be put in, and the positions up to its own stay between
characters. -/
theorem putIn?_of_isBoundary {code : List Char} {p : Patch} (h : IsBoundary code p.position) :
    ∃ code', putIn? code p = some code' ∧ ∀ n ≤ p.position, IsBoundary code n →
      IsBoundary code' n := by
  unfold putIn?
  split
  · exact ⟨code, rfl, fun _ _ hn => hn⟩
  rw [Nat.min_eq_left h.le_byteSize]
  obtain ⟨before, rest, rfl, hsize⟩ := h
  rw [← hsize]
  refine ⟨_, insertAt?_append _ _ _, fun n hle hn => ?_⟩
  obtain ⟨start, more, hbefore, hn⟩ := isBoundary_of_le hn hle
  exact ⟨start, more ++ p.text.toList ++ rest, by simp [hbefore], hn⟩

theorem foldlM_putIn?_isSome {patches : List Patch} {code : List Char}
    (hsorted : patches.Pairwise fun a b => b.position ≤ a.position)
    (h : ∀ p ∈ patches, IsBoundary code p.position) : (patches.foldlM putIn? code).isSome := by
  induction hsorted generalizing code with
  | nil => rfl
  | @cons p ps hfirst _ ih =>
    obtain ⟨code', hput, hkeeps⟩ := putIn?_of_isBoundary (h p List.mem_cons_self)
    rw [List.foldlM_cons, hput]
    exact ih fun q hq => hkeeps q.position (hfirst q hq) (h q (List.mem_cons_of_mem p hq))

theorem ordered_pairwise (patches : List Patch) :
    (ordered patches).Pairwise fun a b => b.position ≤ a.position := by
  have hsorted : (ordered patches).Pairwise fun a b => decide (b.position ≤ a.position) :=
    List.pairwise_mergeSort (fun a b c => by simp; omega)
      (fun a b => by simp; omega) patches.reverse
  exact hsorted.imp of_decide_eq_true

/-- Patches between characters can all be put in. -/
theorem applyAll?_isSome {patches : List Patch} {code : String}
    (h : ∀ p ∈ patches, IsBoundary code.toList p.position) : (applyAll? patches code).isSome := by
  have hin : ∀ p ∈ ordered patches, IsBoundary code.toList p.position :=
    fun p hp => h p (by simpa [ordered] using hp)
  simpa [applyAll?] using foldlM_putIn?_isSome (ordered_pairwise patches) hin

/-- Two patches that come from the last position to the first go in as they come. -/
theorem ordered_pair {p q : Patch} (h : q.position < p.position) : ordered [p, q] = [p, q] := by
  have : ¬ p.position ≤ q.position := by omega
  simp [ordered, List.mergeSort, List.MergeSort.Internal.splitInTwo, this]

end Patch

end Playground
