import Playground.Imports.Header
import Playground.Proofs.Script.Layout.Module
import Playground.Proofs.Script.Outline

/-! The header of printed code. Where every import is printed on one line and no other line looks
like an import, taking the header off takes the first imports off: the rest is what is printed from
some item on. -/

namespace Playground

namespace Text

theorem cutAt_eq_cons (ends : Char → Bool) (cs : List Char) :
    ∃ parts, cutAt ends cs = cs.takeWhile (!ends ·) :: parts := by
  induction cs with
  | nil => exact ⟨[], rfl⟩
  | cons c cs ih =>
    obtain ⟨parts, hparts⟩ := ih
    by_cases hc : ends c
    · exact ⟨cutAt ends cs, by simp [cutAt, hc]⟩
    · exact ⟨parts, by simp [cutAt, hc, hparts, consFirst]⟩

theorem mem_dropReturn {line : List Char} {c : Char} (h : c ∈ line) (hc : c ≠ '\r') :
    c ∈ dropReturn line := by
  unfold dropReturn
  split
  · rename_i hlast
    obtain ⟨start, rfl⟩ := List.getLast?_eq_some_iff.mp hlast
    rw [List.dropLast_concat]
    simpa [hc] using h
  · exact h

/-- What stands before the first line feed is on the first line, but for carriage returns. -/
theorem mem_first_line {cs l : List Char} {ls : List (List Char)}
    (h : lines cs = l :: ls) {c : Char} (hc : c ∈ cs.takeWhile fun c => !decide (c = '\n'))
    (hr : c ≠ '\r') : c ∈ l := by
  obtain ⟨parts, hparts⟩ := cutAt_eq_cons (fun c => decide (c = '\n')) cs
  unfold lines at h
  rw [hparts] at h
  cases parts with
  | nil =>
    -- The first line is the last one and has no end.
    generalize (cs.takeWhile fun c => !decide (c = '\n')) = first at h hc
    obtain ⟨d, first, rfl⟩ := List.exists_cons_of_ne_nil (List.ne_nil_of_mem hc)
    cases h
    exact hc
  | cons part parts =>
    simp only [List.dropLast_cons_cons, List.map_cons, List.cons_append, List.cons.injEq] at h
    exact h.1 ▸ mem_dropReturn hc hr

end Text

/-- A text that starts with something that can be seen has no blank first line. -/
theorem Imports.isBlankLine_first {cs l : List Char} {ls : List (List Char)}
    (hs : Script.Write.Started cs) (h : Text.lines cs = l :: ls) : isBlankLine l = false := by
  obtain ⟨c, hmem, hc⟩ : ∃ c ∈ cs.takeWhile (fun c => !decide (c = '\n')),
      Script.Reader.isSpace c = false := by
    have seen {c : Char} (hc : Script.Reader.isSpace c = false) : c ≠ '\n' := by
      rintro rfl
      cases hc
    rcases hs with rfl | ⟨c, rest, rfl, hc⟩ | ⟨_, rfl, c, rest, rfl, hc⟩
    · cases h
    · exact ⟨c, by simp [seen hc], hc⟩
    · exact ⟨c, by simp [seen hc], hc⟩
  have hr : c ≠ '\r' := by
    rintro rfl
    cases hc
  have hblank : Text.isBlank c = false := (Bool.or_eq_false_iff.mp hc).2
  exact List.all_eq_false.mpr ⟨c, Text.mem_first_line h hmem hr, by simp [hblank]⟩

theorem Imports.body_split (code : List Char) :
    (split code).body = Text.unlines ((Text.lines code).dropWhile isHeaderLine) := rfl

namespace Script

/-- Each import is printed on one line, and no other line looks like one; what is printed behind
imports reads back. -/
structure Source.PrintsInLines (s : Source) : Prop where
  /-- An import line that an import begins with is all that is printed of it. -/
  imports : ∀ k < s.module.outline.length, s.module.outline[k]? = some .importFrom →
    ∀ l ∈ (Text.lines (s.textFrom k)).head?, Imports.isImportLine l = true →
      (Text.lines (s.textFrom k)).tail = Text.lines (s.textFrom (k + 1))
  /-- No other item begins with an import line, nor do comments behind all items. -/
  others : ∀ k ≤ s.module.outline.length, s.module.outline[k]? ≠ some .importFrom →
    ∀ l ∈ (Text.lines (s.textFrom k)).head?, Imports.isImportLine l = false
  rereads : ∀ k ≤ s.module.outline.length, (∀ o ∈ s.module.outline.take k, o = .importFrom) →
    ∀ source, Source.read (String.ofList (Text.unlines (Text.lines (s.textFrom k)))) = .ok source →
      source.module.outline = s.module.outline.drop k

instance (s : Source) : Decidable s.PrintsInLines :=
  decidable_of_iff (_ ∧ _ ∧ _) ⟨fun h => ⟨h.1, h.2.1, h.2.2⟩,
    fun h => ⟨h.imports, h.others, h.rereads⟩⟩

/-- Taking header lines off what is printed from item `k` on takes whole imports off. -/
theorem Source.PrintsInLines.dropWhile {s : Source} (hp : s.PrintsInLines)
    (hs : ∀ item ∈ s.module.items, item.Shows) (k : Nat) (hk : k ≤ s.module.outline.length)
    (hi : ∀ o ∈ s.module.outline.take k, o = .importFrom) :
    ∃ n ≤ s.module.outline.length, (∀ o ∈ s.module.outline.take n, o = .importFrom) ∧
      (Text.lines (s.textFrom k)).dropWhile Imports.isHeaderLine = Text.lines (s.textFrom n) := by
  cases hl : Text.lines (s.textFrom k) with
  | nil => exact ⟨k, hk, hi, by rw [hl, List.dropWhile_nil]⟩
  | cons l ls =>
    have hblank := Imports.isBlankLine_first (s.started_textFrom hs k) hl
    have hfirst : l ∈ (Text.lines (s.textFrom k)).head? := by rw [hl]; rfl
    cases hline : Imports.isImportLine l with
    | false =>
      have hstop : ¬Imports.isHeaderLine l = true := by simp [Imports.isHeaderLine, hblank, hline]
      exact ⟨k, hk, hi, by rw [List.dropWhile_cons_of_neg hstop, hl]⟩
    | true =>
      -- Nothing but an import can have been printed there, and the line is all of it.
      have hitem : s.module.outline[k]? = some .importFrom := by
        refine Decidable.byContradiction fun hno => ?_
        rw [hp.others k hk hno l hfirst] at hline
        cases hline
      obtain ⟨hlt, hget⟩ := List.getElem?_eq_some_iff.mp hitem
      have hi' : ∀ o ∈ s.module.outline.take (k + 1), o = .importFrom := by
        rw [List.take_succ_eq_append_getElem hlt]
        exact List.forall_mem_append.mpr ⟨hi, by simpa using hget⟩
      have htail := hp.imports k hlt hitem l hfirst hline
      rw [hl, List.tail_cons] at htail
      have hgo : Imports.isHeaderLine l = true := by simp [Imports.isHeaderLine, hline]
      rw [List.dropWhile_cons_of_pos hgo, htail]
      exact hp.dropWhile hs (k + 1) hlt hi'
termination_by s.module.outline.length - k

/-- Without its header, printed code reads back as the items from some place on, behind imports
only. -/
theorem Source.PrintsInLines.split {s source : Source} (hp : s.PrintsInLines)
    (hs : ∀ item ∈ s.module.items, item.Shows)
    (h : Source.read (String.ofList (Imports.split s.print.toList).body) = .ok source) :
    ∃ n, (∀ o ∈ s.module.outline.take n, o = .importFrom) ∧
      source.module.outline = s.module.outline.drop n := by
  obtain ⟨n, hn, hi, hdrop⟩ := hp.dropWhile hs 0 (Nat.zero_le _) (by simp)
  rw [textFrom] at hdrop
  rw [Imports.body_split, hdrop] at h
  exact ⟨n, hi, hp.rereads n hn hi source h⟩

end Script

end Playground
