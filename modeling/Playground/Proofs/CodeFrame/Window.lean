import Mathlib.Data.List.Flatten
import Playground.Proofs.CodeFrame.Rows

/-! How much a frame shows. `numbered` reads a frame: it takes the lines of the source out of the
rows with a number. `near` says in numbers without a bound which lines should be there.
`numbered_render` tells what is read in a frame, and `numbered_render_widens` that a frame with more
lines above shows all that it showed with less. The count above is a word, and with the largest word
there is no frame. -/

namespace Playground.CodeFrame

open Text

/-- The line of the source that a row shows: its number is before the bar, its text behind the bar
and a blank. -/
def rowLine? (row : List Char) : Option (List Char × Nat) :=
  let margin := row.takeWhile (· ≠ '|')
  let label := margin.filter Char.isDigit
  if '|' ∈ row ∧ label ≠ [] then some (row.drop (margin.length + 2), Nat.ofDigitChars 10 label 0)
    else none

/-- The numbered lines in a frame. -/
def numbered (shown : List Char) : List (List Char × Nat) :=
  (cutAt (· = '\n') shown).filterMap rowLine?

/-- The lines of a source that are at most so many lines above one line or below it. -/
def near (source : List Char) (line above below : Nat) : List (List Char × Nat) :=
  ((frameLines source).zipIdx 1).filter fun l => line ≤ l.2 + above && l.2 ≤ line + below

/-- A message without a bar cannot be taken for a line of the source. -/
def BarFree (message : Option String) : Prop := ∀ m ∈ message, '|' ∉ m.toList

/-! ### Rows -/

theorem rowLine?_of_not_mem {row : List Char} (h : '|' ∉ row) : rowLine? row = none :=
  if_neg fun hrow => h hrow.1

theorem rowLine?_append {margin : List Char} (h : '|' ∉ margin) (rest : List Char) :
    rowLine? (margin ++ '|' :: rest) =
      if margin.filter Char.isDigit = [] then none
      else some (rest.drop 1, Nat.ofDigitChars 10 (margin.filter Char.isDigit) 0) := by
  have hmargin : ∀ c ∈ margin, decide (c ≠ '|') = true := by
    intro c hc
    refine decide_eq_true ?_
    rintro rfl
    exact h hc
  have htake : (margin ++ '|' :: rest).takeWhile (· ≠ '|') = margin := by
    rw [List.takeWhile_append_of_pos hmargin, List.takeWhile_cons_of_neg (by decide),
      List.append_nil]
  have hdrop : (margin ++ '|' :: rest).drop (margin.length + 2) = rest.drop 1 := by
    rw [List.drop_length_add_append, List.drop_succ_cons]
  unfold rowLine?
  simp only [htake, hdrop]
  split <;> simp_all

/-- The label of a margin is the number of the row. -/
theorem IsMargin.rowLine?_eq {width : Nat} {label chars : List Char}
    (h : IsMargin width label chars) (hlabel : ∀ c ∈ label, c.isDigit = true) {sign : Char}
    (hbar : '|' ≠ sign) (hsign : sign.isDigit = false) (rest : List Char) :
    rowLine? (sign :: chars ++ rest) =
      if label = [] then none else some (rest.drop 1, Nat.ofDigitChars 10 label 0) := by
  obtain ⟨-, n, rfl⟩ := h
  have hnot : '|' ∉ sign :: List.replicate (n + 1) ' ' ++ label ++ [' '] := by
    simp only [List.mem_append, List.mem_cons, List.mem_replicate, List.not_mem_nil, or_false]
    rintro (((h | h) | h) | h)
    · exact hbar h
    · exact absurd h.2 (by decide)
    · exact absurd (hlabel _ h) (by decide)
    · exact absurd h (by decide)
  have hfilter :
      (sign :: List.replicate (n + 1) ' ' ++ label ++ [' ']).filter Char.isDigit = label := by
    rw [List.filter_append, List.filter_append, List.filter_cons_of_neg (by simp [hsign]),
      List.filter_replicate,
      if_neg (by decide), List.filter_eq_self.mpr hlabel, List.filter_cons_of_neg (by decide)]
    simp
  have hrow : sign :: (List.replicate (n + 1) ' ' ++ label ++ [' ', '|']) ++ rest =
      (sign :: List.replicate (n + 1) ' ' ++ label ++ [' ']) ++ '|' :: rest := by
    simp
  rw [hrow, rowLine?_append hnot, hfilter]

/-- The line of the source is read in its row. -/
theorem IsLineRow.rowLine?_eq {width : Nat} {sign : Char} {l : List Char × Nat} {row : List Char}
    (h : IsLineRow width sign l row) (hbar : '|' ≠ sign) (hsign : sign.isDigit = false) :
    rowLine? row = some l := by
  obtain ⟨margin, hmargin, rfl⟩ := h
  have htext : (if l.1 = [] then [] else ' ' :: l.1).drop 1 = l.1 := by
    split
    · simp_all
    · rfl
  rw [hmargin.rowLine?_eq (fun c hc => Nat.isDigit_of_mem_toDigits (by decide)
    (by decide) hc) hbar hsign, if_neg Nat.toDigits_ne_nil, htext, Nat.ofDigitChars_ten_toDigits]

/-! ### Texts -/

theorem numbered_append (xs ys : List Char) :
    numbered (xs ++ '\n' :: ys) = numbered xs ++ numbered ys := by
  rw [numbered, cutAt_append (by simp), List.filterMap_append]
  rfl

theorem numbered_of_not_mem {row : List Char} (h : '\n' ∉ row) :
    numbered row = (rowLine? row).toList := by
  rw [numbered, cutAt_of_not_mem h]
  cases hrow : rowLine? row with
  | none => exact List.filterMap_cons_none hrow
  | some l => exact List.filterMap_cons_some hrow

/-- What is read in rows that are put together is what is read in each of them. -/
theorem numbered_unlines (rows : List (List Char)) :
    numbered (unlines rows) = rows.flatMap numbered := by
  cases rows with
  | nil => rfl
  | cons row rows =>
    rw [numbered, cutAt_unlines (List.cons_ne_nil _ _), List.filterMap_flatMap]
    rfl

/-- Nothing is read without a bar. -/
theorem numbered_of_bar_not_mem {cs : List Char} (h : '|' ∉ cs) : numbered cs = [] :=
  List.filterMap_eq_nil_iff.mpr fun _ hrow => rowLine?_of_not_mem
    fun hbar => h (mem_of_mem_cutAt hrow hbar).1

/-- Nothing is read behind a margin without a number. -/
theorem IsMargin.numbered_eq_nil {width : Nat} {chars cs : List Char} (h : IsMargin width [] chars)
    (hcs : '|' ∉ cs) :
    numbered (' ' :: chars ++ cs) = [] := by
  obtain ⟨first, rest, hcut⟩ := List.exists_cons_of_ne_nil (cutAt_ne_nil (· = '\n') cs)
  have hfeed : '\n' ∉ ' ' :: chars := ((h.isLine ⟨by decide, by decide⟩).cons rfl).feed
  have hrows : cutAt (· = '\n') (' ' :: chars ++ cs) = (' ' :: chars ++ first) :: rest := by
    refine cutAt_append_of_forall (fun c hc => decide_eq_false ?_) hcut
    rintro rfl
    exact hfeed hc
  have hfirst : rowLine? (' ' :: chars ++ first) = none :=
    h.rowLine?_eq (by simp) (by decide) (by decide) first
  -- The other rows are parts of the text behind the margin, which has no bar.
  have hrest : rest.filterMap rowLine? = [] := by
    refine List.filterMap_eq_nil_iff.mpr fun row hrow => rowLine?_of_not_mem fun hbar => hcs ?_
    exact (mem_of_mem_cutAt (hcut ▸ List.mem_cons_of_mem first hrow) hbar).1
  rw [numbered, hrows, List.filterMap_cons_none hfirst, hrest]

theorem IsCaretRow.numbered_eq_nil {width column : Nat} {message : Option String}
    {text row : List Char} (h : IsCaretRow width column message text row)
    (hmessage : BarFree message) : numbered row = [] := by
  obtain ⟨margin, space, hmargin, hspace, rfl⟩ := h.exists_space
  have hsaid : '|' ∉ message.elim [] fun m => ' ' :: m.toList := by
    cases message with
    | none => simp
    | some m => simpa using hmessage m rfl
  rw [List.append_assoc]
  refine hmargin.numbered_eq_nil ?_
  simp only [List.cons_append, List.mem_cons, List.mem_append]
  rintro (h | h | h | h)
  · exact absurd h (by decide)
  · rcases hspace _ h with h | h <;> exact absurd h (by decide)
  · exact absurd h (by decide)
  · exact hsaid h

/-- What is read in the rows of a line is that line. -/
theorem ShownAs.numbered_eq {width line : Nat} {column : Option Nat} {message : Option String}
    {l : List Char × Nat} {rows : List (List Char)} (h : ShownAs width line column message l rows)
    (hl : IsLine l.1) (hmessage : BarFree message) : numbered (unlines rows) = [l] := by
  have hread {sign : Char} {row : List Char} (hrow : IsLineRow width sign l row)
      (hend : isLineEnd sign = false) (hbar : '|' ≠ sign) (hsign : sign.isDigit = false) :
      numbered row = [l] := by
    rw [numbered_of_not_mem (hrow.isLine hend hl).feed, hrow.rowLine?_eq hbar hsign]
    rfl
  rw [numbered_unlines]
  cases h with
  | plain _ hrow => simp [hread hrow rfl (by decide) (by decide)]
  | arrow _ _ hrow => simp [hread hrow rfl (by decide) (by decide)]
  | caret _ _ hrow hunder =>
    simp [hread hrow rfl (by decide) (by decide), hunder.numbered_eq_nil hmessage]

/-! ### Frames -/

/-- The digits of the numbers in a frame. -/
def digits (frame : CodeFrame) (source : List Char) (line : Nat) : Nat :=
  (Nat.toDigits 10 (frame.last line (frameLines source).length)).length

theorem mem_heading {width : Nat} {column : Option Nat} {message : Option String} {row : List Char}
    (h : row ∈ heading width column message) :
    ∃ m ∈ message, List.replicate (width - 2) ' ' ++ m.toList = row := by
  unfold heading at h
  split at h
  · simpa using h
  · cases h

/-- What is read in a frame is what is read in its heading and in the rows of the lines that it
takes. -/
theorem numbered_render_eq (frame : CodeFrame) (source : List Char) (line : Nat)
    (column : Option Nat) :
    numbered (frame.render source line column) =
      (heading (frame.digits source line + 3) (column.filter (0 < ·))
        frame.message).flatMap numbered ++
        (frame.taken source line).flatMap fun l =>
          numbered (frame.sourceLine (frame.digits source line) line
            (column.filter (0 < ·)) l.2 l.1) := by
  have hbody : numbered (unlines ((frame.taken source line).map fun l =>
      frame.sourceLine (frame.digits source line) line (column.filter (0 < ·)) l.2 l.1)) =
      (frame.taken source line).flatMap fun l =>
        numbered (frame.sourceLine (frame.digits source line) line
          (column.filter (0 < ·)) l.2 l.1) := by
    rw [numbered_unlines, List.flatMap_map]
  rw [← hbody]
  unfold render
  cases column.filter (0 < ·) with
  | some c => rfl
  | none =>
    cases hm : frame.message with
    | none => rfl
    | some m =>
      refine (numbered_append _ _).trans ?_
      simp [heading, digits, taken]

/-- The lines that are read in a frame are those with the numbers of its window. -/
theorem numbered_render (frame : CodeFrame) (source : List Char) (line : Nat) (column : Option Nat)
    (hmessage : BarFree frame.message) :
    numbered (frame.render source line column) =
      window source (frame.first line + 1) (frame.last line (frameLines source).length) := by
  have hheading :
      (heading (frame.digits source line + 3) (column.filter (0 < ·))
        frame.message).flatMap numbered = [] := by
    refine List.flatMap_eq_nil_iff.mpr fun row hrow => numbered_of_bar_not_mem fun hbar => ?_
    obtain ⟨m, hm, rfl⟩ := mem_heading hrow
    rcases List.mem_append.mp hbar with hbar | hbar
    · exact absurd (List.eq_of_mem_replicate hbar) (by decide)
    · exact hmessage m hm hbar
  have hrows : ∀ l ∈ frame.taken source line,
      numbered (frame.sourceLine (frame.digits source line) line (column.filter (0 < ·)) l.2 l.1) =
        [l] := by
    intro l hl
    rw [taken_eq_window] at hl
    obtain ⟨hmem, hle⟩ := mem_window hl
    obtain ⟨rows, hrows, hshown⟩ := exists_shownAs frame (length_toDigits_mono hle) line
      (fun c hc => of_decide_eq_true (Option.mem_filter_iff.mp hc).2) l.1
    rw [digits, hshown]
    exact hrows.numbered_eq (isLine_of_forall (not_isLineEnd_of_mem_frameLines hmem)) hmessage
  rw [numbered_render_eq, hheading, List.nil_append, List.flatMap_congr hrows,
    List.flatMap_singleton', taken_eq_window]

/-! ### The count above -/

/-- A frame that begins earlier shows at least as much. -/
theorem numbered_sublist (frame : CodeFrame) (source : List Char) (line : Nat) (column : Option Nat)
    {a a' : UInt64} (h : a ≤ a') :
    (numbered ({ frame with above := a }.render source line column)).Sublist
      (numbered ({ frame with above := a' }.render source line column)) := by
  have hfirst : { frame with above := a' }.first line ≤ { frame with above := a }.first line := by
    have := UInt64.le_iff_toNat_le.mp h
    simp only [first]
    omega
  have htaken : ({ frame with above := a }.taken source line).Sublist
      ({ frame with above := a' }.taken source line) := List.drop_sublist_drop_left _ hfirst
  rw [numbered_render_eq, numbered_render_eq]
  exact (List.Sublist.refl _).append (htaken.flatMap _)

/-- The window of a frame has the lines near its line. -/
theorem window_eq_near (frame : CodeFrame) (source : List Char) (line : Nat) :
    window source (frame.first line + 1) (frame.last line (frameLines source).length) =
      near source line frame.above.toNat frame.below.toNat := by
  refine List.filter_congr fun l hl => ?_
  obtain ⟨hpos, hlt, -⟩ := List.mem_zipIdx hl
  rw [Bool.eq_iff_iff]
  simp only [Bool.and_eq_true, decide_eq_true_eq]
  rw [first, last]
  omega

/-- What a frame shows with one count of lines above it shows with every larger one, and the lines
that are read in it are those near the marked one, counted without a bound, if and only if one more
than the larger count is a word. With the largest word there is no frame. -/
theorem numbered_render_widens (frame : CodeFrame) (source : List Char) (line : Nat)
    (column : Option Nat) {a a' : UInt64} (h : a ≤ a') :
    (a'.toNat + 1 < UInt64.size ↔ ∃ shown shown',
      { frame with above := a }.render? source line column = some shown ∧
      { frame with above := a' }.render? source line column = some shown' ∧
      numbered shown ⊆ numbered shown' ∧
      (BarFree frame.message →
        numbered shown' = near source line a'.toNat frame.below.toNat)) ∧
    (a'.toNat + 1 = UInt64.size →
      { frame with above := a' }.render? source line column = none) := by
  have hle := UInt64.le_iff_toNat_le.mp h
  refine ⟨⟨fun ha' => ?_, ?_⟩, fun ha' => if_neg (Nat.not_lt_of_le ha'.ge)⟩
  · have ha : a.toNat + 1 < UInt64.size := Nat.lt_of_le_of_lt (Nat.succ_le_succ hle) ha'
    refine ⟨_, _, render?_of_lt ha source line column, render?_of_lt ha' source line column,
      (numbered_sublist frame source line column h).subset, fun hmessage => ?_⟩
    rw [numbered_render { frame with above := a' } source line column hmessage, window_eq_near]
  · rintro ⟨-, shown', -, hshown', -⟩
    by_contra hlargest
    rw [render?, if_neg hlargest] at hshown'
    cases hshown'

/-- A source of four lines is shown from its first line to the one below the marked one. -/
theorem numbered_render_widens_tabbedSource :
    (0 : UInt64) ≤ 18446744073709551614 ∧ BarFree narrowFrame.message ∧ ∃ shown shown',
      { narrowFrame with above := 0 }.render? tabbedSource 2 (some 9) = some shown ∧
      { narrowFrame with above := 18446744073709551614 }.render? tabbedSource 2 (some 9) =
        some shown' ∧
      numbered shown = [("\tb c".toList, 2), ("".toList, 3)] ∧
      numbered shown ⊆ numbered shown' ∧
      numbered shown' = [("a".toList, 1), ("\tb c".toList, 2), ("".toList, 3)] := by
  have hmessage : BarFree narrowFrame.message := by
    rintro m ⟨⟩
    decide
  have hzero : numbered ({ narrowFrame with above := 0 }.render tabbedSource 2 (some 9)) =
      [("\tb c".toList, 2), ("".toList, 3)] := by decide +kernel
  have hnear : near tabbedSource 2 (18446744073709551614 : UInt64).toNat narrowFrame.below.toNat =
      [("a".toList, 1), ("\tb c".toList, 2), ("".toList, 3)] := by decide
  obtain ⟨shown, shown', hshown, hshown', hwider, hexact⟩ :=
    (numbered_render_widens narrowFrame tabbedSource 2 (some 9)
      (show (0 : UInt64) ≤ 18446744073709551614 by decide)).1.mp (by decide)
  obtain rfl := Option.some.inj hshown
  exact ⟨by decide, hmessage, _, shown', hshown, hshown', hzero, hwider,
    (hexact hmessage).trans hnear⟩

/-- The marked line is shown with no line above it, and there is no frame with as many as the
largest word tells. -/
theorem numbered_render_loses_marked :
    (0 : UInt64) ≤ 18446744073709551615 ∧
    (∃ shown, { above := 0 : CodeFrame }.render? "a\nb".toList 2 (some 1) = some shown ∧
      ("b".toList, 2) ∈ numbered shown) ∧
    { above := 18446744073709551615 : CodeFrame }.render? "a\nb".toList 2 (some 1) = none :=
  ⟨by decide, ⟨_, rfl, by decide +kernel⟩, rfl⟩

end Playground.CodeFrame
