import Playground.CodeFrame
import Playground.Proofs.Text.FrameLines

/-! What a frame marks. `Spot.find?` reads a frame as it is looked at: it takes the row that the
arrow points at, and in the row under it the caret. `find?_render` says what is found in a frame
that was asked for a place in a line. -/

namespace Playground

open Text

/-- The marked line of a frame, and how many of its characters stand before the one above the
caret. -/
structure Spot where
  number : Nat
  line : List Char
  index : Nat
deriving DecidableEq, Repr

namespace Spot

/-- The mark of a frame. Margins are as wide in the row of the caret, so that the caret stands below
a character of the line if the tabs before it are those of the line. -/
def find? (shown : List Char) : Option Spot :=
  match (cutAt (· = '\n') shown).dropWhile (·.head? ≠ some '>') with
  | row :: under :: _ =>
    let margin := row.takeWhile (· ≠ '|')
    let space := under.takeWhile (· ≠ '^')
    if '^' ∈ under ∧ ∀ p ∈ row.zip space, p.1 = '\t' ↔ p.2 = '\t' then
      some ⟨Nat.ofDigitChars 10 (margin.filter Char.isDigit) 0, row.drop (margin.length + 2),
        space.length - (margin.length + 2)⟩
    else none
  | _ => none

/-- The place between two texts, as a frame of both should mark it. -/
def between (before after : List Char) : Spot :=
  ⟨(frameLines before).length, lastLine before ++ (frameLines after).headD [],
    (lastLine before).length⟩

end Spot

namespace CodeFrame

/-! ### Margins -/

/-- The margin of a line up to its bar. -/
def margin (width number : Nat) : List Char :=
  ' ' :: padLeft width (Nat.toDigits 10 number) ++ [' ']

theorem gutter_eq (width number : Nat) : gutter width number = margin width number ++ ['|'] := by
  simp [gutter, margin]

theorem mem_margin {width number : Nat} {c : Char} (h : c ∈ margin width number) :
    c = ' ' ∨ c.isDigit = true := by
  have hdigit (h : c ∈ Nat.toDigits 10 number) : c.isDigit = true :=
    Nat.isDigit_of_mem_toDigits (by decide) (by decide) h
  simp only [margin, padLeft, List.mem_append, List.mem_cons, List.mem_replicate,
    List.not_mem_nil, or_false] at h
  tauto

/-- What is no digit and no blank does not stand in a margin. -/
theorem not_mem_margin {width number : Nat} {c : Char} (hblank : c ≠ ' ')
    (hdigit : c.isDigit = false) :
    c ∉ margin width number := by
  intro h
  rcases mem_margin h with h | h
  · exact hblank h
  · rw [h] at hdigit
    cases hdigit

theorem filter_margin (width number : Nat) :
    (margin width number).filter Char.isDigit = Nat.toDigits 10 number := by
  have hdigits : (Nat.toDigits 10 number).filter Char.isDigit = Nat.toDigits 10 number :=
    List.filter_eq_self.mpr fun c hc => Nat.isDigit_of_mem_toDigits (by decide) (by decide) hc
  have hblanks (n : Nat) : (List.replicate n ' ').filter Char.isDigit = [] := by
    rw [List.filter_replicate, if_neg (by decide)]
  simp [margin, padLeft, hdigits, hblanks, show ' '.isDigit = false by decide]

theorem length_blankGutter (width number : Nat) :
    (blankGutter width number).length = (margin width number).length + 1 := by
  simp [blankGutter, gutter_eq]

theorem mem_blankGutter {width number : Nat} {c : Char} (h : c ∈ blankGutter width number) :
    c = ' ' ∨ c = '|' := by
  obtain ⟨d, hd, rfl⟩ := List.mem_map.mp h
  rw [gutter_eq] at hd
  rcases List.mem_append.mp hd with hd | hd
  · rcases mem_margin hd with rfl | hd
    · exact .inl rfl
    · simp [hd]
  · obtain rfl : d = '|' := by simpa using hd
    exact .inr rfl

theorem mem_spacing {line : List Char} {column : Nat} {c : Char} (h : c ∈ spacing line column) :
    c = '\t' ∨ c = ' ' := by
  obtain ⟨d, -, rfl⟩ := List.mem_map.mp h
  split
  · exact .inl rfl
  · exact .inr rfl

theorem tab_iff_of_mem_zip_spacing {line : List Char} {column : Nat} :
    ∀ p ∈ line.zip (spacing line column), p.1 = '\t' ↔ p.2 = '\t' := by
  unfold spacing
  generalize column - 1 = k
  induction line generalizing k with
  | nil => simp
  | cons c cs ih =>
    cases k with
    | zero => simp
    | succ k =>
      rw [List.take_succ_cons, List.map_cons, List.zip_cons_cons]
      refine List.forall_mem_cons.mpr ⟨?_, ih k⟩
      by_cases hc : c = '\t' <;> simp [hc]

theorem length_spacing (line : List Char) (column : Nat) :
    (spacing line column).length = min (column - 1) line.length := by
  simp [spacing]

/-! ### Rows -/

/-- The row that the arrow points at. -/
def arrowRow (width number : Nat) (text : List Char) : List Char :=
  '>' :: gutter width number ++ (if text.isEmpty then [] else ' ' :: text)

/-- What stands in the row of the caret before it. -/
def caretSpace (width number column : Nat) (text : List Char) : List Char :=
  ' ' :: blankGutter width number ++ ' ' :: spacing text column

variable {frame : CodeFrame} {width line column : Nat} {text : List Char}

theorem sourceLine_marked (frame : CodeFrame) (width line column : Nat) (text : List Char) :
    ∃ said, frame.sourceLine width line (some column) line text =
      arrowRow width line text ++ '\n' :: (caretSpace width line column text ++ '^' :: said) :=
  ⟨frame.message.elim []
    fun message => ' ' :: message.toList, by simp [sourceLine, arrowRow, caretSpace, markLine]⟩

theorem feed_not_mem_gutter {number : Nat} : '\n' ∉ gutter width number := by
  rw [gutter_eq, List.mem_append]
  rintro (h | h)
  · exact not_mem_margin (by decide) (by decide) h
  · simp at h

theorem feed_not_mem_arrowRow (h : '\n' ∉ text) : '\n' ∉ arrowRow width line text := by
  unfold arrowRow
  split <;> simp [feed_not_mem_gutter, h]

theorem not_mem_caretSpace {c : Char} (h : c ≠ ' ') (hbar : c ≠ '|') (htab : c ≠ '\t') :
    c ∉ caretSpace width line column text := by
  intro hc
  simp only [caretSpace, List.cons_append, List.mem_cons, List.mem_append] at hc
  rcases hc with hc | hc | hc | hc
  · exact h hc
  · rcases mem_blankGutter hc with hc | hc
    · exact h hc
    · exact hbar hc
  · exact h hc
  · rcases mem_spacing hc with hc | hc
    · exact htab hc
    · exact h hc

/-- A row that the arrow does not point at is one line. -/
theorem sourceLine_unmarked {number : Nat} (h : number ≠ line) (htext : '\n' ∉ text) :
    '\n' ∉ frame.sourceLine width line (some column) number text ∧
      (frame.sourceLine width line (some column) number text).head? ≠ some '>' := by
  unfold sourceLine
  rw [if_neg h]
  constructor
  · split <;> simp [feed_not_mem_gutter, htext]
  · simp

/-- The tabs before the caret are those of the line. -/
theorem tab_iff_of_mem_zip_rows (width line column : Nat) (text : List Char) :
    ∀ p ∈ (arrowRow width line text).zip (caretSpace width line column text), p.1 = '\t' ↔
      p.2 = '\t' := by
  have hgutter : ('>' :: gutter width line).length = (' ' :: blankGutter width line).length := by
    simp [blankGutter]
  have hmargin : ∀ p ∈ ('>' :: gutter width line).zip (' ' :: blankGutter width line), p.1 = '\t' ↔
      p.2 = '\t' := by
    rintro ⟨x, y⟩ hp
    obtain ⟨hx, hy⟩ := List.of_mem_zip hp
    have hx' : x ≠ '\t' := by
      rintro rfl
      simp only [List.mem_cons, gutter_eq, List.mem_append, List.not_mem_nil, or_false] at hx
      rcases hx with hx | hx | hx
      · cases hx
      · exact not_mem_margin (by decide) (by decide) hx
      · cases hx
    have hy' : y ≠ '\t' := by
      rintro rfl
      rcases List.mem_cons.mp hy with hy | hy
      · cases hy
      · rcases mem_blankGutter hy with hy | hy <;> cases hy
    simp [hx', hy']
  have hline : ∀ p ∈ (if text.isEmpty then [] else ' ' :: text).zip (' ' :: spacing text column),
      p.1 = '\t' ↔ p.2 = '\t' := by
    cases text with
    | nil => simp
    | cons c cs => exact List.forall_mem_cons.mpr ⟨by simp, tab_iff_of_mem_zip_spacing⟩
  rw [arrowRow, caretSpace, List.zip_append hgutter]
  exact List.forall_mem_append.mpr ⟨hmargin, hline⟩

theorem takeWhile_arrowRow (width line : Nat) (text : List Char) :
    (arrowRow width line text).takeWhile (· ≠ '|') = '>' :: margin width line := by
  have hbar : ∀ c ∈ '>' :: margin width line, decide (c ≠ '|') = true := by
    intro c hc
    refine decide_eq_true ?_
    rintro rfl
    rcases List.mem_cons.mp hc with hc | hc
    · cases hc
    · exact not_mem_margin (by decide) (by decide) hc
  have hrow : arrowRow width line text =
      ('>' :: margin width line) ++ '|' :: (if text.isEmpty then [] else ' ' :: text) := by
    simp [arrowRow, gutter_eq]
  rw [hrow, List.takeWhile_append_of_pos hbar, List.takeWhile_cons_of_neg (by decide),
    List.append_nil]

theorem drop_arrowRow (width line : Nat) (text : List Char) :
    (arrowRow width line text).drop ((margin width line).length + 3) = text := by
  have hlength : ('>' :: gutter width line).length = (margin width line).length + 2 := by
    simp [gutter_eq]
  have hdrop : (arrowRow width line text).drop ((margin width line).length + 2) =
      if text.isEmpty then [] else ' ' :: text := by
    rw [arrowRow, ← hlength, List.drop_left]
  rw [show (margin width line).length + 3 = (margin width line).length + 2 + 1 from rfl,
    ← List.drop_drop, hdrop]
  cases text <;> simp

theorem length_caretSpace (width line column : Nat) (text : List Char) :
    (caretSpace width line column text).length =
      (margin width line).length + 3 + min (column - 1) text.length := by
  simp only [caretSpace, List.cons_append, List.length_cons, List.length_append, length_blankGutter,
    length_spacing]
  omega

/-! ### The frame -/

/-- The lines of a frame around a line of the text. -/
theorem render_eq {source : List Char} {before after : List (List Char)}
    (hlines : frameLines source = before ++ text :: after) (hcolumn : 0 < column) :
    ∃ width above below, frame.render source (before.length + 1) (some column) =
        unlines (above ++ frame.sourceLine width (before.length + 1) (some column)
          (before.length + 1) text :: below) ∧
      ∀ row ∈ above, '\n' ∉ row ∧ row.head? ≠ some '>' := by
  let line := before.length + 1
  let stop := frame.last line (frameLines source).length
  let width := (Nat.toDigits 10 stop).length
  let row (p : List Char × Nat) := frame.sourceLine width line (some column) p.2 p.1
  have hstop : line ≤ stop := by
    simp only [stop, last, hlines, List.length_append, List.length_cons, line]
    omega
  have hfirst : frame.first line ≤ (before.zipIdx 1).length := by
    simp only [first, List.length_zipIdx, line]
    omega
  refine ⟨width, ((before.zipIdx 1).drop (frame.first line)).map row,
    ((after.zipIdx (line + 1)).take (stop - line)).map row, ?_, ?_⟩
  · have hnumbered : (((frameLines source).zipIdx 1).take stop).drop (frame.first line) =
        (before.zipIdx 1).drop (frame.first line) ++
            (text, line) :: (after.zipIdx (line + 1)).take (stop - line) := by
      have hzip : (frameLines source).zipIdx 1 =
          before.zipIdx 1 ++ (text, line) :: after.zipIdx (line + 1) := by
        rw [hlines, List.zipIdx_append, List.zipIdx_cons, Nat.add_comm 1]
      have hlength : (before.zipIdx 1).length = before.length := List.length_zipIdx
      obtain ⟨k, hk⟩ : ∃ k, stop = before.length + (k + 1) :=
        ⟨stop - line, by dsimp only [line]; omega⟩
      rw [hzip, hk, ← hlength, List.take_length_add_append, List.take_succ_cons,
        List.drop_append_of_le_length hfirst,
        show (before.zipIdx 1).length + (k + 1) - line = k by dsimp only [line]; omega]
    have hcol : (some column).filter (0 < ·) = some column := by simp [Option.filter, hcolumn]
    unfold render
    simp only [hcol]
    rw [hnumbered, List.map_append, List.map_cons]
  · intro r hr
    obtain ⟨⟨t, number⟩, hmem, rfl⟩ := List.mem_map.mp hr
    obtain ⟨-, hlt, ht⟩ := List.mem_zipIdx (List.mem_of_mem_drop hmem)
    have hin : t ∈ frameLines source := by
      rw [hlines, ht]
      exact List.mem_append_left _ (List.getElem_mem _)
    have hfeed : '\n' ∉ t := fun hc => by
      have := not_isLineEnd_of_mem_frameLines hin _ hc
      cases this
    exact sourceLine_unmarked (by dsimp only [line]; omega) hfeed

end CodeFrame

namespace Spot

open CodeFrame

/-- The arrow and the caret are found under rows that have neither. -/
theorem find?_unlines {above below : List (List Char)} {text : List Char} (width line column : Nat)
    (said : List Char) (habove : ∀ row ∈ above, '\n' ∉ row ∧ row.head? ≠ some '>')
    (htext : '\n' ∉ text) :
    find? (unlines (above ++ (arrowRow width line text ++ '\n' ::
        (caretSpace width line column text ++ '^' :: said)) :: below)) =
      some ⟨line, text, min (column - 1) text.length⟩ := by
  -- Nothing ends the row of the caret before the caret.
  obtain ⟨more, others, hunder⟩ : ∃ more others,
      cutAt (· = '\n') (caretSpace width line column text ++ '^' :: said) =
        (caretSpace width line column text ++ '^' :: more) :: others := by
    obtain ⟨more, others, hsaid⟩ := List.exists_cons_of_ne_nil (cutAt_ne_nil (· = '\n') said)
    refine ⟨more, others, cutAt_append_of_forall (fun c hc => decide_eq_false ?_)
      (by simp [cutAt, hsaid, consFirst])⟩
    rintro rfl
    exact not_mem_caretSpace (by decide) (by decide) (by decide) hc
  have hrows : (cutAt (· = '\n') (unlines (above ++
        (arrowRow width line text ++ '\n' :: (caretSpace width line column text ++ '^' :: said))
        :: below))).dropWhile
        (·.head? ≠ some '>') =
      arrowRow width line text :: (caretSpace width line column text ++ '^' :: more) ::
        (others ++ below.flatMap (cutAt (· = '\n'))) := by
    have hskip : ∀ row ∈ above.flatMap (cutAt (· = '\n')),
        decide (row.head? ≠ some '>') = true := by
      intro row hrow
      obtain ⟨r, hr, hmem⟩ := List.mem_flatMap.mp hrow
      rw [cutAt_of_not_mem (habove r hr).1, List.mem_singleton] at hmem
      exact decide_eq_true (hmem ▸ (habove r hr).2)
    rw [cutAt_unlines (by simp), List.flatMap_append, List.flatMap_cons, cutAt_append (by simp),
      cutAt_of_not_mem (feed_not_mem_arrowRow htext), hunder, List.dropWhile_append_of_pos hskip]
    rfl
  have hspace : (caretSpace width line column text ++ '^' :: more).takeWhile (· ≠ '^') =
      caretSpace width line column text := by
    have hcaret : ∀ c ∈ caretSpace width line column text, decide (c ≠ '^') = true := by
      intro c hc
      refine decide_eq_true ?_
      rintro rfl
      exact not_mem_caretSpace (by decide) (by decide) (by decide) hc
    rw [List.takeWhile_append_of_pos hcaret, List.takeWhile_cons_of_neg (by decide),
      List.append_nil]
  unfold find?
  simp only [hrows, hspace, takeWhile_arrowRow]
  rw [if_pos ⟨by simp, tab_iff_of_mem_zip_rows width line column text⟩,
    List.filter_cons_of_neg (by decide), filter_margin, Nat.ofDigitChars_ten_toDigits,
    List.length_cons,
    show (margin width line).length + 1 + 2 = (margin width line).length + 3
    from rfl, drop_arrowRow,
    length_caretSpace, Nat.add_sub_cancel_left]

theorem find?_render (frame : CodeFrame) {source text : List Char}
    {before after : List (List Char)} {column : Nat}
    (hlines : frameLines source = before ++ text :: after) (hcolumn : 0 < column) :
    find? (frame.render source (before.length + 1) (some column)) =
      some ⟨before.length + 1, text, min (column - 1) text.length⟩ := by
  obtain ⟨width, above, below, hrender, hrows⟩ := render_eq hlines hcolumn
  obtain ⟨said, hmarked⟩ := sourceLine_marked frame width (before.length + 1) column text
  have hfeed : '\n' ∉ text := fun hc => by
    have := not_isLineEnd_of_mem_frameLines (hlines ▸ List.mem_append_right _ List.mem_cons_self)
      _ hc
    cases this
  rw [hrender, hmarked]
  exact find?_unlines width _ column said hrows hfeed

end Spot

end Playground
