import Mathlib.Data.List.Forall2
import Playground.Proofs.CodeFrame

/-! The rows of a frame. `ShownAs` says how one line of the source is shown: in a row with its
number, below which stands a caret if it is the marked one. `lines_render` says that a frame is
nothing but the rows of the lines around the marked one, and a message above them if no place is
marked. -/

namespace Playground.CodeFrame

open Text

/-- A margin: blanks, a label to the right, and a bar. -/
def IsMargin (width : Nat) (label chars : List Char) : Prop :=
  chars.length = width ∧ ∃ n, chars = List.replicate (n + 1) ' ' ++ label ++ [' ', '|']

/-- The row of a line with its number. A blank stands before the text, if there is any. -/
def IsLineRow (width : Nat) (sign : Char) (l : List Char × Nat) (row : List Char) : Prop :=
  ∃ margin, IsMargin width (Nat.toDigits 10 l.2) margin ∧
    row = sign :: margin ++ (if l.1 = [] then [] else ' ' :: l.1)

/-- The row of a caret. It stands below the character in that column, or behind the last one: what
is before it is as wide as what is before the character, with a tab below each tab and a blank below
anything else. -/
def IsCaretRow (width column : Nat) (message : Option String) (text row : List Char) : Prop :=
  ∃ margin under, IsMargin width [] margin ∧
    under.length + 1 = min column (text.length + 1) ∧
    (∀ i < under.length, under[i]? = text[i]?.map fun c => if c = '\t' then '\t' else ' ') ∧
    row = ' ' :: margin ++ ' ' :: under ++ '^' :: message.elim [] fun m => ' ' :: m.toList

/-- The rows of one line of the source. The arrow is at the line that the frame is for, and the
caret is below it. -/
inductive ShownAs (width line : Nat) (column : Option Nat) (message : Option String)
    (l : List Char × Nat) :
    List (List Char) → Prop
  | plain {row : List Char} :
      l.2 ≠ line → IsLineRow width ' ' l row → ShownAs width line column message l [row]
  | arrow {row : List Char} : l.2 = line → column = none → IsLineRow width '>' l row →
      ShownAs width line column message l [row]
  | caret {c : Nat} {row under : List Char} :
      l.2 = line → column = some c → IsLineRow width '>' l row →
      IsCaretRow width c message l.1 under → ShownAs width line column message l [row, under]

/-- The lines of a source from one number to another. -/
def window (source : List Char) (start stop : Nat) : List (List Char × Nat) :=
  ((frameLines source).zipIdx 1).filter fun l => start ≤ l.2 && l.2 ≤ stop

/-- The row above the others, with the message that stands at no caret. -/
def heading (width : Nat) (column : Option Nat) (message : Option String) : List (List Char) :=
  if column = none then message.toList.map fun m => List.replicate (width - 2) ' ' ++ m.toList
    else []

/-! ### Margins -/

section

variable {width number : Nat} (h : (Nat.toDigits 10 number).length ≤ width)

include h

theorem isMargin_gutter : IsMargin (width + 3) (Nat.toDigits 10 number) (gutter width number) := by
  refine ⟨?_, width - (Nat.toDigits 10 number).length, ?_⟩
  · simp [gutter, padLeft]
    omega
  · simp [gutter, padLeft, List.replicate_succ]

theorem isMargin_blankGutter : IsMargin (width + 3) [] (blankGutter width number) := by
  have hdigits : (Nat.toDigits 10 number).map (fun c => if c.isDigit then ' ' else c) =
      List.replicate (Nat.toDigits 10 number).length ' ' := by
    refine List.map_eq_replicate_iff.mpr fun c hc => if_pos ?_
    exact Nat.isDigit_of_mem_toDigits (by decide) (by decide) hc
  obtain ⟨hlength, n, hgutter⟩ := isMargin_gutter h
  refine ⟨?_, n + (Nat.toDigits 10 number).length, ?_⟩
  · rw [← hlength, blankGutter, List.length_map]
  · rw [blankGutter, hgutter, List.map_append, List.map_append, hdigits, List.map_replicate,
      List.append_nil, Nat.add_right_comm n, List.replicate_add (n + 1)]
    rfl

end

/-- The last number is the longest. -/
theorem length_toDigits_mono {m n : Nat} (h : m ≤ n) :
    (Nat.toDigits 10 m).length ≤ (Nat.toDigits 10 n).length := by
  have hpos : 0 < (Nat.toDigits 10 n).length := Nat.length_toDigits_pos
  have hlt : n < 10 ^ (Nat.toDigits 10 n).length :=
    (Nat.length_toDigits_le_iff (by decide) hpos).mp (Nat.le_refl _)
  exact (Nat.length_toDigits_le_iff (by decide) hpos).mpr (Nat.lt_of_le_of_lt h hlt)

/-! ### Lines of the source -/

theorem isCaretRow_caretSpace {width number column : Nat}
    (h : (Nat.toDigits 10 number).length ≤ width) (hcolumn : 0 < column) (message : Option String)
    (text : List Char) :
    IsCaretRow (width + 3) column message text
      (caretSpace width number column text ++ '^' :: message.elim [] fun m => ' ' :: m.toList) := by
  refine ⟨blankGutter width number, spacing text column, isMargin_blankGutter h, ?_, ?_, rfl⟩
  · rw [length_spacing]
    omega
  · intro i hi
    have hlt : i < column - 1 := by
      rw [length_spacing] at hi
      omega
    rw [spacing, List.getElem?_map, List.getElem?_take_of_lt hlt]

/-- A line of the source is shown in one or two rows. -/
theorem exists_shownAs (frame : CodeFrame) {width number : Nat}
    (h : (Nat.toDigits 10 number).length ≤ width) (line : Nat) {column : Option Nat}
    (hcolumn : ∀ c ∈ column, 0 < c) (text : List Char) :
    ∃ rows, ShownAs (width + 3) line column frame.message (text, number) rows ∧
      frame.sourceLine width line column number text = unlines rows := by
  have hrow (sign : Char) : IsLineRow (width + 3) sign (text, number)
      (sign :: gutter width number ++ (if text.isEmpty then [] else ' ' :: text)) :=
    ⟨_, isMargin_gutter h, by simp [List.isEmpty_iff]⟩
  by_cases hline : number = line
  · subst hline
    cases column with
    | none =>
      refine ⟨_, .arrow rfl rfl (hrow '>'), ?_⟩
      simp [sourceLine]
    | some c =>
      refine ⟨_, .caret rfl rfl (hrow '>')
        (isCaretRow_caretSpace h (hcolumn c rfl) frame.message text), ?_⟩
      rw [unlines_cons _ (by simp), unlines_singleton]
      simp [sourceLine, markLine, caretSpace]
  · refine ⟨_, .plain hline (hrow ' '), ?_⟩
    rw [unlines_singleton, sourceLine, if_neg hline]
    rfl

/-! ### Rows are lines -/

theorem isLine_blanks (n : Nat) : IsLine (List.replicate n ' ') :=
  isLine_of_forall fun c hc => by
    rw [List.eq_of_mem_replicate hc]
    rfl

theorem IsMargin.isLine {width : Nat} {label chars : List Char} (h : IsMargin width label chars)
    (hlabel : IsLine label) : IsLine chars := by
  obtain ⟨-, n, rfl⟩ := h
  exact ((isLine_blanks (n + 1)).append hlabel).append ⟨by decide, by decide⟩

theorem isLine_toDigits (number : Nat) : IsLine (Nat.toDigits 10 number) := by
  have hdigit : ∀ c ∈ Nat.toDigits 10 number, c.isDigit = true := fun c hc =>
    Nat.isDigit_of_mem_toDigits (by decide) (by decide) hc
  exact ⟨fun h => absurd (hdigit _ h) (by decide),
    fun h => absurd (hdigit _ (List.mem_of_getLast? h)) (by decide)⟩

theorem IsLineRow.isLine {width : Nat} {sign : Char} {l : List Char × Nat} {row : List Char}
    (h : IsLineRow width sign l row) (hsign : isLineEnd sign = false) (hl : IsLine l.1) :
    IsLine row := by
  obtain ⟨margin, hmargin, rfl⟩ := h
  have hstart : IsLine (sign :: margin) := (hmargin.isLine (isLine_toDigits l.2)).cons hsign
  refine hstart.append ?_
  split
  · exact ⟨by decide, by decide⟩
  · exact hl.cons rfl

/-- Only tabs and blanks stand between the margin and the caret. -/
theorem IsCaretRow.exists_space {width column : Nat} {message : Option String}
    {text row : List Char} (h : IsCaretRow width column message text row) :
    ∃ margin space, IsMargin width [] margin ∧ (∀ c ∈ space, c = '\t' ∨ c = ' ') ∧
      row = ' ' :: margin ++ ' ' :: space ++ '^' :: message.elim [] fun m => ' ' :: m.toList := by
  obtain ⟨margin, under, hmargin, -, hunder, rfl⟩ := h
  refine ⟨margin, under, hmargin, fun c hc => ?_, rfl⟩
  obtain ⟨i, hi, rfl⟩ := List.getElem_of_mem hc
  have hchar := hunder i hi
  rw [List.getElem?_eq_getElem hi] at hchar
  obtain ⟨d, -, hd⟩ := Option.map_eq_some_iff.mp hchar.symm
  rw [← hd]
  split
  · exact .inl rfl
  · exact .inr rfl

theorem IsCaretRow.isLine {width column : Nat} {message : Option String} {text row : List Char}
    (h : IsCaretRow width column message text row)
    (hmessage : ∀ m ∈ message, IsLine m.toList) : IsLine row := by
  obtain ⟨margin, space, hmargin, hblank, rfl⟩ := h.exists_space
  have hstart : IsLine (' ' :: margin) := (hmargin.isLine ⟨by decide, by decide⟩).cons rfl
  have hspace : IsLine space := isLine_of_forall fun c hc => by
    rcases hblank c hc with rfl | rfl <;> rfl
  have hsaid : IsLine (message.elim [] fun m => ' ' :: m.toList) := by
    cases message with
    | none => exact ⟨by decide, by decide⟩
    | some m => exact (hmessage m rfl).cons rfl
  exact (hstart.append (hspace.cons rfl)).append (hsaid.cons rfl)

theorem ShownAs.isLine {width line : Nat} {column : Option Nat} {message : Option String}
    {l : List Char × Nat} {rows : List (List Char)} (h : ShownAs width line column message l rows)
    (hl : IsLine l.1) (hmessage : ∀ m ∈ message, IsLine m.toList) : ∀ row ∈ rows, IsLine row := by
  cases h with
  | plain _ hrow => exact List.forall_mem_singleton.mpr (hrow.isLine rfl hl)
  | arrow _ _ hrow => exact List.forall_mem_singleton.mpr (hrow.isLine rfl hl)
  | caret _ _ hrow hunder =>
    exact List.forall_mem_cons.mpr ⟨hrow.isLine rfl hl,
      List.forall_mem_singleton.mpr (hunder.isLine hmessage)⟩

theorem ShownAs.ne_nil {width line : Nat} {column : Option Nat} {message : Option String}
    {l : List Char × Nat} {rows : List (List Char)} (h : ShownAs width line column message l rows) :
    rows ≠ [] ∧ [] ∉ rows := by
  have hline {sign : Char} {row : List Char} (h : IsLineRow width sign l row) : [] ≠ row := by
    obtain ⟨margin, -, rfl⟩ := h
    simp
  have hcaret {c : Nat} {row : List Char} (h : IsCaretRow width c message l.1 row) : [] ≠ row := by
    obtain ⟨margin, under, -, -, -, rfl⟩ := h
    simp
  cases h with
  | plain _ hrow => simp [hline hrow]
  | arrow _ _ hrow => simp [hline hrow]
  | caret _ _ hrow hunder => simp [hline hrow, hcaret hunder]

/-! ### The frame -/

/-- Lines taken by their count are lines taken by their numbers. -/
theorem drop_take_zipIdx (ls : List (List Char)) (first stop k : Nat) :
    ((ls.zipIdx k).take stop).drop first =
      (ls.zipIdx k).filter fun l => k + first ≤ l.2 && l.2 < k + stop := by
  induction ls generalizing first stop k with
  | nil => simp
  | cons text ls ih =>
    have hlater : ∀ l ∈ ls.zipIdx (k + 1), k + 1 ≤ l.2 := fun l hl => (List.mem_zipIdx hl).1
    rw [List.zipIdx_cons]
    cases stop with
    | zero =>
      rw [List.take_zero, List.drop_nil, eq_comm, List.filter_eq_nil_iff]
      intro l hl
      have hk : k ≤ l.2 := by
        rcases List.mem_cons.mp hl with rfl | hl
        · exact Nat.le_refl k
        · exact Nat.le_of_succ_le (hlater l hl)
      simp
      omega
    | succ stop =>
      rw [List.take_succ_cons]
      cases first with
      | zero =>
        have hrest := ih 0 stop (k + 1)
        rw [List.drop_zero] at hrest
        rw [List.drop_zero, hrest, List.filter_cons_of_pos (by simp)]
        refine congrArg _ (List.filter_congr fun l hl => ?_)
        have hk := hlater l hl
        rw [Bool.eq_iff_iff]
        simp only [Bool.and_eq_true, decide_eq_true_eq]
        omega
      | succ first =>
        rw [List.drop_succ_cons, ih, List.filter_cons_of_neg (by simp), Nat.add_right_comm,
          Nat.add_right_comm k 1]
        rfl

theorem mem_window_iff {source : List Char} {start stop : Nat} {l : List Char × Nat} :
    l ∈ window source start stop ↔ l ∈ (frameLines source).zipIdx 1 ∧ start ≤ l.2 ∧ l.2 ≤ stop := by
  simp [window]

theorem mem_window {source : List Char} {start stop : Nat} {l : List Char × Nat}
    (h : l ∈ window source start stop) :
    l.1 ∈ frameLines source ∧ l.2 ≤ stop := by
  obtain ⟨hmem, -, hle⟩ := mem_window_iff.mp h
  exact ⟨List.fst_mem_of_mem_zipIdx hmem, hle⟩

/-- The lines that a frame takes from its source. -/
def taken (frame : CodeFrame) (source : List Char) (line : Nat) : List (List Char × Nat) :=
  (((frameLines source).zipIdx 1).take (frame.last line (frameLines source).length)).drop
    (frame.first line)

theorem taken_eq_window (frame : CodeFrame) (source : List Char) (line : Nat) :
    frame.taken source line =
      window source (frame.first line + 1) (frame.last line (frameLines source).length) := by
  rw [taken, drop_take_zipIdx, window]
  refine List.filter_congr fun l _ => ?_
  rw [Bool.eq_iff_iff]
  simp only [Bool.and_eq_true, decide_eq_true_eq]
  omega

/-- The lines of a frame are those with certain numbers. -/
theorem window_eq (frame : CodeFrame) (source : List Char) (line : Nat) :
    frame.taken source line = window source (max 1 (line - frame.above.toNat))
      (frame.last line (frameLines source).length) := by
  have hstart : line - (frame.above.toNat + 1) + 1 = max 1 (line - frame.above.toNat) := by omega
  rw [taken_eq_window, first, hstart]

/-- The rows of all lines, joined, are told apart again. -/
theorem exists_rows {frame : CodeFrame} {width line : Nat} {column : Option Nat}
    {ls : List (List Char × Nat)}
    (hls : ∀ l ∈ ls, IsLine l.1 ∧ (Nat.toDigits 10 l.2).length ≤ width)
    (hcolumn : ∀ c ∈ column, 0 < c) (hmessage : ∀ m ∈ frame.message, IsLine m.toList) :
    ∃ rows, List.Forall₂ (ShownAs (width + 3) line column frame.message) ls rows ∧
      lines (unlines (ls.map fun l => frame.sourceLine width line column l.2 l.1)) =
        rows.flatten := by
  have hshown : ∀ l ∈ ls, ∃ rows, ShownAs (width + 3) line column frame.message l rows ∧
      frame.sourceLine width line column l.2 l.1 = unlines rows :=
    fun l hl => exists_shownAs frame (hls l hl).2 line hcolumn l.1
  choose! rows hrows hunlines using hshown
  have hne : ∀ block ∈ ls.map rows, block ≠ [] := by
    intro block hblock
    obtain ⟨l, hl, rfl⟩ := List.mem_map.mp hblock
    exact (hrows l hl).ne_nil.1
  have hline : ∀ row ∈ (ls.map rows).flatten, IsLine row ∧ row ≠ [] := by
    intro row hrow
    rw [← List.flatMap_def] at hrow
    obtain ⟨l, hl, hmem⟩ := List.mem_flatMap.mp hrow
    exact ⟨(hrows l hl).isLine (hls l hl).1 hmessage row hmem,
      fun hnil => (hrows l hl).ne_nil.2 (hnil ▸ hmem)⟩
  refine ⟨ls.map rows, List.forall₂_map_right_iff.mpr (List.forall₂_same.mpr hrows), ?_⟩
  rw [List.map_congr_left hunlines, ← Function.comp_def unlines rows, ← List.map_map,
    unlines_map_unlines hne,
    lines_unlines (fun row hrow => (hline row hrow).1)
    fun row hrow => (hline row (List.mem_of_getLast? hrow)).2]

/-- The message stands above the body of the frame, or in it. -/
theorem lines_render_eq (frame : CodeFrame) (source : List Char) (line : Nat) (column : Option Nat)
    (hmessage : ∀ m ∈ frame.message, IsLine m.toList) :
    ∃ width, width = (Nat.toDigits 10 (frame.last line (frameLines source).length)).length ∧
      lines (frame.render source line column) =
        heading (width + 3) (column.filter (0 < ·)) frame.message ++
        lines (unlines ((frame.taken source line).map fun l =>
          frame.sourceLine width line (column.filter (0 < ·)) l.2 l.1)) := by
  refine ⟨_, rfl, ?_⟩
  unfold render
  cases column.filter (0 < ·) with
  | some c => rfl
  | none =>
    cases hm : frame.message with
    | none => rfl
    | some m =>
      have hline (n : Nat) : IsLine (List.replicate n ' ' ++ m.toList) :=
        (isLine_blanks n).append (hmessage m hm)
      exact lines_append_feed (hline _).feed (hline _).last _

theorem render?_of_lt {frame : CodeFrame} (h : frame.above.toNat + 1 < UInt64.size)
    (source : List Char) (line : Nat) (column : Option Nat) :
    frame.render? source line column = some (frame.render source line column) := if_pos h

/-- There is a frame as long as one more than the count of lines above is a word. It shows each line
of the source near the one it is for, in order, and the margins of its rows are equally wide. The
arrow and the caret are at that line only, if it is there. Above these rows stands the message if
there is no column to mark, and nothing else stands in the frame. -/
theorem lines_render (frame : CodeFrame) (source : List Char) (line : Nat) (column : Option Nat)
    (habove : frame.above.toNat + 1 < UInt64.size)
    (hmessage : ∀ m ∈ frame.message, IsLine m.toList) :
    ∃ shown width rows, frame.render? source line column = some shown ∧
      lines shown = heading width (column.filter (0 < ·)) frame.message ++ rows.flatten ∧
      List.Forall₂ (ShownAs width line (column.filter (0 < ·)) frame.message)
        (window source (max 1 (line - frame.above.toNat))
          (min (frameLines source).length (line + frame.below.toNat))) rows := by
  obtain ⟨width, hwidth, hrender⟩ := lines_render_eq frame source line column hmessage
  have hlines : ∀ l ∈ window source (max 1 (line - frame.above.toNat))
        (frame.last line (frameLines source).length),
      IsLine l.1 ∧ (Nat.toDigits 10 l.2).length ≤ width := by
    intro l hl
    obtain ⟨hmem, hle⟩ := mem_window hl
    rw [hwidth]
    exact ⟨isLine_of_forall (not_isLineEnd_of_mem_frameLines hmem), length_toDigits_mono hle⟩
  have hcolumn : ∀ c ∈ column.filter (0 < ·), 0 < c :=
    fun c hc => of_decide_eq_true (Option.mem_filter_iff.mp hc).2
  obtain ⟨rows, hrows, hbody⟩ := exists_rows hlines hcolumn hmessage
  rw [window_eq frame source line, hbody] at hrender
  exact ⟨_, width + 3, rows, render?_of_lt habove source line column, hrender, hrows⟩

def narrowFrame : CodeFrame := { above := 1, below := 1, message := some "Unexpected token" }

def tabbedSource : List Char := "a\r\n\tb c\n\nd".toList

theorem lines_render_tabbedSource :
    narrowFrame.above.toNat + 1 < UInt64.size ∧ IsLine "Unexpected token".toList ∧
    ∃ shown width rows, narrowFrame.render? tabbedSource 2 (some 9) = some shown ∧
      lines shown = rows.flatten ∧
      List.Forall₂ (ShownAs width 2 (some 9) (some "Unexpected token"))
        [("a".toList, 1), ("\tb c".toList, 2), ("".toList, 3)] rows := by
  have hline : IsLine "Unexpected token".toList :=
    isLine_of_forall (forall_eq_false_of_any (by decide))
  have hmessage : ∀ m ∈ narrowFrame.message, IsLine m.toList := by
    rintro m ⟨⟩
    exact hline
  have hwindow : window tabbedSource (max 1 (2 - narrowFrame.above.toNat))
      (min (frameLines tabbedSource).length (2 + narrowFrame.below.toNat)) =
      [("a".toList, 1), ("\tb c".toList, 2), ("".toList, 3)] := by decide
  obtain ⟨shown, width, rows, hshown, hlines, hrows⟩ :=
    lines_render narrowFrame tabbedSource 2 (some 9) (by decide) hmessage
  rw [hwindow] at hrows
  exact ⟨by decide, hline, shown, width, rows, hshown, hlines, hrows⟩

end Playground.CodeFrame
