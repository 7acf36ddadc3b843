import Playground.Proofs.CodeFrame
import Playground.Proofs.Script.Stage
import Playground.Report

/-! Where the caret of a report stands. A fault is found at an offset of the code, told as a line
and a column, and marked in a frame of the content. The three do not count in the same way, so that
the caret stands under the fault only where what they count comes to the same. -/

namespace Playground

open Script Text

namespace Text

theorem Position.one_le_advance {p : Position} (hline : 1 ≤ p.line) (hcolumn : 1 ≤ p.column)
    (cs : List Char) (offset : Nat) :
    1 ≤ (p.advance cs offset).line ∧ 1 ≤ (p.advance cs offset).column := by
  fun_induction Position.advance p cs offset with
  | case1 p => exact ⟨hline, hcolumn⟩
  | case2 p => exact ⟨hline, hcolumn⟩
  | case3 p c cs offset _ _ ih => exact ih (Nat.le_add_left 1 _) (Nat.le_refl 1)
  | case4 p c cs offset _ _ ih => exact ih hline (Nat.le_add_right_of_le hcolumn)

theorem Position.one_le_ofOffset (cs : List Char) (offset : Nat) :
    1 ≤ (ofOffset cs offset).line ∧ 1 ≤ (ofOffset cs offset).column :=
  one_le_advance (Nat.le_refl 1) (Nat.le_refl 1) cs offset

end Text

namespace Script.Reader

/-- What is left out before a code is a byte order mark. -/
theorem mark_eq {mark rest : List Char} (h : withoutMark (mark ++ rest) = rest) :
    mark = [] ∨ mark = ['\uFEFF'] := by
  cases mark with
  | nil => exact .inl rfl
  | cons c cs =>
    rw [List.cons_append, withoutMark] at h
    split at h
    · rename_i hc
      obtain rfl : cs = [] := by simpa using h
      exact .inr (by rw [show c = '\uFEFF' from Char.ext (UInt32.toNat_inj.mp hc)])
    · have := congrArg List.length h
      simp at this
      omega

end Script.Reader

namespace Text

variable {mark before : List Char}

/-- A mark before a text stands in its first line. -/
theorem frameLines_mark_append (h : mark = [] ∨ mark = ['\uFEFF']) (before : List Char) :
    (frameLines (mark ++ before)).length = (frameLines before).length ∧
      lastLine (mark ++ before) =
        (if (frameLines before).length = 1 then mark else []) ++ lastLine before := by
  rcases h with rfl | rfl
  · simp
  · exact frameLines_char (by decide) before

/-- A line has something behind a place if no line end stands there. -/
theorem length_headD_frameLines (c : Char) (cs : List Char) :
    ((frameLines (c :: cs)).headD []).length = 0 ↔ isLineEnd c = true := by
  by_cases hpair : c = '\r' → cs.head? ≠ some '\n'
  · obtain ⟨first, parts, hlines⟩ := exists_frameLines_first cs
    rw [frameLines_cons hpair]
    by_cases hc : isLineEnd c = true <;> simp [hc, hlines, consFirst]
  · obtain ⟨rfl, hcs⟩ : c = '\r' ∧ cs.head? = some '\n' := by simpa using hpair
    obtain ⟨rest, rfl⟩ := List.head?_eq_some_iff.mp hcs
    simp [isLineEnd]

end Text

namespace Spot

variable {mark before after : List Char} {c : Char} {frame : CodeFrame}

/-- The lines before the place, its own, and those behind it. -/
theorem exists_frameLines (hmark : mark = [] ∨ mark = ['\uFEFF'])
    (hpair : c = '\n' → before.getLast? ≠ some '\r') (after : List Char) :
    ∃ above below, frameLines (mark ++ (before ++ c :: after)) =
        above ++ (between (mark ++ before) (c :: after)).line :: below ∧
      above.length + 1 = (between (mark ++ before) (c :: after)).number := by
  obtain ⟨above, head, hbefore⟩ := exists_frameLines_last (mark ++ before)
  obtain ⟨tail, below, hafter⟩ := exists_frameLines_first (c :: after)
  refine ⟨above, below, ?_, ?_⟩
  · rw [← List.append_assoc, between, lastLine_eq hbefore, hafter, List.headD_cons]
    refine frameLines_append hbefore hafter fun hc hlast => ?_
    obtain rfl : c = '\n' := Option.some.inj hc
    refine hpair rfl ?_
    rcases hmark with rfl | rfl
    · exact hlast
    · cases before with
      | nil => cases hlast
      | cons d before => simpa [List.getLast?_cons] using hlast
  · rw [between, hbefore, List.length_append, List.length_singleton]

/-- A frame marks the line that it is asked for. -/
theorem exists_find?_render {source : List Char} {line column : Nat} (hline : 1 ≤ line)
    (hlast : line ≤ (frameLines source).length) (hcolumn : 0 < column) :
    ∃ text index, find? (frame.render source line (some column)) = some ⟨line, text, index⟩ := by
  have hlt : line - 1 < (frameLines source).length := by omega
  have hsplit := (List.take_append_drop (line - 1) (frameLines source)).symm
  rw [List.drop_eq_getElem_cons hlt] at hsplit
  have hfind := find?_render frame hsplit hcolumn
  rw [List.length_take, Nat.min_eq_left (by omega), Nat.sub_add_cancel hline] at hfind
  exact ⟨_, _, hfind⟩

/-- Without separators the right line is marked, and the caret stands where the units before the
place reach, but not behind the line. -/
theorem find?_render_of_not_isSeparator (hmark : mark = [] ∨ mark = ['\uFEFF'])
    (hpair : c = '\n' → before.getLast? ≠ some '\r')
    (hsep : before.countP isSeparator = 0) :
    let p := Position.ofOffset (before ++ c :: after) (byteSize before)
    let place := between (mark ++ before) (c :: after)
    find? (frame.render (mark ++ (before ++ c :: after)) p.line (some p.column)) =
      some { place with
        index := min ((lastLine before).length + (lastLine before).countP isWide)
          place.line.length } := by
  intro p place
  obtain ⟨above, below, hlines, hnumber⟩ := exists_frameLines hmark hpair after
  have hover : (⟨1, 1⟩ : Position).Over before p := Position.over_advance ⟨1, 1⟩ after hpair
  have hline : p.line = above.length + 1 := by
    have := hover.line
    have hcount := (frameLines_mark_append hmark before).1
    simp only [between] at hnumber
    dsimp only at this
    omega
  have hcolumn : p.column = 1 + (lastLine before).length + (lastLine before).countP isWide := by
    simpa using hover.column hsep
  have hfind := find?_render frame hlines (show 0 < p.column by omega)
  rw [hline, hfind, hnumber, hcolumn, Nat.add_assoc, Nat.add_sub_cancel_left]

/-- The place is marked if the line is the right one and units and characters come to the same
there. -/
theorem find?_render_eq_between_iff (frame : CodeFrame) (hmark : mark = [] ∨ mark = ['\uFEFF'])
    (hpair : c = '\n' → before.getLast? ≠ some '\r') (after : List Char) :
    let p := Position.ofOffset (before ++ c :: after) (byteSize before)
    find? (frame.render (mark ++ (before ++ c :: after)) p.line (some p.column)) =
        some (between (mark ++ before) (c :: after)) ↔
      (∀ d ∈ before, isSeparator d = false) ∧
        let wide := (lastLine before).countP isWide
        let marks := if (frameLines before).length = 1 then mark.length else 0
        if isLineEnd c then marks ≤ wide else marks = wide := by
  intro p
  obtain ⟨hcount, hlast⟩ := frameLines_mark_append hmark before
  by_cases hsep : before.countP isSeparator = 0
  · have hnone : ∀ d ∈ before, isSeparator d = false := by simpa [List.countP_eq_zero] using hsep
    have hindex : (lastLine (mark ++ before)).length =
        (if (frameLines before).length = 1 then mark.length else 0) + (lastLine before).length := by
      rw [hlast, List.length_append]
      split <;> rfl
    rw [find?_render_of_not_isSeparator hmark hpair hsep]
    rw [and_iff_right hnone]
    simp only [between, Option.some.injEq, Spot.mk.injEq, true_and, List.length_append, hindex]
    have htail := length_headD_frameLines c after
    generalize (if (frameLines before).length = 1 then mark.length else 0) = marks
    by_cases hc : isLineEnd c = true
    · rw [if_pos hc, htail.mpr hc]
      omega
    · have hpos : 0 < ((frameLines (c :: after)).headD []).length :=
        Nat.pos_of_ne_zero fun h => hc (htail.mp h)
      rw [if_neg hc]
      omega
  · -- The line that is told comes too early.
    have hover : (⟨1, 1⟩ : Position).Over before p := Position.over_advance ⟨1, 1⟩ after hpair
    obtain ⟨above, below, hlines, hnumber⟩ := exists_frameLines hmark hpair after
    obtain ⟨hline, hcolumn⟩ : 1 ≤ p.line ∧ 1 ≤ p.column := Position.one_le_ofOffset _ _
    have hearly : p.line < (between (mark ++ before) (c :: after)).number := by
      have := hover.line
      simp only [between]
      dsimp only at this
      omega
    obtain ⟨text, index, hfind⟩ := exists_find?_render hline
      (by rw [hlines, List.length_append, List.length_cons]; omega) hcolumn
    constructor
    · intro h
      rw [hfind] at h
      have := congrArg Spot.number (Option.some.inj h)
      dsimp only at this
      omega
    · rintro ⟨hnone, -⟩
      exact absurd (List.countP_eq_zero.mpr (by simpa using hnone)) hsep

end Spot

/-- The place of a fault is marked in a frame of the content if and only if no separator stands
before it and the wide characters before it in its line are as many as the byte order marks there;
at the end of a line there may be more. -/
theorem Report.frame_marks_iff {f : File} {fault : Fault} {mark before after : List Char} {c : Char}
    (hscript : f.script = f.content) (hparse : Source.parse f.content.toList = .error fault)
    (hcontent : f.content.toList = mark ++ (before ++ c :: after))
    (hcode : Reader.withoutMark f.content.toList = before ++ c :: after)
    (hstart : byteSize before = fault.span.start)
    (hpair : c = '\n' → before.getLast? ≠ some '\r') (stage : Stage) (later : Pipeline) :
    ∃ e, Pipeline.run (stage :: later) f.script = .error (.code e) ∧
      ∃ shown, frame f.content (Blame.ofCodeError f.name e).toFileError =
        escapeTemplate (escapeMarkup shown) ∧
        (Spot.find? shown = some (Spot.between (mark ++ before) (c :: after)) ↔
          (∀ d ∈ before, isSeparator d = false) ∧
            let wide := (lastLine before).countP isWide
            let marks := if (frameLines before).length = 1 then mark.length else 0
            if isLineEnd c then marks ≤ wide else marks = wide) := by
  let p := Position.ofOffset (before ++ c :: after) (byteSize before)
  have hread : Source.read f.script = .error (.malformed fault.cause.message p.line p.column) := by
    obtain ⟨hline, hcolumn⟩ := Position.one_le_ofOffset (before ++ c :: after) (byteSize before)
    rw [hscript, Source.read, hparse]
    change Except.error (Fault.toCodeError f.content.toList fault) = _
    rw [Fault.toCodeError, Reader.ofText, hcode, ← hstart, CodeError.malformedAt,
      Nat.max_eq_left hline, Nat.max_eq_left hcolumn]
  refine ⟨_, Pipeline.run_cons_error (Stage.run_of_read_error hread), _, rfl, ?_⟩
  have hmark : mark = [] ∨ mark = ['\uFEFF'] := Reader.mark_eq (by rw [← hcontent, hcode])
  have hmarked :=
    Spot.find?_render_eq_between_iff { message := some fault.cause.message } hmark hpair
    after
  rw [← hcontent] at hmarked
  exact hmarked

instance decidableForallError {ε α : Type} {x : Except ε α} {P : ε → Prop} [DecidablePred P] :
    Decidable (∀ e, x = .error e → P e) :=
  match x with
  | .ok _ => isTrue nofun
  | .error e => decidable_of_iff (P e) (by simp)

theorem Script.Source.exists_fault (text : List Char) (start : Nat)
    (hok : (Source.parse text).isOk = false) (hspan : ∀ fault, Source.parse text = .error fault →
      start = fault.span.start) :
    ∃ fault, Source.parse text = .error fault ∧ start = fault.span.start := by
  cases hparse : Source.parse text with
  | ok source =>
    rw [hparse] at hok
    cases hok
  | error fault => exact ⟨fault, rfl, hspan fault hparse⟩

/-- A file with a fault behind a wide character, in the first line of a text with a byte order
mark. -/
def faultBehindMark : File :=
  { name := "main", content := "\uFEFF'😀'\t) // a\nb",
    compiled := some { js := some "\uFEFF'😀'\t) // a\nb" } }

theorem Report.frame_marks_iff_faultBehindMark :
    ∃ fault, Source.parse faultBehindMark.content.toList = .error fault ∧
      byteSize "'😀'\t".toList = fault.span.start ∧
      ∃ e, Pipeline.run [.guardLoops 100, .format] faultBehindMark.script = .error (.code e) ∧
        ∃ shown, frame faultBehindMark.content (Blame.ofCodeError "main" e).toFileError =
            escapeTemplate (escapeMarkup shown) ∧
          Spot.find? shown = some (Spot.between "\uFEFF'😀'\t".toList ") // a\nb".toList) := by
  have hcontent : faultBehindMark.content.toList =
      ['\uFEFF'] ++ ("'😀'\t".toList ++ ')' :: " // a\nb".toList) := by
    decide
  obtain ⟨fault, hparse, hstart⟩ :=
    Source.exists_fault faultBehindMark.content.toList (byteSize "'😀'\t".toList)
    (by decide +kernel) (by decide +kernel)
  obtain ⟨e, hrun, shown, hframe, hmarks⟩ :=
    Report.frame_marks_iff rfl hparse hcontent (by decide) hstart (by decide)
    (.guardLoops 100) [.format]
  have hplain : ∀ d ∈ "'😀'\t".toList, isSeparator d = false := by simp [isSeparator]
  exact ⟨fault, hparse, hstart, e, hrun, shown, hframe, hmarks.mpr ⟨hplain, by decide⟩⟩

/-- A file with a fault behind a wide character. -/
def faultBehindWide : File :=
  { name := "main", content := "'😀' )", compiled := some { js := some "'😀' )" } }

/-- The caret stands one character behind the fault. -/
theorem Report.frame_misses_faultBehindWide :
    ∃ fault e shown, Source.parse faultBehindWide.content.toList = .error fault ∧
      byteSize "'😀' ".toList = fault.span.start ∧
      Pipeline.run [.format] faultBehindWide.script = .error (.code e) ∧
      frame faultBehindWide.content (Blame.ofCodeError "main" e).toFileError =
        escapeTemplate (escapeMarkup shown) ∧ Spot.find? shown = some ⟨1, "'😀' )".toList, 5⟩ ∧
      Spot.between "'😀' ".toList ")".toList = ⟨1, "'😀' )".toList, 4⟩ := by
  obtain ⟨fault, hparse, hstart⟩ :=
    Source.exists_fault faultBehindWide.content.toList (byteSize "'😀' ".toList)
    (by decide +kernel) (by decide +kernel)
  have hrun : Pipeline.run [.format] faultBehindWide.script =
      .error (.code (.malformed "Expected ';', '\x7d' or <eof>" 1 6)) := by decide +kernel
  exact ⟨fault, _, _, hparse, hstart, hrun, rfl, by decide +kernel, by decide⟩

end Playground
