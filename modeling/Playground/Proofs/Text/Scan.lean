import Playground.Proofs.Text.FrameLines

/-! Lines in one pass. A frame cuts its source at the pairs of carriage return and line feed first,
and then each part at the other line ends. `scan` reads the source from left to right and ends a
line wherever a line end begins. Both find the same lines, and as `scan` keeps what ended them,
nothing is lost. -/

namespace Playground.Text

/-- What ends a line: a carriage return with its line feed, or one of four characters alone. -/
inductive LineEnd
  | pair
  | feed
  | return
  | lineSeparator
  | paragraphSeparator
deriving DecidableEq

def LineEnd.chars : LineEnd → List Char
  | .pair => ['\r', '\n']
  | .feed => ['\n']
  | .return => ['\r']
  | .lineSeparator => ['\u2028']
  | .paragraphSeparator => ['\u2029']

/-- What a character ends a line as when it stands alone. -/
def LineEnd.single? : Char → Option LineEnd
  | '\n' => some .feed
  | '\r' => some .return
  | '\u2028' => some .lineSeparator
  | '\u2029' => some .paragraphSeparator
  | _ => none

/-- The characters that end a line alone. -/
def terminators : List Char := ['\n', '\r', '\u2028', '\u2029']

theorem isLineEnd_eq_mem (c : Char) : isLineEnd c = decide (c ∈ terminators) := by
  have hnat (d : Char) : decide (c.toNat = d.toNat) = decide (c = d) := by
    rw [decide_eq_decide]
    exact ⟨fun h => Char.ext (UInt32.toNat_inj.mp h), congrArg Char.toNat⟩
  have hline : decide (c.toNat = 0x2028) = decide (c = '\u2028') := hnat '\u2028'
  have hparagraph : decide (c.toNat = 0x2029) = decide (c = '\u2029') := hnat '\u2029'
  rw [isLineEnd, hline, hparagraph]
  simp [terminators, Bool.or_assoc]

theorem LineEnd.chars_of_single? {c : Char} {e : LineEnd} (h : single? c = some e) :
    e.chars = [c] ∧ c ∈ terminators := by
  unfold single? at h
  split at h <;> cases h <;> exact ⟨rfl, by decide⟩

theorem LineEnd.not_mem_of_single? {c : Char} (h : single? c = none) : c ∉ terminators := by
  intro hc
  simp only [terminators, List.mem_cons, List.not_mem_nil, or_false] at hc
  rcases hc with rfl | rfl | rfl | rfl <;> cases h

/-- A text that was read: the lines that ended, each with its end, and the line that nothing
ended. -/
structure Scanned where
  ended : List (List Char × LineEnd)
  last : List Char

namespace Scanned

def lines (s : Scanned) : List (List Char) := s.ended.map Prod.fst ++ [s.last]

def ends (s : Scanned) : List LineEnd := s.ended.map Prod.snd

/-- The text with a line before it. -/
def after (s : Scanned) (line : List Char) (e : LineEnd) : Scanned :=
  { s with ended := (line, e) :: s.ended }

variable (s : Scanned) (line : List Char) (e : LineEnd)

@[simp] theorem lines_after : (s.after line e).lines = line :: s.lines := rfl

@[simp] theorem ends_after : (s.after line e).ends = e :: s.ends := rfl

theorem length_lines : s.lines.length = s.ends.length + 1 := by simp [lines, ends]

end Scanned

/-- Reads a text from left to right; `line` is what was read of the line that is open. -/
def scan (line : List Char) : List Char → Scanned
  | [] => ⟨[], line⟩
  | '\r' :: '\n' :: cs => (scan [] cs).after line .pair
  | c :: cs =>
    match LineEnd.single? c with
    | some e => (scan [] cs).after line e
    | none => scan (line ++ [c]) cs

/-- Lines with the ends put in behind them, one after the other. -/
def insertEnds : List (List Char) → List LineEnd → List Char
  | line :: lines, e :: ends => line ++ e.chars ++ insertEnds lines ends
  | lines, [] => lines.flatten
  | [], _ :: _ => []

/-- The open line is continued by the first line of the text that is left. -/
theorem lines_scan (line cs : List Char) {first : List Char} {rest : List (List Char)}
    (h : frameLines cs = first :: rest) : (scan line cs).lines = (line ++ first) :: rest := by
  fun_induction scan line cs generalizing first rest with
  | case1 line =>
    cases h
    simp [Scanned.lines]
  | case2 line cs ih =>
    obtain ⟨next, below, hcs⟩ := exists_frameLines_first cs
    rw [frameLines_pair, hcs] at h
    cases h
    rw [Scanned.lines_after, ih hcs, List.append_nil, List.nil_append]
  | case3 line c cs hpair e he ih =>
    have hc : isLineEnd c = true := by
      rw [isLineEnd_eq_mem]
      exact decide_eq_true (LineEnd.chars_of_single? he).2
    obtain ⟨next, below, hcs⟩ := exists_frameLines_first cs
    rw [frameLines_cons (head?_ne_of_not_pair hpair), if_pos hc, hcs] at h
    cases h
    rw [Scanned.lines_after, ih hcs, List.append_nil, List.nil_append]
  | case4 line c cs hpair he ih =>
    have hc : isLineEnd c = false := by
      rw [isLineEnd_eq_mem]
      exact decide_eq_false (LineEnd.not_mem_of_single? he)
    obtain ⟨next, below, hcs⟩ := exists_frameLines_first cs
    rw [frameLines_cons (head?_ne_of_not_pair hpair), if_neg (by simp [hc]), hcs] at h
    cases h
    rw [ih hcs, List.append_assoc, List.singleton_append]

theorem frameLines_eq_lines_scan (cs : List Char) : frameLines cs = (scan [] cs).lines := by
  obtain ⟨first, rest, h⟩ := exists_frameLines_first cs
  rw [lines_scan [] cs h, h, List.nil_append]

theorem insertEnds_scan (line cs : List Char) :
    insertEnds (scan line cs).lines (scan line cs).ends = line ++ cs := by
  fun_induction scan line cs with
  | case1 line => simp [Scanned.lines, Scanned.ends, insertEnds]
  | case2 line cs ih => simp [insertEnds, LineEnd.chars, ih]
  | case3 line c cs hpair e he ih => simp [insertEnds, (LineEnd.chars_of_single? he).1, ih]
  | case4 line c cs hpair he ih => simp [ih]

/-- The ends are all that ends a line in the text, in its order. -/
theorem flatMap_ends_scan (line cs : List Char) :
    (scan line cs).ends.flatMap LineEnd.chars = cs.filter (· ∈ terminators) := by
  fun_induction scan line cs with
  | case1 line => rfl
  | case2 line cs ih =>
    rw [Scanned.ends_after, List.flatMap_cons, ih]
    rfl
  | case3 line c cs hpair e he ih =>
    obtain ⟨hchars, hmem⟩ := LineEnd.chars_of_single? he
    rw [Scanned.ends_after, List.flatMap_cons, ih, hchars,
      List.filter_cons_of_pos (by simpa using hmem)]
    rfl
  | case4 line c cs hpair he ih =>
    rw [ih, List.filter_cons_of_neg (by simpa using LineEnd.not_mem_of_single? he)]

/-- Cutting a text at the pairs and then at the other line ends gives the lines that one pass finds.
So no line has a line feed, a carriage return, a line separator or a paragraph separator in it,
there is one line more than there are ends, which are all the ends of the text, and put in again
they give the text. -/
theorem frameLines_eq_scan (cs : List Char) :
    frameLines cs = (scan [] cs).lines ∧ (∀ line ∈ frameLines cs, ∀ c ∈ line, c ∉ terminators) ∧
      (frameLines cs).length = (scan [] cs).ends.length + 1 ∧
      (scan [] cs).ends.flatMap LineEnd.chars = cs.filter (· ∈ terminators) ∧
      insertEnds (frameLines cs) (scan [] cs).ends = cs := by
  refine ⟨frameLines_eq_lines_scan cs, fun line hline c hc => ?_, ?_, flatMap_ends_scan [] cs, ?_⟩
  · have hend := not_isLineEnd_of_mem_frameLines hline c hc
    rwa [isLineEnd_eq_mem, decide_eq_false_iff_not] at hend
  · rw [frameLines_eq_lines_scan, Scanned.length_lines]
  · rw [frameLines_eq_lines_scan, insertEnds_scan, List.nil_append]

/-- A lone carriage return, a pair, a lone line feed and a separator end a line each. -/
example : frameLines ['a', '\r', '\r', '\n', '\n', '\u2028'] = [['a'], [], [], [], []] ∧
    (scan [] ['a', '\r', '\r', '\n', '\n', '\u2028']).ends =
      [.return, .pair, .feed, .lineSeparator] := by
  decide

end Playground.Text
