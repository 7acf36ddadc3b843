import Playground.Proofs.Text.Lines
import Playground.Text.Position

/-! The lines of a frame and the positions that are told. Both are found in one pass from left to
right, but they do not agree on everything: a line separator or a paragraph separator ends a line of
a frame and no line of a position, and columns count sixteen bit units. `line_ofOffset` and
`column_ofOffset` say how far the two are apart. -/

namespace Playground.Text

/-! ### One pass -/

theorem cutAtPairs_ne_nil (cs : List Char) : cutAtPairs cs ≠ [] := by
  fun_cases cutAtPairs cs with
  | case1 => simp
  | case2 => simp
  | case3 c cs => cases cutAtPairs cs <;> simp [consFirst]

@[simp] theorem frameLines_nil : frameLines [] = [[]] := rfl

/-- A carriage return with its line feed is one line end. -/
@[simp] theorem frameLines_pair (cs : List Char) :
    frameLines ('\r' :: '\n' :: cs) = [] :: frameLines cs := rfl

/-- A carriage return that no line feed follows is in no pair. -/
theorem head?_ne_of_not_pair {c : Char} {cs : List Char}
    (h : ∀ rest, c = '\r' → cs = '\n' :: rest → False) (hc : c = '\r') : cs.head? ≠ some '\n' := by
  intro hcs
  obtain ⟨rest, rfl⟩ := List.head?_eq_some_iff.mp hcs
  exact h rest hc rfl

/-- Any other character ends a line on its own or stands in it. -/
theorem frameLines_cons {c : Char} {cs : List Char} (h : c = '\r' → cs.head? ≠ some '\n') :
    frameLines (c :: cs) =
      if isLineEnd c then [] :: frameLines cs else consFirst c (frameLines cs) := by
  have hcut : cutAtPairs (c :: cs) = consFirst c (cutAtPairs cs) := by
    refine cutAtPairs.eq_3 c cs fun rest hc hcs => h hc ?_
    rw [hcs]
    rfl
  obtain ⟨first, parts, hparts⟩ := List.exists_cons_of_ne_nil (cutAtPairs_ne_nil cs)
  unfold frameLines
  rw [hcut, hparts, consFirst, List.flatMap_cons, List.flatMap_cons, cutAt]
  split
  · rfl
  · rw [consFirst_append c (cutAt_ne_nil isLineEnd first)]

theorem frameLines_ne_nil (cs : List Char) : frameLines cs ≠ [] := by
  obtain ⟨first, parts, hparts⟩ := List.exists_cons_of_ne_nil (cutAtPairs_ne_nil cs)
  simp [frameLines, hparts, cutAt_ne_nil]

/-- The lines before the last one, and the last one. -/
theorem exists_frameLines_last (cs : List Char) : ∃ above head, frameLines cs = above ++ [head] :=
  ⟨_, _, (List.dropLast_append_getLast (frameLines_ne_nil cs)).symm⟩

theorem exists_frameLines_first (cs : List Char) : ∃ tail below, frameLines cs = tail :: below :=
  List.exists_cons_of_ne_nil (frameLines_ne_nil cs)

/-- What stands in the last line of a text. -/
def lastLine (cs : List Char) : List Char := (frameLines cs).getLast?.getD []

/-- A line end brings in a line, and what is in it stays in the last one. -/
theorem frameLines_lineEnd {c : Char} {cs : List Char} (hc : isLineEnd c = true)
    (h : c = '\r' → cs.head? ≠ some '\n') :
    (frameLines (c :: cs)).length = (frameLines cs).length + 1 ∧
      lastLine (c :: cs) = lastLine cs := by
  obtain ⟨first, parts, hlines⟩ := exists_frameLines_first cs
  rw [lastLine, lastLine, frameLines_cons h, if_pos hc, hlines]
  simp

theorem frameLines_pair_last (cs : List Char) :
    (frameLines ('\r' :: '\n' :: cs)).length = (frameLines cs).length + 1 ∧
      lastLine ('\r' :: '\n' :: cs) = lastLine cs := by
  obtain ⟨first, parts, hlines⟩ := exists_frameLines_first cs
  rw [lastLine, lastLine, frameLines_pair, hlines]
  simp

/-- Any other character comes to the first line. -/
theorem frameLines_char {c : Char} (hc : isLineEnd c = false) (cs : List Char) :
    (frameLines (c :: cs)).length = (frameLines cs).length ∧
      lastLine (c :: cs) = (if (frameLines cs).length = 1 then [c] else []) ++ lastLine cs := by
  have h : c = '\r' → cs.head? ≠ some '\n' := by
    rintro rfl
    cases hc
  obtain ⟨first, parts, hlines⟩ := exists_frameLines_first cs
  rw [lastLine, lastLine, frameLines_cons h, if_neg (by simp [hc]), hlines, consFirst]
  cases parts <;> simp

theorem lastLine_eq {cs head : List Char} {above : List (List Char)}
    (h : frameLines cs = above ++ [head]) :
    lastLine cs = head := by
  simp [lastLine, h]

/-- Texts are put together inside a line, if not inside a line end. -/
theorem frameLines_append {xs ys : List Char} {above below : List (List Char)}
    {head tail : List Char} (hx : frameLines xs = above ++ [head])
    (hy : frameLines ys = tail :: below) (h : ys.head? = some '\n' → xs.getLast? ≠ some '\r') :
    frameLines (xs ++ ys) = above ++ (head ++ tail) :: below := by
  induction xs using cutAtPairs.induct generalizing above head with
  | case1 =>
    obtain ⟨rfl, rfl⟩ : above = [] ∧ head = [] := by
      cases above <;> simp_all
    simpa using hy
  | case2 cs ih =>
    obtain ⟨above', head', hcs⟩ := exists_frameLines_last cs
    have hsplit : ([] :: above') ++ [head'] = above ++ [head] := by simpa [hcs] using hx
    obtain ⟨rfl, heq⟩ := List.append_inj' hsplit rfl
    cases heq
    simpa using ih hcs fun hy hlast => h hy (by simp [List.getLast?_cons, hlast])
  | case3 c cs hpair ih =>
    have hsingle := head?_ne_of_not_pair hpair
    have hsingle' : c = '\r' → (cs ++ ys).head? ≠ some '\n' := fun hc hhead => by
      cases cs with
      | nil => exact h hhead (by rw [hc]; rfl)
      | cons d cs => exact hsingle hc hhead
    obtain ⟨above', head', hcs⟩ := exists_frameLines_last cs
    have hrest := ih hcs fun hy hlast => h hy (by simp [List.getLast?_cons, hlast])
    rw [frameLines_cons hsingle, hcs] at hx
    rw [List.cons_append, frameLines_cons hsingle', hrest]
    by_cases hc : isLineEnd c
    · rw [if_pos hc] at hx ⊢
      have hsplit : ([] :: above') ++ [head'] = above ++ [head] := hx
      obtain ⟨rfl, heq⟩ := List.append_inj' hsplit rfl
      cases heq
      rfl
    · rw [if_neg hc] at hx ⊢
      cases above' with
      | nil =>
        have hsplit : [] ++ [c :: head'] = above ++ [head] := hx
        obtain ⟨rfl, heq⟩ := List.append_inj' hsplit rfl
        cases heq
        rfl
      | cons a above' =>
        have hsplit : ((c :: a) :: above') ++ [head'] = above ++ [head] := hx
        obtain ⟨rfl, heq⟩ := List.append_inj' hsplit rfl
        cases heq
        rfl

/-- No line has a line end in it. -/
theorem not_isLineEnd_of_mem_frameLines {cs l : List Char} (hl : l ∈ frameLines cs) :
    ∀ c ∈ l, isLineEnd c = false := by
  obtain ⟨part, -, hmem⟩ := List.mem_flatMap.mp hl
  exact fun c hc => (mem_of_mem_cutAt hmem hc).2

/-! ### Positions -/

/-- Characters that end a line of a frame and no line of a position. -/
def isSeparator (c : Char) : Bool := c.toNat = 0x2028 || c.toNat = 0x2029

/-- Characters of two units. -/
def isWide (c : Char) : Bool := 0xFFFF < c.toNat

theorem unitSize_eq (c : Char) : unitSize c = 1 + [c].countP isWide := by
  unfold unitSize
  by_cases h : c.toNat < 0x10000
  · simp [h, isWide, Nat.le_of_lt_succ h]
  · simp [h, isWide, Nat.lt_of_not_le fun h' => h (Nat.lt_succ_of_le h')]

theorem Position.advance_end {p : Position} {c : Char} {cs : List Char} (n : Nat)
    (h : endsLine c cs = true) (hcs : cs ≠ []) :
    p.advance (c :: cs) (c.utf8Size + n) = advance ⟨p.line + 1, 1⟩ cs n := by
  have := Char.utf8Size_pos c
  rw [advance, if_neg (by omega), if_pos (by simp [h, hcs]), Nat.add_sub_cancel_left]

theorem Position.advance_char {p : Position} {c : Char} {cs : List Char} (n : Nat)
    (h : endsLine c cs = false) :
    p.advance (c :: cs) (c.utf8Size + n) = advance ⟨p.line, p.column + unitSize c⟩ cs n := by
  have := Char.utf8Size_pos c
  rw [advance, if_neg (by omega), if_neg (by simp [h]), Nat.add_sub_cancel_left]

theorem isLineEnd_eq {c : Char} {cs : List Char} (h : c = '\r' → cs.head? ≠ some '\n') :
    isLineEnd c = (endsLine c cs || isSeparator c) := by
  unfold isLineEnd endsLine isSeparator
  by_cases hr : c = '\r'
  · simp [hr, h hr]
  · simp [hr, Bool.or_assoc]

theorem isLineEnd_of_isSeparator {c : Char} (h : isSeparator c = true) : isLineEnd c = true := by
  simp only [isSeparator, Bool.or_eq_true] at h
  simp only [isLineEnd, Bool.or_assoc, Bool.or_eq_true]
  exact .inr (.inr h)

theorem not_isSeparator_of_endsLine {c : Char} {cs : List Char} (h : endsLine c cs = true) :
    isSeparator c = false := by
  unfold endsLine at h
  rcases Bool.or_eq_true_iff.mp h with h | h
  · obtain rfl : c = '\n' := by simpa using h
    rfl
  · obtain ⟨rfl, -⟩ : c = '\r' ∧ _ := by simpa using h
    rfl

/-- What goes over `before` from the position `p` on: all lines of a frame but those that separators
end, and, if there are none, all characters of the last line, the wide ones twice. -/
structure Position.Over (p : Position) (before : List Char) (q : Position) : Prop where
  line : q.line + before.countP isSeparator + 1 = p.line + (frameLines before).length
  column : before.countP isSeparator = 0 →
    q.column = (if (frameLines before).length = 1 then p.column else 1) + (lastLine before).length +
      (lastLine before).countP isWide

namespace Position.Over

variable {p q : Position} {cs : List Char} {c : Char}

theorem nil (p : Position) : Over p [] p := ⟨rfl, fun _ => rfl⟩

/-- Behind a line end of both, columns begin again. -/
theorem newLine {cs' : List Char} (hlines : (frameLines cs').length = (frameLines cs).length + 1)
    (hlast : lastLine cs' = lastLine cs) (hsep : cs'.countP isSeparator = cs.countP isSeparator)
    (h : Over ⟨p.line + 1, 1⟩ cs q) : Over p cs' q := by
  obtain ⟨hline, hcolumn⟩ := h
  have hpos := List.length_pos_of_ne_nil (frameLines_ne_nil cs)
  constructor
  · rw [hsep, hlines]
    dsimp only at hline
    omega
  · rw [hsep, hlines, hlast, if_neg (by omega)]
    simpa using hcolumn

theorem separator (hsep : isSeparator c = true) (h : Over ⟨p.line, p.column + unitSize c⟩ cs q) :
    Over p (c :: cs) q := by
  have hpair : c = '\r' → cs.head? ≠ some '\n' := by
    rintro rfl
    cases hsep
  obtain ⟨hlines, -⟩ := frameLines_lineEnd (isLineEnd_of_isSeparator hsep) hpair
  have hcount : (c :: cs).countP isSeparator = cs.countP isSeparator + 1 := by simp [hsep]
  constructor
  · have hline := h.line
    rw [hcount, hlines]
    dsimp only at hline
    omega
  · intro hnone
    omega

theorem char (hc : isLineEnd c = false) (h : Over ⟨p.line, p.column + unitSize c⟩ cs q) :
    Over p (c :: cs) q := by
  have hsep : isSeparator c = false := by
    by_contra h
    rw [isLineEnd_of_isSeparator (by simpa using h)] at hc
    cases hc
  obtain ⟨hlines, hlast⟩ := frameLines_char hc cs
  have hcount : (c :: cs).countP isSeparator = cs.countP isSeparator := by simp [hsep]
  obtain ⟨hline, hcolumn⟩ := h
  constructor
  · rw [hcount, hlines]
    exact hline
  · intro hnone
    rw [hlast, hlines, hcolumn (by omega)]
    by_cases hone : (frameLines cs).length = 1
    · rw [if_pos hone, if_pos hone, if_pos hone, List.countP_append,
        List.length_append, unitSize_eq]
      simp only [List.length_singleton]
      omega
    · rw [if_neg hone, if_neg hone, if_neg hone, List.nil_append]

end Position.Over

theorem Position.over_advance (p : Position) {before : List Char} {c : Char} (after : List Char)
    (h : c = '\n' → before.getLast? ≠ some '\r') :
    p.Over before (p.advance (before ++ c :: after) (byteSize before)) := by
  induction before using cutAtPairs.induct generalizing p with
  | case1 => simpa [advance] using Over.nil p
  | case2 cs ih =>
    have hrest := ih ⟨p.line + 1, 1⟩ fun hc hlast => h hc (by simp [List.getLast?_cons, hlast])
    obtain ⟨hlines, hlast⟩ := frameLines_pair_last cs
    rw [byteSize_cons, byteSize_cons, List.cons_append, List.cons_append, advance_char _ rfl,
      advance_end _ rfl (by simp)]
    exact hrest.newLine hlines hlast (by simp [isSeparator])
  | case3 d cs hpair ih =>
    have hsingle := head?_ne_of_not_pair hpair
    have hsingle' : d = '\r' → (cs ++ c :: after).head? ≠ some '\n' := fun hd hhead => by
      cases cs with
      | nil => exact h (Option.some.inj hhead) (by rw [hd]; rfl)
      | cons e cs => exact hsingle hd hhead
    have hrest (p : Position) := ih p fun hc hlast => h hc (by simp [List.getLast?_cons, hlast])
    rw [byteSize_cons, List.cons_append]
    cases hend : endsLine d (cs ++ c :: after) with
    | true =>
      have hd : isLineEnd d = true := by rw [isLineEnd_eq hsingle', hend, Bool.true_or]
      rw [advance_end _ hend (by simp)]
      obtain ⟨hlines, hlast⟩ := frameLines_lineEnd hd hsingle
      exact (hrest _).newLine hlines hlast (by simp [not_isSeparator_of_endsLine hend])
    | false =>
      rw [advance_char _ hend]
      cases hsep : isSeparator d with
      | true => exact (hrest _).separator hsep
      | false => exact (hrest _).char (by rw [isLineEnd_eq hsingle', hend, hsep, Bool.or_false])

end Playground.Text
