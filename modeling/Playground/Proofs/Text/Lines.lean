import Mathlib.Data.List.DropRight
import Mathlib.Data.List.Induction
import Playground.Text.Blank
import Playground.Text.Lines

/-! Blanks at the ends of a text, its lines, and its parts between marks: how trimming and cutting
act on texts that are put together. -/

namespace Playground.Text

theorem forall_eq_false_of_any {p : Char → Bool} {cs : List Char} (h : cs.any p = false) :
    ∀ c ∈ cs, p c = false := by
  simpa using h

/-- There is nothing to be seen in the text. -/
def AllBlank (cs : List Char) : Prop := ∀ c ∈ cs, isBlank c = true

theorem AllBlank.append {xs ys : List Char} (hx : AllBlank xs) (hy : AllBlank ys) :
    AllBlank (xs ++ ys) :=
  List.forall_mem_append.mpr ⟨hx, hy⟩

theorem AllBlank.not_mem {w : List Char} (h : AllBlank w) {c : Char} (hc : isBlank c = false) :
    c ∉ w := by
  intro hmem
  rw [h c hmem] at hc
  cases hc

/-! ### Trimming -/

/-- What can be seen comes first in the text and last. -/
structure Trimmed (cs : List Char) : Prop where
  first : ∀ c ∈ cs.head?, isBlank c = false
  last : ∀ c ∈ cs.getLast?, isBlank c = false

theorem trimStart_append {w : List Char} (h : AllBlank w) (cs : List Char) :
    trimStart (w ++ cs) = trimStart cs :=
  List.dropWhile_append_of_pos h

theorem trimStart_eq_self {cs : List Char}
    (h : ∀ c ∈ cs.head?, isBlank c = false) : trimStart cs = cs := by
  cases cs with
  | nil => rfl
  | cons c cs => exact List.dropWhile_cons_of_neg (by simp [h c rfl])

theorem trimEnd_eq_nil_iff {cs : List Char} : trimEnd cs = [] ↔ AllBlank cs :=
  List.rdropWhile_eq_nil_iff

theorem trimEnd_eq_self {cs : List Char}
    (h : ∀ c ∈ cs.getLast?, isBlank c = false) : trimEnd cs = cs := by
  refine List.rdropWhile_eq_self_iff.mpr fun hne => ?_
  simp [h _ (List.getLast?_eq_some_getLast hne)]

/-- Only if the second part is blank does trimming reach the first one. -/
theorem trimEnd_append (xs ys : List Char) :
    trimEnd (xs ++ ys) = if trimEnd ys = [] then trimEnd xs else xs ++ trimEnd ys := by
  unfold trimEnd
  rw [List.reverse_append, List.dropWhile_append]
  by_cases h : ys.reverse.dropWhile isBlank = []
  · simp [h]
  · simp [h, List.reverse_append]

theorem trimEnd_append_of_blank {w : List Char} (h : AllBlank w) (cs : List Char) :
    trimEnd (cs ++ w) = trimEnd cs := by
  rw [trimEnd_append, if_pos (trimEnd_eq_nil_iff.mpr h)]

/-- The end of a text shows in what is left of both ends. -/
theorem trimEnd_append_inj {xs a b : List Char} (h : trimEnd (xs ++ a) = trimEnd (xs ++ b)) :
    trimEnd a = trimEnd b := by
  have hlen : (trimEnd xs).length ≤ xs.length := (List.rdropWhile_prefix _ _).length_le
  rw [trimEnd_append, trimEnd_append] at h
  split at h <;> split at h
  · rename_i ha hb
    rw [ha, hb]
  · rename_i hb
    have := congrArg List.length h
    rw [List.length_append] at this
    exact absurd (List.eq_nil_of_length_eq_zero (by omega)) hb
  · rename_i ha _
    have := congrArg List.length h
    rw [List.length_append] at this
    exact absurd (List.eq_nil_of_length_eq_zero (by omega)) ha
  · exact List.append_cancel_left h

theorem trim_eq_trimEnd {cs : List Char} (h : ∀ c ∈ cs.head?, isBlank c = false) :
    trim cs = trimEnd cs := by
  rw [trim, trimStart_eq_self h]

theorem Trimmed.trim_eq {cs : List Char} (h : Trimmed cs) : trim cs = cs := by
  rw [trim, trimStart_eq_self h.first, trimEnd_eq_self h.last]

theorem trimmed_trim (cs : List Char) : Trimmed (trim cs) := by
  constructor
  · intro c hc
    -- What is left at the end is a beginning of what is left at the start.
    obtain ⟨rest, hrest⟩ : trim cs <+: trimStart cs := List.rdropWhile_prefix _ _
    have hhead : (trimStart cs).head? = some c := by rw [← hrest, List.head?_append, hc]; rfl
    have := List.head?_dropWhile_not isBlank cs
    rw [show cs.dropWhile isBlank = trimStart cs from rfl, hhead] at this
    exact this
  · intro c hc
    have hne : trim cs ≠ [] := by
      intro hnil
      rw [hnil] at hc
      cases hc
    rw [List.getLast?_eq_some_getLast hne] at hc
    cases hc
    exact Bool.eq_false_iff.mpr (List.rdropWhile_last_not isBlank (trimStart cs) hne)

theorem trim_eq_self_iff {cs : List Char} : trim cs = cs ↔ Trimmed cs :=
  ⟨fun h => h ▸ trimmed_trim cs, Trimmed.trim_eq⟩

theorem trim_eq_nil {w : List Char} (h : AllBlank w) : trim w = [] :=
  trimEnd_eq_nil_iff.mpr fun c hc => h c ((List.dropWhile_suffix _).subset hc)

theorem trim_blank_append {w : List Char} (h : AllBlank w) (cs : List Char) :
    trim (w ++ cs) = trim cs := by
  rw [trim, trimStart_append h, trim]

theorem trim_append_blank {w : List Char} (h : AllBlank w) (cs : List Char) :
    trim (cs ++ w) = trim cs := by
  unfold trim trimStart
  rw [List.dropWhile_append]
  split
  · rename_i hcs
    rw [List.isEmpty_iff.mp hcs]
    exact trim_eq_nil h
  · exact trimEnd_append_of_blank h _

theorem trim_append_trimEnd (xs ys : List Char) : trim (xs ++ trimEnd ys) = trim (xs ++ ys) := by
  have hends : trimEnd ys ++ ys.rtakeWhile isBlank = ys := List.rdropWhile_append_rtakeWhile
  conv_rhs => rw [← hends, ← List.append_assoc]
  exact (trim_append_blank (fun c hc => List.mem_rtakeWhile_imp hc) _).symm

/-- A text is what trimming leaves of it, with blanks around. -/
theorem exists_blanks (cs : List Char) :
    ∃ w v : List Char, AllBlank w ∧ AllBlank v ∧ cs = w ++ (trim cs ++ v) := by
  refine ⟨cs.takeWhile isBlank, (trimStart cs).rtakeWhile isBlank,
    fun c hc => List.mem_takeWhile_imp hc, fun c hc => List.mem_rtakeWhile_imp hc, ?_⟩
  have hend : trim cs ++ (trimStart cs).rtakeWhile isBlank = trimStart cs :=
    List.rdropWhile_append_rtakeWhile
  rw [hend]
  exact List.takeWhile_append_dropWhile.symm

/-! ### Lines -/

theorem consFirst_append (c : Char) {ls : List (List Char)} (h : ls ≠ []) (ms : List (List Char)) :
    consFirst c (ls ++ ms) = consFirst c ls ++ ms := by
  obtain ⟨l, ls, rfl⟩ := List.exists_cons_of_ne_nil h
  rfl

theorem cutAt_ne_nil (ends : Char → Bool) (cs : List Char) : cutAt ends cs ≠ [] := by
  cases cs with
  | nil => simp [cutAt]
  | cons c cs =>
    unfold cutAt
    split
    · simp
    · cases cutAt ends cs <;> simp [consFirst]

theorem cutAt_append {ends : Char → Bool} {c : Char} (hc : ends c = true) (xs ys : List Char) :
    cutAt ends (xs ++ c :: ys) = cutAt ends xs ++ cutAt ends ys := by
  induction xs with
  | nil => simp [cutAt, hc]
  | cons x xs ih =>
    by_cases hx : ends x
    · simp [cutAt, hx, ih]
    · simp [cutAt, hx, ih, consFirst_append x (cutAt_ne_nil ends xs)]

theorem cutAt_of_forall {ends : Char → Bool} {cs : List Char}
    (h : ∀ c ∈ cs, ends c = false) : cutAt ends cs = [cs] := by
  induction cs with
  | nil => rfl
  | cons c cs ih =>
    obtain ⟨hc, hcs⟩ := List.forall_mem_cons.mp h
    simp [cutAt, hc, ih hcs, consFirst]

/-- What ends no line stays with the first line of the rest. -/
theorem cutAt_append_of_forall {ends : Char → Bool} {xs ys l : List Char} {ls : List (List Char)}
    (h : ∀ c ∈ xs, ends c = false) (hy : cutAt ends ys = l :: ls) :
    cutAt ends (xs ++ ys) = (xs ++ l) :: ls := by
  induction xs with
  | nil => exact hy
  | cons c xs ih =>
    obtain ⟨hc, hxs⟩ := List.forall_mem_cons.mp h
    simp [cutAt, hc, ih hxs, consFirst]

theorem cutAt_of_not_mem {d : Char} {cs : List Char} (h : d ∉ cs) : cutAt (· = d) cs = [cs] := by
  refine cutAt_of_forall fun c hc => decide_eq_false ?_
  rintro rfl
  exact h hc

theorem mem_of_mem_cutAt {ends : Char → Bool} {cs l : List Char} (hl : l ∈ cutAt ends cs)
    {c : Char} (hc : c ∈ l) :
    c ∈ cs ∧ ends c = false := by
  induction cs generalizing l with
  | nil =>
    obtain rfl : l = [] := by simpa [cutAt] using hl
    cases hc
  | cons d cs ih =>
    unfold cutAt at hl
    split at hl
    · rcases List.mem_cons.mp hl with rfl | hl
      · cases hc
      · exact ⟨List.mem_cons_of_mem d (ih hl hc).1, (ih hl hc).2⟩
    · rename_i hd
      obtain ⟨first, parts, hparts⟩ := List.exists_cons_of_ne_nil (cutAt_ne_nil ends cs)
      rw [hparts] at hl ih
      rcases List.mem_cons.mp hl with rfl | hl
      · rcases List.mem_cons.mp hc with rfl | hc
        · exact ⟨List.mem_cons_self, by simpa using hd⟩
        · exact ⟨List.mem_cons_of_mem d (ih List.mem_cons_self hc).1, (ih List.mem_cons_self hc).2⟩
      · have := ih (List.mem_cons_of_mem first hl) hc
        exact ⟨List.mem_cons_of_mem d this.1, this.2⟩

/-- No line has a line feed in it. -/
theorem not_mem_of_mem_lines {cs l : List Char} (hl : l ∈ lines cs) : '\n' ∉ l := by
  have hpart : ∀ part ∈ cutAt (· = '\n') cs, '\n' ∉ part := fun part hp hc => by
    simpa using (mem_of_mem_cutAt hp hc).2
  rcases List.mem_append.mp hl with hl | hl
  · obtain ⟨part, hp, rfl⟩ := List.mem_map.mp hl
    have hsub : ∀ c ∈ dropReturn part, c ∈ part := by
      intro c hc
      unfold dropReturn at hc
      split at hc
      · exact List.dropLast_subset part hc
      · exact hc
    exact fun hc => hpart part (List.dropLast_subset _ hp) (hsub _ hc)
  · rw [Option.mem_toList] at hl
    exact hpart l (List.mem_of_getLast? (Option.mem_filter_iff.mp hl).1)

/-- What holds of texts without the mark, and is kept when such a text and the mark are put in
front, holds of every text. -/
theorem mark_induction (mark : Char) {motive : List Char → Prop} (last : ∀ l, mark ∉ l → motive l)
    (more : ∀ l rest, mark ∉ l → motive rest → motive (l ++ mark :: rest))
    (text : List Char) : motive text := by
  induction hlen : text.length using Nat.strong_induction_on generalizing text with
  | _ n ih =>
    by_cases hmem : mark ∈ text
    · obtain ⟨l, rest, rfl, hl⟩ := List.eq_append_cons_of_mem hmem
      exact more l rest hl (ih rest.length (by simp [← hlen]; omega) rest rfl)
    · exact last text hmem

theorem lines_of_not_mem {l : List Char} (hfeed : '\n' ∉ l) :
    lines l = if l = [] then [] else [l] := by
  unfold lines
  rw [cutAt_of_not_mem hfeed]
  by_cases h : l = [] <;> simp [h]

/-- A line that a line feed ends is without the carriage return before it. -/
theorem lines_append {l : List Char} (hfeed : '\n' ∉ l) (rest : List Char) :
    lines (l ++ '\n' :: rest) = dropReturn l :: lines rest := by
  obtain ⟨part, parts, hparts⟩ := List.exists_cons_of_ne_nil (cutAt_ne_nil (· = '\n') rest)
  unfold lines
  rw [cutAt_append (by simp), cutAt_of_not_mem hfeed, hparts]
  simp [List.getLast?_cons]

theorem dropReturn_eq_self {l : List Char} (h : l.getLast? ≠ some '\r') : dropReturn l = l :=
  if_neg h

/-- A line that a line feed ends. -/
theorem lines_append_feed {l : List Char} (hfeed : '\n' ∉ l) (hreturn : l.getLast? ≠ some '\r')
    (rest : List Char) :
    lines (l ++ '\n' :: rest) = l :: lines rest := by
  rw [lines_append hfeed, dropReturn_eq_self hreturn]

theorem lines_eq_nil_iff {cs : List Char} : lines cs = [] ↔ cs = [] := by
  constructor
  · intro h
    induction cs using mark_induction '\n' with
    | last l hl =>
      rw [lines_of_not_mem hl] at h
      by_contra hne
      rw [if_neg hne] at h
      cases h
    | more l rest hl _ =>
      rw [lines_append hl] at h
      cases h
  · rintro rfl
    rfl

theorem forall_mem_intercalate {p : Char → Prop} {sep : List Char} {xs : List (List Char)}
    (hsep : ∀ c ∈ sep, p c) (hxs : ∀ x ∈ xs, ∀ c ∈ x, p c) : ∀ c ∈ sep.intercalate xs, p c := by
  induction xs with
  | nil => simp
  | cons x xs ih =>
    obtain ⟨hx, hxs⟩ := List.forall_mem_cons.mp hxs
    cases xs with
    | nil => simpa using hx
    | cons y xs =>
      rw [List.intercalate_cons_cons]
      exact List.forall_mem_append.mpr ⟨List.forall_mem_append.mpr ⟨hx, hsep⟩, ih hxs⟩

@[simp] theorem unlines_nil : unlines [] = [] := rfl

@[simp] theorem unlines_singleton (l : List Char) : unlines [l] = l := by simp [unlines]

theorem unlines_cons (l : List Char) {ls : List (List Char)} (h : ls ≠ []) :
    unlines (l :: ls) = l ++ '\n' :: unlines ls := by
  obtain ⟨m, ls, rfl⟩ := List.exists_cons_of_ne_nil h
  simp [unlines, List.intercalate_cons_cons]

/-- After a line comes nothing, or a line feed and then the other lines. -/
theorem exists_unlines_cons (l : List Char) (ls : List (List Char)) :
    ∃ w, AllBlank w ∧ unlines (l :: ls) = l ++ (w ++ unlines ls) ∧
      ((w = [] ∧ ls = []) ∨ (w = ['\n'] ∧ ls ≠ [])) := by
  by_cases h : ls = []
  · exact ⟨[], by simp [AllBlank], by simp [h], .inl ⟨rfl, h⟩⟩
  · exact ⟨['\n'], by simp [AllBlank]; decide, unlines_cons l h, .inr ⟨rfl, h⟩⟩

theorem unlines_append {ls ms : List (List Char)} (hl : ls ≠ []) (hm : ms ≠ []) :
    unlines (ls ++ ms) = unlines ls ++ '\n' :: unlines ms := by
  induction ls with
  | nil => exact absurd rfl hl
  | cons l ls ih =>
    cases ls with
    | nil => simp [unlines_cons l hm]
    | cons l' ls =>
      rw [List.cons_append, unlines_cons l (by simp), ih (by simp), unlines_cons l (by simp)]
      simp

theorem unlines_map_unlines {lss : List (List (List Char))} (h : ∀ ls ∈ lss, ls ≠ []) :
    unlines (lss.map unlines) = unlines lss.flatten := by
  induction lss with
  | nil => rfl
  | cons ls lss ih =>
    obtain ⟨hls, hlss⟩ := List.forall_mem_cons.mp h
    cases lss with
    | nil => simp
    | cons ls' lss =>
      have hne : (ls' :: lss).flatten ≠ [] := by simp [hlss ls' List.mem_cons_self]
      rw [List.map_cons, unlines_cons _ (by simp), ih hlss, ← unlines_append hls hne]
      rfl

/-- The text can be a line: it has no line feed in it, and no carriage return at its end. -/
structure IsLine (l : List Char) : Prop where
  feed : '\n' ∉ l
  last : l.getLast? ≠ some '\r'

theorem isLine_of_forall {l : List Char} (h : ∀ c ∈ l, isLineEnd c = false) : IsLine l := by
  refine ⟨fun hfeed => ?_, fun hreturn => ?_⟩
  · cases h _ hfeed
  · cases h _ (List.mem_of_getLast? hreturn)

theorem IsLine.append {xs ys : List Char} (hx : IsLine xs) (hy : IsLine ys) :
    IsLine (xs ++ ys) := by
  refine ⟨fun h => ?_, fun h => ?_⟩
  · rcases List.mem_append.mp h with h | h
    · exact hx.feed h
    · exact hy.feed h
  · rw [List.getLast?_append] at h
    rcases Option.or_eq_some_iff.mp h with h | ⟨-, h⟩
    · exact hy.last h
    · exact hx.last h

theorem IsLine.cons {c : Char} {cs : List Char} (hc : isLineEnd c = false) (hcs : IsLine cs) :
    IsLine (c :: cs) :=
  (isLine_of_forall (List.forall_mem_singleton.mpr hc)).append hcs

/-- Lines that are ended are told apart again. -/
theorem lines_unlines_append {ls : List (List Char)} (hne : ls ≠ []) (h : ∀ l ∈ ls, IsLine l)
    (rest : List Char) :
    lines (unlines ls ++ '\n' :: rest) = ls ++ lines rest := by
  induction ls with
  | nil => exact absurd rfl hne
  | cons l ls ih =>
    obtain ⟨hl, hls⟩ := List.forall_mem_cons.mp h
    by_cases hlast : ls = []
    · subst hlast
      rw [unlines_singleton, lines_append_feed hl.feed hl.last, List.singleton_append]
    · rw [unlines_cons l hlast, List.append_assoc, List.cons_append,
        lines_append_feed hl.feed hl.last, ih hlast hls, List.cons_append]

/-- Joined lines are told apart again, unless the last one is empty. -/
theorem lines_unlines {ls : List (List Char)} (h : ∀ l ∈ ls, IsLine l)
    (hlast : ∀ l ∈ ls.getLast?, l ≠ []) :
    lines (unlines ls) = ls := by
  cases ls using List.reverseRecOn with
  | nil => rfl
  | append_singleton ls l =>
    obtain ⟨hls, hl⟩ := List.forall_mem_append.mp h
    have hl := hl l List.mem_cons_self
    have hself : lines l = [l] := by
      rw [lines_of_not_mem hl.feed, if_neg (hlast l (by simp))]
    by_cases hne : ls = []
    · subst hne
      rw [List.nil_append, unlines_singleton, hself]
    · rw [unlines_append hne (by simp), unlines_singleton, lines_unlines_append hne hls, hself]

theorem unlines_cutAt (cs : List Char) : unlines (cutAt (· = '\n') cs) = cs := by
  induction cs with
  | nil => rfl
  | cons c cs ih =>
    by_cases hc : c = '\n'
    · rw [cutAt, if_pos (by simpa using hc), unlines_cons [] (cutAt_ne_nil _ _), ih, hc]
      rfl
    · obtain ⟨first, parts, hparts⟩ := List.exists_cons_of_ne_nil (cutAt_ne_nil (· = '\n') cs)
      rw [cutAt, if_neg (by simpa using hc)]
      rw [hparts] at ih ⊢
      cases parts with
      | nil => simpa [consFirst] using ih
      | cons part parts =>
        rw [unlines_cons _ (by simp)] at ih
        rw [consFirst, unlines_cons _ (by simp), List.cons_append, ih]

theorem unlines_append_cutAt (ls : List (List Char)) (cs : List Char) :
    unlines (ls ++ cutAt (· = '\n') cs) = unlines (ls ++ [cs]) := by
  cases ls with
  | nil => simp [unlines_cutAt]
  | cons l ls =>
    rw [unlines_append (by simp) (cutAt_ne_nil _ cs), unlines_append (by simp)
      (by simp), unlines_cutAt, unlines_singleton]

/-- Joined texts are cut where each of them is. -/
theorem cutAt_unlines {ls : List (List Char)} (h : ls ≠ []) :
    cutAt (· = '\n') (unlines ls) = ls.flatMap (cutAt (· = '\n')) := by
  induction ls with
  | nil => exact absurd rfl h
  | cons l ls ih =>
    cases ls with
    | nil => simp
    | cons m ls =>
      rw [unlines_cons l (by simp), cutAt_append (by simp), ih (by simp)]
      rfl

/-- Lines that are trimmed, none of them empty, make a trimmed text. -/
theorem trimmed_unlines {ls : List (List Char)}
    (h : ∀ l ∈ ls, l ≠ [] ∧ Trimmed l) : Trimmed (unlines ls) := by
  constructor
  · cases ls with
    | nil => simp
    | cons l ls =>
      obtain ⟨hne, hl⟩ := h l List.mem_cons_self
      obtain ⟨c, l, rfl⟩ := List.exists_cons_of_ne_nil hne
      cases ls with
      | nil => simpa using hl.first
      | cons m ls => simpa [unlines_cons] using hl.first
  · cases ls using List.reverseRecOn with
    | nil => simp
    | append_singleton ls l =>
      obtain ⟨hne, hl⟩ := h l (by simp)
      cases ls with
      | nil => simpa using hl.last
      | cons m ls =>
        rw [unlines_append (by simp) (by simp), unlines_singleton,
          List.getLast?_append_of_ne_nil _ (by simp)]
        rw [List.getLast?_cons_of_ne_nil hne]
        exact hl.last

/-! ### Parts -/

/-- What is to be seen of the parts of a text between marks: blanks are taken off them, and empty
ones left out. -/
def shown (mark : Char) (text : List Char) : List (List Char) :=
  ((cutAt (· = mark) text).map trim).filter (!·.isEmpty)

theorem shown_append (mark : Char) (xs ys : List Char) :
    shown mark (xs ++ mark :: ys) = shown mark xs ++ shown mark ys := by
  simp [shown, cutAt_append]

theorem shown_of_not_mem {mark : Char} {text : List Char} (h : mark ∉ text) :
    shown mark text = [trim text].filter (!·.isEmpty) := by
  rw [shown, cutAt_of_not_mem h, List.map_singleton]

theorem Trimmed.shown_eq {mark : Char} {text : List Char} (h : Trimmed text) (hne : text ≠ [])
    (hmark : mark ∉ text) :
    shown mark text = [text] := by
  rw [shown_of_not_mem hmark, h.trim_eq]
  simp [hne]

theorem shown_blank_append (mark : Char) {w : List Char} (h : AllBlank w) (text : List Char) :
    shown mark (w ++ text) = shown mark text := by
  induction w with
  | nil => rfl
  | cons c w ih =>
    obtain ⟨hc, hw⟩ := List.forall_mem_cons.mp h
    rw [← ih hw, List.cons_append]
    by_cases hmark : c = mark
    · subst hmark
      exact shown_append c [] (w ++ text)
    · obtain ⟨part, parts, hparts⟩ :=
        List.exists_cons_of_ne_nil (cutAt_ne_nil (· = mark) (w ++ text))
      have htrim : trim (c :: part) = trim part :=
        trim_blank_append (w := [c]) (by simpa [AllBlank] using hc) part
      simp [shown, cutAt, hmark, hparts, consFirst, htrim]

theorem shown_blank (mark : Char) {w : List Char} (h : AllBlank w) : shown mark w = [] := by
  rw [← List.append_nil w, shown_blank_append mark h]
  rfl

theorem shown_append_blank (mark : Char) {w : List Char} (h : AllBlank w) (text : List Char) :
    shown mark (text ++ w) = shown mark text := by
  induction text using mark_induction mark with
  | last text hmem =>
    by_cases hw : mark ∈ w
    · obtain ⟨xs, ys, rfl, hxs⟩ := List.eq_append_cons_of_mem hw
      have hx : AllBlank xs := fun c hc => h c (by simp [hc])
      have hy : AllBlank ys := fun c hc => h c (by simp [hc])
      rw [← List.append_assoc, shown_append, shown_blank mark hy, List.append_nil,
        shown_of_not_mem (by simp [hmem, hxs]), trim_append_blank hx, shown_of_not_mem hmem]
    · rw [shown_of_not_mem (by simp [hmem, hw]), trim_append_blank h, shown_of_not_mem hmem]
  | more l rest _ ih => rw [List.append_assoc, List.cons_append, shown_append, shown_append, ih]

theorem shown_trim (mark : Char) (text : List Char) : shown mark (trim text) = shown mark text := by
  obtain ⟨w, v, hw, hv, heq⟩ := exists_blanks text
  conv_rhs => rw [heq, shown_blank_append mark hw, shown_append_blank mark hv]

/-! ### Flush text -/

/-- No line of the text that has something on it begins or ends with a blank. -/
def Flush (text : List Char) : Prop := ∀ l ∈ cutAt (· = '\n') text, AllBlank l ∨ Trimmed l

theorem flush_append {xs ys : List Char} : Flush (xs ++ '\n' :: ys) ↔ Flush xs ∧ Flush ys := by
  unfold Flush
  rw [cutAt_append (by simp), List.forall_mem_append]

theorem AllBlank.flush {w : List Char} (h : AllBlank w) : Flush w :=
  fun _ hl => .inl fun _ hc => h _ (mem_of_mem_cutAt hl hc).1

theorem Trimmed.flush {l : List Char} (h : Trimmed l) (hfeed : '\n' ∉ l) : Flush l := by
  unfold Flush
  rw [cutAt_of_not_mem hfeed]
  simpa using .inr h

/-- Flush text stays so without the blanks before it. -/
theorem Flush.of_blank_append {w text : List Char} (hw : AllBlank w) (h : Flush (w ++ text)) :
    Flush text := by
  induction w with
  | nil => exact h
  | cons c w ih =>
    obtain ⟨hc, hw⟩ := List.forall_mem_cons.mp hw
    refine ih hw ?_
    by_cases hfeed : c = '\n'
    · subst hfeed
      have hlines : Flush ([] ++ '\n' :: (w ++ text)) := h
      exact (flush_append.mp hlines).2
    · obtain ⟨l, ls, hls⟩ := List.exists_cons_of_ne_nil (cutAt_ne_nil (· = '\n') (w ++ text))
      unfold Flush at h ⊢
      rw [List.cons_append, cutAt, if_neg (by simpa using hfeed), hls, consFirst,
        List.forall_mem_cons] at h
      rw [hls]
      refine List.forall_mem_cons.mpr ⟨.inl ?_, h.2⟩
      rcases h.1 with hblank | htrimmed
      · exact (List.forall_mem_cons.mp hblank).2
      · rw [htrimmed.first c rfl] at hc
        cases hc

/-- Flush text stays so without the blanks after it. -/
theorem Flush.of_append_blank {w text : List Char} (hw : AllBlank w) (h : Flush (text ++ w)) :
    Flush text := by
  induction text using mark_induction '\n' with
  | last text hmem =>
    -- The text is the first line without the blanks at its end.
    obtain ⟨l, ls, hls⟩ := List.exists_cons_of_ne_nil (cutAt_ne_nil (· = '\n') w)
    have hl : AllBlank l := fun c hc => hw c (mem_of_mem_cutAt (hls ▸ List.mem_cons_self) hc).1
    have hfirst : cutAt (· = '\n') (text ++ w) = (text ++ l) :: ls :=
      cutAt_append_of_forall (fun c hc => decide_eq_false (ne_of_mem_of_not_mem hc hmem)) hls
    rcases h (text ++ l) (hfirst ▸ List.mem_cons_self) with hblank | htrimmed
    · exact AllBlank.flush (List.forall_mem_append.mp hblank).1
    · refine Trimmed.flush ?_ hmem
      cases l using List.reverseRecOn with
      | nil => rwa [List.append_nil] at htrimmed
      | append_singleton l c =>
        have hc := htrimmed.last c (by simp [← List.append_assoc])
        rw [hl c (by simp)] at hc
        cases hc
  | more l rest _ ih =>
    rw [List.append_assoc, List.cons_append, flush_append] at h
    exact flush_append.mpr ⟨h.1, ih h.2⟩

theorem Flush.trim {text : List Char} (h : Flush text) : Flush (trim text) := by
  obtain ⟨w, v, hw, hv, heq⟩ := exists_blanks text
  rw [heq] at h
  exact (h.of_blank_append hw).of_append_blank hv

end Playground.Text
