import Mathlib.Data.List.Basic
import Playground.Text.Search

/-! Replacing a word. At each place of a text the word stands there and is replaced, or a character
is passed over. -/

namespace Playground.Text

variable {old new : List Char}

theorem isSome_dropWord?_iff {word cs : List Char} :
    (dropWord? word cs).isSome = true ↔ word <+: cs := by
  rw [Option.isSome_iff_exists]
  constructor
  · rintro ⟨rest, hrest⟩
    exact ⟨rest, (dropWord?_eq_some_iff.mp hrest).symm⟩
  · rintro ⟨rest, hrest⟩
    exact ⟨rest, dropWord?_eq_some_iff.mpr hrest.symm⟩

/-- What belongs to an occurrence that was replaced is passed over. -/
theorem replaceFrom_eq_drop (skip : Nat) (cs : List Char) :
    replaceFrom old new skip cs = replaceFrom old new 0 (cs.drop skip) := by
  induction cs generalizing skip with
  | nil => simp [replaceFrom]
  | cons c cs ih =>
    cases skip with
    | zero => rfl
    | succ skip =>
      rw [replaceFrom, List.drop_succ_cons]
      exact ih skip

theorem replaceAll_eq (h : old ≠ []) (cs : List Char) :
    replaceAll old new cs = replaceFrom old new 0 cs := by
  rw [replaceAll, if_neg (by simpa using h)]

theorem replaceAll_nil (h : old ≠ []) : replaceAll old new [] = [] := by
  rw [replaceAll_eq h]
  rfl

/-- The word in front of a text is replaced. -/
theorem replaceAll_append (h : old ≠ []) (cs : List Char) :
    replaceAll old new (old ++ cs) = new ++ replaceAll old new cs := by
  obtain ⟨c, word, rfl⟩ := List.exists_cons_of_ne_nil h
  have hword : (dropWord? (c :: word) (c :: (word ++ cs))).isSome = true :=
    isSome_dropWord?_iff.mpr (List.prefix_append (c :: word) cs)
  rw [replaceAll_eq h, replaceAll_eq h, List.cons_append, replaceFrom, if_pos hword,
    replaceFrom_eq_drop]
  simp

/-- A character that the word does not begin with is passed over. -/
theorem replaceAll_cons (h : old ≠ []) {c : Char} {cs : List Char} (hc : ¬old <+: c :: cs) :
    replaceAll old new (c :: cs) = c :: replaceAll old new cs := by
  rw [replaceAll_eq h, replaceAll_eq h, replaceFrom, if_neg (mt isSome_dropWord?_iff.mp hc)]

/-- Replacing one character goes character by character. -/
theorem replaceAll_singleton (c : Char) (new cs : List Char) :
    replaceAll [c] new cs = cs.flatMap fun d => if d = c then new else [d] := by
  have hne : [c] ≠ [] := List.cons_ne_nil c []
  induction cs with
  | nil => rw [replaceAll_nil hne, List.flatMap_nil]
  | cons d cs ih =>
    rw [List.flatMap_cons, ← ih]
    by_cases hd : d = c
    · subst hd
      rw [if_pos rfl]
      exact replaceAll_append hne cs
    · rw [if_neg hd, replaceAll_cons hne (by simpa using Ne.symm hd), List.singleton_append]

/-- A text without one of the characters of the word stays as it is. -/
theorem replaceAll_of_not_mem {c : Char} (hc : c ∈ old) {cs : List Char} (h : c ∉ cs) :
    replaceAll old new cs = cs := by
  have hne : old ≠ [] := List.ne_nil_of_mem hc
  induction cs with
  | nil => exact replaceAll_nil hne
  | cons d cs ih =>
    have hword : ¬old <+: d :: cs := fun hword => h (hword.subset hc)
    rw [replaceAll_cons hne hword, ih (List.not_mem_of_not_mem_cons h)]

end Playground.Text
