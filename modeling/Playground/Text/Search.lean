/-! Finding and replacing parts of a text. -/

namespace Playground.Text

/-- The text after `word`, if it starts with it. -/
def dropWord? : (word : List Char) → List Char → Option (List Char)
  | [], cs => some cs
  | _ :: _, [] => none
  | w :: ws, c :: cs => if w = c then dropWord? ws cs else none

theorem dropWord?_eq_some_iff {word cs rest : List Char} :
    dropWord? word cs = some rest ↔ cs = word ++ rest := by
  induction word generalizing cs with
  | nil => simp [dropWord?, eq_comm]
  | cons w ws ih =>
    cases cs with
    | nil => simp [dropWord?]
    | cons c cs =>
      by_cases h : w = c
      · simp [dropWord?, h, ih]
      · simp [dropWord?, h, Ne.symm h]

/-- The word stands somewhere in the text. -/
def contains (word : List Char) : List Char → Bool
  | [] => word.isEmpty
  | c :: cs => (dropWord? word (c :: cs)).isSome || contains word cs

/-- Puts `new` before every character and at the end. -/
def interleave (new : List Char) : List Char → List Char
  | [] => new
  | c :: cs => new ++ c :: interleave new cs

/-- Replaces occurrences of a word from left to right; `skip` characters belong to one already
replaced. -/
def replaceFrom (old new : List Char) (skip : Nat) : List Char → List Char
  | [] => []
  | c :: cs =>
    match skip with
    | skip + 1 => replaceFrom old new skip cs
    | 0 =>
      if (dropWord? old (c :: cs)).isSome then new ++ replaceFrom old new (old.length - 1) cs
      else c :: replaceFrom old new 0 cs

/-- Replaces every occurrence of a word; an empty word occurs between any two characters and at both
ends. -/
def replaceAll (old new cs : List Char) : List Char :=
  if old.isEmpty then interleave new cs else replaceFrom old new 0 cs

end Playground.Text
