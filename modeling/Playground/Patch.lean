import Playground.Text.Position

/-! Patches: texts to be put into a code at byte offsets. All offsets speak of the code as it was
before any patch. -/

namespace Playground

structure Patch where
  position : Nat
  text : String
deriving DecidableEq, Repr

namespace Patch

/-- Puts `text` in at a byte offset. There is no result if the offset is past the end or inside a
character. -/
def insertAt? (text : List Char) : Nat → List Char → Option (List Char)
  | 0, cs => some (text ++ cs)
  | _ + 1, [] => none
  | n + 1, c :: cs =>
    if c.utf8Size ≤ n + 1 then (insertAt? text (n + 1 - c.utf8Size) cs).map (c :: ·) else none

/-- Puts one patch in. An empty patch does nothing, and a position past the end stands for the
end. -/
def putIn? (code : List Char) (p : Patch) : Option (List Char) :=
  if p.text.isEmpty then some code
  else insertAt? p.text.toList (min p.position (Text.byteSize code)) code

/-- Patches from the last position to the first, and at one position from the last to the first
given, so that each leaves the positions of those after it in place. -/
def ordered (patches : List Patch) : List Patch :=
  patches.reverse.mergeSort fun a b => b.position ≤ a.position

/-- Puts all patches in. There is no result if one of them falls inside a character. -/
def applyAll? (patches : List Patch) (code : String) : Option String :=
  ((ordered patches).foldlM putIn? code.toList).map String.ofList

end Patch

end Playground
