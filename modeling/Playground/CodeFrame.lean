import Playground.Text.Lines

/-! Frames: the lines around a place in a text, numbered, with the place marked.

```text
  1 | const a = 1
> 2 | const = 2
    |       ^ Unexpected token
  3 | mostrar(a)
```
-/

namespace Playground

/-- How much a frame shows around its line, and what it says about it. -/
structure CodeFrame where
  above : UInt64 := 2
  below : UInt64 := 3
  message : Option String := none

namespace CodeFrame

/-- A text put to the right end of a field. -/
def padLeft (width : Nat) (cs : List Char) : List Char :=
  List.replicate (width - cs.length) ' ' ++ cs

/-- The margin of a line: its number and a bar. -/
def gutter (width number : Nat) : List Char :=
  ' ' :: padLeft width (Nat.toDigits 10 number) ++ " |".toList

/-- The margin under a line: the bar alone. -/
def blankGutter (width number : Nat) : List Char :=
  (gutter width number).map fun c => if c.isDigit then ' ' else c

/-- What stands under the characters before the mark: tabs are kept, so that the mark stays in
line. -/
def spacing (line : List Char) (column : Nat) : List Char :=
  (line.take (column - 1)).map fun c => if c = '\t' then '\t' else ' '

/-- The line under the marked one, with the mark and the message. -/
def markLine (frame : CodeFrame) (width number column : Nat) (line : List Char) : List Char :=
  "\n ".toList ++ blankGutter width number ++ ' ' :: spacing line column ++ '^'
    :: (frame.message.elim [] fun message => ' ' :: message.toList)

/-- One line of the source as the frame shows it. -/
def sourceLine (frame : CodeFrame) (width line : Nat) (column : Option Nat) (number : Nat)
    (text : List Char) : List Char :=
  let shown := gutter width number ++ (if text.isEmpty then [] else ' ' :: text)
  if number = line then
    '>' :: shown ++ column.elim [] fun column => frame.markLine width number column text
  else ' ' :: shown

/-- The number of lines before the frame. -/
def first (frame : CodeFrame) (line : Nat) : Nat := line - (frame.above.toNat + 1)

/-- The number of lines up to the end of the frame. -/
def last (frame : CodeFrame) (line count : Nat) : Nat := min count (line + frame.below.toNat)

/-- The text of the frame around a line, counted from one. With a column the place gets a mark and
the message stands beside it; without one the message stands above the frame. -/
def render (frame : CodeFrame) (source : List Char) (line : Nat) (column : Option Nat) :
    List Char :=
  let lines := Text.frameLines source
  let column := column.filter (0 < ·)
  let stop := frame.last line lines.length
  let width := (Nat.toDigits 10 stop).length
  let numbered := (lines.zipIdx 1).take stop |>.drop (frame.first line)
  let body :=
    Text.unlines (numbered.map fun (text, number) => frame.sourceLine width line column number text)
  match column, frame.message with
  | none, some message => List.replicate (width + 1) ' ' ++ message.toList ++ '\n' :: body
  | _, _ => body

/-- The frame around a line. The sum of the count above and one is made of words; there is no frame
where it is none. -/
def render? (frame : CodeFrame) (source : List Char) (line : Nat) (column : Option Nat) :
    Option (List Char) :=
  if frame.above.toNat + 1 < UInt64.size then some (frame.render source line column) else none

end CodeFrame

end Playground
