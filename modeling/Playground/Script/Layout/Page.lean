import Playground.Script.Comment
import Playground.Script.Tree

/-! Writing on a page: text goes on the current line behind its indent, and each comment is written
once, where the first node that it belongs to begins or ends. -/

namespace Playground.Script

/-- What has been written, last piece first, and the comments that are left to write. -/
structure Page where
  pieces : List String := []
  atLineStart : Bool := true
  indent : Nat := 0
  comments : Comments := {}
deriving Repr

def Page.text (p : Page) : String := String.join p.pieces.reverse

abbrev Write := StateM Page

namespace Write

/-- Writes a text. The first one of a line goes behind the indent, four spaces a step. -/
def put (s : String) : Write Unit := modify fun p =>
  if s.isEmpty then p
  else if p.atLineStart then
    { p with
      pieces := s :: String.ofList (List.replicate (4 * p.indent) ' ') :: p.pieces
      atLineStart := false }
  else { p with pieces := s :: p.pieces }

def space : Write Unit := put " "

/-- Ends the line, unless nothing is on it. -/
def newline : Write Unit := modify fun p =>
  if p.atLineStart then p else { p with pieces := "\n" :: p.pieces, atLineStart := true }

/-- Writes with one more step of indent. -/
def indented (w : Write Unit) : Write Unit := do
  modify fun p => { p with indent := p.indent + 1 }
  w
  modify fun p => { p with indent := p.indent - 1 }

/-! ### Comments -/

/-- A comment to the end of its line, or one between marks with a space after it. -/
def comment (c : Comment) : Write Unit := do
  if c.isLine then
    put "//"
    put c.text
    newline
  else
    put "/*"
    put c.text
    put "*/"
    space

/-- The comments that lead up to a position. -/
def leading (position : Nat) : Write Unit := do
  let p ← get
  let (found, rest) := commentsAt position p.comments.leading
  set { p with comments.leading := rest }
  found.forM comment

/-- Takes the comments that trail after a position. -/
def takeTrailing (position : Nat) : Write (List Comment) := do
  let p ← get
  let (found, rest) := commentsAt position p.comments.trailing
  set { p with comments.trailing := rest }
  return found

/-- The comments that trail after a position, each behind a space. -/
def trailing (position : Nat) : Write Unit := do
  (← takeTrailing position).forM fun c => do
    space
    comment c

/-! ### Lists -/

/-- A member of a list: how it is written and where it stopped in the text. -/
structure Child where
  stop : Nat
  write : Write Unit

/-- The comments that trail after a member, if the list did not stop there too. -/
def afterChild (listStop : Nat) (c : Child) : Write Unit := do
  if c.stop ≠ listStop then (← takeTrailing c.stop).forM comment

/-- Members with commas between them; `gap` follows each comma. -/
def separated (listStop : Nat) (gap : Write Unit) : List Child → Write Unit
  | [] => return
  | [c] => do
    c.write
    afterChild listStop c
  | c :: cs => do
    c.write
    afterChild listStop c
    put ","
    gap
    separated listStop gap cs

/-- Members on one line. -/
def onOneLine (listStop : Nat) (cs : List Child) : Write Unit := separated listStop space cs

/-- Members on lines of their own, one step further in. -/
def onLines (listStop : Nat) (cs : List Child) : Write Unit := do
  newline
  indented (separated listStop newline cs)
  newline

/-- Members without commas, each on a line of its own, one step further in. -/
def stacked (cs : List Child) : Write Unit :=
  indented (cs.forM fun c => do
    newline
    c.write)

end Write

end Playground.Script
