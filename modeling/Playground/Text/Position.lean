/-! Places in a text: byte offsets, and the line and column that a reader is told. -/

namespace Playground.Text

/-- The number of bytes of a text. -/
def byteSize (cs : List Char) : Nat := cs.foldr (·.utf8Size + ·) 0

@[simp] theorem byteSize_nil : byteSize [] = 0 := rfl

@[simp] theorem byteSize_cons (c : Char) (cs : List Char) :
    byteSize (c :: cs) = c.utf8Size + byteSize cs := rfl

@[simp] theorem byteSize_append (xs ys : List Char) :
    byteSize (xs ++ ys) = byteSize xs + byteSize ys := by
  induction xs with
  | nil => rw [List.nil_append, byteSize_nil, Nat.zero_add]
  | cons c xs ih => rw [List.cons_append, byteSize_cons, byteSize_cons, ih, Nat.add_assoc]

/-- The number of sixteen bit units of a character. -/
def unitSize (c : Char) : Nat := if c.toNat < 0x10000 then 1 else 2

/-- A line and a column, both counted from one. -/
structure Position where
  line : Nat
  column : Nat
deriving DecidableEq, Repr

/-- A line feed ends a line, and so does a carriage return that no line feed follows. -/
def endsLine (c : Char) (next : List Char) : Bool :=
  c = '\n' || (c = '\r' && next.head? != some '\n')

/-- The position `offset` bytes further, from a position where the text goes on with the given
characters. -/
def Position.advance (p : Position) : List Char → Nat → Position
  | [], _ => p
  | c :: cs, offset =>
    if offset = 0 then p
    else if endsLine c cs && !cs.isEmpty then
      Position.advance ⟨p.line + 1, 1⟩ cs (offset - c.utf8Size)
    else
      Position.advance ⟨p.line, p.column + unitSize c⟩ cs (offset - c.utf8Size)

/-- The position of a byte offset. Columns count sixteen bit units, and the end of a line that ends
the text opens no line after it. -/
def Position.ofOffset (cs : List Char) (offset : Nat) : Position :=
  Position.advance ⟨1, 1⟩ cs offset

end Playground.Text
