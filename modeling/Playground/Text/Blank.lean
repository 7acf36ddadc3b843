/-! Blank characters: those of the White_Space property, and the trimming that takes them from the
ends of a text. -/

namespace Playground.Text

/-- The characters of the White_Space property. -/
def isBlank (c : Char) : Bool :=
  let n := c.toNat
  (9 ≤ n && n ≤ 13) || n == 0x20 || n == 0x85 || n == 0xA0 || n == 0x1680 ||
    (0x2000 ≤ n && n ≤ 0x200A)
    || n == 0x2028 || n == 0x2029 || n == 0x202F || n == 0x205F || n == 0x3000

def trimStart (cs : List Char) : List Char := cs.dropWhile isBlank

def trimEnd (cs : List Char) : List Char := (cs.reverse.dropWhile isBlank).reverse

/-- The text without the blanks at its two ends. -/
def trim (cs : List Char) : List Char := trimEnd (trimStart cs)

end Playground.Text
