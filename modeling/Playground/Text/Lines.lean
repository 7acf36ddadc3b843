/-! Lines of a text, cut where editors and where frames of code cut them. -/

namespace Playground.Text

/-- Puts a character in front of the first line. -/
def consFirst (c : Char) : List (List Char) → List (List Char)
  | [] => [[c]]
  | l :: ls => (c :: l) :: ls

/-- Cuts at every character that `ends` a line; there is always one line more than there are
ends. -/
def cutAt (ends : Char → Bool) : List Char → List (List Char)
  | [] => [[]]
  | c :: cs => if ends c then [] :: cutAt ends cs else consFirst c (cutAt ends cs)

/-- Cuts at every carriage return that a line feed follows, and takes both out. -/
def cutAtPairs : List Char → List (List Char)
  | [] => [[]]
  | '\r' :: '\n' :: cs => [] :: cutAtPairs cs
  | c :: cs => consFirst c (cutAtPairs cs)

/-- Characters that end a line on their own. -/
def isLineEnd (c : Char) : Bool :=
  c = '\n' || c = '\r' || c.toNat = 0x2028 || c.toNat = 0x2029

/-- The lines of a frame: a pair of carriage return and line feed ends one, and so does each line
end alone. -/
def frameLines (cs : List Char) : List (List Char) :=
  (cutAtPairs cs).flatMap (cutAt isLineEnd)

/-- Takes one carriage return from the end of a line. -/
def dropReturn (line : List Char) : List Char :=
  if line.getLast? = some '\r' then line.dropLast else line

/-- The lines that line feeds end, without the carriage returns before them; a last line that
nothing ends counts if it is not empty, and then keeps all its characters. -/
def lines (cs : List Char) : List (List Char) :=
  let parts := cutAt (· = '\n') cs
  parts.dropLast.map dropReturn ++ (parts.getLast?.filter (!·.isEmpty)).toList

/-- Lines joined by line feeds. -/
def unlines (ls : List (List Char)) : List Char := ['\n'].intercalate ls

end Playground.Text
