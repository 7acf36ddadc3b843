import Playground.Text.Shown

/-! Characters and texts quoted for a reader: what would not show is written as an escape. -/

namespace Playground.Text

/-- The digits of `n` in lower case hexadecimal. -/
def hexDigits (n : Nat) : List Char := Nat.toDigits 16 n

/-- One character of a quoted text whose quotes are `quote`. -/
def quotedChar (quote c : Char) : List Char :=
  if c = quote || c = '\\' then ['\\', c]
  else if c = '\t' then ['\\', 't']
  else if c = '\r' then ['\\', 'r']
  else if c = '\n' then ['\\', 'n']
  else if c = Char.ofNat 0 then ['\\', '0']
  else if isShown c then [c]
  else ['\\', 'u', '{'] ++ hexDigits c.toNat ++ ['}']

/-- A character between single quotes. -/
def quoteChar (c : Char) : String :=
  String.ofList (['\''] ++ quotedChar '\'' c ++ ['\''])

/-- A text between double quotes. -/
def quoteText (s : String) : String :=
  String.ofList (['"'] ++ s.toList.flatMap (quotedChar '"') ++ ['"'])

end Playground.Text
