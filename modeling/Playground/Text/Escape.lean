/-! Texts made fit to stand inside template literals and inside markup. -/

namespace Playground.Text

/-- Makes a text fit for a template literal: it neither ends the literal nor opens a
substitution. -/
def escapeTemplate : List Char → List Char
  | [] => []
  | '$' :: '{' :: cs => '\\' :: '$' :: '{' :: escapeTemplate cs
  | c :: cs =>
    if c = '\\' || c = '`' then '\\' :: c :: escapeTemplate cs else c :: escapeTemplate cs

def markupChar (c : Char) : List Char :=
  if c = '&' then "&amp;".toList
  else if c = '<' then "&lt;".toList
  else if c = '>' then "&gt;".toList
  else [c]

/-- Makes a text fit for markup: it opens no tag and no entity. -/
def escapeMarkup (cs : List Char) : List Char := cs.flatMap markupChar

end Playground.Text
