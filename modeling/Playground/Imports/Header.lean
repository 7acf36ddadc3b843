import Playground.Text.Blank
import Playground.Text.Lines
import Playground.Text.Search

/-! The header of a script: the lines with imports at its top. -/

namespace Playground.Imports

def isQuote (c : Char) : Bool := c = '\'' || c = '"'

/-- What may stand between `import` and the quoted module: nothing but blanks, or bindings and
`from`. -/
def isBindings (cs : List Char) : Bool :=
  cs.all Text.isBlank
    || ((Text.dropWord? "morf".toList (Text.trimEnd cs).reverse).isSome &&
      cs.all fun c => c ≠ '(' && c ≠ ')')

/-- What may stand after the quoted module: blanks and at most one semicolon. -/
def isImportEnd (cs : List Char) : Bool :=
  let rest := Text.trim cs
  rest = [] || rest = [';']

/-- What follows the word `import`, up to the end of the line, is an import. -/
def isImportTail (cs : List Char) : Bool :=
  isBindings (cs.takeWhile (!isQuote ·)) &&
    match cs.dropWhile (!isQuote ·) with
    | [] => false
    | _ :: rest =>
      !(rest.takeWhile (!isQuote ·)).isEmpty &&
        match rest.dropWhile (!isQuote ·) with
        | [] => false
        | _ :: after => isImportEnd after

/-- A line that holds one import and nothing else. -/
def isImportLine (line : List Char) : Bool :=
  (Text.dropWord? "import".toList (Text.trimStart line)).any isImportTail

def isBlankLine (line : List Char) : Bool := line.all Text.isBlank

/-- A line that can stand in a header. -/
def isHeaderLine (line : List Char) : Bool := isBlankLine line || isImportLine line

/-- A script with its header taken off. -/
structure Split where
  imports : List Char
  body : List Char
deriving DecidableEq, Repr

/-- Takes the header off. Blank lines of the header are dropped, and everything after the first
other line is body. -/
def split (code : List Char) : Split :=
  let lines := Text.lines code
  { imports := Text.unlines ((lines.takeWhile isHeaderLine).filter (!isBlankLine ·))
    body := Text.unlines (lines.dropWhile isHeaderLine) }

end Playground.Imports
