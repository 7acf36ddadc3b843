import Playground.Text.Position

/-! The tokens of a TOML text. Every text can be cut into tokens; what is wrong with one is found
later. -/

namespace Playground.Toml

/-- How a key or a string is quoted. -/
inductive Quoting
  | literal
  | basic
  | longLiteral
  | longBasic
deriving DecidableEq, Repr

inductive Kind
  | dot | equals | comma | leftBracket | rightBracket | leftBrace | rightBrace
  | blank | comment | newline
  | quoted (q : Quoting)
  /-- Anything else, up to the next mark or blank. -/
  | atom
  | ending
deriving DecidableEq, Repr

/-- A token with the byte offset it starts at. -/
structure Token where
  kind : Kind
  start : Nat
  text : List Char
deriving DecidableEq, Repr

/-- The offset right after a token. -/
def Token.stop (t : Token) : Nat := t.start + Text.byteSize t.text

def isBlank (c : Char) : Bool := c = ' ' || c = '\t'

/-- Characters that end an atom. Quotes do not: a quote inside an atom was meant to be opened before
it. -/
def endsAtom (c : Char) : Bool :=
  ['.', '=', ',', '[', ']', '{', '}', '#', ' ', '\t', '\r', '\n'].contains c

/-- At most two characters that belong to a quote of three before them. -/
def moreQuotes (quote : Char) (cs : List Char) : List Char := (cs.take 2).takeWhile (· = quote)

/-- The rest of a literal string, up to its end or the end of the line. -/
def literalRest : List Char → List Char
  | [] => []
  | c :: cs => if c = '\'' then [c] else if c = '\n' then [] else c :: literalRest cs

/-- The rest of a basic string, up to its end or the end of the line. -/
def basicRest : List Char → List Char
  | [] => []
  | '"' :: _ => ['"']
  | '\n' :: _ => []
  | '\\' :: '\\' :: cs => '\\' :: '\\' :: basicRest cs
  | '\\' :: '"' :: cs => '\\' :: '"' :: basicRest cs
  | c :: cs => c :: basicRest cs

/-- The rest of a literal string of several lines. -/
def longLiteralRest : List Char → List Char
  | [] => []
  | '\'' :: '\'' :: '\'' :: cs => ['\'', '\'', '\''] ++ moreQuotes '\'' cs
  | c :: cs => c :: longLiteralRest cs

/-- The rest of a basic string of several lines. -/
def longBasicRest : List Char → List Char
  | [] => []
  | '"' :: '"' :: '"' :: cs => ['"', '"', '"'] ++ moreQuotes '"' cs
  | '\\' :: '\\' :: cs => '\\' :: '\\' :: longBasicRest cs
  | '\\' :: '"' :: cs => '\\' :: '"' :: longBasicRest cs
  | c :: cs => c :: longBasicRest cs

/-- The kind and the text of the token that starts with `c`. -/
def tokenAt (c : Char) (cs : List Char) : Kind × List Char :=
  match c with
  | '.' => (.dot, [c])
  | '=' => (.equals, [c])
  | ',' => (.comma, [c])
  | '[' => (.leftBracket, [c])
  | ']' => (.rightBracket, [c])
  | '{' => (.leftBrace, [c])
  | '}' => (.rightBrace, [c])
  | ' ' | '\t' => (.blank, c :: cs.takeWhile isBlank)
  | '#' => (.comment, c :: cs.takeWhile fun d => d ≠ '\r' && d ≠ '\n')
  | '\n' => (.newline, [c])
  | '\r' => (.newline, if cs.head? = some '\n' then ['\r', '\n'] else ['\r'])
  | '\'' =>
    match cs with
    | '\'' :: '\'' :: rest => (.quoted .longLiteral, '\'' :: '\'' :: '\'' :: longLiteralRest rest)
    | _ => (.quoted .literal, c :: literalRest cs)
  | '"' =>
    match cs with
    | '"' :: '"' :: rest => (.quoted .longBasic, '"' :: '"' :: '"' :: longBasicRest rest)
    | _ => (.quoted .basic, c :: basicRest cs)
  | _ => (.atom, c :: cs.takeWhile (!endsAtom ·))

/-- The tokens of a text that starts at an offset; the last one tells where it ends. -/
def tokensFrom (fuel start : Nat) (cs : List Char) : List Token :=
  match fuel, cs with
  | fuel + 1, c :: rest =>
    let (kind, text) := tokenAt c rest
    ⟨kind, start, text⟩ :: tokensFrom fuel (start + Text.byteSize text) (cs.drop text.length)
  | _, _ => [⟨.ending, start, []⟩]

/-- The tokens of a text. A byte order mark before the text is none of them, but counts for the
offsets. -/
def tokens (cs : List Char) : List Token :=
  match cs with
  | c :: rest =>
    if c.toNat = 0xFEFF then tokensFrom rest.length c.utf8Size rest else tokensFrom cs.length 0 cs
  | [] => tokensFrom 0 0 []

end Playground.Toml
