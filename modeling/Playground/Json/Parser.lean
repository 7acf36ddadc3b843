import Playground.Json.Value

/-! Reading JSON text. -/

namespace Playground.Json

def isJsonBlank (c : Char) : Bool := c = ' ' || c = '\t' || c = '\n' || c = '\r'

def skipBlank (cs : List Char) : List Char := cs.dropWhile isJsonBlank

def hexValue? (c : Char) : Option Nat :=
  if '0' ≤ c && c ≤ '9' then some (c.toNat - '0'.toNat)
  else if 'a' ≤ c && c ≤ 'f' then some (c.toNat - 'a'.toNat + 10)
  else if 'A' ≤ c && c ≤ 'F' then some (c.toNat - 'A'.toNat + 10)
  else none

/-- The unit that four hexadecimal digits stand for. -/
def unit? (a b c d : Char) : Option Nat := do
  return (← hexValue? a) * 4096 + (← hexValue? b) * 256 + (← hexValue? c) * 16 + (← hexValue? d)

/-- The character of a code point; there is none for a surrogate. -/
def charOf? (n : Nat) : Option Char :=
  if h : n.isValidChar then some (Char.ofNatAux n h) else none

/-- The character that two surrogates stand for. -/
def pair? (high low : Nat) : Option Char :=
  if 0xD800 ≤ high && high < 0xDC00 && 0xDC00 ≤ low && low < 0xE000 then
    charOf? (0x10000 + (high - 0xD800) * 1024 + (low - 0xDC00))
  else none

/-- The character after a backslash in an escape of one character. -/
def plainEscape? : Char → Option Char
  | '"' => some '"'
  | '\\' => some '\\'
  | '/' => some '/'
  | 'b' => some (Char.ofNat 8)
  | 'f' => some (Char.ofNat 12)
  | 'n' => some '\n'
  | 'r' => some '\r'
  | 't' => some '\t'
  | _ => none

/-- The rest of a string, after its opening quote, and the text after it. -/
def stringRest : List Char → Option (List Char × List Char)
  | [] => none
  | '"' :: cs => some ([], cs)
  | '\\' :: 'u' :: a :: b :: c :: d :: cs => do
    let high ← unit? a b c d
    match charOf? high with
    | some ch =>
      let (text, rest) ← stringRest cs
      return (ch :: text, rest)
    | none =>
      match cs with
      | '\\' :: 'u' :: e :: f :: g :: h :: more =>
        let low ← unit? e f g h
        let ch ← pair? high low
        let (text, rest) ← stringRest more
        return (ch :: text, rest)
      | _ => none
  | '\\' :: c :: cs => do
    let ch ← plainEscape? c
    let (text, rest) ← stringRest cs
    return (ch :: text, rest)
  | c :: cs =>
    if c.toNat < 32 || c = '\\' then none
    else (stringRest cs).map fun (text, rest) => (c :: text, rest)

/-- The characters that a number is made of. -/
def isNumberChar (c : Char) : Bool :=
  c.isDigit || c = '-' || c = '+' || c = '.' || c = 'e' || c = 'E'

/-- The value of digits, if there are any and nothing else. -/
def natOf? (ds : List Char) : Option Nat :=
  if ds.isEmpty || !ds.all Char.isDigit then none
  else some (ds.foldl (fun n d => n * 10 + (d.toNat - '0'.toNat)) 0)

/-- An integer of 64 bits; a zero with a sign is none. -/
def integerOf? : List Char → Option Int
  | '-' :: ds => do
    let n ← natOf? ds
    if 0 < n && n ≤ 0x8000000000000000 then some (-(n : Int)) else none
  | ds => do
    let n ← natOf? ds
    if n < 0x10000000000000000 then some (n : Int) else none

def numberOf? (raw : List Char) : Option Json :=
  match integerOf? raw with
  | some n => some (.integer n)
  | none => if raw.any Char.isDigit then some (.decimal (String.ofList raw)) else none

mutual

/-- A value at the start of a text, and the text after it. -/
def value? : (fuel : Nat) → List Char → Option (Json × List Char)
  | 0, _ => none
  | fuel + 1, cs =>
    match skipBlank cs with
    | 'n' :: 'u' :: 'l' :: 'l' :: rest => some (.null, rest)
    | 't' :: 'r' :: 'u' :: 'e' :: rest => some (.bool true, rest)
    | 'f' :: 'a' :: 'l' :: 's' :: 'e' :: rest => some (.bool false, rest)
    | '"' :: rest => (stringRest rest).map fun (s, rest) => (.string (String.ofList s), rest)
    | '[' :: rest =>
      match skipBlank rest with
      | ']' :: rest => some (.array [], rest)
      | _ => (items? fuel rest).map fun (vs, rest) => (.array vs, rest)
    | '{' :: rest =>
      match skipBlank rest with
      | '}' :: rest => some (.object [], rest)
      | _ => (members? fuel rest).map fun (ms, rest) => (.object ms, rest)
    | rest =>
      (numberOf? (rest.takeWhile isNumberChar)).map fun v => (v, rest.dropWhile isNumberChar)

/-- Values up to the closing bracket. -/
def items? : (fuel : Nat) → List Char → Option (List Json × List Char)
  | 0, _ => none
  | fuel + 1, cs => do
    let (v, rest) ← value? fuel cs
    match skipBlank rest with
    | ']' :: rest => return ([v], rest)
    | ',' :: rest =>
      let (vs, rest) ← items? fuel rest
      return (v :: vs, rest)
    | _ => none

/-- Members up to the closing brace. -/
def members? : (fuel : Nat) → List Char → Option (List (String × Json) × List Char)
  | 0, _ => none
  | fuel + 1, cs =>
    match skipBlank cs with
    | '"' :: rest => do
      let (key, rest) ← stringRest rest
      match skipBlank rest with
      | ':' :: rest =>
        let (v, rest) ← value? fuel rest
        match skipBlank rest with
        | '}' :: rest => return ([(String.ofList key, v)], rest)
        | ',' :: rest =>
          let (ms, rest) ← members? fuel rest
          return ((String.ofList key, v) :: ms, rest)
        | _ => none
      | _ => none
    | _ => none

end

/-- Reads a whole text. Every step of the reading takes a character, which bounds the fuel. -/
def parse? (s : String) : Option Json :=
  match value? (2 * s.toList.length + 2) s.toList with
  | some (v, rest) => if (skipBlank rest).isEmpty then some v else none
  | none => none

end Playground.Json
