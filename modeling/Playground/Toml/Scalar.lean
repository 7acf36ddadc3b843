import Playground.Toml.Item

/-! Keys and scalars of a TOML text: the strings, numbers and dates that their writing stands for.
What is wrong is told by its byte offset in the token. -/

namespace Playground.Toml

/-! ### Strings -/

/-- The number of bytes that stand before the last part of a token. -/
def offsetOf (whole part : List Char) : Nat := Text.byteSize whole - Text.byteSize part

def isNonAscii (c : Char) : Bool := 128 ≤ c.toNat

/-- Characters that a string may have as they are. -/
def isPlain (c : Char) : Bool := c = '\t' || (32 ≤ c.toNat && c.toNat < 127) || isNonAscii c

def hexOf? (c : Char) : Option Nat :=
  if '0' ≤ c && c ≤ '9' then some (c.toNat - '0'.toNat)
  else if 'a' ≤ c && c ≤ 'f' then some (c.toNat - 'a'.toNat + 10)
  else if 'A' ≤ c && c ≤ 'F' then some (c.toNat - 'A'.toNat + 10)
  else none

/-- The character that exactly so many hexadecimal digits at the start of a text stand for. -/
def hexChar? (count : Nat) (cs : List Char) : Option Char := do
  let digits := cs.take count
  if digits.length ≠ count then none
  let n ← digits.foldlM (fun n c => (hexOf? c).map (n * 16 + ·)) 0
  if h : n.isValidChar then some (Char.ofNatAux n h) else none

/-- An escape of one character. -/
def shortEscape? : Char → Option Char
  | 'b' => some (Char.ofNat 8)
  | 'e' => some (Char.ofNat 27)
  | 'f' => some (Char.ofNat 12)
  | 'n' => some '\n'
  | 'r' => some '\r'
  | 't' => some '\t'
  | '\\' => some '\\'
  | '"' => some '"'
  | _ => none

/-- How many digits an escape by number has. -/
def escapeDigits? : Char → Option Nat
  | 'x' => some 2
  | 'u' => some 4
  | 'U' => some 8
  | _ => none

/-- The escape after a backslash: the character, and how many characters it takes. The error is the
number of bytes up to what is wrong. -/
def escape (cs : List Char) : Except Nat (Char × Nat) :=
  match cs with
  | [] => .error 0
  | c :: rest =>
    match shortEscape? c, escapeDigits? c with
    | some d, _ => .ok (d, 1)
    | none, some count =>
      match hexChar? count rest with
      | some d => .ok (d, count + 1)
      | none => .error 1
    | none, none => .error 0

/-- The blanks and line ends that a backslash at the end of a line takes with it; `none` if the line
does not end. -/
def lineEscape? (cs : List Char) : Option Nat :=
  match cs.dropWhile isBlank with
  | '\n' :: _ | '\r' :: '\n' :: _ =>
    some (cs.takeWhile fun c => isBlank c || c = '\n' || c = '\r').length
  | _ => none

/-- Decodes the inside of a basic string; `offset` is where it starts, and `skip` characters belong
to an escape before. A string of several lines may have line ends. -/
def basicChars (isLong : Bool) (offset skip : Nat) : List Char → Except Nat (List Char)
  | [] => .ok []
  | c :: cs =>
    let after := offset + c.utf8Size
    match skip with
    | skip + 1 => basicChars isLong after skip cs
    | 0 =>
      if c = '\\' then
        match (if isLong && cs.head?.any (fun d => isBlank d || d = '\n' || d = '\r')
          then some (lineEscape? cs)
          else none) with
        | some (some count) => basicChars isLong after count cs
        | some none => .error after
        | none =>
          match escape cs with
          | .ok (d, count) => (basicChars isLong after count cs).map (d :: ·)
          | .error n => .error (after + n)
      else if isLong && c = '\n' then (basicChars isLong after 0 cs).map (c :: ·)
      else if isLong && c = '\r' then
        if cs.head? = some '\n' then (basicChars isLong after 0 cs).map (c :: ·) else .error after
      else if isPlain c then (basicChars isLong after 0 cs).map (c :: ·)
      else .error offset

/-- Checks the inside of a literal string, which stands for itself. -/
def literalChars (isLong : Bool) (offset : Nat) : List Char → Except Nat (List Char)
  | [] => .ok []
  | c :: cs =>
    let after := offset + c.utf8Size
    if isPlain c || (isLong && c = '\n') then (literalChars isLong after cs).map (c :: ·)
    else if isLong && c = '\r' then
      if cs.head? = some '\n' then (literalChars isLong after cs).map (c :: ·) else .error after
    else .error offset

/-- The inside of a quoted text, or the error of a quote that is missing at its end. -/
def inside (quote : List Char) (text : List Char) : Except Nat (List Char) :=
  let rest := text.drop quote.length
  if quote.isSuffixOf rest then .ok (rest.take (rest.length - quote.length))
  else .error (Text.byteSize text)

/-- A line end right after the opening quotes does not count. -/
def dropFirstLineEnd : List Char → List Char
  | '\n' :: cs => cs
  | '\r' :: '\n' :: cs => cs
  | cs => cs

/-- The string that a quoted text stands for. -/
def unquote (q : Quoting) (text : List Char) : Except Nat String :=
  let decoded := match q with
    | .literal => do
      let cs ← inside ['\''] text
      literalChars false 1 cs
    | .basic => do
      let cs ← inside ['"'] text
      basicChars false 1 0 cs
    | .longLiteral => do
      let whole ← inside ['\'', '\'', '\''] text
      let cs := dropFirstLineEnd whole
      literalChars true (3 + offsetOf whole cs) cs
    | .longBasic => do
      let whole ← inside ['"', '"', '"'] text
      let cs := dropFirstLineEnd whole
      basicChars true (3 + offsetOf whole cs) 0 cs
  decoded.map String.ofList

def isKeyChar (c : Char) : Bool := c.isAlphanum || c = '-' || c = '_'

/-- The name that a part of a key stands for. -/
def RawKey.name (k : RawKey) : Except Nat String :=
  let local? : Except Nat String := match k.quoting with
    | some .longLiteral | some .longBasic => .error 0
    | some q => unquote q k.text
    | none =>
      if k.text.isEmpty then .error 0
      else if k.text.all isKeyChar then .ok (String.ofList k.text)
      else .error (Text.byteSize (k.text.takeWhile isKeyChar))
  local?.mapError (k.start + ·)

/-! ### Numbers, dates and words -/

/-- What an unquoted scalar stands for. -/
inductive Plain
  | bool (value : Bool)
  | integer (value : Int)
  | decimal (raw : String)
  | date
  /-- A number that nothing can hold. -/
  | unreadable
deriving DecidableEq, Repr

/-- Where an underscore stands that is not between digits. -/
def strayUnderscore? (text : List Char) : Option Nat :=
  let rec go (index : Nat) (before : Option Char) : List Char → Option Nat
    | [] => none
    | c :: cs =>
      if c = '_' && (index = 0 || !(before.any Char.isAlphanum) || !(cs.head?.any Char.isAlphanum))
        then some index
      else go (index + 1) (some c) cs
  go 0 none text

def natIn? (radix : Nat) (ds : List Char) : Option Nat :=
  if ds.isEmpty then none
  else ds.foldlM (fun n c => ((hexOf? c).filter (· < radix)).map (n * radix + ·)) 0

/-- An integer that fits into 64 bits. -/
def held (n : Int) : Plain :=
  if -0x8000000000000000 ≤ n && n < 0x10000000000000000 then .integer n else .unreadable

/-- An integer with a radix, after the letter that tells it. -/
def radixed (radix offset : Nat) (digits : List Char) : Except Nat Plain :=
  match digits.findIdx? fun c => c ≠ '_' && !((hexOf? c).any (· < radix)) with
  | some i => .error (offset + i)
  | none =>
    match strayUnderscore? digits with
    | some i => .error (offset + i)
    | none =>
      match natIn? radix (digits.filter (· ≠ '_')) with
      | some n => .ok (held n)
      | none => .ok .unreadable

/-- A number that a machine can hold as a double: digits, a point with digits around it, an
exponent. -/
def isDecimal (cs : List Char) : Bool :=
  let isExponent (c : Char) : Bool := c = 'e' || c = 'E'
  let areDigits (ds : List Char) : Bool := !ds.isEmpty && ds.all Char.isDigit
  let body := cs.takeWhile (!isExponent ·)
  let power := cs.dropWhile (!isExponent ·)
  let whole := body.takeWhile (· ≠ '.')
  let fraction := body.dropWhile (· ≠ '.')
  let digitsOf (ds : List Char) : List Char := match ds with
    | '+' :: ds | '-' :: ds => ds
    | ds => ds
  areDigits whole && (fraction.isEmpty || areDigits (fraction.drop 1))
    && (power.isEmpty || areDigits (digitsOf (power.drop 1)))

def twoDigits? : List Char → Option (Nat × List Char)
  | a :: b :: cs => (natIn? 10 [a, b]).map (·, cs)
  | _ => none

def daysIn (year month : Nat) : Nat :=
  if month = 2 then (if year % 4 = 0 && (year % 100 ≠ 0 || year % 400 = 0) then 29 else 28)
  else if [4, 6, 9, 11].contains month then 30 else 31

/-- A date at the start of a text, and the text after it. -/
def date? (cs : List Char) : Option (List Char) := do
  let year ← natIn? 10 (cs.take 4)
  if (cs.take 4).length ≠ 4 then none
  let '-' :: cs := cs.drop 4 | none
  let (month, cs) ← twoDigits? cs
  let '-' :: cs := cs | none
  let (day, cs) ← twoDigits? cs
  if month < 1 || 12 < month || day < 1 || daysIn year month < day then none
  return cs

/-- A time at the start of a text, and the text after it; the seconds can be left out. -/
def time? (cs : List Char) : Option (List Char) := do
  let (hour, cs) ← twoDigits? cs
  let ':' :: cs := cs | none
  let (minute, cs) ← twoDigits? cs
  if 23 < hour || 59 < minute then none
  match cs with
  | ':' :: cs =>
    let (second, cs) ← twoDigits? cs
    if 60 < second then none
    match cs with
    | '.' :: cs => if cs.head?.any Char.isDigit then return cs.dropWhile Char.isDigit else none
    | cs => return cs
  | cs => return cs

/-- A text that is nothing, or the distance from universal time. -/
def isZone (cs : List Char) : Bool :=
  match cs with
  | [] | ['Z'] | ['z'] => true
  | sign :: cs =>
    (sign = '+' || sign = '-') &&
      ((do
        let (hour, cs) ← twoDigits? cs
        let ':' :: cs := cs | none
        let (minute, cs) ← twoDigits? cs
        return hour < 24 && minute < 60 && cs.isEmpty).getD false)

/-- A date, a time, or both. -/
def isDateTime (cs : List Char) : Bool :=
  match date? cs with
  | some [] => true
  | some (c :: rest) => (c = 'T' || c = 't' || c = ' ') && (time? rest).any isZone
  | none => (time? cs).any (·.isEmpty)

/-- A number without a radix, or a date; `offset` bytes of sign stand before it. -/
def numeral (isNegative : Bool) (offset : Nat) (cs : List Char) : Except Nat Plain :=
  let isPart (c : Char) : Bool := c.isDigit || c = '_'
  let rest := cs.dropWhile isPart
  let hasLeadingZero := match cs with
    | '0' :: c :: _ => isPart c
    | _ => false
  match rest with
  | '-' :: _ | ':' :: _ => if isDateTime cs && offset = 0 then .ok .date else .error 0
  | [] =>
    if hasLeadingZero then .error offset
    else
      match strayUnderscore? cs with
      | some i => .error (offset + i)
      | none =>
        match natIn? 10 (cs.filter (· ≠ '_')) with
        | some n => .ok (held (if isNegative then -(n : Int) else n))
        | none => .ok .unreadable
  | _ =>
    if rest.contains ' ' || !(rest.any fun c => c = '.' || c = 'e' || c = 'E') then .error 0
    else if hasLeadingZero then .error offset
    else
      match strayUnderscore? cs with
      | some i => .error (offset + i)
      | none =>
        let digits := cs.filter (· ≠ '_')
        .ok (if isDecimal digits
          then .decimal (String.ofList ((if isNegative then ['-'] else []) ++ digits))
          else .unreadable)

/-- A scalar that begins with a zero. -/
def zeroNumeral (isSigned isNegative : Bool) (offset : Nat) (cs : List Char) : Except Nat Plain :=
  match cs with
  | '0' :: letter :: digits =>
    let radix? := match letter with
      | 'x' | 'X' => some 16
      | 'o' | 'O' => some 8
      | 'b' | 'B' => some 2
      | _ => none
    match radix? with
    | some radix =>
      if isSigned then .error 0
      else if letter.isUpper then .error (offset + 1)
      else radixed radix (offset + 2) digits
    | none => numeral isNegative offset cs
  | _ => numeral isNegative offset cs

/-- What an unquoted scalar stands for. -/
def plain (text : List Char) : Except Nat Plain :=
  let body (isSigned isNegative : Bool) (offset : Nat) (cs : List Char) : Except Nat Plain :=
    match cs with
    | [] => .error 0
    | c :: _ =>
      if cs = "inf".toList || cs = "nan".toList then .ok (.decimal (String.ofList text))
      else if c = '0' then zeroNumeral isSigned isNegative offset cs
      else if c.isDigit || c = '_' then numeral isNegative offset cs
      else .error 0
  match text with
  | '+' :: cs =>
    if cs.head?.any fun c => c = '+' || c = '-' then .error 1 else body true false 1 cs
  | '-' :: cs =>
    if cs.head?.any fun c => c = '+' || c = '-' then .error 1 else body true true 1 cs
  | _ =>
    if text = "true".toList then .ok (.bool true)
    else if text = "false".toList then .ok (.bool false)
    else body false false 0 text

end Playground.Toml
