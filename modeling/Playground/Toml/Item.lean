import Playground.Toml.Token

/-! The items of a TOML text: headers, and keys with their values. Here only the marks between
tokens are looked at; keys and scalars are kept as they were written. What is wrong is told by its
byte offset. -/

namespace Playground.Toml

/-- A part of a key as it was written; one that is missing has no text. -/
structure RawKey where
  start : Nat
  quoting : Option Quoting
  text : List Char
deriving DecidableEq, Repr

inductive RawValue
  | scalar (start : Nat) (quoting : Option Quoting) (text : List Char)
  | array (start : Nat) (items : List RawValue)
  | table (start : Nat) (pairs : List (List RawKey × RawValue))
deriving Repr

inductive Item
  | header (start : Nat) (isArray : Bool) (keys : List RawKey)
  | pair (keys : List RawKey) (value : RawValue)
deriving Repr

/-- What is left to read, and the end of the last token that was no blank, comment or line end. -/
structure Feed where
  rest : List Token
  lastStop : Nat

/-- A step of the reading; an error is the offset of what is wrong. -/
abbrev Reading := StateT Feed (Except Nat)

namespace Reading

def wrongAt (offset : Nat) : Reading α := throw offset

def peek : Reading Token := do
  let feed ← get
  return feed.rest.headD ⟨.ending, feed.lastStop, []⟩

def isBetween (k : Kind) : Bool := k = .blank || k = .comment || k = .newline || k = .ending

/-- The characters that a comment must not have. -/
def isControl (c : Char) : Bool := (c.toNat < 32 && c ≠ '\t') || c.toNat = 127

/-- Where a comment or a line end is not one. -/
def flaw? (t : Token) : Option Nat :=
  match t.kind with
  | .newline => if t.text = ['\r'] then some t.stop else none
  | .comment =>
    if t.text.any isControl then some (t.start + Text.byteSize (t.text.takeWhile (!isControl ·)))
    else none
  | _ => none

/-- Takes the next token. -/
def take : Reading Token := do
  let t ← peek
  if let some offset := flaw? t then wrongAt offset
  modify fun feed => ⟨feed.rest.tail, if isBetween t.kind then feed.lastStop else t.stop⟩
  return t

/-- Takes the next token if it is of this kind. -/
def takeIf (k : Kind) : Reading Bool := do
  if (← peek).kind = k then
    let _ ← take
    return true
  return false

def skipBlank : Reading Unit := do
  let _ ← takeIf .blank

/-- Skips tokens up to the end of the line. -/
def skipLine : (fuel : Nat) → Reading Unit
  | 0 => pure ()
  | fuel + 1 => do
    match (← peek).kind with
    | .ending => pure ()
    | .newline => let _ ← take
    | _ =>
      let _ ← take
      skipLine fuel

/-- A key part where a token stands that cannot be one. -/
def absentKey (t : Token) : RawKey := ⟨t.start, none, []⟩

/-- A token as a part of a key. -/
def keyOf? (t : Token) : Option RawKey :=
  match t.kind with
  | .quoted q => some ⟨t.start, some q, t.text⟩
  | .atom => some ⟨t.start, none, t.text⟩
  | _ => none

/-- A part of a key after a dot, and whether it is there. -/
def dottedPart : (fuel : Nat) → Reading (List RawKey × Bool)
  | 0 => return ([], true)
  | fuel + 1 => do
    let t ← peek
    match keyOf? t with
    | some key =>
      let _ ← take
      return ([key], true)
    | none =>
      match t.kind with
      | .blank =>
        let _ ← take
        dottedPart fuel
      | .dot =>
        let _ ← take
        let (keys, isThere) ← dottedPart fuel
        return (absentKey t :: keys, isThere)
      | _ => return ([absentKey t], false)

/-- The parts of a key after its first one, and whether all of them are there. -/
def dottedKeys : (fuel : Nat) → Reading (List RawKey × Bool)
  | 0 => return ([], true)
  | fuel + 1 => do
    skipBlank
    if !(← takeIf .dot) then return ([], true)
    let (part, isThere) ← dottedPart fuel
    if !isThere then return (part, false)
    let (keys, areThere) ← dottedKeys fuel
    return (part ++ keys, areThere)

/-- An unquoted scalar goes on over dots, and over blanks if more of it follows. -/
def scalarRest : (fuel : Nat) → Reading (List Char)
  | 0 => return []
  | fuel + 1 => do
    let goesOn (t : Token) : Bool := t.kind = .dot || t.kind = .atom
    let feed ← get
    match feed.rest with
    | t :: next :: _ =>
      if goesOn t || (t.kind = .blank && goesOn next) then
        let _ ← take
        return t.text ++ (← scalarRest fuel)
      return []
    | _ => return []

/-- Scalars that begin with the token just taken. -/
def scalarFrom (fuel : Nat) (t : Token) : Reading RawValue := do
  match t.kind with
  | .quoted q => return .scalar t.start (some q) t.text
  | _ => return .scalar t.start none (t.text ++ (← scalarRest fuel))

/-- What an inline table waits for. -/
inductive Waiting
  | key
  | equals (keys : List RawKey)
  | value (keys : List RawKey)
  | comma

/-- How deep values may stand in one another. -/
def depthLimit : Nat := 80

mutual

/-- A value that begins with the token just taken. -/
def valueFrom (depth : Nat) : (fuel : Nat) → Token → Reading RawValue
  | 0, t => wrongAt t.start
  | fuel + 1, t =>
    match t.kind with
    | .leftBracket =>
      if depth = 0 then wrongAt t.start
      else return .array t.start (← arrayItems (depth - 1) fuel false)
    | .leftBrace =>
      if depth = 0 then wrongAt t.start
      else return .table t.start (← tablePairs (depth - 1) fuel .key)
    | .quoted _ | .atom | .dot => scalarFrom fuel t
    | _ => wrongAt t.start

/-- The items of an array; a comma has to come before the next one if `needsComma`. -/
def arrayItems (depth : Nat) : (fuel : Nat) → (needsComma : Bool) → Reading (List RawValue)
  | 0, _ => return []
  | fuel + 1, needsComma => do
    let t ← peek
    match t.kind with
    | .ending => wrongAt (← get).lastStop
    | .blank | .comment | .newline =>
      let _ ← take
      arrayItems depth fuel needsComma
    | .comma =>
      if needsComma then
        let _ ← take
        arrayItems depth fuel false
      else wrongAt t.start
    | .rightBracket =>
      let _ ← take
      return []
    | .equals | .rightBrace => wrongAt t.start
    | _ =>
      if needsComma then wrongAt t.start
      let t ← take
      let v ← valueFrom depth fuel t
      return v :: (← arrayItems depth fuel true)

/-- The pairs of an inline table. -/
def tablePairs (depth : Nat) : (fuel : Nat) → Waiting → Reading (List (List RawKey × RawValue))
  | 0, _ => return []
  | fuel + 1, waiting => do
    let t ← peek
    match t.kind, waiting with
    | .ending, _ => wrongAt (← get).lastStop
    | .blank, _ | .comment, _ | .newline, _ =>
      let _ ← take
      tablePairs depth fuel waiting
    | .rightBrace, .key | .rightBrace, .comma =>
      let _ ← take
      return []
    | .comma, .comma =>
      let _ ← take
      tablePairs depth fuel .key
    | .equals, .key =>
      let _ ← take
      tablePairs depth fuel (.value [absentKey t])
    | .equals, .equals keys =>
      let _ ← take
      tablePairs depth fuel (.value keys)
    | _, .value keys =>
      let t ← take
      let v ← valueFrom depth fuel t
      return (keys, v) :: (← tablePairs depth fuel .comma)
    | _, .key =>
      match keyOf? t with
      | some key =>
        let _ ← take
        let (keys, _) ← dottedKeys fuel
        tablePairs depth fuel (.equals (key :: keys))
      | none =>
        if t.kind = .dot then
          let (keys, _) ← dottedKeys fuel
          tablePairs depth fuel (.equals (absentKey t :: keys))
        else wrongAt t.start
    | _, _ => wrongAt t.start

end

/-- A value after the equals sign; where there is none, an empty scalar stands for it. -/
def value (fuel : Nat) : Reading RawValue := do
  skipBlank
  let t ← peek
  match t.kind with
  | .comment | .comma | .newline | .ending => return .scalar t.start none []
  | _ => valueFrom depthLimit fuel (← take)

/-- The rest of a line after an item: blanks and a comment. -/
def lineEnd : Reading Unit := do
  skipBlank
  let _ ← takeIf .comment
  let t ← peek
  match t.kind with
  | .newline => let _ ← take
  | .ending => pure ()
  | _ => wrongAt t.start

/-- The equals sign, the value and the end of the line. -/
def pairRest (fuel : Nat) (keys : List RawKey) : Reading Item := do
  skipBlank
  if !(← takeIf .equals) then wrongAt (← peek).start
  let v ← value fuel
  lineEnd
  return .pair keys v

/-- The key of a header, and whether all its parts are there. -/
def headerKey (fuel : Nat) : Reading (List RawKey × Bool) := do
  let (first, isThere) ← dottedPart fuel
  if !isThere then return (first, false)
  let (keys, areThere) ← dottedKeys fuel
  return (first ++ keys, areThere)

/-- A header after its first bracket. -/
def headerRest (fuel : Nat) (start : Nat) : Reading Item := do
  let isArray ← takeIf .leftBracket
  skipBlank
  let (keys, areThere) ← headerKey fuel
  skipBlank
  if ← takeIf .rightBracket then
    if isArray then
      if !(← takeIf .rightBracket) then wrongAt (← get).lastStop
    lineEnd
  else if areThere then wrongAt (← get).lastStop
  else skipLine fuel
  return .header start isArray keys

/-- The items up to the end of the text. -/
def items : (fuel : Nat) → Reading (List Item)
  | 0 => return []
  | fuel + 1 => do
    let t ← peek
    match t.kind with
    | .ending => return []
    | .blank | .comment | .newline =>
      let _ ← take
      items fuel
    | .leftBracket =>
      let _ ← take
      let item ← headerRest fuel t.start
      return item :: (← items fuel)
    | .quoted _ | .atom =>
      let t ← take
      let (keys, _) ← dottedKeys fuel
      let item ← pairRest fuel ((keyOf? t).toList ++ keys)
      return item :: (← items fuel)
    | .equals =>
      let item ← pairRest fuel [absentKey t]
      return item :: (← items fuel)
    | .dot =>
      let (keys, _) ← dottedKeys fuel
      let item ← pairRest fuel (absentKey t :: keys)
      return item :: (← items fuel)
    | .comma | .rightBracket | .leftBrace | .rightBrace => wrongAt t.start

end Reading

/-- Reads the items of a text, or tells the offset of what is wrong first. -/
def items (cs : List Char) : Except Nat (List Item) :=
  let ts := tokens cs
  ((Reading.items (4 * ts.length + 4)).run ⟨ts, 0⟩).map (·.1)

end Playground.Toml
