/-! JSON values and their compact text. -/

namespace Playground

/-- A JSON value. Numbers that are no integers of 64 bits keep the text they were written with. -/
inductive Json
  | null
  | bool (value : Bool)
  | integer (value : Int)
  | decimal (raw : String)
  | string (value : String)
  | array (items : List Json)
  | object (members : List (String × Json))
deriving Repr, Inhabited

namespace Json

/-- The four digits of an escape. -/
def hexFour (n : Nat) : List Char :=
  let ds := Nat.toDigits 16 n
  List.replicate (4 - ds.length) '0' ++ ds

/-- One character inside a string: quotes, backslashes and control characters are escaped. -/
def escapeChar (c : Char) : List Char :=
  if c = '"' then ['\\', '"']
  else if c = '\\' then ['\\', '\\']
  else if c = '\n' then ['\\', 'n']
  else if c = '\r' then ['\\', 'r']
  else if c = '\t' then ['\\', 't']
  else if c.toNat = 8 then ['\\', 'b']
  else if c.toNat = 12 then ['\\', 'f']
  else if c.toNat < 32 then '\\' :: 'u' :: hexFour c.toNat
  else [c]

/-- A text as a string literal. -/
def quote (s : String) : List Char :=
  '"' :: s.toList.flatMap escapeChar ++ ['"']

mutual

/-- The compact text of a value. -/
def chars : Json → List Char
  | .null => "null".toList
  | .bool true => "true".toList
  | .bool false => "false".toList
  | .integer n => (toString n).toList
  | .decimal raw => raw.toList
  | .string s => quote s
  | .array items => '[' :: itemChars items ++ [']']
  | .object members => '{' :: memberChars members ++ ['}']

def itemChars : List Json → List Char
  | [] => []
  | [v] => v.chars
  | v :: w :: vs => v.chars ++ ',' :: itemChars (w :: vs)

def memberChars : List (String × Json) → List Char
  | [] => []
  | [(k, v)] => quote k ++ ':' :: v.chars
  | (k, v) :: m :: ms => quote k ++ ':' :: v.chars ++ ',' :: memberChars (m :: ms)

end

/-- The compact text of a value. -/
def render (v : Json) : String := String.ofList v.chars

/-- A member of an object, the last one of that name. -/
def get? (v : Json) (key : String) : Option Json :=
  match v with
  | .object members => (members.reverse.find? (·.1 == key)).map (·.2)
  | _ => none

end Json

end Playground
