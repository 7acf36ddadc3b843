import Playground.Decimal
import Playground.Json.Value
import Playground.Text.Quoted

/-! Reading records out of JSON values. A record is an object, or an array with the fields in their
order. -/

namespace Playground.Record

/-- Why a value is not the record that was asked for. -/
inductive Cause
  | missing (field : String)
  | duplicate (field : String)
  | wrongType (got wanted : String)
  | wrongValue (got wanted : String)
  | wrongLength (count : Nat) (wanted : String)
deriving DecidableEq, Repr

def Cause.message : Cause → String
  | .missing field => s!"missing field `{field}`"
  | .duplicate field => s!"duplicate field `{field}`"
  | .wrongType got wanted => s!"invalid type: {got}, expected {wanted}"
  | .wrongValue got wanted => s!"invalid value: {got}, expected {wanted}"
  | .wrongLength count wanted => s!"invalid length {count}, expected {wanted}"

/-- A step from a value to one of its parts. -/
inductive Step
  | member (key : String)
  | item (index : Nat)
deriving DecidableEq, Repr

/-- A cause with the way to the part it is about. -/
structure Misfit where
  path : List Step
  cause : Cause
deriving DecidableEq, Repr

abbrev Decoded (α : Type) := Except Misfit α

def fail (cause : Cause) : Decoded α := .error ⟨[], cause⟩

/-- Reads a part; what is wrong with it is told with the step to it. -/
def within (step : Step) (d : Decoded α) : Decoded α :=
  d.mapError fun m => { m with path := step :: m.path }

/-- A value in a message. -/
def describe : Json → String
  | .null => "null"
  | .bool b => s!"boolean `{b}`"
  | .integer n => s!"integer `{n}`"
  | .decimal raw => s!"floating point `{Decimal.retold raw}`"
  | .string s => "string " ++ Text.quoteText s
  | .array _ => "sequence"
  | .object _ => "map"

def wrongType (v : Json) (wanted : String) : Decoded α := fail (.wrongType (describe v) wanted)

def string : Json → Decoded String
  | .string s => .ok s
  | v => wrongType v "a string"

def bool : Json → Decoded Bool
  | .bool b => .ok b
  | v => wrongType v "a boolean"

/-- A natural number; `wanted` is the name of its type. -/
def natural (wanted : String) : Json → Decoded Nat
  | .integer n => if n < 0 then fail (.wrongValue (describe (.integer n)) wanted) else .ok n.toNat
  | v => wrongType v wanted

/-- A value that may be left out by writing `null`. -/
def optional (read : Json → Decoded α) : Json → Decoded (Option α)
  | .null => .ok none
  | v => (read v).map some

/-- The items from an index on. -/
def items (read : Json → Decoded α) : Nat → List Json → Decoded (List α)
  | _, [] => .ok []
  | index, v :: vs => do
    let a ← within (.item index) (read v)
    let rest ← items read (index + 1) vs
    return a :: rest

def list (read : Json → Decoded α) : Json → Decoded (List α)
  | .array vs => items read 0 vs
  | v => wrongType v "a sequence"

/-- A field of a record of type `α`. -/
structure Field (α : Type) where
  name : String
  /-- Another name that the field is also read by. -/
  otherName : Option String := none
  required : Bool
  /-- Puts what a value holds into the record. -/
  read : Json → α → Decoded α

def Field.isNamed (f : Field α) (key : String) : Bool := f.name == key || f.otherName == some key

/-- Puts a member where its key belongs; a later member takes the place of one of the same key. -/
def insertMember (m : String × Json) : List (String × Json) → List (String × Json)
  | [] => [m]
  | n :: ns =>
    if m.1 < n.1 then m :: n :: ns
    else if m.1 = n.1 then m :: ns
    else n :: insertMember m ns

/-- Members by increasing key, the last one of each. -/
def sortMembers (ms : List (String × Json)) : List (String × Json) :=
  ms.foldl (fun sorted m => insertMember m sorted) []

/-- Reads members in turn; `seen` are the fields already read. Members that are no fields are passed
over. -/
def readMembers (fields : List (Field α)) (seen : List String) (draft : α) :
    List (String × Json) → Decoded (List String × α)
  | [] => .ok (seen, draft)
  | (key, v) :: ms =>
    match fields.find? (·.isNamed key) with
    | none => readMembers fields seen draft ms
    | some f =>
      if seen.contains f.name then fail (.duplicate f.name)
      else do
        let draft ← within (.member key) (f.read v draft)
        readMembers fields (f.name :: seen) draft ms

/-- Reads the items of an array as the fields in their order. -/
def readItems (tooShort : Nat → Cause) (tooLong : Cause) (isStrict : Bool) (draft : α) :
    Nat → List (Field α) → List Json → Decoded α
  | _, [], [] => .ok draft
  | _, [], _ :: _ => if isStrict then fail tooLong else .ok draft
  | index, f :: fs, [] =>
    if f.required then fail (tooShort index)
    else readItems tooShort tooLong isStrict draft (index + 1) fs []
  | index, f :: fs, v :: vs => do
    let draft ← within (.item index) (f.read v draft)
    readItems tooShort tooLong isStrict draft (index + 1) fs vs

/-- Reads a record, starting from one in which every field has the value it gets when it is left
out. Where the reading `isStrict`, an array may not be longer than the record. -/
def record (title : String) (fields : List (Field α)) (start : α) (isStrict : Bool) :
    Json → Decoded α
  | .object members => do
    let (seen, draft) ← readMembers fields [] start (sortMembers members)
    match fields.find? fun f => f.required && !seen.contains f.name with
    | some f => fail (.missing f.name)
    | none => return draft
  | .array vs =>
    readItems (fun index => .wrongLength index s!"struct {title} with {fields.length} elements")
      (.wrongLength vs.length "fewer elements in array") isStrict start 0 fields vs
  | v => wrongType v s!"struct {title}"

end Playground.Record
