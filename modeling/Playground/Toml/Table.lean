import Playground.Json.Value
import Playground.Toml.Scalar

/-! The table that the items of a TOML text make up. What is wrong is told by its byte offset. -/

namespace Playground.Toml

/-- How a table came to be; this decides what may still be added to it. -/
inductive Form
  /-- Named on the way to the table of a header. -/
  | passed
  /-- Named on the way to the key of a pair. -/
  | dotted
  | header
  | inline
deriving DecidableEq, Repr

/-- A value with the offset it is blamed at. Members are in the order of their names. -/
inductive Value
  | scalar (offset : Nat) (value : Json)
  /-- A number that nothing can hold. -/
  | unreadable (offset : Nat)
  | array (offset : Nat) (items : List Value)
  /-- The tables of a header in double brackets, the last one first. -/
  | tables (offset : Nat) (last : List (String × Value)) (before : List Value) (lastOffset : Nat)
  | table (offset : Nat) (form : Form) (members : List (String × Value))
deriving Repr

abbrev Members := List (String × Value)

/-- A part of a key with its name. -/
structure Key where
  start : Nat
  name : String
deriving DecidableEq, Repr

def RawKey.key (k : RawKey) : Except Nat Key := (k.name).map (⟨k.start, ·⟩)

def member? (name : String) (ms : Members) : Option Value := (ms.find? (·.1 == name)).map (·.2)

/-- Puts a member where its name belongs, in the place of one of the same name. -/
def putMember (name : String) (v : Value) : Members → Members
  | [] => [(name, v)]
  | m :: ms =>
    if name < m.1 then (name, v) :: m :: ms
    else if name = m.1 then (name, v) :: ms
    else m :: putMember name v ms

/-- Adds a pair to a table of the given form; the way to it is made of tables that dots may name. -/
def addPair (v : Value) (key : Key) (form : Form) (isDirect : Bool) :
    List Key → Members → Except Nat Members
  | [], ms =>
    if (form == .dotted) == isDirect || (member? key.name ms).isSome then .error key.start
    else .ok (putMember key.name v ms)
  | k :: ks, ms =>
    match member? k.name ms with
    | none => do
      let inner ← addPair v key .dotted false ks []
      return putMember k.name (.table k.start .dotted inner) ms
    | some (.table offset form inner) =>
      if form = .passed || form = .dotted then do
        let inner ← addPair v key form false ks inner
        return putMember k.name (.table offset form inner) ms
      else .error k.start
    | some (.tables offset last before lastOffset) => do
      let last ← addPair v key .header false ks last
      return putMember k.name (.tables offset last before lastOffset) ms
    | some _ => .error k.start

/-- Changes the table that the names of a header lead to. -/
def modifyAt (f : Members → Except Nat Members) : List String → Members → Except Nat Members
  | [], ms => f ms
  | name :: names, ms =>
    match member? name ms with
    | some (.table offset form inner) => do
      let inner ← modifyAt f names inner
      return putMember name (.table offset form inner) ms
    | some (.tables offset last before lastOffset) => do
      let last ← modifyAt f names last
      return putMember name (.tables offset last before lastOffset) ms
    | _ => .ok ms

/-- Opens the table of a header. -/
def openTable (start : Nat) (isArray : Bool) (key : Key) : List Key → Members → Except Nat Members
  | [], ms =>
    match isArray, member? key.name ms with
    | false, none => .ok (putMember key.name (.table start .header []) ms)
    | false, some (.table _ .passed inner) =>
      .ok (putMember key.name (.table start .header inner) ms)
    | true, none => .ok (putMember key.name (.tables start [] [] start) ms)
    | true, some (.tables offset last before lastOffset) =>
      .ok (putMember key.name
        (.tables offset [] (.table lastOffset .header last :: before) start) ms)
    | _, some _ => .error key.start
  | k :: ks, ms =>
    match member? k.name ms with
    | none => do
      let inner ← openTable start isArray key ks []
      return putMember k.name (.table k.start .passed inner) ms
    | some (.table offset form inner) =>
      if form = .inline then .error k.start
      else do
        let inner ← openTable start isArray key ks inner
        return putMember k.name (.table offset form inner) ms
    | some (.tables offset last before lastOffset) => do
      let last ← openTable start isArray key ks last
      return putMember k.name (.tables offset last before lastOffset) ms
    | some _ => .error k.start

/-- The way to the last part of a key, and that part. -/
def splitKey (keys : List RawKey) : Except Nat (List Key × Key) := do
  let keys ← keys.mapM RawKey.key
  match keys.getLast? with
  | some last => return (keys.dropLast, last)
  | none => .error 0

/-- A scalar with what it stands for. -/
def scalarValue (start : Nat) (quoting : Option Quoting) (text : List Char) : Except Nat Value :=
  match quoting with
  | some q =>
    match unquote q text with
    | .ok s => .ok (.scalar start (.string s))
    | .error n => .error (start + n)
  | none =>
    match plain text with
    | .ok (.bool b) => .ok (.scalar start (.bool b))
    | .ok (.integer n) => .ok (.scalar start (.integer n))
    | .ok (.decimal raw) => .ok (.scalar start (.decimal raw))
    | .ok .date => .ok (.scalar start (.object []))
    | .ok .unreadable => .ok (.unreadable start)
    | .error n => .error (start + n)

mutual

def RawValue.value : RawValue → Except Nat Value
  | .scalar start quoting text => scalarValue start quoting text
  | .array start items => do return .array start (← rawItems items)
  | .table start pairs => do return .table start .inline (← rawPairs pairs [])

def rawItems : List RawValue → Except Nat (List Value)
  | [] => .ok []
  | v :: vs => do
    let v ← v.value
    return v :: (← rawItems vs)

def rawPairs : List (List RawKey × RawValue) → Members → Except Nat Members
  | [], ms => .ok ms
  | (keys, v) :: pairs, ms => do
    let (path, key) ← splitKey keys
    let v ← v.value
    rawPairs pairs (← addPair v key .inline true path ms)

end

/-- Adds items to the root; pairs belong to the table of the last header. -/
def build (current : List String) (root : Members) : List Item → Except Nat Members
  | [] => .ok root
  | .header start isArray keys :: items => do
    let (path, key) ← splitKey keys
    let root ← openTable start isArray key path root
    build ((path ++ [key]).map (·.name)) root items
  | .pair keys v :: items => do
    let (path, key) ← splitKey keys
    let v ← v.value
    let root ← modifyAt (addPair v key .header true path) current root
    build current root items

/-- Reads a text as a table, or tells the offset of what is wrong first. -/
def table (cs : List Char) : Except Nat Members := do
  build [] [] (← items cs)

mutual

/-- The value without its offsets. -/
def Value.toJson : Value → Json
  | .scalar _ v => v
  | .unreadable _ => .decimal "0"
  | .array _ items => .array (jsonItems items)
  | .tables _ last before _ => .array ((jsonItems before).reverse ++ [.object (jsonMembers last)])
  | .table _ _ ms => .object (jsonMembers ms)

def jsonItems : List Value → List Json
  | [] => []
  | v :: vs => v.toJson :: jsonItems vs

def jsonMembers : Members → List (String × Json)
  | [] => []
  | (name, v) :: ms => (name, v.toJson) :: jsonMembers ms

end

mutual

/-- The offset of a number that nothing can hold. -/
def Value.unreadable? : Value → Option Nat
  | .scalar .. => none
  | .unreadable offset => some offset
  | .array _ items => unreadableItem? items
  | .tables _ last before _ => (unreadableItem? before).or (unreadableMember? last)
  | .table _ _ ms => unreadableMember? ms

def unreadableItem? : List Value → Option Nat
  | [] => none
  | v :: vs => v.unreadable?.or (unreadableItem? vs)

def unreadableMember? : Members → Option Nat
  | [] => none
  | (_, v) :: ms => v.unreadable?.or (unreadableMember? ms)

end

def Value.offset : Value → Nat
  | .scalar offset _ | .unreadable offset | .array offset _ | .tables offset ..
  | .table offset .. => offset

end Playground.Toml
