import Playground.Record.Config
import Playground.Toml.Table

/-! Settings written in TOML. -/

namespace Playground.Toml

open Record (Step)

/-- The offset of the part of a value that some steps lead to. -/
def offsetAt : List Step → Value → Nat
  | [], v => v.offset
  | .member key :: steps, .table offset _ ms => (member? key ms).elim offset (offsetAt steps)
  | .item i :: steps, .array offset items => (items[i]?).elim offset (offsetAt steps)
  | .item i :: steps, .tables offset last before lastOffset =>
    ((before.reverse ++ [.table lastOffset .header last])[i]?).elim offset (offsetAt steps)
  | _, v => v.offset

/-- The line and the column, both counted from one, of a byte offset. A column counts characters up
to an offset at the last byte of one, and bytes up to any other. -/
def positionFrom (line chars bytes : Nat) : List Char → Nat → Text.Position
  | [], n => ⟨line, chars + n + 1⟩
  | c :: cs, n =>
    if n < c.utf8Size then ⟨line, (if n + 1 = c.utf8Size then chars else bytes + n) + 1⟩
    else if c = '\n' then positionFrom (line + 1) 0 0 cs (n - c.utf8Size)
    else positionFrom line (chars + 1) (bytes + c.utf8Size) cs (n - c.utf8Size)

/-- The position of a byte offset. The end of the text is told as the column after its last
character. -/
def position (cs : List Char) (offset : Nat) : Text.Position :=
  let last := Text.byteSize cs - 1
  let p := positionFrom 1 0 0 cs (min offset last)
  if cs.isEmpty then ⟨1, offset + 1⟩ else { p with column := p.column + (offset - min offset last) }

end Playground.Toml

namespace Playground

/-- Why there are no settings. -/
inductive ConfigError
  | unreadable (path reason : String)
  | invalid (position : Text.Position)
deriving DecidableEq, Repr

/-- The first line of what is told about it. -/
def ConfigError.message : ConfigError → String
  | .unreadable path reason =>
    "failed to read config file " ++ Text.quoteText path ++ ": " ++ reason
  | .invalid p => s!"invalid config: TOML parse error at line {p.line}, column {p.column}"

/-- Settings from a table. -/
def Config.ofMembers (ms : Toml.Members) : Except Nat Config :=
  let root := Toml.Value.table 0 .header ms
  match Record.config false root.toJson with
  | .error m => .error (Toml.offsetAt m.path root)
  | .ok config => (root.unreadable?).elim (.ok config) .error

/-- Reads settings from a text. -/
def Config.ofToml (text : String) : Except ConfigError Config :=
  let cs := text.toList
  ((Toml.table cs).bind Config.ofMembers).mapError fun offset => .invalid (Toml.position cs offset)

end Playground
