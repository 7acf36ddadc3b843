import Playground.Script.Comment
import Playground.Script.Token
import Playground.Text.Blank
import Playground.Text.Identifier

/-! Reading tokens. A `Reader` is the text that is left together with what the next token depends
on: the brackets that are open, the token before, and the comments met so far. -/

namespace Playground.Script

/-- A place in a text: what is left of it and how many bytes came before. -/
structure Cursor where
  rest : List Char
  position : Nat
deriving Repr

namespace Cursor

def current? (c : Cursor) : Option Char := c.rest.head?

def peek? (c : Cursor) : Option Char := c.rest.tail.head?

def advance (c : Cursor) : Cursor :=
  match c.rest with
  | [] => c
  | x :: rest => ⟨rest, c.position + x.utf8Size⟩

def advanceBy (c : Cursor) : Nat → Cursor
  | 0 => c
  | n + 1 => c.advance.advanceBy n

/-- Past the characters at the front that satisfy `p`. -/
def skipWhile (p : Char → Bool) (c : Cursor) : Cursor :=
  c.advanceBy (c.rest.takeWhile p).length

/-- The text between two places. -/
def upTo (c stop : Cursor) : List Char := c.rest.take (c.rest.length - stop.rest.length)

end Cursor

/-- What an open bracket is the bracket of. -/
inductive Enclosure
  | braceStatement
  | braceExpression
  | parenExpression
  | parenStatement (isFor : Bool)
  | template
  | templateHole
  | functionExpression
deriving DecidableEq, Repr

/-- Brackets that make an operand together with what they enclose. -/
def Enclosure.isExpression : Enclosure → Bool
  | .braceStatement | .parenStatement _ => false
  | _ => true

structure Reader where
  cursor : Cursor
  /-- A line ended since the token before. -/
  lineBefore : Bool := false
  /-- No token was read yet. -/
  atStart : Bool := true
  /-- Where the token before stops. -/
  lastStop : Nat := 0
  last : Option Token := none
  operandNext : Bool := true
  enclosures : List Enclosure := [.braceStatement]
  /-- A slash that the grammar wants read as the start of a regular expression. -/
  regexFrom : Option Cursor := none
  /-- Comments that lead up to the next token. -/
  waiting : List Comment := []
  comments : Comments := {}
  /-- What was wrong so far and did not stop the reading, last first. -/
  faults : List Fault := []
deriving Repr

namespace Reader

abbrev Read := EStateM Fault Reader

def position : Read Nat := return (← get).cursor.position

def current? : Read (Option Char) := return (← get).cursor.current?

def peek? : Read (Option Char) := return (← get).cursor.peek?

def advance : Read Unit := modify fun r => { r with cursor := r.cursor.advance }

def advanceBy (n : Nat) : Read Unit := modify fun r => { r with cursor := r.cursor.advanceBy n }

/-- Takes the character if it is next. -/
def eat (c : Char) : Read Bool := do
  if (← current?) = some c then
    advance
    return true
  else
    return false

/-- Notes a fault from `start` to here and goes on. -/
def note (cause : Cause) (start : Nat) : Read Unit :=
  modify fun r => { r with faults := ⟨cause, ⟨start, r.cursor.position⟩⟩ :: r.faults }

/-- Stops with a fault from `start` to here. -/
def fail (cause : Cause) (start : Nat) : Read α := do
  throw ⟨cause, ⟨start, ← position⟩⟩

/-- One more than the number of characters that are left: enough for any loop that takes one each
time. -/
def budget : Read Nat := return (← get).cursor.rest.length + 1

/-- Characters that end a line. -/
def isLineEnd (c : Char) : Bool :=
  c == '\n' || c == '\r' || c.toNat == 0x2028 || c.toNat == 0x2029

/-- Characters between tokens. -/
def isSpace (c : Char) : Bool :=
  isLineEnd c || c.toNat == 0xFEFF || Text.isBlank c

/-! ### Space and comments -/

/-- Passes over the space that is next. -/
def skipSpace : Read Unit := modify fun r =>
  let space := r.cursor.rest.takeWhile isSpace
  { r with
    cursor := r.cursor.advanceBy space.length
    lineBefore := r.lineBefore || space.any isLineEnd }

/-- Tokens that a block comment can trail. -/
def takesTrailingBlock : Option Token → Bool
  | some (.word (.name _)) | some (.number _) | some (.bigint _) | some (.string ..)
  | some (.regex ..) => true
  | some (.mark .dollarBrace) | some (.mark .leftBrace) | some (.mark .rightBrace)
  | some (.mark .semicolon) => true
  | _ => false

/-- Tokens that a line comment can trail. -/
def takesTrailingLine : Option Token → Bool
  | some (.operator _) => false
  | _ => true

/-- Keeps a comment for the next token or for the one before. -/
def keep (c : Comment) (forNext : Bool) : Read Unit := modify fun r =>
  if forNext then { r with waiting := r.waiting ++ [c] }
  else { r with comments := r.comments.addTrailing r.lastStop c }

/-- Reads a comment to the end of its line; `marks` is the length of what introduces it. -/
def lineComment (marks : Nat) : Read Unit := do
  advanceBy marks
  let r ← get
  let stop := r.cursor.skipWhile fun c => !isLineEnd c
  set { r with cursor := stop }
  keep ⟨true, String.ofList (r.cursor.upTo stop)⟩ (r.lineBefore || !takesTrailingLine r.last)

/-- The text before the first `*/`. -/
def untilBlockEnd : List Char → Option (List Char)
  | [] => none
  | '*' :: '/' :: _ => some []
  | c :: rest => (untilBlockEnd rest).map (c :: ·)

/-- Reads a comment between marks. One that is not closed takes the rest of the text. -/
def blockComment : Read Unit := do
  advanceBy 2
  let r ← get
  match untilBlockEnd r.cursor.rest with
  | none =>
    modify fun r => { r with cursor := r.cursor.advanceBy r.cursor.rest.length }
    note .unterminatedComment (← position)
  | some text =>
    let forNext := r.lineBefore || !takesTrailingBlock r.last
    set { r with
      cursor := r.cursor.advanceBy (text.length + 2)
      lineBefore := r.lineBefore || text.any isLineEnd }
    skipSpace
    let closes := (← current?) = some ';'
    keep ⟨false, String.ofList text⟩ (forNext && !closes)

/-- Passes over space and comments. -/
def skipBlanks : Nat → Read Unit
  | 0 => return
  | fuel + 1 => do
    skipSpace
    match (← get).cursor.rest with
    | '/' :: '/' :: _ =>
      lineComment 2
      skipBlanks fuel
    | '/' :: '*' :: _ =>
      blockComment
      skipBlanks fuel
    | _ => return

/-! ### Words -/

/-- Takes digits of the base, and the separators between them; at most `limit` of them when it is
not zero. -/
def digitRun (radix limit start : Nat) : (fuel : Nat) → List Char → Read (List Char)
  | 0, taken => return taken.reverse
  | fuel + 1, taken => do
    match ← current? with
    | none => return taken.reverse
    | some c =>
      if c == '_' then
        if ((← peek?).bind (digitOf? radix)).isNone then note .misplacedSeparator start
        advance
        digitRun radix limit start fuel taken
      else if (digitOf? radix c).isNone then return taken.reverse
      else
        advance
        if taken.length + 1 = limit then return (c :: taken).reverse
        digitRun radix limit start fuel (c :: taken)

/-- The digits of the base that are next. -/
def digits (radix limit : Nat) : Read (List Char) := do
  digitRun radix limit (← position) (← budget) []

/-- Reads what follows `\u`: four digits, or any number of them between braces. An escape for half
of a surrogate pair stands for its own text. -/
def unicodeEscape : Read (List Char) := do
  let braced ← eat '{'
  let from' := (← get).cursor
  let ds ← digits 16 (if braced then 0 else 4)
  let value := readDigits 16 ds
  if ds.isEmpty || (!braced && ds.length ≠ 4) || 0x100000000 ≤ value then
    fail (.badEscape (if braced then "1-6 hex characters" else "4 hex characters")) (← position)
  if 0x10FFFF < value then
    fail (.badEscape (if braced then "1-6 hex characters in the range 0 to 10FFFF."
      else "4 hex characters"))
      (← position)
  let raw := from'.upTo (← get).cursor
  let chars :=
    if value.isValidChar then [Char.ofNat value]
    else if braced then ['\\', 'u', '{'] ++ raw.take 6 ++ ['}']
    else ['\\', 'u'] ++ raw
  if braced then
    if !(← eat '}') then fail .invalidUnicodeEscape from'.position
  return chars

/-- Reads the rest of a word; the second component tells whether it has escapes. -/
def wordRun : (fuel : Nat) → List Char → Bool → Read (List Char × Bool)
  | 0, taken, escaped => return (taken.reverse, escaped)
  | fuel + 1, taken, escaped => do
    match ← current? with
    | none => return (taken.reverse, escaped)
    | some c =>
      if Text.isIdentPart c then
        advance
        wordRun fuel (c :: taken) escaped
      else if c == '\\' then
        let start ← position
        advance
        if !(← eat 'u') then throw ⟨.unicodeEscapeExpected, ⟨start, start⟩⟩
        let chars ← unicodeEscape
        let fits := if taken.isEmpty then Text.isIdentStart else Text.isIdentPart
        match chars.head? with
        | some first => if !fits first then note .invalidIdentCharacter start
        | none => pure ()
        wordRun fuel (chars.reverse ++ taken) true
      else return (taken.reverse, escaped)

/-- Reads a word. Escapes do not hide a reserved one. -/
def word (isReserved : Word → Bool) : Read Token := do
  let start ← position
  let (text, escaped) ← wordRun (← budget) [] false
  let w := Word.ofString (String.ofList text)
  if escaped && isReserved w then fail (.escapeInReservedWord w.text) start
  return .word w

/-! ### Literals -/

/-- No name may touch the end of a number. -/
def noIdent : Read Unit := do
  match ← current? with
  | some c => if Text.isIdentStart c then throw ⟨.identAfterNumber, ⟨← position, ← position⟩⟩
  | none => return

/-- At least one digit of the base. -/
def someDigits (radix : Nat) : Read (List Char) := do
  let start ← position
  let ds ← digits radix 0
  if ds.isEmpty then fail (.digitExpected radix) start
  return ds

/-- The text from a place up to here. -/
def textFrom (c : Cursor) : Read String := return String.ofList (c.upTo (← get).cursor)

/-- Reads a number with a base letter after its zero. -/
def radixNumber (radix : Nat) : Read Token := do
  let from' := (← get).cursor
  advanceBy 2
  let _ ← someDigits radix
  if ← eat 'n' then return .bigint (← textFrom from')
  noIdent
  return .number (← textFrom from')

/-- Reads the fraction and the exponent of a decimal number that began at `from'`. -/
def numberEnd (from' : Cursor) : Read Token := do
  if ← eat '.' then
    let _ ← digits 10 0
  if (← current?) = some 'e' || (← current?) = some 'E' then
    advance
    match ← current? with
    | none => fail .exponentWithoutDigits (← position)
    | some c =>
      if c == '+' || c == '-' then advance
      let _ ← someDigits 10
  noIdent
  return .number (← textFrom from')

/-- Reads a decimal number. One that begins with zero and goes on with digits is of an older
notation. -/
def decimalNumber : Read Token := do
  let from' := (← get).cursor
  if (← current?) = some '.' then return ← numberEnd from'
  let ds ← someDigits 10
  if ← eat 'n' then return .bigint (← textFrom from')
  if ds.head? = some '0' && 1 < ds.length then
    if ds.all fun c => (digitOf? 8 c).isSome then
      noIdent
      note .legacyOctal from'.position
      return .number (← textFrom from')
    note .legacyDecimal from'.position
  numberEnd from'

/-- The value of up to `count` more octal digits after `value`, below 256. -/
def octalRun : (count : Nat) → (value : Nat) → Read Nat
  | 0, value => return value
  | count + 1, value => do
    match (← current?).bind (digitOf? 8) with
    | some d =>
      if 256 ≤ value * 8 + d then return value
      advance
      octalRun count (value * 8 + d)
    | none => return value

/-- Reads an escape; the backslash is next. A line that is continued gives no character. -/
def escape (inTemplate : Bool) : Read (List Char) := do
  let start ← position
  advance
  match ← current? with
  | none => throw ⟨.invalidStringEscape, ⟨start, start⟩⟩
  | some c =>
    let plain (x : Char) : Read (List Char) := do
      advance
      return [x]
    if c == 'n' then plain '\n'
    else if c == 'r' then plain '\r'
    else if c == 't' then plain '\t'
    else if c == 'b' then plain (Char.ofNat 8)
    else if c == 'v' then plain (Char.ofNat 11)
    else if c == 'f' then plain (Char.ofNat 12)
    else if c == '\r' then
      advance
      let _ ← eat '\n'
      return []
    else if isLineEnd c then
      advance
      return []
    else if c == 'x' then
      advance
      let ds ← digits 16 2
      if ds.length ≠ 2 then fail (.badEscape "2 hex characters") start
      return [Char.ofNat (readDigits 16 ds)]
    else if c == 'u' then
      advance
      match ← (observing unicodeEscape) with
      | .ok chars => return chars
      | .error fault => fail fault.cause start
    else
      match digitOf? 8 c with
      | none => plain c
      | some d =>
        advance
        if d == 0 && ((← current?).bind (digitOf? 8)).isNone then return [Char.ofNat 0]
        if inTemplate then fail .legacyOctal start
        note .legacyOctal start
        return [Char.ofNat (← octalRun 2 d)]
where
  /-- The outcome of a step, with what it took from the text either way. -/
  observing {α : Type} (step : Read α) : Read (Except Fault α) := fun r =>
    match step r with
    | .ok a r' => .ok (.ok a) r'
    | .error e r' => .ok (.error e) r'

/-- Reads the characters of a string up to its closing quote. -/
def stringRun (quote : Char) (start : Nat) : (fuel : Nat) → List Char → Read (List Char)
  | 0, taken => return taken.reverse
  | fuel + 1, taken => do
    match ← current? with
    | none =>
      note .unterminatedString start
      return taken.reverse
    | some c =>
      if c == quote then
        advance
        return taken.reverse
      else if c == '\\' then
        let chars ← escape false
        stringRun quote start fuel (chars.reverse ++ taken)
      else if c == '\n' || c == '\r' then
        note .unterminatedString start
        return taken.reverse
      else
        advance
        stringRun quote start fuel (c :: taken)

/-- Reads a string. -/
def string (quote : Char) : Read Token := do
  let from' := (← get).cursor
  advance
  let value ← stringRun quote from'.position (← budget) []
  return .string (String.ofList value) (← textFrom from')

/-- Finds the end of a piece of template text. What is wrong with an escape is kept, because a tag
may accept it. -/
def templateRun (start : Nat) : (fuel : Nat) → Option Fault → Read (Option Fault)
  | 0, bad => return bad
  | fuel + 1, bad => do
    match (← get).cursor.rest with
    | [] => fail .unterminatedTemplate start
    | '`' :: _ | '$' :: '{' :: _ => return bad
    | c :: _ =>
      if c == '\\' then
        let bad' ← fun r =>
          match escape true r with
          | .ok _ r' => .ok bad r'
          | .error e r' => .ok (some (bad.getD e)) r'
        templateRun start fuel bad'
      else
        if isLineEnd c then modify fun r => { r with lineBefore := true }
        advance
        templateRun start fuel bad

/-- Reads inside a template: a piece of its text, the start of a hole, or its end. -/
def templateToken : Read Token := do
  let r ← get
  let afterText := match r.last with
    | some (.template ..) => true
    | _ => false
  match r.cursor.rest with
  | '`' :: _ =>
    if afterText then
      advance
      return .mark .backquote
  | '$' :: '{' :: _ =>
    if afterText then
      advanceBy 2
      return .mark .dollarBrace
  | _ => pure ()
  let bad ← templateRun r.cursor.position (← budget) none
  return .template (← textFrom r.cursor) bad

/-- Finds the slash that ends a regular expression; one inside a character class does not. -/
def regexRun (start : Nat) : (fuel : Nat) → (escaped inClass : Bool) → Read Unit
  | 0, _, _ => return
  | fuel + 1, escaped, inClass => do
    match ← current? with
    | none => fail .unterminatedRegex start
    | some c =>
      if isLineEnd c then fail .unterminatedRegex start
      if escaped then
        advance
        regexRun start fuel false inClass
      else if c == '/' && !inClass then return
      else
        advance
        regexRun start fuel (c == '\\') (c == '[' || (inClass && c != ']'))

/-- Reads a regular expression; its first slash is next. -/
def regex : Read Token := do
  let start ← position
  advance
  let body := (← get).cursor
  regexRun start (← budget) false false
  let text ← textFrom body
  advance
  let flags ← match ← current? with
    | some c =>
      if Text.isIdentStart c then do
        let (flags, _) ← wordRun (← budget) [] false
        pure (String.ofList flags)
      else pure ""
    | none => pure ""
  return .regex text flags

/-! ### Marks and operators -/

/-- The marks and operators that need no more than their spelling, the longer ones first. -/
def spellings : List (String × Token) := [
  (">>>=", .assign (.combined .shiftRightZero)), ("...", .mark .ellipsis),
  ("===", .operator .strictEq), ("!==", .operator .strictNe), ("**=", .assign (.combined .exp)),
  ("<<=", .assign (.combined .shiftLeft)), (">>=", .assign (.combined .shiftRight)),
  (">>>", .operator .shiftRightZero), ("&&=", .assign (.combined .and)),
  ("||=", .assign (.combined .or)), ("??=", .assign (.combined .coalesce)), ("=>", .mark .arrow),
  ("==", .operator .eq), ("!=", .operator .ne), ("<=", .operator .le), (">=", .operator .ge),
  ("<<", .operator .shiftLeft), (">>", .operator .shiftRight), ("&&", .operator .and),
  ("||", .operator .or), ("??", .operator .coalesce), ("**", .operator .exp),
  ("++", .mark .increment), ("--", .mark .decrement), ("+=", .assign (.combined .add)),
  ("-=", .assign (.combined .sub)), ("*=", .assign (.combined .mul)),
  ("/=", .assign (.combined .div)), ("%=", .assign (.combined .mod)),
  ("&=", .assign (.combined .bitAnd)), ("|=", .assign (.combined .bitOr)),
  ("^=", .assign (.combined .bitXor)), ("=", .assign .plain), ("<", .operator .lt),
  (">", .operator .gt), ("+", .operator .add), ("-", .operator .sub), ("*", .operator .mul),
  ("/", .operator .div), ("%", .operator .mod), ("&", .operator .bitAnd), ("|", .operator .bitOr),
  ("^", .operator .bitXor), ("!", .mark .bang), ("~", .mark .tilde), ("?", .mark .question),
  (":", .mark .colon), (";", .mark .semicolon), (",", .mark .comma), (".", .mark .dot),
  ("#", .mark .hash), ("@", .mark .atSign), ("(", .mark .leftParen), (")", .mark .rightParen),
  ("[", .mark .leftBracket), ("]", .mark .rightBracket), ("\x7b", .mark .leftBrace),
  ("\x7d", .mark .rightBrace), ("`", .mark .backquote)]

/-- The longest mark or operator that the text begins with. -/
def spelling? (cs : List Char) : Option (String × Token) :=
  spellings.find? fun s => s.1.toList.isPrefixOf cs

/-- Reads a token where one begins. Two forms of comment that modules do not have are noted and
passed over. -/
def token (isReserved : Word → Bool) : (fuel : Nat) → Read (Option Token)
  | 0 => return none
  | fuel + 1 => do
    let r ← get
    match r.cursor.rest with
    | [] => return none
    | c :: rest =>
      let start := r.cursor.position
      if Text.isIdentStart c || c == '\\' then return some (← word isReserved)
      if c == '0' then
        match rest.head? with
        | some 'x' | some 'X' => return some (← radixNumber 16)
        | some 'o' | some 'O' => return some (← radixNumber 8)
        | some 'b' | some 'B' => return some (← radixNumber 2)
        | _ => return some (← decimalNumber)
      if c.isDigit || (c == '.' && (rest.head?.map Char.isDigit).getD false) then
        return some (← decimalNumber)
      if c == '\'' || c == '"' then return some (← string c)
      if ['<', '!', '-', '-'].isPrefixOf r.cursor.rest then
        advance
        lineComment 3
        skipBlanks (← budget)
        note .legacyComment start
        return ← token isReserved fuel
      if r.lineBefore && ['-', '-', '>'].isPrefixOf r.cursor.rest then
        note .legacyComment start
        lineComment 3
        skipBlanks (← budget)
        return ← token isReserved fuel
      match spelling? r.cursor.rest with
      | some (text, t) =>
        advanceBy text.length
        return some t
      | none =>
        advance
        throw ⟨.unexpectedCharacter c, ⟨start, start⟩⟩

/-! ### The next token -/

/-- A brace that opens here opens a block of statements. -/
def opensBlock (r : Reader) : Bool :=
  let top := r.enclosures.head?
  match r.last with
  | some (.mark .colon) =>
    if top = some .braceStatement then true
    else if top = some .braceExpression then false
    else !r.operandNext
  | some (.word (.keyword .returnWord)) | some (.word (.keyword .yield)) => r.lineBefore
  | none | some (.word (.keyword .elseWord)) | some (.mark .semicolon) | some (.mark .rightParen)
  | some (.operator .lt) | some (.operator .gt) | some (.mark .arrow) => true
  | some (.mark .leftBrace) => top = some .braceStatement
  | some t =>
    let settled := match t with
      | .template .. | .mark .dot | .operator _ | .word (.keyword _) => true
      | _ => false
    (r.lineBefore && !settled && !t.beforeExpr) || !r.operandNext

/-- The brackets that are open after a token, and whether an operand comes next. -/
def after (r : Reader) (t : Token) : List Enclosure × Bool :=
  let stack := r.enclosures
  let isKeyword := match t with
    | .word (.keyword _) => true
    | _ => false
  if isKeyword && r.last = some (.mark .dot) then (stack, false)
  else
    match t with
    | .mark .rightParen | .mark .rightBrace =>
      match stack with
      | [] | [_] => (stack, true)
      | .braceStatement :: .functionExpression :: below => (below, false)
      | .templateHole :: below => (below, below.head? != some .template)
      | top :: below => (below, !top.isExpression)
    | .word (.keyword .function) =>
      if r.operandNext && !r.opensBlock then (.functionExpression :: stack, false)
      else (stack, false)
    | .word (.name "of") =>
      if stack.head? = some (.parenStatement true) then
        (stack, !((r.last.map Token.beforeExpr).getD false))
      else (stack, false)
    | .word (.name _) => (stack, false)
    | .mark .leftBrace =>
      ((if r.opensBlock then .braceStatement else .braceExpression) :: stack, true)
    | .mark .dollarBrace => (.templateHole :: stack, true)
    | .mark .leftParen =>
      let top : Enclosure := match r.last with
        | some (.word (.keyword .ifWord)) | some (.word (.keyword .withWord))
        | some (.word (.keyword .whileWord)) => .parenStatement false
        | some (.word (.keyword .forWord)) => .parenStatement true
        | _ => .parenExpression
      (top :: stack, true)
    | .mark .increment | .mark .decrement => (stack, r.operandNext)
    | .mark .backquote =>
      if stack.head? = some .template then (stack.tail, false) else (.template :: stack, false)
    | _ => (stack, t.beforeExpr)

/-- The text begins with a line that is meant for the system, not for the script. -/
def atShebang (r : Reader) : Bool := r.atStart && ['#', '!'].isPrefixOf r.cursor.rest

/-- Goes to where the next token begins. -/
def approach : Read Unit := do
  if let some slash := (← get).regexFrom then
    modify fun r => { r with cursor := slash }
    return
  if (← get).atShebang then return
  modify fun r => { r with lineBefore := r.atStart, atStart := false }
  if (← get).enclosures.head? ≠ some .template then skipBlanks (← budget)

/-- Reads the token that begins here. -/
def tokenHere (isReserved : Word → Bool) : Read (Option Token) := do
  let r ← get
  if r.regexFrom.isSome then return some (← regex)
  if r.atShebang then
    advanceBy 2
    let text := (← get).cursor
    modify fun r => { r with cursor := text.skipWhile fun c => !isLineEnd c, atStart := false }
    return some (.shebang (← textFrom text))
  if r.cursor.rest.isEmpty then return none
  if r.enclosures.head? = some .template then return some (← templateToken)
  token isReserved (← budget)

/-- The state that a step leaves, whether it succeeds or fails. -/
def finish (step : Read Unit) (r : Reader) : Reader :=
  match step r with
  | .ok _ r' | .error _ r' => r'

/-- Comments that wait at the end of the text trail the last token; without any token they lead up
to the text. -/
def settleComments (r : Reader) : Reader :=
  let comments := r.waiting.foldl (fun cs c =>
    if r.lastStop = 0 then cs.addLeading 0 c else cs.addTrailing r.lastStop c) r.comments
  { r with waiting := [], comments }

/-- The next token, `none` at the end of the text. -/
def next (r : Reader) (isReserved : Word → Bool) : Option Lexeme × Reader :=
  let r := finish approach r
  let start := r.cursor
  let (found, r) : Option Token × Reader :=
    match tokenHere isReserved r with
    | .ok found r' => (found, r')
    | .error fault r' => (some (.error fault), r')
  match found with
  | none => (none, r.settleComments)
  | some t =>
    let comments := r.waiting.foldl (fun cs c => cs.addLeading start.position c) r.comments
    let (enclosures, operandNext) := r.after t
    let lexeme : Lexeme := ⟨t, ⟨start.position, r.cursor.position⟩, r.lineBefore, start.rest⟩
    (some lexeme,
      { r with
        waiting := [], comments, enclosures, operandNext, last := some t
        lastStop := r.cursor.position })

/-- The text that a byte order mark may stand in front of. -/
def withoutMark : List Char → List Char
  | c :: rest => if c.toNat = 0xFEFF then rest else c :: rest
  | [] => []

/-- A reader at the start of a text. -/
def ofText (cs : List Char) : Reader := { cursor := ⟨withoutMark cs, 0⟩ }

end Reader

end Playground.Script
