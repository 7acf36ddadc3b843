import Playground.Proofs.Script.Token
import Playground.Proofs.Text.Escape

/-! What a text says to the reader: its tokens in their order, the literals told by their values. A
`Mode` is what the next token depends on besides the text. Where a token is spelled out in front of
a text the reader takes exactly that token and goes on in the mode after it, so that what a text
says is found from its end to its beginning. -/

namespace Playground.Script

open Text Reader

namespace Reader

/-! ### Steps of the reader -/

section

variable {α : Type}

theorem get_bind (f : Reader → Read α) (r : Reader) : (get >>= f) r = f r r := rfl

theorem position_bind (f : Nat → Read α) (r : Reader) :
    (position >>= f) r = f r.cursor.position r := rfl

theorem current?_bind (f : Option Char → Read α) (r : Reader) :
    (current? >>= f) r = f r.cursor.current? r := rfl

theorem budget_bind (f : Nat → Read α) (r : Reader) :
    (budget >>= f) r = f (r.cursor.rest.length + 1) r := rfl

theorem advance_bind (f : Unit → Read α) (r : Reader) :
    (advance >>= f) r = f () { r with cursor := r.cursor.advance } := rfl

theorem eat_bind_of_ne {c : Char} {r : Reader} (h : r.cursor.current? ≠ some c)
    (f : Bool → Read α) :
    (eat c >>= f) r = f false r := by
  have heat : eat c r = .ok false r := by
    rw [eat, current?_bind, if_neg h]
    rfl
  change EStateM.bind (eat c) f r = _
  rw [EStateM.bind, heat]

theorem bind_of_ok {β : Type} {m : Read β} {f : β → Read α} {r r' : Reader} {b : β}
    (h : m r = .ok b r') :
    (m >>= f) r = f b r' := by
  change EStateM.bind m f r = _
  rw [EStateM.bind, h]

end

end Reader

theorem Cursor.rest_advanceBy (c : Cursor) (n : Nat) : (c.advanceBy n).rest = c.rest.drop n := by
  induction n generalizing c with
  | zero => rfl
  | succ n ih =>
    rw [advanceBy, ih, advance]
    split
    · rename_i h
      simp [h]
    · rename_i h
      simp [h]

namespace Reader

/-! ### Modes -/

/-- What the next token depends on, besides the text. -/
structure Mode where
  enclosures : List Enclosure
  operandNext : Bool
  last : Option Token

/-- The mode after a token. -/
def Mode.after (m : Mode) (lineBefore : Bool) (t : Token) : Mode :=
  let r : Reader :=
    { cursor := ⟨[], 0⟩, lineBefore, last := m.last, operandNext := m.operandNext,
      enclosures := m.enclosures }
  ⟨(r.after t).1, (r.after t).2, some t⟩

/-- The reader is between two tokens, in front of the given text, with nothing wrong so far and no
comments. -/
structure Ready (r : Reader) (m : Mode) (text : List Char) : Prop where
  text : r.cursor.rest = text
  enclosures : r.enclosures = m.enclosures
  operandNext : r.operandNext = m.operandNext
  last : r.last = m.last
  atStart : r.atStart = false
  regexFrom : r.regexFrom = none
  waiting : r.waiting = []
  comments : r.comments = {}
  faults : r.faults = []

/-- The reader at another place of the text, past its start. -/
def moved (r : Reader) (c : Cursor) (lineBefore : Bool) : Reader :=
  { r with cursor := c, lineBefore, atStart := false }

theorem Ready.next {r : Reader} {m : Mode} {text : List Char} {isReserved : Word → Bool} {t : Token}
    {c c' : Cursor} {lineBefore lineBefore' : Bool} (h : r.Ready m text)
    (happroach : finish approach r = r.moved c lineBefore)
    (htoken : tokenHere isReserved (r.moved c lineBefore) = .ok (some t) (r.moved c' lineBefore')) :
    ∃ l r', r.next isReserved = (some l, r') ∧ l.token = t ∧ l.lineBefore = lineBefore' ∧
      r'.Ready (m.after lineBefore' t) c'.rest := by
  rw [Reader.next, happroach]
  dsimp only
  rw [htoken]
  refine ⟨_, _, rfl, rfl, rfl, ?_⟩
  have hafter : (r.moved c' lineBefore').after t =
      ((m.after lineBefore' t).enclosures, (m.after lineBefore' t).operandNext) := by
    rw [Mode.after, ← h.enclosures, ← h.last, ← h.operandNext]
    rfl
  rw [hafter]
  refine ⟨rfl, rfl, rfl, rfl, rfl, h.regexFrom, rfl, ?_, h.faults⟩
  change List.foldl _ r.comments r.waiting = _
  rw [h.waiting, h.comments]
  rfl

theorem approach_eq {r : Reader} (hregex : r.regexFrom = none) (hshebang : r.atShebang = false) :
    approach r = (if r.enclosures.head? ≠ some .template then skipBlanks (r.cursor.rest.length + 1)
      else pure ()) (r.moved r.cursor r.atStart) := by
  rw [approach_of_none hregex, get_bind, hshebang]
  change (if r.enclosures.head? ≠ some .template then (do skipBlanks (← budget))
    else pure () : Read Unit)
    (r.moved r.cursor r.atStart) = _
  split
  · rfl
  · rfl

theorem Ready.atShebang {r : Reader} {m : Mode} {text : List Char} (h : r.Ready m text) :
    r.atShebang = false := by
  rw [Reader.atShebang, h.atStart, Bool.false_and]

/-- No space and no comment is in front of the text. -/
def Opens (text : List Char) : Prop := ∀ c, text.head? = some c → isSpace c = false ∧ c ≠ '/'

theorem takeWhile_space {space text : List Char} (hspace : ∀ c ∈ space, isSpace c = true)
    (htext : Opens text) :
    (space ++ text).takeWhile isSpace = space := by
  rw [List.takeWhile_append_of_pos hspace]
  cases text with
  | nil => simp
  | cons c cs => simp [(htext c rfl).1]

theorem skipBlanks_space {r : Reader} {space text : List Char} (h : r.cursor.rest = space ++ text)
    (hspace : ∀ c ∈ space, isSpace c = true) (htext : Opens text) (fuel : Nat) :
    ∃ p, skipBlanks (fuel + 1) r =
      .ok () { r with cursor := ⟨text, p⟩, lineBefore := r.lineBefore || space.any isLineEnd } := by
  have hcursor : r.cursor.advanceBy space.length =
      ⟨text, (r.cursor.advanceBy space.length).position⟩ := by
    have hrest := Cursor.rest_advanceBy r.cursor space.length
    rw [h, List.drop_left] at hrest
    rw [← hrest]
  have hskip : skipSpace r = .ok () { r with
      cursor := r.cursor.advanceBy (r.cursor.rest.takeWhile isSpace).length
      lineBefore := r.lineBefore || (r.cursor.rest.takeWhile isSpace).any isLineEnd } := rfl
  rw [h, takeWhile_space hspace htext, hcursor] at hskip
  refine ⟨(r.cursor.advanceBy space.length).position, ?_⟩
  rw [skipBlanks, bind_of_ok hskip, get_bind]
  dsimp only
  split
  · exact absurd rfl (htext _ rfl).2
  · exact absurd rfl (htext _ rfl).2
  · rfl

theorem Ready.skip {r : Reader} {m : Mode} {space text : List Char} (h : r.Ready m (space ++ text))
    (hm : m.enclosures.head? ≠ some .template) (hspace : ∀ c ∈ space, isSpace c = true)
    (htext : Opens text) :
    ∃ p, finish approach r = r.moved ⟨text, p⟩ (space.any isLineEnd) := by
  obtain ⟨p, hskip⟩ :=
    skipBlanks_space (r := r.moved r.cursor false) h.text hspace htext r.cursor.rest.length
  rw [finish_eq_reached, approach_eq h.regexFrom h.atShebang, h.atStart,
    if_pos (h.enclosures ▸ hm), hskip]
  exact ⟨p, rfl⟩

theorem Ready.stay {r : Reader} {m : Mode} {text : List Char} (h : r.Ready m text)
    (hm : m.enclosures.head? = some .template) :
    finish approach r = r.moved r.cursor false := by
  rw [finish_eq_reached, approach_eq h.regexFrom h.atShebang, h.atStart,
    if_neg (by simp [h.enclosures, hm])]
  rfl

/-- The tokens from the reader to the end of its text; nothing is wrong with them, and there are no
comments. -/
inductive Lexes (isReserved : Word → Bool) : Reader → List Lexeme → Prop
  | done {r r' : Reader} :
      r.next isReserved = (none, r') → r'.faults = [] → r'.comments = {} → Lexes isReserved r []
  | more {r r' : Reader} {l : Lexeme} {ls : List Lexeme} :
      r.next isReserved = (some l, r') → Lexes isReserved r' ls → Lexes isReserved r (l :: ls)

end Reader

/-! ### Meanings -/

/-- Reads the escapes of a template's text. -/
def cookRun : (fuel : Nat) → List Char → Read (List Char)
  | 0, taken => return taken.reverse
  | fuel + 1, taken => do
    match ← current? with
    | none => return taken.reverse
    | some c =>
      if c == '\\' then
        let chars ← escape true
        cookRun fuel (chars.reverse ++ taken)
      else
        advance
        cookRun fuel (c :: taken)

/-- The text that a piece of a template stands for; `none` if one of its escapes is wrong. -/
def cooked? (raw : String) : Option String :=
  let text := lineFeeds raw.toList
  match cookRun (text.length + 1) [] { cursor := ⟨text, 0⟩ } with
  | .ok cs _ => some (String.ofList cs)
  | .error _ _ => none

/-- What a token says, however it is written: literals are told by their values. -/
inductive Meaning
  | code (t : Token) (startsLine : Bool)
  | string (value : String)
  | number (value : Nat × Nat)
  | template (text : Option String)

def Token.meaning (t : Token) (startsLine : Bool) : Meaning :=
  match t with
  | .string value _ => .string value
  | .number raw => .number (numberQuotient raw.toList)
  | .template raw _ => .template (cooked? raw)
  | t => .code t startsLine

def Lexeme.meaning (l : Lexeme) : Meaning := l.token.meaning l.lineBefore

/-- Whatever reader comes to the text in this mode, its tokens up to the end have these meanings. -/
def Says (isReserved : Word → Bool) (m : Mode) (text : List Char) (meanings : List Meaning) :
    Prop :=
  ∀ r : Reader, r.Ready m text → ∃ ls, Lexes isReserved r ls ∧ ls.map Lexeme.meaning = meanings

/-- The reader in front of another text. -/
def Reader.facing (r : Reader) (text : List Char) (p : Nat) : Reader :=
  { r with cursor := ⟨text, p⟩ }

/-- In front of `rest` the text is read as the token, and nothing more is taken. -/
structure Spells (t : Token) (text rest : List Char) : Prop where
  nonempty : text ≠ []
  opens : Opens text
  reads : ∀ (isReserved : Word → Bool) (fuel : Nat) (r : Reader) (p : Nat),
    ∃ p', token isReserved (fuel + 1) (r.facing (text ++ rest) p) = .ok (some t) (r.facing rest p')

section

variable {isReserved : Word → Bool} {m m' : Mode} {text rest : List Char} {meanings : List Meaning}

/-- Whatever reader comes to the text in the mode `m`, it takes one token of this meaning, and is
then in front of the rest in the mode `m'`. -/
def Takes (isReserved : Word → Bool) (m : Mode) (text : List Char) (meaning : Meaning) (m' : Mode)
    (rest : List Char) : Prop :=
  ∀ r : Reader, r.Ready m text → ∃ l r', r.next isReserved = (some l, r') ∧ l.meaning = meaning ∧
    r'.Ready m' rest

theorem Says.step {meaning : Meaning} (h : Says isReserved m' rest meanings)
    (hstep : Takes isReserved m text meaning m' rest) :
    Says isReserved m text (meaning :: meanings) := by
  intro r hr
  obtain ⟨l, r', hnext, rfl, hr'⟩ := hstep r hr
  obtain ⟨ls, hls, rfl⟩ := h r' hr'
  exact ⟨l :: ls, .more hnext hls, rfl⟩

section

variable {r : Reader} {before : List Char} {p : Nat} {lineBefore : Bool}

theorem atShebang_moved (c : Cursor) : (r.moved c lineBefore).atShebang = false := rfl

theorem tokenHere_of_nil (h : r.Ready m before) :
    tokenHere isReserved (r.moved ⟨[], p⟩ lineBefore) = .ok none (r.moved ⟨[], p⟩ lineBefore) := by
  have hregex : (r.moved ⟨[], p⟩ lineBefore).regexFrom = none := h.regexFrom
  rw [tokenHere, get_bind, hregex]
  rfl

theorem tokenHere_of_token (h : r.Ready m before) (hm : m.enclosures.head? ≠ some .template)
    (htext : text ≠ []) :
    tokenHere isReserved (r.moved ⟨text, p⟩ lineBefore) =
      Reader.token isReserved (text.length + 1) (r.moved ⟨text, p⟩ lineBefore) := by
  have hregex : (r.moved ⟨text, p⟩ lineBefore).regexFrom = none := h.regexFrom
  have htop : (r.moved ⟨text, p⟩ lineBefore).enclosures.head? ≠ some .template := h.enclosures ▸ hm
  have hrest : (r.moved ⟨text, p⟩ lineBefore).cursor.rest.isEmpty = false :=
    List.isEmpty_eq_false_iff.mpr htext
  rw [tokenHere, get_bind, hregex, atShebang_moved, hrest, if_neg htop]
  rfl

theorem tokenHere_of_template (h : r.Ready m before) (hm : m.enclosures.head? = some .template)
    (htext : text ≠ []) :
    tokenHere isReserved (r.moved ⟨text, p⟩ lineBefore) =
      (do return some (← templateToken) : Read (Option Token)) (r.moved ⟨text, p⟩ lineBefore) := by
  have hregex : (r.moved ⟨text, p⟩ lineBefore).regexFrom = none := h.regexFrom
  have htop : (r.moved ⟨text, p⟩ lineBefore).enclosures.head? = some .template := h.enclosures ▸ hm
  have hrest : (r.moved ⟨text, p⟩ lineBefore).cursor.rest.isEmpty = false :=
    List.isEmpty_eq_false_iff.mpr htext
  rw [tokenHere, get_bind, hregex, atShebang_moved, hrest, if_pos htop]
  rfl

end

theorem says_nil (hm : m.enclosures.head? ≠ some .template) : Says isReserved m [] [] := by
  intro r hr
  have hopens : Opens [] := by
    intro c hc
    cases hc
  obtain ⟨p, hskip⟩ := Ready.skip (List.append_nil [] ▸ hr) hm (List.forall_mem_nil _) hopens
  have hnext : r.next isReserved = (none, (r.moved ⟨[], p⟩ false).settleComments) := by
    rw [next, hskip]
    dsimp only
    rw [List.any_nil, tokenHere_of_nil hr]
  refine ⟨[], .done hnext hr.faults ?_, rfl⟩
  change List.foldl _ r.comments r.waiting = _
  rw [hr.waiting, hr.comments]
  rfl

theorem takes_token {space : List Char} {t : Token} (hm : m.enclosures.head? ≠ some .template)
    (hspace : ∀ c ∈ space, isSpace c = true) (ht : Spells t text rest) :
    Takes isReserved m (space ++ (text ++ rest)) (t.meaning (space.any Reader.isLineEnd))
      (m.after (space.any Reader.isLineEnd) t) rest := by
  intro r hr
  have hopens : Opens (text ++ rest) := by
    intro c hc
    rw [List.head?_append_of_ne_nil _ ht.nonempty] at hc
    exact ht.opens c hc
  obtain ⟨p, hskip⟩ := hr.skip hm hspace hopens
  obtain ⟨p', hread⟩ :=
    ht.reads isReserved (text ++ rest).length (r.moved ⟨text ++ rest, p⟩
      (space.any Reader.isLineEnd)) p
  have hhere : tokenHere isReserved (r.moved ⟨text ++ rest, p⟩ (space.any Reader.isLineEnd)) =
      .ok (some t) (r.moved ⟨rest, p'⟩ (space.any Reader.isLineEnd)) := by
    rw [tokenHere_of_token hr hm (List.append_ne_nil_of_left_ne_nil ht.nonempty rest)]
    exact hread
  obtain ⟨l, r', hnext, rfl, hline, hr'⟩ := hr.next hskip hhere
  exact ⟨l, r', hnext, by rw [Lexeme.meaning, hline], hr'⟩

theorem Says.token {space : List Char} {t : Token}
    (h : Says isReserved (m.after (space.any Reader.isLineEnd) t) rest meanings)
    (hm : m.enclosures.head? ≠ some .template) (hspace : ∀ c ∈ space, isSpace c = true)
    (ht : Spells t text rest) :
    Says isReserved m (space ++ (text ++ rest))
      (t.meaning (space.any Reader.isLineEnd) :: meanings) :=
  h.step (takes_token hm hspace ht)

theorem skipSpace_feed {r : Reader} {cs : List Char} (h : r.cursor.rest = '\n' :: cs)
    (lineBefore : Bool) :
    skipSpace (r.moved r.cursor lineBefore) =
      .ok () (r.moved (r.cursor.advanceBy (r.cursor.rest.takeWhile isSpace).length) true) := by
  have hend : (r.cursor.rest.takeWhile isSpace).any Reader.isLineEnd = true := by
    rw [h, List.takeWhile_cons_of_pos (by decide), List.any_cons]
    rfl
  change EStateM.Result.ok () (r.moved (r.cursor.advanceBy (r.cursor.rest.takeWhile isSpace).length)
    (lineBefore || (r.cursor.rest.takeWhile isSpace).any Reader.isLineEnd)) = _
  rw [hend, Bool.or_true]

/-- In front of a line feed it makes no difference whether a text is at its start. -/
theorem next_feed {r : Reader} {cs : List Char} (hrest : r.cursor.rest = '\n' :: cs)
    (hregex : r.regexFrom = none) (hm : r.enclosures.head? ≠ some .template) :
    r.next isReserved = (r.moved r.cursor false).next isReserved := by
  have hshebang : r.atShebang = false := by
    rw [atShebang, hrest]
    simp [List.isPrefixOf]
  have hskip : skipBlanks (r.cursor.rest.length + 1) (r.moved r.cursor r.atStart) =
      skipBlanks (r.cursor.rest.length + 1) (r.moved r.cursor false) := by
    rw [skipBlanks, bind_of_ok (skipSpace_feed hrest _), bind_of_ok (skipSpace_feed hrest _)]
  have hmoved := approach_eq (r := r.moved r.cursor false) hregex rfl
  rw [if_pos (show (r.moved r.cursor false).enclosures.head? ≠ some .template from hm)] at hmoved
  have happroach : approach r = approach (r.moved r.cursor false) := by
    rw [approach_eq hregex hshebang, if_pos hm, hskip]
    exact hmoved.symm
  rw [next, next, finish_eq_reached, finish_eq_reached, happroach]

theorem Says.lexes_ofText {cs : List Char}
    (h : Says isReserved ⟨[.braceStatement], true, none⟩ ('\n' :: cs) meanings) :
    ∃ ls, Lexes isReserved (Reader.ofText ('\n' :: cs)) ls ∧ ls.map Lexeme.meaning = meanings := by
  have hready : ((Reader.ofText ('\n' :: cs)).moved ⟨'\n' :: cs, 0⟩ false).Ready
      ⟨[.braceStatement], true, none⟩ ('\n' :: cs) :=
    ⟨rfl, rfl, rfl, rfl, rfl, rfl, rfl, rfl, rfl⟩
  obtain ⟨ls, hls, hmeanings⟩ := h _ hready
  refine ⟨ls, ?_, hmeanings⟩
  have hnext : (Reader.ofText ('\n' :: cs)).next isReserved = _ :=
    next_feed rfl rfl (by simp [Reader.ofText])
  cases hls with
  | done hend hfaults hcomments => exact .done (hnext.trans hend) hfaults hcomments
  | more hmore hrest => exact .more (hnext.trans hmore) hrest

end

end Playground.Script
