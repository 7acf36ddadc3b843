import Playground.Proofs.Script.Grammar.Expressions
import Playground.Script.LoopGuard

/-! The statements that the grammar gives stand between characters of the text, and so do the bodies
of loops; what is printed of an item begins with a character that can be seen. -/

-- The instances for the longer rules are found through some hundred steps.
set_option synthInstance.maxSize 4000

namespace Playground.Script

open Text

/-- The statement and, if it is a loop, its body stand in the text, and it shows. -/
structure Stmt.Good (text : List Char) (s : Stmt) : Prop where
  placed : s.Placed text
  body : ∀ body, s.loopBody? = some body → body.Placed text
  shows : s.Shows

/-- An item that is a statement is a good one. -/
def ModuleItem.Good (text : List Char) (item : ModuleItem) : Prop :=
  ∀ s, item = .stmt s → s.Good text

namespace Stmt.Good

variable {text : List Char}

theorem of_span {s : Stmt} (h : s.span.On text) (hb : ∀ b, s ≠ .block b) (hl : s.loopBody? = none)
    (hs : s.Shows) :
    s.Good text :=
  ⟨⟨h, fun b he => absurd he (hb b)⟩, fun _ he => absurd (hl.symm.trans he) nofun, hs⟩

theorem of_loop {s body : Stmt} (h : s.span.On text) (hb : ∀ b, s ≠ .block b)
    (hl : s.loopBody? = some body) (hbody : body.Good text) (hs : s.Shows) : s.Good text := by
  refine ⟨⟨h, fun b he => absurd he (hb b)⟩, fun body' he => ?_, hs⟩
  rw [hl] at he
  cases he
  exact hbody.placed

end Stmt.Good

namespace Parse

open Progress

/-- The rule that the statements refer back to gives good ones. -/
class GoodStmts (text : List Char) (g : Grammar) : Prop where
  statement : ∀ declares, Gives text (Stmt.Good text) (g.statement declares)

attribute [instance] GoodStmts.statement

variable {text : List Char} {g : Grammar} [g.Keeps text]

/-- A rule starts between characters of the text. -/
instance {α : Type} {Q : α → Prop} {f : Nat → Parse α}
    [hf : ∀ start, Gives text (fun a => IsBoundary text start → Q a) (f start)] :
    Gives text Q (position >>= f) :=
  gives_position.bind hf

/-- What a rule has read is a span that starts where the rule did. -/
instance {α : Type} {Q : α → Prop} {start : Nat} {f : Span → Parse α}
    [hf : ∀ span, Gives text (fun a => span.On text → Q a) (f span)] :
    Gives text (fun a => IsBoundary text start → Q a) (since start >>= f) :=
  .bind (gives_since start) fun span => (hf span).mono fun _ hQ hspan hstart => hQ (hspan hstart)

/-! ### Blocks, functions and classes -/

instance : Gives text (fun b : Block => b.span.On text) (block g) := by
  have (span : Span) (body : List Stmt) :
      Gives text (fun b : Block => span.On text → b.span.On text) (pure (.mk span body)) := .pure id
  unfold block
  infer_instance

/-- A block starts at the token that is in sight. -/
theorem block_start {scope : Scope} {s s' : Progress} {b : Block} {l : Lexeme}
    (h : block g scope s = .ok b s') (hl : s.current = some l) : b.span.start = l.span.start := by
  have hpos : position scope s = .ok l.span.start s := by
    obtain ⟨_, _, _, _, _, _, _, _, _⟩ := s
    cases hl
    rfl
  unfold block at h
  rw [bind_of_ok hpos] at h
  obtain ⟨_, _, -, h⟩ := bind_eq_ok.mp h
  obtain ⟨_, _, -, h⟩ := bind_eq_ok.mp h
  obtain ⟨span, _, hspan, h⟩ := bind_eq_ok.mp h
  cases h
  cases hspan
  rfl

theorem required_eq_ok {scope : Scope} {s s' : Progress} {t : Token}
    (h : required scope s = .ok t s') :
    ∃ l, s'.current = some l ∧ l.token = t := by
  unfold required at h
  obtain ⟨l?, s₁, hl, h⟩ := bind_eq_ok.mp h
  cases l? with
  | none => exact absurd h (Fails.fails _ _ _ _)
  | some l =>
    have hcur := current?_eq_ok hl
    obtain ⟨token, _, _, _⟩ := l
    cases token with
    | error fault => exact absurd h (Fails.fails _ _ _ _)
    | _ =>
      cases h
      exact ⟨_, hcur, rfl⟩

/-- A block whose brace is in sight begins with it. -/
theorem gives_block {scope : Scope} {s s' : Progress} {l : Lexeme} {b : Block}
    (hl : s.current = some l) (ht : l.token = .mark .leftBrace) (h : block g scope s = .ok b s')
    (hs : s.Sound text) :
    s'.Flawed ∨ (Stmt.block b).Good text := by
  obtain ⟨hk, hon⟩ :=
    (inferInstance : Gives text (fun b : Block => b.span.On text) (block g)).gives scope s b s' h
  rcases hs.fits l (.inl hl) with hflaw | hfits
  · exact .inl ((hk hs).2 hflaw)
  refine (hon hs).imp_right fun hspan => ?_
  rw [ht] at hfits
  have hbrace : ∃ before rest, text = before ++ '{' :: rest ∧ byteSize before = b.span.start := by
    obtain ⟨rest, hrest⟩ := List.head?_eq_some_iff.mp hfits
    obtain ⟨before, htext, hsize⟩ := (hs.stands l (.inl hl)).start
    rw [block_start h hl]
    exact ⟨before, rest, by rw [htext, hrest], hsize.symm⟩
  refine ⟨⟨hspan, fun b' hb => ?_⟩, nofun, trivial⟩
  cases hb
  exact hbrace

/-- Where a token has to be there, a rule may go another way at one of them and rest on having it in
sight. -/
theorem Gives.atRequired {Q : α → Prop} {f : Token → Parse α} {t : Token}
    (hother : ∀ t', t' ≠ t → Gives text Q (f t'))
    (hf : ∀ scope s l a s', s.current = some l → l.token = t → f t scope s = .ok a s' →
      Kept text s s' ∧ (s.Sound text → s'.Flawed ∨ Q a)) : Gives text Q (required >>= f) := by
  refine ⟨fun scope s a s' h => ?_⟩
  obtain ⟨t', s₁, ht, hft⟩ := bind_eq_ok.mp h
  have hk : Kept text s s₁ := Keeps.of_ok ht
  have ⟨hk', hQ⟩ : Kept text s₁ s' ∧ (s₁.Sound text → s'.Flawed ∨ Q a) := by
    by_cases heq : t' = t
    · subst heq
      obtain ⟨l, hl, hlt⟩ := required_eq_ok ht
      exact hf scope s₁ l a s' hl hlt hft
    · exact (hother t' heq).gives scope s₁ a s' hft
  exact ⟨hk.trans hk', fun hs => hQ (hk hs).1⟩

instance (start : Nat) (ps : Parse (List Pattern)) [Keeps text ps] (isAsync isGenerator : Bool) :
    Gives text (fun fn : Func => IsBoundary text start → fn.span.On text)
      (functionRest g start ps isAsync isGenerator) := by
  have (span : Span) (ps : List Pattern) (body : Block) :
      Gives text (fun fn : Func => span.On text → fn.span.On text)
          (pure (.mk span isAsync isGenerator ps body)) :=
    .pure id
  unfold functionRest
  infer_instance

theorem gives_function (asyncStart : Option Nat) (isExpr isNamed : Bool) :
    Gives text (fun p : Option Ident × Func => (∀ start, asyncStart = some start →
      IsBoundary text start) → p.2.span.On text) (function g asyncStart isExpr isNamed) := by
  unfold function
  extract_lets isAsync rest
  have hrest : ∀ start, Gives text
      (fun p : Option Ident × Func => IsBoundary text start → p.2.span.On text)
      (rest start) := by
    refine fun start => .skip fun _ => .skip fun isGenerator => .within ?_
    have (name : Option Ident) : Gives text
        (fun p : Option Ident × Func => IsBoundary text start → p.2.span.On text)
        (functionRest g start (params g) isAsync isGenerator >>= fun fn => pure (name, fn)) :=
      .bind (P := fun fn => IsBoundary text start → fn.span.On text) inferInstance fun fn =>
        .pure fun hfn hstart => hfn hstart
    infer_instance
  cases asyncStart with
  | some start => exact (hrest start).mono fun p hp hstart => hp (hstart start rfl)
  | none =>
    exact .bind gives_position fun start => (hrest start).mono fun p hp hstart _ => hp hstart

instance (isExpr isNamed : Bool) :
    Gives text (fun p : Option Ident × Func => p.2.span.On text) (function g none isExpr isNamed) :=
  (gives_function none isExpr isNamed).mono fun _ hp => hp nofun

instance (isExpr isNamed : Bool) :
    Gives text (fun p : Option Ident × Func => p.2.span.On text)
      (asyncFunction g isExpr isNamed) := by
  refine .bind gives_position fun start => .skip
    fun _ => (gives_function (some start) isExpr isNamed).mono ?_
  rintro p hp hstart
  refine hp fun start' h => ?_
  cases h
  exact hstart

instance : Gives text (Stmt.Good text) (functionDecl g) := by
  refine .skip fun _ => ?_
  have (p : Option Ident × Func) : Gives text (fun s => p.2.span.On text → Stmt.Good text s)
      (pure (.function p.2.span (p.1.getD ⟨"", p.2.span⟩) p.2)) :=
    .pure fun h => .of_span h nofun rfl trivial
  exact .ite (.bind (P := fun p : Option Ident × Func => p.2.span.On text) inferInstance
    fun p => this p)
    (.bind (P := fun p : Option Ident × Func => p.2.span.On text) inferInstance fun p => this p)

instance (isNamed : Bool) :
    Gives text (fun p : Option Ident × ClassBody => p.2.span.On text) (classRest g isNamed) := by
  have (span : Span) (name : Option Ident) (parent : Option Expr) (members : List ClassMember) :
      Gives text (fun p : Option Ident × ClassBody => span.On text → p.2.span.On text)
        (pure (name, .mk span parent members)) := .pure id
  unfold classRest
  infer_instance

instance : Gives text (Stmt.Good text) (classDecl g) :=
  .bind (P := fun p : Option Ident × ClassBody => p.2.span.On text) inferInstance fun _ =>
    .pure fun h => .of_span h nofun rfl trivial

instance (inLoop : Bool) : Gives text (fun d : VarDecl => d.span.On text) (varDecl g inLoop) := by
  have (span : Span) (kind : VarKind) (ds : List Declarator) :
      Gives text (fun d : VarDecl => span.On text → d.span.On text) (pure (.mk span kind ds)) :=
    .pure id
  unfold varDecl
  infer_instance

/-! ### Loops, jumps and choices -/

theorem gives_labeled (label : Ident) :
    Gives text (fun s => IsBoundary text label.span.start → Visible label.name.toList →
      Stmt.Good text s) (labeled g label) := by
  refine .within (.skip fun _ => .skip fun _ => .skip fun _ => ?_)
  extract_lets rest
  have : ∀ body, Gives text (fun s => IsBoundary text label.span.start → Visible label.name.toList →
      Stmt.Good text s) (rest body) := by
    intro body
    have (span : Span) : Gives text
        (fun s => span.On text → Visible label.name.toList → Stmt.Good text s)
        (pure (.labeled span label body)) := .pure fun h hl => .of_span h nofun rfl hl
    infer_instance
  clear_value rest
  refine .ite (.skip fun decl => ?_) inferInstance
  dsimp only
  split <;> infer_instance

variable [GoodExprs text g] [GoodStmts text g]

instance {m : Parse Stmt} [hm : Gives text (Stmt.Good text) m] :
    Gives text (Stmt.Good text) (inLoop m) := hm.within

/-- A loop that was read since `start`. -/
theorem gives_loop {start : Nat} {span : Span} {s body : Stmt} (hspan : s.span = span)
    (hb : ∀ b, s ≠ .block b) (hl : s.loopBody? = some body) (hs : s.Shows) :
    Gives text (fun s : Stmt => (IsBoundary text start → span.On text) → body.Good text →
      IsBoundary text start → s.Good text) (pure s) :=
  .pure fun hon hbody hstart => .of_loop (hspan ▸ hon hstart) hb hl hbody hs

instance : Gives text (Stmt.Good text) (forStatement g) := by
  refine .bind gives_position fun start => .skip fun _ => .skip fun _ => ?_
  extract_lets rest
  have : ∀ awaitSpan, Gives text (fun s => IsBoundary text start → Stmt.Good text s)
      (rest awaitSpan) := by
    intro awaitSpan
    refine .skip fun _ => .skip fun head => .skip fun _ => .bind (P := Stmt.Good text)
      inferInstance fun body => ?_
    refine .bind (gives_since start) fun span => ?_
    split
    · exact gives_loop rfl nofun rfl trivial
    · cases awaitSpan with
      | some at' => infer_instance
      | none => exact gives_loop rfl nofun rfl trivial
    · cases awaitSpan with
      | some at' => infer_instance
      | none => exact gives_loop rfl nofun rfl trivial
  clear_value rest
  infer_instance

instance : Gives text (Stmt.Good text) (whileStatement g) := by
  refine .bind gives_position fun start => .skip fun _ => .skip fun test => ?_
  refine .bind (P := Stmt.Good text) inferInstance
    fun body => .bind (gives_since start) fun span => ?_
  exact gives_loop rfl nofun rfl trivial

instance : Gives text (Stmt.Good text) (doStatement g) := by
  refine .bind gives_position fun start => .skip fun _ => .bind (P := Stmt.Good text)
    inferInstance fun body => ?_
  refine .skip fun _ => .skip fun _ => .skip fun _ => .bind (gives_since start) fun span => ?_
  exact gives_loop rfl nofun rfl trivial

instance : Gives text (Stmt.Good text) jumpStatement := by
  refine .bind gives_position fun start => .skip fun _ => .skip fun _ => .skip fun _ => ?_
  extract_lets rest
  have (span : Span) (label : Option Ident) : Gives text (fun s => span.On text → Stmt.Good text s)
      (pure (.breaks span label)) := .pure fun h => .of_span h nofun rfl trivial
  have (span : Span) (label : Option Ident) : Gives text (fun s => span.On text → Stmt.Good text s)
      (pure (.continues span label)) := .pure fun h => .of_span h nofun rfl trivial
  have : ∀ label, Gives text (fun s => IsBoundary text start → Stmt.Good text s) (rest label) := by
    infer_instance
  clear_value rest
  infer_instance

instance : Gives text (Stmt.Good text) (returnStatement g) := by
  refine .bind gives_position fun start => ?_
  have (span : Span) (arg : Option Expr) : Gives text (fun s => span.On text → Stmt.Good text s)
      (pure (.returns span arg)) := .pure fun h => .of_span h nofun rfl trivial
  refine .bind (gives_attempt (Q := fun s => IsBoundary text start → Stmt.Good text s)
    inferInstance) fun outcome => ?_
  cases outcome with
  | ok stmt =>
    have : Gives text
        (fun s => (∀ a, (.ok stmt : Except Fault Stmt) = .ok a → IsBoundary text start →
          a.Good text) → IsBoundary text start → Stmt.Good text s)
        (pure stmt) := .pure fun h => h stmt rfl
    infer_instance
  | error fault => infer_instance

instance : Gives text (Stmt.Good text) (throwStatement g) := by
  have (span : Span) (arg : Expr) : Gives text (fun s => span.On text → Stmt.Good text s)
      (pure (.throws span arg)) := .pure fun h => .of_span h nofun rfl trivial
  unfold throwStatement
  infer_instance

instance : Gives text (Stmt.Good text) (ifStatement g) := by
  have (span : Span) (test : Expr) (yes : Stmt) (no : Option Stmt) :
      Gives text (fun s => span.On text → Stmt.Good text s) (pure (.ifElse span test yes no)) :=
    .pure fun h => .of_span h nofun rfl trivial
  unfold ifStatement
  infer_instance

instance : Gives text (Stmt.Good text) (switchStatement g) := by
  have (span : Span) (value : Expr) (cases : List SwitchCase) :
      Gives text (fun s => span.On text → Stmt.Good text s) (pure (.switch span value cases)) :=
    .pure fun h => .of_span h nofun rfl trivial
  unfold switchStatement
  infer_instance

instance : Gives text (Stmt.Good text) (tryStatement g) := by
  have (span : Span) (body : Block) (handler : Option CatchClause) (finalizer : Option Block) :
      Gives text (fun s => span.On text → Stmt.Good text s)
          (pure (.tryCatch span body handler finalizer)) :=
    .pure fun h => .of_span h nofun rfl trivial
  unfold tryStatement
  infer_instance

instance : Gives text (Stmt.Good text) (strayHandler g) := .skip fun _ => .afterNote inferInstance

instance : Gives text (Stmt.Good text) (withStatement g) :=
  .skip fun _ => .skip fun _ => .afterNote inferInstance

/-! ### Any statement -/

/-- An expression as a statement that was read since `start`. -/
theorem gives_expr (start : Nat) (e : Expr) :
    Gives text (fun s => e.Good text → IsBoundary text start → Stmt.Good text s)
      (since start >>= fun span => pure (.expr span e)) :=
  .bind (gives_since start) fun _ => .pure fun h he hstart => .of_span (h hstart) nofun rfl he.shows

instance : Gives text (Stmt.Good text) (expressionStatement g) := by
  refine .bind gives_position fun start => .bind (P := Expr.Good text) inferInstance fun e => ?_
  extract_lets rest
  have : ∀ u, Gives text (fun s => e.Good text → IsBoundary text start → Stmt.Good text s)
      (rest u) := by
    refine fun _ => .skip fun _ => .ite (gives_expr start e) (.skip fun t? => ?_)
    split
    · exact .skip fun _ => .afterNote inferInstance
    · infer_instance
  clear_value rest
  split
  · rename_i id
    refine .skip
      fun _ => .ite ((gives_labeled id).mono fun s hs he _ => hs (he.name id rfl) he.shows) ?_
    infer_instance
  · infer_instance

instance : Gives text (Stmt.Good text) (awaitStatement g) := by
  refine .bind gives_position fun start => .bind (P := Expr.Good text) inferInstance fun arg => ?_
  refine .bind (GoodExprs.binaryTail arg 0) fun e => .skip fun _ => ?_
  exact (gives_expr start e).mono fun s hs he harg => hs (he harg)

instance : Gives text (Stmt.Good text) (importStatement g) := by
  refine .bind gives_position fun start => .bind (P := Expr.Good text) inferInstance
    fun e => .skip fun _ => ?_
  exact gives_expr start e

instance (declares : Bool) : Gives text (Stmt.Good text) (ownStatement g declares) := by
  refine .bind gives_position fun start => .atRequired (t := .mark .leftBrace) (fun t ht => ?_) ?_
  · have (span : Span) : Gives text (fun s => span.On text → Stmt.Good text s)
        (pure (.debugger span)) :=
      .pure fun h => .of_span h nofun rfl trivial
    have (span : Span) : Gives text (fun s => span.On text → Stmt.Good text s)
        (pure (.empty span)) :=
      .pure fun h => .of_span h nofun rfl trivial
    have : Gives text (Stmt.Good text) (varDecl g false >>= fun d => pure (.var d)) :=
      .bind (P := fun d : VarDecl => d.span.On text) inferInstance fun d => .pure
        fun h => .of_span h nofun rfl trivial
    extract_lets rest
    have : ∀ u, Gives text (Stmt.Good text) (rest u) := by infer_instance
    clear_value rest
    split
    · split <;> infer_instance
    · exact absurd rfl ht
    all_goals infer_instance
  · intro scope s l stmt s' hl ht h
    obtain ⟨b, s₁, hb, h⟩ := bind_eq_ok.mp h
    cases h
    exact ⟨Keeps.of_ok hb, fun hs => (gives_block hl ht hb hs).imp_right fun hgood _ => hgood⟩

instance (declares : Bool) : Gives text (Stmt.Good text) (statement g declares) := by
  unfold statement
  infer_instance

instance (depth : Nat) : GoodStmts text (grammar depth) := by
  refine ⟨fun declares => ?_⟩
  induction depth generalizing declares with
  | zero => exact inferInstanceAs (Gives text _ (Parse.fail .nestingTooDeep))
  | succ depth ih =>
    have : GoodStmts text (grammar depth) := ⟨ih⟩
    exact inferInstanceAs (Gives text _ (statement (grammar depth) declares))

/-! ### Modules -/

instance (start : Nat) : Gives text (ModuleItem.Good text) (importRest start) := by
  have (span : Span) (phase : ImportPhase) (specifiers : List ImportSpecifier) (lit : StringLit) :
      Gives text (ModuleItem.Good text) (pure (.importFrom span phase specifiers lit)) :=
    .pure nofun
  refine .skip fun t? => ?_
  dsimp only
  split <;> infer_instance

instance (s : Stmt) :
    Gives text (fun item : ModuleItem => s.Good text → item.Good text) (pure (.stmt s)) := by
  refine .pure fun hs s' h => ?_
  cases h
  exact hs

instance : Gives text (ModuleItem.Good text) (importItem g) := by
  refine .skip fun start => .skip fun _ => .ite ?_ inferInstance
  exact .bind (P := Stmt.Good text) inferInstance fun s => inferInstance

instance (start : Nat) : Gives text (ModuleItem.Good text) (exportDefault g start) := by
  have (span : Span) (name : Option Ident) (cls : ClassBody) :
      Gives text (ModuleItem.Good text) (pure (.exportDefaultClass span name cls)) := .pure nofun
  have (span : Span) (name : Option Ident) (fn : Func) :
      Gives text (ModuleItem.Good text) (pure (.exportDefaultFunction span name fn)) := .pure nofun
  have (span : Span) (e : Expr) :
      Gives text (ModuleItem.Good text) (pure (.exportDefault span e)) := .pure nofun
  unfold exportDefault
  infer_instance

instance : Gives text (ModuleItem.Good text) (exportItem g) := by
  have (span : Span) (names : List ExportSpecifier) (source : Option StringLit) :
      Gives text (ModuleItem.Good text) (pure (.exportNamed span names source)) := .pure nofun
  have (span : Span) (lit : StringLit) :
      Gives text (ModuleItem.Good text) (pure (.exportAll span lit)) := .pure nofun
  have (span : Span) (decl : Stmt) :
      Gives text (ModuleItem.Good text) (pure (.exportDecl span decl)) := .pure nofun
  have (start : Nat) : Gives text (ModuleItem.Good text) (exportStar start) := by
    unfold exportStar; infer_instance
  have (start : Nat) : Gives text (ModuleItem.Good text) (exportNames start) := by
    unfold exportNames; infer_instance
  refine .skip fun _ => .skip fun _ => .skip fun t => ?_
  split <;> infer_instance

instance : Gives text (ModuleItem.Good text) (moduleItem g) := by
  refine .skip fun _ => .ite inferInstance (.skip fun _ => .ite inferInstance ?_)
  exact .bind (P := Stmt.Good text) inferInstance fun s => inferInstance

omit [g.Keeps text] [GoodExprs text g] [GoodStmts text g] in
/-- What is given of each item is given of all the items of a module. -/
theorem gives_module {Q : ModuleItem → Prop} (h : Gives text Q (moduleItem g)) :
    Gives text (fun m : Module => ∀ item ∈ m.items, Q item) (Parse.module g) := by
  refine .skip fun _ => .skip fun shebang => .bind (gives_collect (P := Q) ?_) fun items => ?_
  · refine .skip fun _ => .ite (.pure nofun) (.bind h fun item => .pure ?_)
    intro hitem item' h
    cases h
    exact hitem
  · exact .skip fun _ => .pure id

end Parse

theorem Reader.sound_ofText (text : List Char) :
    (Reader.ofText text).Sound (Reader.withoutMark text) :=
  ⟨⟨[], rfl, rfl⟩, nofun⟩

/-- What the grammar gives holds of a module that is read without a fault. -/
theorem Source.parse_gives {text : List Char} {source : Source} {Q : Module → Prop}
    (hQ : ∀ depth, Parse.Gives (Reader.withoutMark text) Q (Parse.module (grammar depth)))
    (h : Source.parse text = .ok source) : Q source.module := by
  unfold Source.parse at h
  extract_lets reader size depth at h
  let s : Progress := { reader, size }
  have hs : s.Sound (Reader.withoutMark text) := by
    refine ⟨Reader.sound_ofText text, ?_, ?_, ⟨[], _, rfl, rfl⟩⟩ <;> simp [s, Progress.InSight]
  cases hm : Parse.module (grammar depth) {} s with
  | error fault s' =>
    simp only [s] at hm
    rw [hm] at h
    cases h
  | ok module s' =>
    obtain ⟨_, hgood⟩ := (hQ depth).gives {} s module s' hm
    simp only [s] at hm
    rw [hm] at h
    cases hf : s'.firstFault? with
    | some fault =>
      simp only [hf] at h
      cases h
    | none =>
      simp only [hf] at h
      cases h
      have hclean : ¬ s'.Flawed := fun hflaw => hflaw (List.getLast?_eq_none_iff.mp hf)
      exact (hgood hs).resolve_left hclean

/-- What is read from a text without a fault is good. -/
theorem Source.parse_good {text : List Char} {source : Source}
    (h : Source.parse text = .ok source) :
    ∀ item ∈ source.module.items, item.Good (Reader.withoutMark text) :=
  Source.parse_gives (fun _ => Parse.gives_module inferInstance) h

end Playground.Script
