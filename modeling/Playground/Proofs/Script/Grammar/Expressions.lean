import Playground.Proofs.Script.Grammar.Results

/-! The expressions that the grammar gives begin with a character that can be seen. -/

-- The instances for the longer rules are found through some hundred steps.
set_option synthInstance.maxSize 4000

namespace Playground.Script

open Text

theorem Expr.Good.of_shows {text : List Char} {e : Expr} (h : e.Shows)
    (hn : ∀ id, e ≠ .name id) : e.Good text :=
  ⟨h, fun id he => absurd he (hn id)⟩

namespace Parse

open Progress

/-- The rules that the others refer back to give expressions and patterns that show. -/
class GoodExprs (text : List Char) (g : Grammar) : Prop where
  assignment : Gives text (Expr.Good text) g.assignment
  unary : Gives text (Expr.Good text) g.unary
  memberOrNew : Gives text (Expr.Good text) g.memberOrNew
  operand : Gives text (Expr.Good text) g.operand
  binaryTail : ∀ left bound, Gives text (fun e => left.Good text → e.Good text)
    (g.binaryTail left bound)
  toPattern : ∀ e, Gives text (fun p => e.Shows → p.Shows) (g.toPattern .target e)

attribute [instance] GoodExprs.assignment GoodExprs.unary GoodExprs.memberOrNew GoodExprs.operand

variable {text : List Char} {g : Grammar} [g.Keeps text] [GoodExprs text g]

/-- What is given anyway is given under a condition. -/
instance (priority := low) {P : Prop} {Q : α → Prop} {m : Parse α} [hm : Gives text Q m] :
    Gives text (fun a => P → Q a) m := hm.mono fun _ hQ _ => hQ

/-! ### Operands -/

theorem gives_word (text : List Char) (w : Word) (start : Nat) :
    Gives text (fun id : Ident => (∃ cs, (Token.word w).Fits cs) → IsBoundary text start →
      IsName id.name.toList ∧ IsBoundary text id.span.start)
      (do return ⟨w.text, ← since start⟩) := by
  refine .bind (gives_since start) fun span => .pure ?_
  rintro hspan ⟨_, hw⟩ hstart
  exact ⟨hw, (hspan hstart).start⟩

theorem gives_ident (allowsYield : Bool) :
    Gives text (fun id => IsName id.name.toList ∧ IsBoundary text id.span.start)
      (ident allowsYield) := by
  refine .bind gives_position fun start => .bind gives_required fun t => ?_
  split
  · rename_i w
    have := gives_word text w start
    refine .skip fun _ => .skip fun _ => ?_
    dsimp only
    split <;> split <;> infer_instance
  · infer_instance

theorem gives_literal (value : Literal) :
    Gives text (fun e => Visible value.text.toList → e.Good text) (literal value) :=
  .skip fun _ => .skip fun _ => .skip fun _ => .pure fun hv => .of_shows hv nofun

theorem visible_regex (body flags : String) : Visible (Literal.regex body flags).text.toList := by
  refine ⟨'/', body.toList ++ '/' :: flags.toList, ?_, by decide⟩
  simp [Literal.text, String.toList_append]

instance : Gives text (Expr.Good text) Parse.regex := by
  refine .ofResult fun scope s e s' h => ?_
  unfold Parse.regex at h
  obtain ⟨_, _, -, h⟩ := bind_eq_ok.mp h
  obtain ⟨_, _, -, h⟩ := bind_eq_ok.mp h
  obtain ⟨_, _, -, h⟩ := bind_eq_ok.mp h
  obtain ⟨_, _, -, h⟩ := bind_eq_ok.mp h
  obtain ⟨t?, _, -, h⟩ := bind_eq_ok.mp h
  rcases t? with _ | t
  · exact absurd h (Fails.fails _ _ _ _)
  · cases t with
    | regex body flags =>
      obtain ⟨_, _, -, h⟩ := bind_eq_ok.mp h
      obtain ⟨_, _, -, h⟩ := bind_eq_ok.mp h
      obtain ⟨_, _, -, h⟩ := bind_eq_ok.mp h
      obtain ⟨_, _, -, h⟩ := bind_eq_ok.mp h
      cases h
      exact .of_shows (visible_regex body flags) nofun
    | _ => exact absurd h (Fails.fails _ _ _ _)

instance (isTagged : Bool) : Gives text (Expr.Good text) (template g isTagged) := by
  have (span : Span) (texts : List String) (exprs : List Expr) :
      Gives text (Expr.Good text) (pure (.template span texts exprs)) :=
    .pure (.of_shows trivial nofun)
  unfold template
  infer_instance

instance : Gives text (Expr.Good text) (array g) := by
  have (span : Span) (elements : List Expr) : Gives text (Expr.Good text)
      (pure (.array span elements)) :=
    .pure (.of_shows trivial nofun)
  unfold array
  infer_instance

instance : Gives text (Expr.Good text) (object g) := by
  have (span : Span) (properties : List Property) : Gives text (Expr.Good text)
      (pure (.object span properties)) :=
    .pure (.of_shows trivial nofun)
  refine .skip fun _ => .skip fun _ => .skip fun found => ?_
  dsimp only
  split <;> infer_instance

theorem gives_closeFunction {e : Expr} (h : e.Good text) :
    Gives text (Expr.Good text) (closeFunction e) :=
  .skip fun _ => .pure h

instance (start : Nat) (isAsync : Bool) (ps : List Pattern) :
    Gives text (Expr.Good text) (arrowRest g start isAsync ps) := by
  have (span : Span) (body : Block) : Gives text (Expr.Good text)
      (closeFunction (.arrowBlock span isAsync ps body)) :=
    gives_closeFunction (.of_shows trivial nofun)
  have (span : Span) (body : Expr) : Gives text (Expr.Good text)
      (closeFunction (.arrowExpr span isAsync ps body)) :=
    gives_closeFunction (.of_shows trivial nofun)
  unfold arrowRest
  infer_instance

instance (mayBeArrow : Bool) : Gives text (Expr.Good text) (nameOrArrow g mayBeArrow) := by
  refine .skip fun _ => .skip fun _ => .bind (gives_ident _) fun id => ?_
  have : Gives text
      (fun e : Expr => IsName id.name.toList ∧ IsBoundary text id.span.start → e.Good text)
      (pure (.name id)) := by
    refine .pure fun hid => ⟨hid.1.visible, fun id' h => ?_⟩
    cases h
    exact hid.2
  infer_instance

instance : Gives text (Expr.Good text) (functionExpr g) := by
  have (fn : Func) (name : Option Ident) : Gives text (Expr.Good text)
      (closeFunction (.function fn.span name fn)) :=
    gives_closeFunction (.of_shows trivial nofun)
  unfold functionExpr
  infer_instance

instance (e : Expr) : Gives text (fun b : Expr => e.Good text → b.Good text) (pure e) := .pure id

instance (mayBeArrow : Bool) (asyncSpan : Option Span) :
    Gives text (Expr.Good text) (parenOrArrow g mayBeArrow asyncSpan) := by
  have (span inner : Span) (items : List Expr) :
      Gives text (Expr.Good text) (pure (.call span (.name ⟨"async", inner⟩) items)) :=
    .pure (.of_shows (show Visible "async".toList by decide) nofun)
  have (span : Span) (e : Expr) : Gives text (Expr.Good text) (pure (.paren span e)) :=
    .pure (.of_shows trivial nofun)
  unfold parenOrArrow
  extract_lets rest
  have : ∀ start, Gives text (Expr.Good text) (rest start) := by
    refine fun start => .skip fun found => .skip fun _ => .ite (.skip fun _ => ?_)
      (.skip fun _ => ?_)
    · extract_lets arrow check
      have : ∀ u, Gives text (Expr.Good text) (arrow u) := by
        refine fun _ => .skip fun _ => .skip fun _ => .skip fun _ => .bind (P := Expr.Good text)
          inferInstance fun e => ?_
        dsimp only
        split
        · refine .skip fun l? => ?_
          split
          · exact .skip fun _ => .afterNote inferInstance
          · infer_instance
        · infer_instance
      clear_value arrow
      infer_instance
    · dsimp only
      split
      · infer_instance
      · split <;> infer_instance
  clear_value rest
  cases asyncSpan <;> infer_instance

instance : Gives text (Expr.Good text) (primary g) := by
  have (span : Span) : Gives text (Expr.Good text) (pure (.this span)) :=
    .pure (.of_shows trivial nofun)
  have (span : Span) (name : Option Ident) (cls : ClassBody) :
      Gives text (Expr.Good text) (pure (.classExpr span name cls)) :=
    .pure (.of_shows trivial nofun)
  have (span : Span) (name : String) : Gives text (Expr.Good text)
      (pure (.privateName span name)) :=
    .pure (.of_shows trivial nofun)
  refine .skip fun _ => .skip fun _ => .bind gives_token? fun t? => ?_
  dsimp only
  split
  case h_5 =>
    exact (gives_literal .null).mono fun _ he _ => he (by decide)
  case h_6 value =>
    refine (gives_literal (.bool value)).mono fun _ he _ => he ?_
    cases value
    · exact (by decide : Visible "false".toList)
    · exact (by decide : Visible "true".toList)
  case h_7 raw =>
    refine (gives_literal (.number raw)).mono fun _ he ht => he ?_
    obtain ⟨_, hfits⟩ := ht _ rfl
    exact hfits
  case h_8 raw =>
    refine (gives_literal (.bigint raw)).mono fun _ he ht => he ?_
    obtain ⟨_, hfits⟩ := ht _ rfl
    exact hfits
  case h_9 value raw =>
    refine (gives_literal (.string value raw)).mono fun _ he ht => he ?_
    obtain ⟨_, hfits⟩ := ht _ rfl
    exact hfits
  all_goals infer_instance

/-! ### Members and calls -/

/-- What comes of an operand that is good is good, whether it goes on or ends there. -/
def GoesOn (text : List Char) (owner : Expr) (r : Expr ⊕ Expr) : Prop :=
  owner.Good text → Sum.elim (Expr.Good text) (Expr.Good text) r

theorem gives_inl {owner e : Expr} (h : owner.Shows → e.Shows) (hn : ∀ id, e ≠ .name id) :
    Gives text (GoesOn text owner) (pure (.inl e)) := .pure fun ho => .of_shows (h ho.shows) hn

instance (start : Nat) (mayCall : Bool) (owner : Expr) :
    Gives text (GoesOn text owner) (subscript g start mayCall owner) := by
  unfold subscript
  refine .skip fun isOptional => ?_
  extract_lets isChain afterCall isImport afterBracket afterOptional
  have (span : Span) (key : Key) : Gives text (GoesOn text owner)
      (pure (.inl (if isChain then .chainMember span isOptional owner key
          else .member span owner key))) := by
    cases isChain <;> exact gives_inl id nofun
  have (span : Span) (args : List Expr) : Gives text (GoesOn text owner)
      (pure (.inl (.call span owner args))) :=
    gives_inl id nofun
  have (span : Span) (args : List Expr) :
      Gives text (GoesOn text owner) (pure (.inl (.chainCall span isOptional owner args))) :=
    gives_inl id nofun
  have (span : Span) (e : Expr) : Gives text (GoesOn text owner)
      (pure (.inl (.tagged span owner e))) :=
    gives_inl id nofun
  have : Gives text (GoesOn text owner) (pure (.inr owner)) := .pure id
  have : ∀ u, Gives text (GoesOn text owner) (afterCall u) := by
    refine fun _ => .skip fun _ => .ite inferInstance ?_
    split <;> infer_instance
  clear_value afterCall
  have : ∀ u, Gives text (GoesOn text owner) (afterBracket u) := by
    refine fun _ => .skip fun _ => .ite inferInstance (.skip fun _ => .ite (.skip fun _ => ?_) ?_)
    all_goals
      refine .skip fun _ => .ite (.skip fun _ => .skip fun _ => .ite inferInstance ?_) inferInstance
      split <;> infer_instance
  clear_value afterBracket
  infer_instance

instance (mayCall : Bool) (owner : Expr) :
    Gives text (fun e : Expr => owner.Good text → e.Good text) (subscripts g mayCall owner) :=
  .skip fun fuel => gives_iterate (fun _ => inferInstanceAs (Gives text (GoesOn text _) _))
    fuel owner

omit [GoodExprs text g] in
theorem gives_subscripts {mayCall : Bool} {owner : Expr} (h : owner.Good text) :
    Gives text (Expr.Good text) (subscripts g mayCall owner) :=
  (inferInstance : Gives text (fun e => owner.Good text → e.Good text) _).mono fun _ he => he h

instance (start : Nat) (mayCall : Bool) :
    Gives text (Expr.Good text) (importExpr g start mayCall) := by
  have (span : Span) (phase : ImportPhase) :
      Gives text (Expr.Good text) (subscripts g mayCall (.importRef span phase)) :=
    gives_subscripts (.of_shows trivial nofun)
  have (span : Span) : Gives text (Expr.Good text) (subscripts g mayCall (.importMeta span)) :=
    gives_subscripts (.of_shows trivial nofun)
  unfold importExpr
  refine .skip fun _ => .ite inferInstance (.skip fun _ => .ite inferInstance ?_)
  split <;> infer_instance

instance (start : Nat) : Gives text (Expr.Good text) (construction g start) := by
  have (span : Span) : Gives text (Expr.Good text) (subscripts g false (.newTarget span)) :=
    gives_subscripts (.of_shows trivial nofun)
  have (span : Span) (callee : Expr) (args : List Expr) :
      Gives text (Expr.Good text) (subscripts g false (.construct span callee true args)) :=
    gives_subscripts (.of_shows trivial nofun)
  have (span : Span) (callee : Expr) : Gives text (Expr.Good text)
      (pure (.construct span callee false [])) :=
    .pure (.of_shows trivial nofun)
  unfold construction
  refine .skip fun _ => .ite inferInstance (.bind (P := Expr.Good text) inferInstance
    fun callee => .ite inferInstance ?_)
  dsimp only
  split <;> infer_instance

instance : Gives text (Expr.Good text) (memberOrNew g) := by
  have (span : Span) : Gives text (Expr.Good text) (subscripts g false (.superRef span)) :=
    gives_subscripts (.of_shows trivial nofun)
  unfold memberOrNew
  refine .skip fun _ => .skip fun _ => .ite inferInstance (.skip fun _ => .ite inferInstance ?_)
  refine .skip fun _ => .ite inferInstance (.bind (P := Expr.Good text) inferInstance fun e => ?_)
  infer_instance

instance : Gives text (Expr.Good text) (operand g) := by
  have (span : Span) : Gives text (Expr.Good text) (subscripts g true (.superRef span)) :=
    gives_subscripts (.of_shows trivial nofun)
  unfold operand
  refine .skip fun _ => .skip fun _ => .ite inferInstance (.skip fun _ => .ite inferInstance ?_)
  refine .bind (P := Expr.Good text) inferInstance fun callee => .ite inferInstance ?_
  have (span : Span) (args : List Expr) :
      Gives text (fun e : Expr => callee.Good text → e.Good text)
        (subscripts g true
          (if callee.isChain then .chainCall span false callee args
            else .call span callee args)) := by
    refine (inferInstance : Gives text (fun e => Expr.Good text _ → e.Good text) _).mono
      fun e he hc => he ?_
    split <;> exact .of_shows hc.shows nofun
  split <;> infer_instance

/-! ### Operators -/

instance : Gives text (Expr.Good text) (awaitExpr g) := by
  have (span : Span) (arg : Expr) : Gives text (Expr.Good text) (pure (.await span arg)) :=
    .pure (.of_shows trivial nofun)
  refine .skip fun _ => .skip fun _ => .skip fun _ => .ite inferInstance ?_
  refine .skip fun _ => .skip fun _ => .skip fun _ => .ite inferInstance ?_
  infer_instance

instance : Gives text (Expr.Good text) (unary g) := by
  have (span : Span) (isIncrement : Bool) (arg : Expr) :
      Gives text (Expr.Good text) (pure (.update span isIncrement true arg)) :=
    .pure (.of_shows (.inl rfl) nofun)
  have (span : Span) (op : UnaryOp) (arg : Expr) : Gives text (Expr.Good text)
      (pure (.unary span op arg)) :=
    .pure (.of_shows trivial nofun)
  have (span : Span) (isIncrement : Bool) (e : Expr) :
      Gives text (fun b : Expr => e.Good text → b.Good text)
          (pure (.update span isIncrement false e)) :=
    .pure fun he => .of_shows (.inr he.shows) nofun
  unfold unary
  refine .skip fun _ => .skip fun _ => .ite inferInstance (.skip fun t? => ?_)
  split
  · refine .skip fun _ => .skip fun _ => .skip fun outcome => ?_
    extract_lets rest
    have : ∀ arg, Gives text (Expr.Good text) (rest arg) := by
      intro arg
      simp only [rest]
      split <;> infer_instance
    clear_value rest
    cases outcome <;> infer_instance
  · refine .skip fun _ => .ite inferInstance (.bind (P := Expr.Good text) inferInstance fun e => ?_)
    infer_instance

instance (left : Expr) (bound : Nat) :
    Gives text (fun e => left.Good text → e.Good text) (binaryTail g left bound) := by
  refine .skip fun fuel => gives_iterate (fun left => ?_) fuel left
  have : Gives text (fun r => left.Good text → Sum.elim (Expr.Good text) (Expr.Good text) r)
      (pure (.inr left : Expr ⊕ Expr)) := .pure id
  have (span : Span) (op : BinaryOp) (right : Expr) :
      Gives text (fun r => left.Good text → Sum.elim (Expr.Good text) (Expr.Good text) r)
        (pure (.inl (.binary span op left right) : Expr ⊕ Expr)) :=
    .pure fun hl => .of_shows hl.shows nofun
  refine .skip fun t? => .skip fun scope => ?_
  split
  · refine .ite inferInstance (.skip fun _ => ?_)
    dsimp only
    split <;> infer_instance
  · infer_instance

instance : Gives text (Expr.Good text) (binary g) := by
  refine .bind (gives_attempt (Q := Expr.Good text) inferInstance) fun outcome => ?_
  cases outcome with
  | ok left =>
    refine .ite (.pure fun h => h left rfl) ?_
    exact (GoodExprs.binaryTail left 0).mono fun e he hl => he (hl left rfl)
  | error fault =>
    refine .skip fun _ => .skip fun _ => .ite inferInstance (.skip fun span => ?_)
    exact .afterNote inferInstance

instance : Gives text (Expr.Good text) (conditional g) := by
  refine .skip fun _ => .bind (P := Expr.Good text) inferInstance fun test => ?_
  have (span : Span) (yes no : Expr) :
      Gives text (fun e : Expr => test.Good text → e.Good text) (pure (.cond span test yes no)) :=
    .pure fun ht => .of_shows ht.shows nofun
  infer_instance

instance : Gives text (Expr.Good text) (yieldExpr g) := by
  have (span : Span) (isDelegate : Bool) (arg : Option Expr) :
      Gives text (Expr.Good text) (pure (.yield span isDelegate arg)) :=
    .pure (.of_shows trivial nofun)
  unfold yieldExpr
  infer_instance

/-! ### Assignments -/

theorem asPlace_shows {e : Expr} (h : e.Shows) : (asPlace e).Shows := by
  cases e <;> exact h

instance (e : Expr) : Gives text (fun p => e.Shows → p.Shows) (toPattern g .target e) := by
  have (e : Expr) : Gives text (fun p => e.Shows → p.Shows) (pure (asPlace e)) :=
    .pure asPlace_shows
  cases e with
  | invalid span => exact .pure False.elim
  | object span properties => exact .skip fun _ => .skip fun _ => .pure fun _ => trivial
  | array span elements => exact .skip fun _ => .skip fun _ => .pure fun _ => trivial
  | _ => exact .skip fun _ => inferInstance

instance (op : AssignOp) (e : Expr) :
    Gives text (fun p => e.Good text → p.Shows) (assignTarget g op e) := by
  unfold assignTarget
  extract_lets rest
  have hrest : ∀ target, Gives text (fun p => target.Shows → p.Shows) (rest target) := by
    intro target
    have : Gives text (fun p => target.Shows → p.Shows) (pure target) := .pure id
    simp only [rest]
    split <;> infer_instance
  clear_value rest
  split
  · refine .bind (GoodExprs.toPattern e) fun target => ?_
    exact (hrest target).mono fun p hp ht he => hp (ht he.shows)
  · have : Gives text (fun p => e.Good text → p.Shows) (rest (asPlace e)) :=
      (hrest (asPlace e)).mono fun p hp he => hp (asPlace_shows he.shows)
    exact .ite (.skip fun _ => this) this

instance : Gives text (Expr.Good text) (assignment g) := by
  refine .skip fun _ => .skip
    fun _ => .ite inferInstance (.skip fun _ => .skip fun _ => .skip fun _ => ?_)
  refine .bind (P := Expr.Good text) inferInstance fun e => ?_
  have (op : AssignOp) (target : Pattern) (span : Span) (value : Expr) :
      Gives text (fun b : Expr => (e.Good text → target.Shows) → e.Good text → b.Good text)
        (pure (.assign span op target value)) := .pure fun ht he => .of_shows (ht he) nofun
  split
  case h_7 =>
    refine .skip fun t? => ?_
    split
    · exact .bind (P := fun p => e.Good text → p.Shows) inferInstance fun target => inferInstance
    · infer_instance
  all_goals infer_instance

instance : Gives text (Expr.Good text) (expression g) := by
  refine .bind (P := Expr.Good text) inferInstance fun first => ?_
  have (span : Span) (others : List Expr) :
      Gives text (fun e : Expr => first.Good text → e.Good text)
          (pure (.seq span (first :: others))) :=
    .pure fun hf => .of_shows hf.shows nofun
  infer_instance

instance (depth : Nat) : GoodExprs text (grammar depth) := by
  induction depth with
  | zero =>
    refine ⟨?_, ?_, ?_, ?_, fun _ _ => ?_, fun _ => ?_⟩ <;>
      exact inferInstanceAs (Gives text _ (Parse.fail .nestingTooDeep))
  | succ depth ih =>
    exact
      { assignment := inferInstanceAs (Gives text _ (assignment (grammar depth)))
        unary := inferInstanceAs (Gives text _ (unary (grammar depth)))
        memberOrNew := inferInstanceAs (Gives text _ (memberOrNew (grammar depth)))
        operand := inferInstanceAs (Gives text _ (operand (grammar depth)))
        binaryTail :=
          fun left bound => inferInstanceAs (Gives text _ (binaryTail (grammar depth) left bound))
        toPattern := fun e => inferInstanceAs (Gives text _ (toPattern (grammar depth) .target e)) }

end Parse

end Playground.Script
