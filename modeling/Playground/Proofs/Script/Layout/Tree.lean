import Playground.Proofs.Script.Grammar.Results
import Playground.Proofs.Script.Layout.Page
import Playground.Script.Layout.Tree

/-! Writing a node adds to the page. -/

-- The instances for the longer nodes are found through some hundred steps.
set_option synthInstance.maxSize 4000

namespace Playground.Script

open Write

instance (id : Ident) : Tame id.write := by unfold Ident.write; infer_instance

instance (lit : StringLit) : Tame lit.write := by unfold StringLit.write; infer_instance

instance (span : Span) (trails : Bool) {w : Write Unit} [Tame w] : Tame (framed span trails w) := by
  unfold framed; infer_instance

instance (span : Span) (ends : Bool) {w : Write Unit} [Tame w] : Tame (line span ends w) := by
  unfold line; infer_instance

instance (stop : Nat) {cs : List Child} [AllTame cs] : Tame (braces stop cs) := by
  unfold braces; infer_instance

instance (name : Span) : Tame (dot name) := by unfold dot; infer_instance

mutual

theorem Expr.tame (trails : Bool) (e : Expr) : Tame (e.write trails) := by
  cases e with
  | template _ texts exprs =>
    have := Expr.writeHoles_tame texts exprs
    unfold Expr.write; infer_instance
  | tagged _ tag text =>
    have := tag.tame true
    have := text.tame false
    unfold Expr.write; infer_instance
  | array _ elements =>
    have := Expr.children_tame elements
    unfold Expr.write; infer_instance
  | spread _ arg =>
    have := arg.tame true
    unfold Expr.write; infer_instance
  | object _ properties =>
    have := Property.children_tame properties
    unfold Expr.write; infer_instance
  | function _ name fn =>
    have := fn.tame
    unfold Expr.write
    cases name <;> infer_instance
  | arrowExpr _ _ params body =>
    have := Pattern.children_tame params
    have := body.tame true
    unfold Expr.write; infer_instance
  | arrowBlock _ _ params body =>
    have := Pattern.children_tame params
    have := body.tame
    unfold Expr.write; infer_instance
  | classExpr _ name cls =>
    have := cls.tame
    unfold Expr.write
    cases name <;> infer_instance
  | unary _ _ arg =>
    have := arg.tame true
    unfold Expr.write; infer_instance
  | update _ _ _ arg =>
    have := arg.tame true
    unfold Expr.write; infer_instance
  | binary _ _ left right =>
    have := left.tame true
    have := right.tame true
    unfold Expr.write; infer_instance
  | assign _ _ target value =>
    have := target.tame false
    have := value.tame true
    unfold Expr.write; infer_instance
  | cond _ test yes no =>
    have := test.tame true
    have := yes.tame true
    have := no.tame true
    unfold Expr.write; infer_instance
  | seq _ items =>
    have := Expr.children_tame items
    unfold Expr.write; infer_instance
  | paren _ inner =>
    have := inner.tame true
    unfold Expr.write; infer_instance
  | member _ owner key =>
    have := owner.tame true
    have := key.tame
    unfold Expr.write
    dsimp only
    split
    · cases key <;> infer_instance
    · cases key <;> infer_instance
  | chainMember _ _ owner key =>
    have := owner.tame true
    have := key.tame
    unfold Expr.write
    cases key <;> infer_instance
  | call _ callee args =>
    have := callee.tame true
    have := Expr.children_tame args
    unfold Expr.write; infer_instance
  | chainCall _ _ callee args =>
    have := callee.tame true
    have := Expr.children_tame args
    unfold Expr.write; infer_instance
  | construct _ callee _ args =>
    have := callee.tame true
    have := Expr.children_tame args
    unfold Expr.write; infer_instance
  | yield _ _ arg =>
    cases arg with
    | some value =>
      have := value.tame true
      unfold Expr.write; infer_instance
    | none => unfold Expr.write; infer_instance
  | await _ arg =>
    have := arg.tame true
    unfold Expr.write; infer_instance
  | importRef _ phase =>
    unfold Expr.write
    dsimp only
    split <;> infer_instance
  | _ =>
    unfold Expr.write; infer_instance
termination_by structural e

theorem Expr.children_tame (xs : List Expr) : AllTame (Expr.children xs) := by
  cases xs with
  | nil => unfold Expr.children; infer_instance
  | cons x xs =>
    have := x.tame true
    have := Expr.children_tame xs
    unfold Expr.children; infer_instance
termination_by structural xs

theorem Expr.writeHoles_tame (texts : List String) (es : List Expr) :
    Tame (Expr.writeHoles texts es) := by
  cases es with
  | nil => cases texts <;> unfold Expr.writeHoles <;> infer_instance
  | cons e es =>
    have := e.tame true
    cases texts with
    | nil =>
      unfold Expr.writeHoles; infer_instance
    | cons text texts =>
      have := Expr.writeHoles_tame texts es
      unfold Expr.writeHoles; infer_instance
termination_by structural es

theorem Key.tame (k : Key) : Tame k.write := by
  cases k with
  | computed _ e =>
    have := e.tame true
    unfold Key.write; infer_instance
  | _ =>
    unfold Key.write; infer_instance
termination_by structural k

theorem Property.tame (p : Property) : Tame p.write := by
  cases p with
  | shorthand id =>
    unfold Property.write; infer_instance
  | pair key value =>
    have := key.tame
    have := value.tame true
    unfold Property.write; infer_instance
  | initialized _ id value =>
    have := value.tame true
    unfold Property.write; infer_instance
  | method key fn =>
    have := key.tame
    have := fn.tame
    unfold Property.write; infer_instance
  | getter _ key body =>
    have := key.tame
    have := body.tame
    unfold Property.write; infer_instance
  | setter _ key param body =>
    have := key.tame
    have := param.tame true
    have := body.tame
    unfold Property.write; infer_instance
  | spread _ arg =>
    have := arg.tame true
    unfold Property.write; infer_instance
termination_by structural p

theorem Property.children_tame (xs : List Property) : AllTame (Property.children xs) := by
  cases xs with
  | nil => unfold Property.children; infer_instance
  | cons x xs =>
    have := x.tame
    have := Property.children_tame xs
    unfold Property.children; infer_instance
termination_by structural xs

theorem Pattern.tame (trails : Bool) (p : Pattern) : Tame (p.write trails) := by
  cases p with
  | array _ elements =>
    have := Pattern.children_tame elements
    unfold Pattern.write; infer_instance
  | object _ properties =>
    have := PatternProperty.children_tame properties
    unfold Pattern.write; infer_instance
  | rest _ arg =>
    have := arg.tame true
    unfold Pattern.write; infer_instance
  | default _ target value =>
    have := target.tame true
    have := value.tame true
    unfold Pattern.write; infer_instance
  | target e =>
    have := e.tame trails
    unfold Pattern.write; infer_instance
  | _ =>
    unfold Pattern.write; infer_instance
termination_by structural p

theorem Pattern.children_tame (xs : List Pattern) : AllTame (Pattern.children xs) := by
  cases xs with
  | nil => unfold Pattern.children; infer_instance
  | cons x xs =>
    have := x.tame true
    have := Pattern.children_tame xs
    unfold Pattern.children; infer_instance
termination_by structural xs

theorem PatternProperty.tame (p : PatternProperty) : Tame p.write := by
  cases p with
  | pair key value =>
    have := key.tame
    have := value.tame true
    unfold PatternProperty.write; infer_instance
  | name _ id value =>
    cases value with
    | some e =>
      have := e.tame true
      unfold PatternProperty.write; infer_instance
    | none => unfold PatternProperty.write; infer_instance
  | rest _ arg =>
    have := arg.tame true
    unfold PatternProperty.write; infer_instance
termination_by structural p

theorem PatternProperty.children_tame (xs : List PatternProperty) :
    AllTame (PatternProperty.children xs) := by
  cases xs with
  | nil => unfold PatternProperty.children; infer_instance
  | cons x xs =>
    have := x.tame
    have := PatternProperty.children_tame xs
    unfold PatternProperty.children; infer_instance
termination_by structural xs

theorem Func.tame (fn : Func) : Tame fn.write := by
  cases fn with
  | mk _ _ _ params body =>
    have := Pattern.children_tame params
    have := body.tame
    unfold Func.write; infer_instance
termination_by structural fn

theorem ClassBody.tame (cls : ClassBody) : Tame cls.write := by
  cases cls with
  | mk _ parent members =>
    have := ClassMember.children_tame members
    cases parent with
    | some e =>
      have := e.tame true
      unfold ClassBody.write; infer_instance
    | none => unfold ClassBody.write; infer_instance
termination_by structural cls

theorem ClassMember.tame (m : ClassMember) : Tame m.write := by
  cases m with
  | constructor _ key params body =>
    have := key.tame
    have := Pattern.children_tame params
    have := body.tame
    unfold ClassMember.write; infer_instance
  | method _ _ kind key fn =>
    have := key.tame
    have := fn.tame
    unfold ClassMember.write
    cases kind <;> infer_instance
  | field _ _ key value =>
    have := key.tame
    cases value with
    | some e =>
      have := e.tame true
      unfold ClassMember.write; infer_instance
    | none => unfold ClassMember.write; infer_instance
  | staticBlock _ body =>
    have := body.tame
    unfold ClassMember.write; infer_instance
  | empty _ =>
    unfold ClassMember.write; infer_instance
termination_by structural m

theorem ClassMember.children_tame (xs : List ClassMember) : AllTame (ClassMember.children xs) := by
  cases xs with
  | nil => unfold ClassMember.children; infer_instance
  | cons x xs =>
    have := x.tame
    have := ClassMember.children_tame xs
    unfold ClassMember.children; infer_instance
termination_by structural xs

theorem Block.tame (b : Block) : Tame b.write := by
  cases b with
  | mk _ body =>
    have := Stmt.children_tame body
    unfold Block.write; infer_instance
termination_by structural b

theorem Stmt.tame (ends : Bool) (s : Stmt) : Tame (s.write ends) := by
  cases s with
  | block body =>
    have := body.tame
    unfold Stmt.write; infer_instance
  | expr _ e =>
    have := e.tame true
    unfold Stmt.write; infer_instance
  | var decl =>
    have := decl.tame
    unfold Stmt.write; infer_instance
  | function _ name fn =>
    have := fn.tame
    unfold Stmt.write; infer_instance
  | classDecl _ name cls =>
    have := cls.tame
    unfold Stmt.write; infer_instance
  | ifElse _ test yes no =>
    have := test.tame true
    have := yes.tame true
    cases no with
    | some other =>
      have := other.tame true
      unfold Stmt.write; infer_instance
    | none => unfold Stmt.write; infer_instance
  | forLoop _ init test update body =>
    have := init.tame
    have := body.tame true
    cases test with
    | some e =>
      have := e.tame true
      cases update with
      | some u =>
        have := u.tame true
        unfold Stmt.write; infer_instance
      | none => unfold Stmt.write; infer_instance
    | none =>
      cases update with
      | some u =>
        have := u.tame true
        unfold Stmt.write; infer_instance
      | none => unfold Stmt.write; infer_instance
  | forIn _ head value body =>
    have := head.tame
    have := value.tame true
    have := body.tame true
    unfold Stmt.write; infer_instance
  | forOf _ _ head value body =>
    have := head.tame
    have := value.tame true
    have := body.tame true
    unfold Stmt.write; infer_instance
  | whileLoop _ test body =>
    have := test.tame true
    have := body.tame true
    unfold Stmt.write; infer_instance
  | doWhile _ body test =>
    have := body.tame true
    have := test.tame true
    unfold Stmt.write; infer_instance
  | withScope _ value body =>
    have := value.tame true
    have := body.tame true
    unfold Stmt.write; infer_instance
  | returns _ arg =>
    cases arg with
    | some e =>
      have := e.tame true
      unfold Stmt.write; infer_instance
    | none => unfold Stmt.write; infer_instance
  | breaks _ label =>
    unfold Stmt.write
    cases label <;> infer_instance
  | continues _ label =>
    unfold Stmt.write
    cases label <;> infer_instance
  | throws _ arg =>
    have := arg.tame true
    unfold Stmt.write; infer_instance
  | tryCatch _ body handler finalizer =>
    have := body.tame
    cases handler with
    | some clause =>
      have := clause.tame
      cases finalizer with
      | some last =>
        have := last.tame
        unfold Stmt.write; infer_instance
      | none => unfold Stmt.write; infer_instance
    | none =>
      cases finalizer with
      | some last =>
        have := last.tame
        unfold Stmt.write; infer_instance
      | none => unfold Stmt.write; infer_instance
  | switch _ value cases =>
    have := value.tame true
    have := SwitchCase.children_tame cases
    unfold Stmt.write; infer_instance
  | labeled _ label body =>
    have := body.tame true
    unfold Stmt.write; infer_instance
  | _ =>
    unfold Stmt.write; infer_instance
termination_by structural s

theorem Stmt.children_tame (xs : List Stmt) : AllTame (Stmt.children xs) := by
  cases xs with
  | nil => unfold Stmt.children; infer_instance
  | cons x xs =>
    have := x.tame true
    have := Stmt.children_tame xs
    unfold Stmt.children; infer_instance
termination_by structural xs

theorem ForHead.tame (head : ForHead) : Tame head.write := by
  cases head with
  | none => unfold ForHead.write; infer_instance
  | var decl =>
    have := decl.tame
    unfold ForHead.write; infer_instance
  | pattern target =>
    have := target.tame true
    unfold ForHead.write; infer_instance
  | expr e =>
    have := e.tame true
    unfold ForHead.write; infer_instance
termination_by structural head

theorem VarDecl.tame (decl : VarDecl) : Tame decl.write := by
  cases decl with
  | mk _ _ declarators =>
    have := Declarator.children_tame declarators
    unfold VarDecl.write; infer_instance
termination_by structural decl

theorem Declarator.tame (d : Declarator) : Tame d.write := by
  cases d with
  | mk _ target init =>
    have := target.tame true
    cases init with
    | some e =>
      have := e.tame true
      unfold Declarator.write; infer_instance
    | none => unfold Declarator.write; infer_instance
termination_by structural d

theorem Declarator.children_tame (xs : List Declarator) : AllTame (Declarator.children xs) := by
  cases xs with
  | nil => unfold Declarator.children; infer_instance
  | cons x xs =>
    have := x.tame
    have := Declarator.children_tame xs
    unfold Declarator.children; infer_instance
termination_by structural xs

theorem SwitchCase.tame (c : SwitchCase) : Tame c.write := by
  cases c with
  | mk _ test body =>
    have := Stmt.children_tame body
    cases test with
    | some e =>
      have := e.tame true
      unfold SwitchCase.write; infer_instance
    | none => unfold SwitchCase.write; infer_instance
termination_by structural c

theorem SwitchCase.children_tame (xs : List SwitchCase) : AllTame (SwitchCase.children xs) := by
  cases xs with
  | nil => unfold SwitchCase.children; infer_instance
  | cons x xs =>
    have := x.tame
    have := SwitchCase.children_tame xs
    unfold SwitchCase.children; infer_instance
termination_by structural xs

theorem CatchClause.tame (c : CatchClause) : Tame c.write := by
  cases c with
  | mk _ param body =>
    have := body.tame
    cases param with
    | some p =>
      have := p.tame true
      unfold CatchClause.write; infer_instance
    | none => unfold CatchClause.write; infer_instance
termination_by structural c

end

attribute [instance] Expr.tame Expr.children_tame Expr.writeHoles_tame Key.tame
  Property.children_tame Pattern.tame Pattern.children_tame PatternProperty.children_tame
  Func.tame ClassBody.tame Block.tame Stmt.tame Stmt.children_tame ForHead.tame VarDecl.tame
  Declarator.children_tame SwitchCase.children_tame CatchClause.tame

end Playground.Script
