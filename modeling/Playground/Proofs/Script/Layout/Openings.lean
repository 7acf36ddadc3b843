import Playground.Proofs.Script.Layout.Tree

/-! What is written first. A node that shows opens with a character that can be seen, behind the
comments before it. -/

-- The instances for the longer nodes are found through some hundred steps.
set_option synthInstance.maxSize 4000

namespace Playground.Script

open Write

theorem opens_onOneLine {stop : Nat} {c : Child} {cs : List Child} [AllTame (c :: cs)]
    (h : Opens c.write) :
    Opens (onOneLine stop (c :: cs)) := by
  have : AllTame cs := ⟨fun d hd => AllTame.tame d (List.mem_cons_of_mem c hd)⟩
  cases cs with
  | nil => exact inferInstanceAs (Opens (c.write >>= fun _ => afterChild stop c))
  | cons d cs =>
    exact inferInstanceAs
      (Opens (c.write >>= fun _ => afterChild stop c >>= fun _ => put "," >>= fun _ =>
        space >>= fun _ => separated stop space (d :: cs)))

instance (span : Span) (trails : Bool) {w : Write Unit} [Opens w] :
    Opens (framed span trails w) := by
  unfold framed; infer_instance

instance (span : Span) (ends : Bool) {w : Write Unit} [Opens w] : Opens (line span ends w) := by
  unfold line; infer_instance

mutual

theorem Expr.opens (trails : Bool) (e : Expr) (h : e.Shows) : Opens (e.write trails) := by
  cases e with
  | name id =>
    have : Opens (put id.name) := opens_put h
    unfold Expr.write; infer_instance
  | this _ =>
    have : Opens (put "this") := opens_put (by decide)
    unfold Expr.write; infer_instance
  | literal _ value =>
    have : Opens (put value.text) := opens_put h
    unfold Expr.write; infer_instance
  | template _ texts exprs =>
    have : Opens (put "`") := opens_put (by decide)
    unfold Expr.write; infer_instance
  | tagged _ tag text =>
    have := tag.opens true h
    unfold Expr.write; infer_instance
  | array _ elements =>
    have : Opens (put "[") := opens_put (by decide)
    unfold Expr.write; infer_instance
  | hole => exact h.elim
  | spread _ arg =>
    have : Opens (put "...") := opens_put (by decide)
    unfold Expr.write; infer_instance
  | object _ properties =>
    have : Opens (put "\x7b") := opens_put (by decide)
    unfold Expr.write; infer_instance
  | function _ name fn =>
    have : Opens (put "async ") := opens_put (by decide)
    have : Opens (put (if fn.isGenerator then "function*" else "function")) :=
      opens_put (by split <;> decide)
    unfold Expr.write
    cases name <;> infer_instance
  | arrowExpr _ _ params body =>
    have : Opens (put "async ") := opens_put (by decide)
    have : Opens (put "(") := opens_put (by decide)
    unfold Expr.write; infer_instance
  | arrowBlock _ _ params body =>
    have : Opens (put "async ") := opens_put (by decide)
    have : Opens (put "(") := opens_put (by decide)
    unfold Expr.write; infer_instance
  | classExpr _ name cls =>
    have : Opens (put "class") := opens_put (by decide)
    unfold Expr.write
    cases name <;> infer_instance
  | unary _ op arg =>
    have : Opens (put op.text) := opens_put (by cases op <;> decide)
    unfold Expr.write; infer_instance
  | update _ isIncrement isBefore arg =>
    cases isBefore with
    | true =>
      have : Opens (put (if isIncrement then "++" else "--")) := opens_put (by split <;> decide)
      unfold Expr.write
      simp only [if_true]
      infer_instance
    | false =>
      have := arg.opens true (h.resolve_left nofun)
      unfold Expr.write
      simp only [Bool.false_eq_true, if_false]
      infer_instance
  | binary _ op left right =>
    have := left.opens true h
    unfold Expr.write; infer_instance
  | assign _ op target value =>
    have := target.opens false h
    unfold Expr.write; infer_instance
  | cond _ test yes no =>
    have := test.opens true h
    unfold Expr.write; infer_instance
  | seq span items =>
    cases items with
    | nil => exact h.elim
    | cons e es =>
      have : Opens (onOneLine span.stop (Expr.children (e :: es))) := by
        have := Expr.children_tame (e :: es)
        unfold Expr.children at this ⊢
        exact opens_onOneLine (e.opens true h)
      unfold Expr.write; infer_instance
  | paren _ inner =>
    have : Opens (put "(") := opens_put (by decide)
    unfold Expr.write; infer_instance
  | member _ owner key =>
    have := owner.opens true h
    unfold Expr.write
    dsimp only
    split
    · rename_i raw
      have : Opens (put raw) := opens_put h
      cases key <;> infer_instance
    · cases key <;> infer_instance
  | chainMember _ _ owner key =>
    have := owner.opens true h
    unfold Expr.write
    cases key <;> infer_instance
  | call _ callee args =>
    have := callee.opens true h
    unfold Expr.write; infer_instance
  | chainCall _ _ callee args =>
    have := callee.opens true h
    unfold Expr.write; infer_instance
  | construct _ callee hasArgs args =>
    have : Opens (put "new ") := opens_put (by decide)
    unfold Expr.write; infer_instance
  | yield _ isDelegate arg =>
    have : Opens (put (if isDelegate then "yield*" else "yield")) := opens_put (by split <;> decide)
    unfold Expr.write
    cases arg <;> infer_instance
  | await _ arg =>
    have : Opens (put "await ") := opens_put (by decide)
    unfold Expr.write; infer_instance
  | newTarget _ =>
    have : Opens (put "new.target") := opens_put (by decide)
    unfold Expr.write; infer_instance
  | importMeta _ =>
    have : Opens (put "import.meta") := opens_put (by decide)
    unfold Expr.write; infer_instance
  | superRef _ =>
    have : Opens (put "super") := opens_put (by decide)
    unfold Expr.write; infer_instance
  | importRef _ phase =>
    have : Opens (put "import") := opens_put (by decide)
    unfold Expr.write
    dsimp only
    split <;> infer_instance
  | privateName _ name =>
    have : Opens (put ("#" ++ name)) := by
      refine opens_put ?_
      rw [String.toList_append]
      exact Visible.append (by decide) _
    unfold Expr.write; infer_instance
  | invalid _ => exact h.elim
termination_by structural e

theorem Pattern.opens (trails : Bool) (p : Pattern) (h : p.Shows) : Opens (p.write trails) := by
  cases p with
  | name id =>
    have : Opens (put id.name) := opens_put h
    unfold Pattern.write; infer_instance
  | array _ elements =>
    have : Opens (put "[") := opens_put (by decide)
    unfold Pattern.write; infer_instance
  | hole => exact h.elim
  | object _ properties =>
    have : Opens (put "\x7b\x7d") := opens_put (by decide)
    have : Opens (put "\x7b ") := opens_put (by decide)
    unfold Pattern.write; infer_instance
  | rest _ arg =>
    have : Opens (put "...") := opens_put (by decide)
    unfold Pattern.write; infer_instance
  | default _ target value =>
    have := target.opens true h
    unfold Pattern.write; infer_instance
  | target e =>
    have := e.opens trails h
    unfold Pattern.write; infer_instance
  | invalid _ => exact h.elim
termination_by structural p

end

/-! ### Statements -/

instance (stop : Nat) {cs : List Child} [AllTame cs] : Opens (braces stop cs) := by
  have : Opens (put "\x7b") := opens_put (by decide)
  unfold braces; infer_instance

instance (b : Block) : Opens b.write := by
  cases b
  unfold Block.write; infer_instance

instance (decl : VarDecl) : Opens decl.write := by
  obtain ⟨_, kind, _⟩ := decl
  have : Opens (put kind.text) := opens_put (by cases kind <;> decide)
  unfold VarDecl.write; infer_instance

theorem opens_ident {id : Ident} (h : Visible id.name.toList) : Opens id.write := by
  have : Opens (put id.name) := opens_put h
  unfold Ident.write; infer_instance

theorem Stmt.opens (ends : Bool) (s : Stmt) (h : s.Shows) : Opens (s.write ends) := by
  cases s with
  | block body =>
    unfold Stmt.write; infer_instance
  | expr _ e =>
    have := e.opens true h
    unfold Stmt.write; infer_instance
  | empty _ =>
    have : Opens (put ";") := opens_put (by decide)
    unfold Stmt.write; infer_instance
  | var decl =>
    unfold Stmt.write; infer_instance
  | function _ name fn =>
    have : Opens (put "async ") := opens_put (by decide)
    have : Opens (put (if fn.isGenerator then "function* " else "function ")) :=
      opens_put (by split <;> decide)
    unfold Stmt.write; infer_instance
  | classDecl _ name cls =>
    have : Opens (put "class ") := opens_put (by decide)
    unfold Stmt.write; infer_instance
  | ifElse _ test yes no =>
    have : Opens (put "if (") := opens_put (by decide)
    unfold Stmt.write
    cases no <;> infer_instance
  | forLoop _ init test update body =>
    have : Opens (put "for(") := opens_put (by decide)
    unfold Stmt.write
    cases test <;> cases update <;> infer_instance
  | forIn _ head value body =>
    have : Opens (put "for(") := opens_put (by decide)
    unfold Stmt.write; infer_instance
  | forOf _ isAwait head value body =>
    have : Opens (put (if isAwait then "for await (" else "for (")) :=
      opens_put (by split <;> decide)
    unfold Stmt.write; infer_instance
  | whileLoop _ test body =>
    have : Opens (put "while(") := opens_put (by decide)
    unfold Stmt.write; infer_instance
  | doWhile _ body test =>
    have : Opens (put "do ") := opens_put (by decide)
    unfold Stmt.write; infer_instance
  | withScope _ value body =>
    have : Opens (put "with(") := opens_put (by decide)
    unfold Stmt.write; infer_instance
  | returns _ arg =>
    have : Opens (put "return") := opens_put (by decide)
    unfold Stmt.write
    cases arg <;> infer_instance
  | breaks _ label =>
    have : Opens (put "break") := opens_put (by decide)
    unfold Stmt.write
    cases label <;> infer_instance
  | continues _ label =>
    have : Opens (put "continue") := opens_put (by decide)
    unfold Stmt.write
    cases label <;> infer_instance
  | throws _ arg =>
    have : Opens (put "throw ") := opens_put (by decide)
    unfold Stmt.write; infer_instance
  | tryCatch _ body handler finalizer =>
    have : Opens (put "try ") := opens_put (by decide)
    unfold Stmt.write
    cases handler <;> cases finalizer <;> infer_instance
  | switch _ value cases =>
    have : Opens (put "switch(") := opens_put (by decide)
    unfold Stmt.write; infer_instance
  | labeled _ label body =>
    have := opens_ident h
    unfold Stmt.write; infer_instance
  | debugger _ =>
    have : Opens (put "debugger;") := opens_put (by decide)
    unfold Stmt.write; infer_instance

end Playground.Script
