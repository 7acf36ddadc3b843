import Playground.Proofs.Script.Grammar.Progress
import Playground.Script.Grammar.Module

/-! Every rule of the grammar keeps the state sound. The instances follow the rules in their order;
where a rule branches on what it has read, the branches are split before the instances are found. -/

-- The instances for the longer rules are found through some hundred steps.
set_option synthInstance.maxSize 4000

namespace Playground.Script.Parse

open Text Progress

variable {text : List Char}

/-- The same with the first step's instance given. -/
theorem Keeps.after {m : Parse α} {f : α → Parse β} (hm : Keeps text m)
    (hf : ∀ a, Keeps text (f a)) : Keeps text (m >>= f) := .andThen hf

/-! ### Notes that rules make for each other -/

instance (f : Progress → List String) :
    Keeps text (modify fun s => { s with labels := f s } : Parse Unit) :=
  keeps_modify fun _ => .of_eq rfl (fun _ => id) rfl

instance (f : Progress → Option Nat) :
    Keeps text (modify fun s => { s with arrowStart := f s } : Parse Unit) :=
  keeps_modify fun _ => .of_eq rfl (fun _ => id) rfl

instance (f : Progress → List (Nat × Span)) :
    Keeps text (modify fun s => { s with trailingCommas := f s } : Parse Unit) :=
  keeps_modify fun _ => .of_eq rfl (fun _ => id) rfl

instance (f : Progress → List Span) :
    Keeps text (modify fun s => { s with initialized := f s } : Parse Unit) :=
  keeps_modify fun _ => .of_eq rfl (fun _ => id) rfl

variable {g : Grammar} [g.Keeps text]

/-! ### Names -/

instance : Keeps text anyName := by
  refine .andThen fun _ => .andThen fun t => ?_
  split <;> infer_instance

instance (allowsYield : Bool) : Keeps text (ident allowsYield) := by
  refine .andThen fun _ => .andThen fun t => ?_
  split
  · refine .andThen fun _ => .andThen fun _ => ?_
    dsimp only
    split <;> split <;> infer_instance
  · infer_instance

instance (forbidsLet : Bool) : Keeps text (bindingIdent forbidsLet) := by
  unfold bindingIdent; infer_instance

instance (isRequired forbidsLet : Bool) : Keeps text (bindingIdent? isRequired forbidsLet) := by
  unfold bindingIdent?; infer_instance

instance : Keeps text privateName := by unfold privateName; infer_instance

instance : Keeps text (key g) := by
  refine .andThen fun _ => .andThen fun t => ?_
  split <;> infer_instance

instance : Keeps text memberName := by unfold memberName; infer_instance

/-! ### Patterns -/

instance (close : Mark) (afterRest : Bool) : Keeps text (listComma close afterRest) := by
  unfold listComma; infer_instance

instance : Keeps text (bindingElement g) := by unfold bindingElement; infer_instance

instance : Keeps text (arrayPattern g) := by
  refine .andThen fun _ => .andThen fun _ => .andThen
    fun _ => .after (keeps_iterate (fun ⟨taken, rest⟩ => ?_) _ _) inferInstance
  cases rest <;> infer_instance

instance : Keeps text (patternProperty g) := by
  unfold patternProperty
  refine .andThen fun _ => .andThen
    fun _ => .ite inferInstance (.andThen fun key => .andThen fun _ => .ite inferInstance ?_)
  cases key <;> infer_instance

instance (trailing : Option Span) (ps : List PatternProperty) :
    Keeps text (checkRest trailing ps) := by
  fun_induction checkRest trailing ps <;> infer_instance

instance {m : Parse α} [Keeps text m] : Keeps text (properties m) := by
  unfold properties; infer_instance

instance : Keeps text (objectPattern g) := by unfold objectPattern; infer_instance

instance (forbidsLet : Bool) : Keeps text (bindingPattern g forbidsLet) := by
  refine .andThen fun t => ?_
  split <;> infer_instance

instance (e : Expr) : Keeps text (checkTarget e) := by unfold checkTarget; infer_instance

instance (span : Span) : Keeps text (settleInitializer span) := by
  unfold settleInitializer; infer_instance

instance (kind : PatternKind) (span : Span) (arg : Expr) (trailing : Option Span) :
    Keeps text (restToPattern g kind span arg trailing) := by
  unfold restToPattern
  dsimp only
  cases trailing <;> split <;> infer_instance

instance (kind : PatternKind) (mayRest : Bool) (trailing : Option Span) (es : List Expr) :
    Keeps text (elementsToPatterns g kind mayRest trailing es) := by
  fun_induction elementsToPatterns g kind mayRest trailing es <;> infer_instance

instance (kind : PatternKind) (trailing : Option Span) (ps : List Property) :
    Keeps text (propertiesToPatterns g kind trailing ps) := by
  induction ps with
  | nil => exact inferInstanceAs (Keeps text (pure []))
  | cons p ps ih =>
    unfold propertiesToPatterns
    cases p with
    | spread span arg =>
      cases trailing
      case' none => refine .ite (.andThen fun _ => ?_) ?_
      case' some => refine .ite (.andThen fun _ => ?_) (.andThen fun _ => ?_)
      -- In each case the argument becomes a pattern, and the pattern may turn out to have a value.
      all_goals
        dsimp only
        split
        · refine .andThen fun _ => ?_
          split <;> infer_instance
        · refine .andThen fun _ => .andThen fun _ => ?_
          split <;> infer_instance
        · refine .andThen fun _ => ?_
          split <;> infer_instance
    | _ => infer_instance

instance (start : Nat) : Keeps text (trailingComma start) := by unfold trailingComma; infer_instance

instance (kind : PatternKind) (e : Expr) : Keeps text (shapeToPattern g kind e) := by
  fun_cases shapeToPattern g kind e <;> infer_instance

instance (kind : PatternKind) (e : Expr) : Keeps text (toPattern g kind e) := by
  fun_cases toPattern g kind e <;> infer_instance

/-! ### Functions -/

instance : Keeps text (statementsToBrace g) := by
  have : Keeps text (do
      match ← current? with
      | none =>
        note (.expected "\x7d" "<eof>") (← here)
        return none
      | some { token := .mark .rightBrace, .. } =>
        bump
        return none
      | some _ => return some (← g.statement true)) := by
    refine .andThen fun l? => ?_
    split <;> infer_instance
  exact inferInstanceAs (Keeps text (collect _))

instance : Keeps text (block g) := by unfold block; infer_instance

instance : Keeps text (param g) := by unfold param; infer_instance

instance : Keeps text (params g) := by
  refine .andThen fun _ => keeps_iterate (fun ⟨taken, rest⟩ => ?_) _ _
  cases rest <;> infer_instance

instance (ps : List Pattern) (body : Block) : Keeps text (checkDirective ps body) := by
  unfold checkDirective
  cases body
  refine .ite ?_ inferInstance
  split <;> infer_instance

instance (isAsync isGenerator isArrow : Bool) (ps : List Pattern) :
    Keeps text (functionBlock g isAsync isGenerator isArrow ps) := by
  unfold functionBlock; infer_instance

instance (start : Nat) (ps : Parse (List Pattern)) [Keeps text ps] (isAsync isGenerator : Bool) :
    Keeps text (functionRest g start ps isAsync isGenerator) := by
  unfold functionRest; infer_instance

instance (asyncStart : Option Nat) (isExpr isNamed : Bool) :
    Keeps text (function g asyncStart isExpr isNamed) := by
  unfold function
  cases asyncStart <;> infer_instance

instance (isExpr isNamed : Bool) : Keeps text (asyncFunction g isExpr isNamed) := by
  unfold asyncFunction; infer_instance

instance : Keeps text atAsyncFunction := by unfold atAsyncFunction; infer_instance

instance : Keeps text (functionDecl g) := by unfold functionDecl; infer_instance

instance {m : Parse α} [Keeps text m] : Keeps text (inMethod m) :=
  inferInstanceAs (Keeps text (within _ m))

instance (keySpan : Span) : Keeps text (getterParams g keySpan) := by
  unfold getterParams; infer_instance

instance (keySpan : Span) : Keeps text (setterParams g keySpan) := by
  refine .andThen fun ps => ?_
  rcases ps with _ | ⟨p, _⟩
  · infer_instance
  · cases p <;> infer_instance

instance : Keeps text (property g) := by
  unfold property
  refine .andThen fun _ => .andThen
    fun _ => .ite inferInstance (.andThen fun _ => .ite inferInstance ?_)
  refine .andThen fun name => .andThen
    fun _ => .ite inferInstance (.andThen fun _ => .ite inferInstance ?_)
  split
  · refine .andThen fun _ => ?_
    extract_lets rest
    have hrest : ∀ u, Keeps text (rest u) := by
      refine fun _ => .andThen fun _ => .ite inferInstance (.andThen fun _ => .ite inferInstance ?_)
      split
      · refine .andThen fun _ => .andThen fun fn => ?_
        cases fn
        infer_instance
      · refine .andThen fun _ => .andThen fun fn => ?_
        cases fn
        infer_instance
      · infer_instance
      · infer_instance
    clear_value rest
    infer_instance
  · infer_instance

instance : Keeps text (object g) := by
  refine .andThen fun _ => .andThen fun _ => .andThen fun found => ?_
  dsimp only
  split <;> infer_instance

/-! ### Classes -/

instance : Keeps text (memberKey g) := by unfold memberKey; infer_instance

instance (line : Bool) : Keeps text (atFieldEnd line) := by unfold atFieldEnd; infer_instance

instance (start : Nat) (isStatic : Bool) (name : Key) :
    Keeps text (field g start isStatic name) := by
  unfold field; infer_instance

instance (start : Nat) (isStatic : Bool) (kind : MethodKind) (name : Key)
    (ps : Parse (List Pattern)) [Keeps text ps] (isAsync isGenerator : Bool) :
    Keeps text (method g start isStatic kind name ps isAsync isGenerator) := by
  unfold method; infer_instance

instance (start : Nat) (name : Key) : Keeps text (constructor g start name) := by
  unfold constructor; infer_instance

instance (start : Nat) : Keeps text (staticBlock g start) := by unfold staticBlock; infer_instance

instance (start : Nat) (isStatic : Bool) : Keeps text (memberRest g start isStatic) := by
  unfold memberRest
  refine .andThen fun _ => .ite inferInstance (.andThen fun _ => .ite inferInstance ?_)
  refine .andThen fun name => .andThen
    fun _ => .ite inferInstance (.andThen fun _ => .andThen fun _ => ?_)
  extract_lets nextLineStar wordSpan rest
  have hrest : ∀ accessor, Keeps text (rest accessor) := by
    intro accessor
    cases name <;> cases accessor <;> infer_instance
  clear_value rest
  cases name <;> infer_instance

instance : Keeps text (classMember g) := by unfold classMember; infer_instance

instance : Keeps text (classMembers g) := by
  refine .andThen fun _ => keeps_iterate (fun ⟨taken, constructed⟩ => ?_) _ _
  refine .andThen fun _ => .andThen
    fun _ => .ite inferInstance (.andThen fun _ => .ite inferInstance ?_)
  refine .andThen fun m => ?_
  cases m <;> infer_instance

instance : Keeps text (parent g) := by unfold parent; infer_instance

instance (isNamed : Bool) : Keeps text (classRest g isNamed) := by unfold classRest; infer_instance

/-! ### Operands -/

instance : Keeps text (expression g) := by unfold expression; infer_instance

instance : Keeps text (exprOrSpread g) := by unfold exprOrSpread; infer_instance

instance : Keeps text (array g) := by unfold array; infer_instance

instance (ofImport : Bool) : Keeps text (arguments g ofImport) := by
  unfold arguments; infer_instance

instance (isTagged : Bool) : Keeps text (templateText isTagged) := by
  refine .andThen fun t => ?_
  split
  · refine .andThen fun _ => ?_
    split <;> infer_instance
  · infer_instance

instance (isTagged : Bool) : Keeps text (template g isTagged) := by unfold template; infer_instance

instance (span : Span) (flags : List Char) : Keeps text (checkFlags span flags) := by
  unfold checkFlags
  cases flags.find? fun c => 1 < flags.count c <;> infer_instance

theorem keeps_regexFrom {slash : Option Cursor} (h : ∀ c, slash = some c → c.At text) :
    Keeps text (modify fun s => { s with reader := { s.reader with regexFrom := slash } } :
      Parse Unit) :=
  keeps_modify fun _ hs => ⟨⟨⟨hs.reader.cursor, h⟩, hs.stands, hs.fits, hs.last⟩, id⟩

instance : Keeps text Parse.regex := by
  refine .andThen fun _ => .ofCurrent fun l? hl => .andThen fun _ => .after (keeps_regexFrom ?_)
    fun _ => .andThen fun t? => ?_
  · intro c hc
    rw [Option.map_eq_some_iff] at hc
    obtain ⟨l, hl', rfl⟩ := hc
    exact (hl l hl').start
  · have :
        Keeps text (modify fun s => { s with reader := { s.reader with regexFrom := none } } :
            Parse Unit) :=
      keeps_regexFrom (by simp)
    split <;> infer_instance

instance (value : Literal) : Keeps text (literal value) := by unfold literal; infer_instance

instance (e : Expr) : Keeps text (closeFunction e) := by unfold closeFunction; infer_instance

instance (start : Nat) (isAsync : Bool) (ps : List Pattern) :
    Keeps text (arrowRest g start isAsync ps) := by
  unfold arrowRest; infer_instance

instance : Keeps text (parenItems g) := by unfold parenItems; infer_instance

instance (trailing : Option Span) (items : List Expr) :
    Keeps text (itemsToParams g trailing items) := by
  fun_induction itemsToParams g trailing items <;> infer_instance

instance (ps : List Pattern) : Keeps text (checkParamNames ps) := by
  unfold checkParamNames; infer_instance

instance (items : List Expr) : Keeps text (checkInitialized items) := by
  have (p : Property) :
      Keeps text (do if let .initialized span .. := p then note .initializedProperty span) := by
    cases p <;> infer_instance
  unfold checkInitialized
  infer_instance

instance (items : List Expr) : Keeps text (checkNoSpread items) := by
  have (item : Expr) :
      Keeps text (do if let .spread _ arg := item then failAt arg.span .spreadInParens) := by
    split <;> infer_instance
  unfold checkNoSpread
  infer_instance

instance (mayBeArrow : Bool) (asyncSpan : Option Span) :
    Keeps text (parenOrArrow g mayBeArrow asyncSpan) := by
  unfold parenOrArrow
  extract_lets rest
  have : ∀ start, Keeps text (rest start) := by
    refine fun start => .andThen fun found => .andThen fun _ => .ite (.andThen fun _ => ?_)
      (.andThen fun _ => ?_)
    · extract_lets arrow check
      have : ∀ u, Keeps text (arrow u) := by
        refine fun _ => .andThen fun _ => .andThen fun _ => .andThen fun _ => .andThen fun e => ?_
        dsimp only
        split
        · refine .andThen fun l? => ?_
          split <;> infer_instance
        · infer_instance
      clear_value arrow
      infer_instance
    · dsimp only
      split
      · infer_instance
      · split <;> infer_instance
  clear_value rest
  cases asyncSpan <;> infer_instance

instance (mayBeArrow : Bool) : Keeps text (nameOrArrow g mayBeArrow) := by
  unfold nameOrArrow; infer_instance

instance : Keeps text (functionExpr g) := by unfold functionExpr; infer_instance

instance : Keeps text (primary g) := by
  refine .andThen fun _ => .andThen fun _ => .andThen fun t? => ?_
  dsimp only
  split <;> infer_instance

/-! ### Expressions -/

instance (owner : Expr) : Keeps text (checkSuper owner) := by
  unfold checkSuper
  split <;> infer_instance

instance (start : Nat) (mayCall : Bool) (owner : Expr) :
    Keeps text (subscript g start mayCall owner) := by
  unfold subscript
  refine .andThen fun _ => ?_
  extract_lets isChain afterCall isImport afterBracket afterOptional
  have : ∀ u, Keeps text (afterCall u) := by
    refine fun _ => .andThen fun _ => .ite inferInstance ?_
    split <;> infer_instance
  clear_value afterCall
  have : ∀ u, Keeps text (afterBracket u) := by
    refine fun _ => .andThen
      fun _ => .ite inferInstance (.andThen fun _ => .ite (.andThen fun _ => ?_) ?_)
    all_goals
      refine .andThen
        fun _ => .ite (.andThen fun _ => .andThen fun _ => .ite inferInstance ?_) inferInstance
      split <;> infer_instance
  clear_value afterBracket
  infer_instance

instance (mayCall : Bool) (owner : Expr) : Keeps text (subscripts g mayCall owner) := by
  unfold subscripts; infer_instance

instance (start : Nat) (mayCall : Bool) : Keeps text (importExpr g start mayCall) := by
  unfold importExpr
  refine .andThen fun _ => .ite inferInstance (.andThen fun _ => .ite inferInstance ?_)
  split <;> infer_instance

instance (start : Nat) : Keeps text (construction g start) := by
  unfold construction
  refine .andThen fun _ => .ite inferInstance (.andThen fun callee => .ite inferInstance ?_)
  dsimp only
  split <;> infer_instance

instance : Keeps text (memberOrNew g) := by unfold memberOrNew; infer_instance

instance : Keeps text (operand g) := by
  unfold operand
  refine .andThen fun _ => .andThen
    fun _ => .ite inferInstance (.andThen fun _ => .ite inferInstance ?_)
  refine .andThen fun callee => .ite inferInstance ?_
  split <;> infer_instance

instance : Keeps text (awaitExpr g) := by
  refine .andThen fun _ => .andThen fun _ => .andThen fun _ => ?_
  extract_lets operand check
  have : ∀ u, Keeps text (check u) := by infer_instance
  clear_value check
  infer_instance

instance : Keeps text (unary g) := by
  unfold unary
  refine .andThen fun _ => .andThen fun _ => .ite inferInstance (.andThen fun t? => ?_)
  split
  · refine .andThen fun _ => .andThen fun _ => .andThen fun outcome => ?_
    extract_lets rest
    have : ∀ arg, Keeps text (rest arg) := by
      intro arg
      simp only [rest]
      split <;> infer_instance
    clear_value rest
    cases outcome <;> infer_instance
  · infer_instance

instance (op : BinaryOp) (span : Span) (left right : Expr) :
    Keeps text (checkCoalescing op span left right) := by
  unfold checkCoalescing
  extract_lets rest
  have : ∀ u, Keeps text (rest u) := by
    refine fun _ => .ite ?_ inferInstance
    split <;> infer_instance
  clear_value rest
  infer_instance

instance (left : Expr) (bound : Nat) : Keeps text (binaryTail g left bound) := by
  refine .andThen fun _ => keeps_iterate (fun left => .andThen fun t? => .andThen fun _ => ?_) _ _
  split
  · refine .ite inferInstance (.andThen fun _ => ?_)
    dsimp only
    split <;> infer_instance
  · infer_instance

instance : Keeps text (binary g) := by
  refine .andThen fun outcome => ?_
  cases outcome <;> infer_instance

instance : Keeps text (conditional g) := by unfold conditional; infer_instance

instance : Keeps text (yieldExpr g) := by unfold yieldExpr; infer_instance

instance (op : AssignOp) (e : Expr) : Keeps text (assignTarget g op e) := by
  unfold assignTarget
  extract_lets rest
  have : ∀ target, Keeps text (rest target) := by
    intro target
    simp only [rest]
    split <;> infer_instance
  clear_value rest
  infer_instance

instance : Keeps text (Parse.assignment g) := by
  unfold Parse.assignment
  refine .andThen fun _ => .andThen fun _ => .ite inferInstance ?_
  refine .andThen fun _ => .andThen fun _ => .andThen fun _ => .andThen fun e => ?_
  split
  all_goals first
    | infer_instance
    | refine .andThen fun t? => ?_
      split <;> infer_instance

instance (e : Expr) : Keeps text (verify e) := by unfold verify; infer_instance

/-! ### Statements -/

instance {m : Parse α} [Keeps text m] : Keeps text (inLoop m) :=
  inferInstanceAs (Keeps text (within _ m))

instance : Keeps text (parenthesized g) := by unfold parenthesized; infer_instance

instance (inLoop : Bool) (kind : VarKind) : Keeps text (declarator g inLoop kind) := by
  unfold declarator; infer_instance

instance : Keeps text (skipStatement g) := by
  refine .andThen fun _ => .andThen fun _ => .andThen fun _ => .andThen
    fun _ => keeps_iterate (fun _ => ?_) _ _
  refine .andThen fun _ => .ite inferInstance (.andThen fun _ => .andThen fun t? => ?_)
  split <;> infer_instance

instance (inLoop : Bool) : Keeps text (varDecl g inLoop) := by unfold varDecl; infer_instance

instance : Keeps text atLet := by unfold atLet; infer_instance

instance (init : ForHead) : Keeps text (loopSteps g init) := by unfold loopSteps; infer_instance

instance (left : ForHead) : Keeps text (loopOver g left) := by unfold loopOver; infer_instance

instance : Keeps text atOver := inferInstanceAs (Keeps text (seesOne _))

instance : Keeps text (loopHead g) := by
  unfold loopHead
  refine .andThen fun _ => .andThen
    fun _ => .ite (.andThen fun decl => .andThen fun _ => .ite inferInstance ?_) inferInstance
  dsimp only
  split <;> infer_instance

instance : Keeps text (forStatement g) := by
  unfold forStatement
  refine .andThen fun _ => .andThen fun _ => .andThen fun _ => ?_
  extract_lets rest
  have : ∀ awaitSpan, Keeps text (rest awaitSpan) := by
    intro awaitSpan
    refine .andThen fun _ => .andThen fun head => .andThen fun _ => .andThen
      fun _ => .andThen fun _ => ?_
    split
    · infer_instance
    · cases awaitSpan <;> infer_instance
    · cases awaitSpan <;> infer_instance
  clear_value rest
  infer_instance

instance : Keeps text (whileStatement g) := by unfold whileStatement; infer_instance

instance : Keeps text (doStatement g) := by unfold doStatement; infer_instance

instance : Keeps text jumpStatement := by
  refine .andThen fun _ => .andThen fun _ => .andThen fun _ => .andThen fun _ => ?_
  extract_lets rest
  have : ∀ label, Keeps text (rest label) := by infer_instance
  clear_value rest
  infer_instance

instance (label : Ident) : Keeps text (labeled g label) := by
  refine .within (.andThen fun _ => .andThen fun _ => .andThen fun _ => ?_)
  extract_lets rest
  have : ∀ body, Keeps text (rest body) := by infer_instance
  clear_value rest
  refine .ite (.andThen fun decl => ?_) inferInstance
  dsimp only
  split <;> infer_instance

instance : Keeps text (returnStatement g) := by
  refine .andThen fun _ => .andThen fun outcome => ?_
  cases outcome <;> infer_instance

instance : Keeps text (throwStatement g) := by unfold throwStatement; infer_instance

instance : Keeps text (ifStatement g) := by unfold ifStatement; infer_instance

instance : Keeps text (caseBody g) := by unfold caseBody; infer_instance

instance : Keeps text (switchCases g) := by unfold switchCases; infer_instance

instance : Keeps text (switchStatement g) := by unfold switchStatement; infer_instance

instance : Keeps text (catchClause g) := by unfold catchClause; infer_instance

instance : Keeps text (finallyBlock g) := by unfold finallyBlock; infer_instance

instance : Keeps text (tryStatement g) := by unfold tryStatement; infer_instance

instance : Keeps text (strayHandler g) := by unfold strayHandler; infer_instance

instance : Keeps text (Parse.withStatement g) := by unfold Parse.withStatement; infer_instance

instance : Keeps text (expressionStatement g) := by
  refine .andThen fun _ => .andThen fun e => ?_
  extract_lets rest
  have : ∀ u, Keeps text (rest u) := by
    refine fun _ => .andThen fun _ => .ite inferInstance (.andThen fun t? => ?_)
    split <;> infer_instance
  clear_value rest
  split <;> infer_instance

instance : Keeps text (awaitStatement g) := by unfold awaitStatement; infer_instance

instance : Keeps text peeksImportExpr := by unfold peeksImportExpr; infer_instance

instance : Keeps text (importStatement g) := by unfold importStatement; infer_instance

instance : Keeps text (classDecl g) := by unfold classDecl; infer_instance

instance (declares : Bool) : Keeps text (ownStatement g declares) := by
  refine .andThen fun _ => .andThen fun t => ?_
  extract_lets rest
  have : ∀ u, Keeps text (rest u) := by infer_instance
  clear_value rest
  split
  · split <;> infer_instance
  all_goals infer_instance

instance (declares : Bool) : Keeps text (statement g declares) := by
  unfold statement; infer_instance

/-! ### Modules -/

instance : Keeps text Parse.source := by
  refine .andThen fun _ => .andThen fun t => ?_
  split <;> infer_instance

instance : Keeps text fromClause := by unfold fromClause; infer_instance

instance : Keeps text externalName := by
  refine .andThen fun t? => ?_
  split <;> infer_instance

instance {m : Parse α} [Keeps text m] : Keeps text (specifiers m) := by
  unfold specifiers; infer_instance

instance : Keeps text importSpecifier := by
  refine .andThen fun _ => .andThen fun imported => .andThen fun _ => ?_
  cases imported <;> infer_instance

instance : Keeps text importedBinding := by unfold importedBinding; infer_instance

instance : Keeps text importHead := by
  unfold importHead
  refine .andThen fun _ => .ite inferInstance (.andThen fun id => ?_)
  dsimp only
  split <;> infer_instance

instance (start : Nat) : Keeps text (importRest start) := by
  refine .andThen fun t? => ?_
  split <;> infer_instance

instance : Keeps text (importItem g) := by unfold importItem; infer_instance

instance : Keeps text exportSpecifier := by unfold exportSpecifier; infer_instance

instance (start : Nat) : Keeps text (exportDefault g start) := by
  unfold exportDefault; infer_instance

instance (start : Nat) : Keeps text (exportStar start) := by unfold exportStar; infer_instance

instance (s : ExportSpecifier) : Keeps text (checkOwn s) := by
  fun_cases checkOwn s <;> infer_instance

instance (start : Nat) : Keeps text (exportNames start) := by unfold exportNames; infer_instance

instance : Keeps text (exportItem g) := by
  refine .andThen fun _ => .andThen fun _ => .andThen fun t => ?_
  split <;> infer_instance

instance : Keeps text (moduleItem g) := by unfold moduleItem; infer_instance

instance : Keeps text shebang := by
  refine .andThen fun t? => ?_
  split <;> infer_instance

instance : Keeps text (Parse.module g) := by unfold Parse.module; infer_instance

end Playground.Script.Parse

namespace Playground.Script

theorem grammar_keeps (text : List Char) (depth : Nat) : (grammar depth).Keeps text := by
  induction depth with
  | zero => constructor <;> intros <;> exact inferInstanceAs (Parse.Keeps text (Parse.fail _))
  | succ depth ih =>
    constructor
    · exact inferInstanceAs (Parse.Keeps text (Parse.assignment (grammar depth)))
    · exact inferInstanceAs (Parse.Keeps text (Parse.unary (grammar depth)))
    · exact fun left bound => inferInstanceAs
        (Parse.Keeps text (Parse.binaryTail (grammar depth) left bound))
    · exact inferInstanceAs (Parse.Keeps text (Parse.memberOrNew (grammar depth)))
    · exact inferInstanceAs (Parse.Keeps text (Parse.operand (grammar depth)))
    · exact fun declares => inferInstanceAs
        (Parse.Keeps text (Parse.statement (grammar depth) declares))
    · exact fun forbidsLet => inferInstanceAs
        (Parse.Keeps text (Parse.bindingPattern (grammar depth) forbidsLet))
    · exact fun kind e => inferInstanceAs
        (Parse.Keeps text (Parse.toPattern (grammar depth) kind e))

instance (text : List Char) (depth : Nat) : (grammar depth).Keeps text := grammar_keeps text depth

end Playground.Script
