import Playground.Proofs.Script.Grammar.Statements
import Playground.Proofs.Script.Stage

/-! Names at the top level of a module: those of the functions that it exports by declaring them,
and those in its imports, are read as one word each. -/

-- The instances for the longer rules are found through some hundred steps.
set_option synthInstance.maxSize 4000

namespace Playground.Script

open Text

/-- If the statement declares a function, that has a name. -/
def Stmt.Names (s : Stmt) : Prop := ∀ span id fn, s = .function span id fn → IsName id.name.toList

/-- What is bound has a name, and so has what it stands for in the other module, unless that is a
string. -/
def ImportSpecifier.Names : ImportSpecifier → Prop
  | .default id | .star _ id => IsName id.name.toList
  | .named _ imported id => IsName id.name.toList ∧ ∀ ext, imported = some (.name ext) →
    IsName ext.name.toList

/-- A function that the item declares and exports has a name, and all that it imports has. -/
structure ModuleItem.Names (item : ModuleItem) : Prop where
  exported : ∀ name, item.exportedFunction? = some name → IsName name.toList
  imported : ∀ span phase ss lit, item = .importFrom span phase ss lit → ∀ s ∈ ss, s.Names

namespace Parse

variable {text : List Char} {g : Grammar} [g.Keeps text]

/-- There is an identifier, and its name is one word. -/
def HasName (id? : Option Ident) : Prop := ∃ id, id? = some id ∧ IsName id.name.toList

theorem gives_bindingIdent (forbidsLet : Bool) :
    Gives text (fun id => IsName id.name.toList) (bindingIdent forbidsLet) := by
  refine .skip fun _ => ?_
  extract_lets rest
  have : ∀ u, Gives text (fun id => IsName id.name.toList) (rest u) := by
    refine fun _ => .bind (gives_ident true) fun id => ?_
    have : Gives text
        (fun id' : Ident => IsName id.name.toList ∧ IsBoundary text id.span.start →
          IsName id'.name.toList)
        (pure id) := .pure And.left
    infer_instance
  clear_value rest
  infer_instance

theorem gives_bindingIdent? (forbidsLet : Bool) :
    Gives text HasName (bindingIdent? true forbidsLet) := by
  refine .skip fun _ => ?_
  rw [Bool.true_or, if_pos rfl]
  exact .bind (gives_bindingIdent forbidsLet) fun id => .pure fun h => ⟨id, rfl, h⟩

theorem gives_namedFunction (asyncStart : Option Nat) (isExpr : Bool) :
    Gives text (fun p : Option Ident × Func => HasName p.1)
      (function g asyncStart isExpr true) := by
  unfold function
  extract_lets isAsync rest
  have (start : Nat) : Gives text (fun p : Option Ident × Func => HasName p.1) (rest start) := by
    refine .skip fun _ => .skip fun isGenerator => .within ?_
    have hfn (name : Option Ident) :
        Gives text (fun p : Option Ident × Func => HasName name → HasName p.1)
          (functionRest g start (params g) isAsync isGenerator >>= fun fn => pure (name, fn)) :=
      .skip fun _ => .pure id
    exact .ite (.bind (.within (gives_bindingIdent? false)) hfn)
      (.bind (gives_bindingIdent? false) hfn)
  clear_value rest
  cases asyncStart <;> infer_instance

instance : Gives text Stmt.Names (functionDecl g) := by
  have hstmt (p : Option Ident × Func) : Gives text (fun s : Stmt => HasName p.1 → s.Names)
      (pure (.function p.2.span (p.1.getD ⟨"", p.2.span⟩) p.2)) := by
    refine .pure ?_
    rintro ⟨id, hid, hname⟩ _ id' _ h
    cases h
    rwa [hid]
  refine .skip fun _ => .ite ?_ (.bind (gives_namedFunction none false) hstmt)
  exact .bind (.skip fun _ => .skip fun _ => gives_namedFunction _ false) hstmt

instance : Gives text Stmt.Names (classDecl g) := .skip fun _ => .pure nofun

instance (start : Nat) : Gives text ModuleItem.Names (exportDefault g start) := by
  have (span : Span) (name : Option Ident) (cls : ClassBody) :
      Gives text ModuleItem.Names (pure (.exportDefaultClass span name cls)) := .pure ⟨nofun, nofun⟩
  have (span : Span) (name : Option Ident) (fn : Func) :
      Gives text ModuleItem.Names (pure (.exportDefaultFunction span name fn)) :=
    .pure ⟨nofun, nofun⟩
  have (span : Span) (e : Expr) : Gives text ModuleItem.Names (pure (.exportDefault span e)) :=
    .pure ⟨nofun, nofun⟩
  unfold exportDefault
  infer_instance

instance : Gives text ModuleItem.Names (exportItem g) := by
  have (span : Span) (names : List ExportSpecifier) (source : Option StringLit) :
      Gives text ModuleItem.Names (pure (.exportNamed span names source)) := .pure ⟨nofun, nofun⟩
  have (span : Span) (lit : StringLit) : Gives text ModuleItem.Names (pure (.exportAll span lit)) :=
    .pure ⟨nofun, nofun⟩
  have (span : Span) (decl : VarDecl) :
      Gives text ModuleItem.Names (pure (.exportDecl span (.var decl))) :=
    .pure ⟨nofun, nofun⟩
  have (start : Nat) : Gives text ModuleItem.Names (exportStar start) := by
    unfold exportStar; infer_instance
  have (start : Nat) : Gives text ModuleItem.Names (exportNames start) := by
    unfold exportNames; infer_instance
  -- The declaration is the only part with a name to look at.
  have (start : Nat) {m : Parse Stmt} [hm : Gives text Stmt.Names m] : Gives text ModuleItem.Names
      (m >>= fun decl => since start >>= fun span => pure (.exportDecl span decl)) := by
    refine hm.bind fun decl => .skip fun span => .pure fun hdecl => ⟨fun name hname => ?_, nofun⟩
    unfold ModuleItem.exportedFunction? at hname
    split at hname
    · rename_i heq
      cases heq
      cases hname
      exact hdecl _ _ _ rfl
    · cases hname
  refine .skip fun _ => .skip fun _ => .skip fun t => ?_
  split <;> infer_instance

/-! ### Imports -/

theorem gives_externalName :
    Gives text (fun name => ∀ id, name = ExternalName.name id → IsName id.name.toList)
      externalName := by
  refine .skip fun t? => ?_
  split
  · refine .skip fun _ => .pure ?_
    rintro id ⟨⟩
  · refine .bind (P := fun id => IsName id.name.toList) ?_ fun id => .pure ?_
    · refine .skip fun start => .bind gives_required fun t => ?_
      split
      · refine .skip fun _ => .skip fun _ => .pure ?_
        rintro ⟨_, hw⟩
        exact hw
      · infer_instance
    · rintro hid id' ⟨⟩
      exact hid
  · infer_instance

theorem gives_importSpecifier : Gives text ImportSpecifier.Names importSpecifier := by
  refine .skip fun start => .bind gives_externalName fun imported => .skip
    fun isRenamed => .ite ?_ ?_
  · refine .bind (gives_bindingIdent false) fun id => .pure fun hid himported => ⟨hid, ?_⟩
    rintro ext ⟨⟩
    exact himported ext rfl
  · cases imported with
    | string lit => infer_instance
    | name id =>
      have : Gives text (fun s : ImportSpecifier =>
          (∀ id', ExternalName.name id = .name id' → IsName id'.name.toList) → s.Names)
          (since start >>= fun span => pure (.named span none id)) :=
        .skip fun _ => .pure fun h => ⟨h id rfl, nofun⟩
      dsimp only
      infer_instance

theorem gives_importedBinding : Gives text (fun id => IsName id.name.toList) importedBinding :=
  .within (gives_bindingIdent false)

theorem gives_importHead : Gives text (fun head => ∀ s ∈ head.2, s.Names) importHead := by
  refine .skip fun _ => .ite (.pure (by simp)) (.bind gives_importedBinding fun id => ?_)
  extract_lets named
  have hnamed (phase : ImportPhase) (id : Ident) :
      Gives text (fun head => IsName id.name.toList → ∀ s ∈ head.2, s.Names) (named phase id) := by
    have : Gives text
        (fun head : ImportPhase × List ImportSpecifier => IsName id.name.toList →
          ∀ s ∈ head.2, s.Names)
        (pure (phase, [.default id])) := .pure fun hid => List.forall_mem_singleton.mpr hid
    exact .skip fun _ => inferInstance
  clear_value named
  split
  · refine .skip fun _ => .skip fun _ => .ite (.pure (by simp))
      (.skip fun _ => .skip fun _ => .ite ?_ (hnamed _ id))
    exact .bind gives_importedBinding fun own => (hnamed _ own).mono fun _ h hown _ => h hown
  · exact hnamed _ id

instance (start : Nat) : Gives text ModuleItem.Names (importRest start) := by
  refine .skip fun t? => ?_
  dsimp only
  split
  · refine .skip fun lit => .skip fun _ => .skip fun span => .pure ⟨nofun, ?_⟩
    rintro _ _ _ _ ⟨⟩
    simp
  · refine .bind gives_importHead fun head => ?_
    obtain ⟨phase, byDefault⟩ := head
    refine .skip fun first => .skip fun _ => .skip fun _ => ?_
    have hrest (others : List ImportSpecifier) :
        Gives text (fun item : ModuleItem => (∀ s ∈ others, s.Names) →
          (∀ s ∈ byDefault, s.Names) → item.Names) (do
            let lit ← fromClause
            return .importFrom (← since start) phase (byDefault ++ others) lit) := by
      refine .skip fun lit => .skip fun span => .pure fun hothers hdefault => ⟨nofun, ?_⟩
      rintro _ _ _ _ ⟨⟩
      exact List.forall_mem_append.mpr ⟨hdefault, hothers⟩
    refine .ite ?_ (.ite ?_ ((hrest []).mono fun _ h => h (by simp)))
    · refine .skip fun _ => .bind gives_importedBinding fun id => .skip
        fun span => (hrest [.star span id]).mono ?_
      exact fun _ h hid => h (List.forall_mem_singleton.mpr hid)
    · refine .bind (P := fun ss => ∀ s ∈ ss, s.Names)
        (.bind (gives_collect (P := ImportSpecifier.Names) ?_) ?_) hrest
      · have (s : ImportSpecifier) : Gives text (fun s? => s.Names → ∀ s', s? = some s' → s'.Names)
            (pure (some s)) :=
          .pure fun hs _ h => Option.some.inj h ▸ hs
        refine .skip fun _ => .skip fun _ => .ite (.pure nofun)
          (.bind gives_importSpecifier fun s => ?_)
        exact .skip fun _ => inferInstance
      · exact fun ss => .skip fun _ => .pure id

instance : Gives text ModuleItem.Names (moduleItem g) := by
  have (s : Stmt) : Gives text ModuleItem.Names (pure (.stmt s)) := .pure ⟨nofun, nofun⟩
  have : Gives text ModuleItem.Names (importItem g) := by unfold importItem; infer_instance
  unfold moduleItem
  infer_instance

end Parse

theorem Source.names_of_read {code : String} {source : Source} (h : Source.read code = .ok source) :
    ∀ item ∈ source.module.items, item.Names :=
  Source.parse_gives (fun _ => Parse.gives_module inferInstance) (Source.parse_of_read h)

/-- Every function that a script exports by declaring it has a name that is one word. -/
theorem Source.isName_of_read {code : String} {source : Source}
    (h : Source.read code = .ok source) :
    ∀ name ∈ source.module.exportedFunctions, IsName name.toList := by
  intro name hname
  obtain ⟨item, hitem, heq⟩ := List.mem_filterMap.mp hname
  exact (Source.names_of_read h item hitem).exported name heq

end Playground.Script
