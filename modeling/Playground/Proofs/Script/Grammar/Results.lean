import Playground.Proofs.Script.Grammar.Rules
import Playground.Script.Layout.Tree

/-! What the rules give when they succeed. An expression begins with a character that can be seen,
and a statement starts and stops between characters of the text; both hold unless a fault has been
noted by then. -/

-- The instances for the longer rules are found through some hundred steps.
set_option synthInstance.maxSize 4000

namespace Playground.Script

open Text

/-! ### The facts about trees -/

/-- The span starts and stops between characters of the text. -/
structure Span.On (text : List Char) (span : Span) : Prop where
  start : IsBoundary text span.start
  stop : IsBoundary text span.stop

mutual

/-- The first thing that is written of the expression begins with a character that can be seen. -/
def Expr.Shows : Expr → Prop
  | .name id => Visible id.name.toList
  | .literal _ value => Visible value.text.toList
  | .tagged _ tag _ => tag.Shows
  | .update _ _ isBefore arg => isBefore = true ∨ arg.Shows
  | .binary _ _ left _ => left.Shows
  | .assign _ _ target _ => target.Shows
  | .cond _ test _ _ => test.Shows
  | .seq _ items => Expr.FirstShows items
  | .member _ owner _ | .chainMember _ _ owner _ | .call _ owner _
  | .chainCall _ _ owner _ => owner.Shows
  | .hole | .invalid _ => False
  | _ => True
termination_by structural e => e

def Expr.FirstShows : List Expr → Prop
  | [] => False
  | e :: _ => e.Shows
termination_by structural es => es

def Pattern.Shows : Pattern → Prop
  | .name id => Visible id.name.toList
  | .default _ target _ => target.Shows
  | .target e => e.Shows
  | .hole | .invalid _ => False
  | _ => True
termination_by structural p => p

end

/-- The expression shows, and a name starts between characters of the text. -/
structure Expr.Good (text : List Char) (e : Expr) : Prop where
  shows : e.Shows
  name : ∀ id, e = .name id → IsBoundary text id.span.start

/-- The statement stands between characters of the text; a block begins with its brace. -/
structure Stmt.Placed (text : List Char) (s : Stmt) : Prop where
  span : s.span.On text
  brace : ∀ b, s = .block b → ∃ before rest, text = before ++ '{' :: rest ∧
    byteSize before = b.span.start

/-- The first thing that is written of the statement begins with a character that can be seen. -/
def Stmt.Shows : Stmt → Prop
  | .expr _ e => e.Shows
  | .labeled _ label _ => Visible label.name.toList
  | _ => True

namespace Parse

open Progress

variable {text : List Char}

/-! ### Steps with results -/

/-- The step keeps the state, and what it gives is as told unless something was found wrong. -/
class Gives (text : List Char) (Q : α → Prop) (m : Parse α) : Prop where
  gives : ∀ scope s a s', m scope s = .ok a s' → Kept text s s' ∧ (s.Sound text → s'.Flawed ∨ Q a)

theorem Gives.pure {Q : α → Prop} {a : α} (h : Q a) : Gives text Q (pure a) := by
  refine ⟨fun scope s a' s' ha => ?_⟩
  cases ha
  exact ⟨.refl s, fun _ => .inr h⟩

/-- What the first step gives is known where the second one has given its result. -/
theorem Gives.bind {P : α → Prop} {Q : β → Prop} {m : Parse α} {f : α → Parse β}
    (hm : Gives text P m)
    (hf : ∀ a, Gives text (fun b => P a → Q b) (f a)) : Gives text Q (m >>= f) := by
  refine ⟨fun scope s b s' h => ?_⟩
  obtain ⟨a, s₁, ha, hb⟩ := bind_eq_ok.mp h
  obtain ⟨hk, hP⟩ := hm.gives scope s a s₁ ha
  obtain ⟨hk', hQ⟩ := (hf a).gives scope s₁ b s' hb
  refine ⟨hk.trans hk', fun hs => ?_⟩
  obtain ⟨hs₁, -⟩ := hk hs
  rcases hP hs with hflaw | hPa
  · exact .inl ((hk' hs₁).2 hflaw)
  · exact (hQ hs₁).imp_right fun hQb => hQb hPa

theorem Gives.ofKeeps {m : Parse α} [Keeps text m] : Gives text (fun _ => True) m :=
  ⟨fun _ _ _ _ h => ⟨Keeps.of_ok h, fun _ => .inr trivial⟩⟩

theorem Gives.ofResult {Q : α → Prop} {m : Parse α} [Keeps text m]
    (h : ∀ scope s a s', m scope s = .ok a s' → Q a) :
    Gives text Q m := ⟨fun scope s a s' ha => ⟨Keeps.of_ok ha, fun _ => .inr (h scope s a s' ha)⟩⟩

theorem Gives.skip {Q : β → Prop} {m : Parse α} {f : α → Parse β} [Keeps text m]
    (hf : ∀ a, Gives text Q (f a)) :
    Gives text Q (m >>= f) := by
  refine .bind .ofKeeps fun a => ⟨fun scope s b s' h => ?_⟩
  obtain ⟨hk, hQ⟩ := (hf a).gives scope s b s' h
  exact ⟨hk, fun hs => (hQ hs).imp_right fun hQb _ => hQb⟩

theorem Gives.mono {P Q : α → Prop} {m : Parse α} (hm : Gives text P m)
    (h : ∀ a, P a → Q a) : Gives text Q m := by
  refine ⟨fun scope s a s' ha => ?_⟩
  obtain ⟨hk, hP⟩ := hm.gives scope s a s' ha
  exact ⟨hk, fun hs => (hP hs).imp_right (h a)⟩

theorem Gives.ite {Q : α → Prop} {p : Prop} [Decidable p] {m k : Parse α} (hm : Gives text Q m)
    (hk : Gives text Q k) : Gives text Q (if p then m else k) := by
  split
  · exact hm
  · exact hk

theorem Gives.within {Q : α → Prop} {change : Scope → Scope} {m : Parse α} (hm : Gives text Q m) :
    Gives text Q (within change m) := ⟨fun scope s a s' h => hm.gives (change scope) s a s' h⟩

/-- The step never succeeds. -/
class Fails (m : Parse α) : Prop where
  fails : ∀ scope s a s', m scope s ≠ .ok a s'

section

variable {α β : Type}

instance (fault : Fault) : Fails (throw fault : Parse α) := ⟨fun _ _ _ _ h => by cases h⟩

instance {m : Parse α} {f : α → Parse β} [hm : Fails m] : Fails (m >>= f) := by
  refine ⟨fun scope s b s' h => ?_⟩
  obtain ⟨a, s₁, ha, -⟩ := bind_eq_ok.mp h
  exact hm.fails scope s a s₁ ha

instance {m : Parse α} {f : α → Parse β} [hf : ∀ a, Fails (f a)] : Fails (m >>= f) := by
  refine ⟨fun scope s b s' h => ?_⟩
  obtain ⟨a, s₁, -, hb⟩ := bind_eq_ok.mp h
  exact (hf a).fails scope s₁ b s' hb

instance (span : Span) (cause : Cause) : Fails (failAt span cause : Parse α) := by
  unfold failAt; infer_instance

instance (cause : Cause) : Fails (fail cause : Parse α) := by unfold fail; infer_instance

instance (wanted : String) : Fails (unexpected wanted : Parse α) := by
  unfold unexpected; infer_instance

end

section

variable {Q : α → Prop}

instance {m : Parse β} {f : β → Parse α} [Keeps text m]
    [hf : ∀ b, Gives text Q (f b)] : Gives text Q (m >>= f) :=
  .skip hf

instance {p : Prop} [Decidable p] {m k : Parse α} [hm : Gives text Q m] [hk : Gives text Q k] :
    Gives text Q (if p then m else k) := .ite hm hk

instance {change : Scope → Scope} {m : Parse α} [hm : Gives text Q m] :
    Gives text Q (Parse.within change m) :=
  hm.within

instance {m : Parse α} [hm : Gives text Q m] : Gives text Q (withIn m) := hm.within

instance {m : Parse α} [hm : Fails m] : Gives text Q m :=
  ⟨fun scope s a s' h => absurd h (hm.fails scope s a s')⟩

end

theorem gives_push (fault : Fault) : Gives text (fun _ => False) (push fault) := by
  refine ⟨fun scope s u s' h => ⟨Keeps.of_ok h, fun _ => .inl ?_⟩⟩
  cases h
  exact List.cons_ne_nil _ _

theorem gives_noteFault (fault : Fault) : Gives text (fun _ => False) (noteFault fault) :=
  .skip fun _ => gives_push fault

/-- After a fault has been noted, nothing more has to be shown. -/
theorem Gives.afterNote {Q : α → Prop} {cause : Cause} {span : Span} {f : Unit → Parse α}
    (hf : ∀ u, Keeps text (f u)) :
    Gives text Q (note cause span >>= f) :=
  .bind (gives_noteFault _) fun _ => Gives.ofKeeps.mono fun _ _ => False.elim

theorem gives_iterate {I : α → Prop} {Q : β → Prop} {step : α → Parse (α ⊕ β)}
    (hstep : ∀ a, Gives text (fun r => I a → Sum.elim I Q r) (step a)) (fuel : Nat) (a : α) :
    Gives text (fun b => I a → Q b) (iterate step fuel a) := by
  induction fuel generalizing a with
  | zero => exact inferInstanceAs (Gives text _ (fail _))
  | succ fuel ih =>
    refine .bind (hstep a) fun next => ?_
    cases next with
    | inl a' => exact (ih a').mono fun b hQ hI hIa => hQ (hI hIa)
    | inr b => exact .pure fun hQ hIa => hQ hIa

theorem gives_collect {P : α → Prop} {step : Parse (Option α)}
    (hstep : Gives text (fun o => ∀ a, o = some a → P a) step) :
    Gives text (fun as => ∀ a ∈ as, P a) (collect step) := by
  refine .skip fun fuel => ?_
  refine (gives_iterate (I := fun taken => ∀ a ∈ taken, P a)
    (fun taken => .bind hstep fun next => ?_) fuel []).mono
    fun as h => h (by simp)
  cases next with
  | some a =>
    refine .pure fun ha htaken a' hmem => ?_
    rcases List.mem_cons.mp hmem with rfl | hold
    · exact ha a' rfl
    · exact htaken a' hold
  | none => exact .pure fun _ htaken a hmem => htaken a (by simpa using hmem)

/-- What a step gives, where its failure is a result too. -/
theorem gives_attempt {Q : α → Prop} {m : Parse α} [Keeps text m] (hm : Gives text Q m) :
    Gives text (fun r => ∀ a, r = .ok a → Q a) (attempt m) := by
  refine ⟨fun scope s r s' h => ⟨Keeps.of_ok h, fun hs => ?_⟩⟩
  unfold attempt at h
  cases hr : m scope s with
  | ok a s₁ =>
    rw [hr] at h
    cases h
    refine ((hm.gives scope s a s' hr).2 hs).imp_right fun hQ a' ha => ?_
    cases ha
    exact hQ
  | error fault s₁ =>
    rw [hr] at h
    cases h
    exact .inr fun a ha => by cases ha

/-! ### Tokens and spans -/

theorem gives_current? :
    Gives text (fun l? => ∀ l, l? = some l → l.Stands text ∧ l.token.Fits l.text) current? := by
  refine ⟨fun scope s l? s' h => ⟨Keeps.of_ok h, fun hs => ?_⟩⟩
  have hs' := (Keeps.of_ok h hs).1
  have hcur := current?_eq_ok h
  cases l? with
  | none => exact .inr fun l hl => by cases hl
  | some l =>
    refine (hs'.fits l (.inl hcur)).imp_right fun hfits l' hl => ?_
    cases hl
    exact ⟨hs'.stands l (.inl hcur), hfits⟩

theorem gives_token? : Gives text (fun t? => ∀ t, t? = some t → ∃ cs, t.Fits cs) token? := by
  refine .bind gives_current? fun l? => .pure fun hl t ht => ?_
  obtain ⟨l, hl', rfl⟩ := Option.map_eq_some_iff.mp ht
  exact ⟨l.text, (hl l hl').2⟩

theorem gives_required : Gives text (fun t => ∃ cs, t.Fits cs) required := by
  refine .bind gives_current? fun l? => ?_
  cases l? with
  | none => infer_instance
  | some l =>
    dsimp only
    split
    · infer_instance
    · exact .pure fun hl => ⟨l.text, (hl l rfl).2⟩

theorem gives_lastSpan : Gives text (fun span => IsBoundary text span.stop) lastSpan := by
  refine ⟨fun scope s span s' h => ⟨Keeps.of_ok h, fun hs => .inr ?_⟩⟩
  cases h
  exact hs.last

theorem gives_since (start : Nat) :
    Gives text (fun span => IsBoundary text start → span.On text) (since start) :=
  .bind gives_lastSpan fun _ => .pure fun hstop hstart => ⟨hstart, hstop⟩

theorem gives_position : Gives text (IsBoundary text) position := by
  refine .bind gives_current? fun l? => ?_
  cases l? with
  | none => exact gives_lastSpan.bind fun span => .pure fun hstop _ => hstop
  | some l => exact .pure fun hl => (hl l rfl).1.start.isBoundary

end Parse

end Playground.Script
