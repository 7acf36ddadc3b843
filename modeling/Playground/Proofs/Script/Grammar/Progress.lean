import Playground.Proofs.Script.Token
import Playground.Script.Grammar.Basic

/-! The grammar stays in the text. Of every step it holds that the tokens in sight stand in the text
and fit it, or a fault has been noted by then; `Keeps` says so, and instances of it carry the fact
from looking at a token to the rules of the grammar. -/

-- The instances for the longer rules are found through some hundred steps.
set_option synthInstance.maxSize 4000

namespace Playground.Script

open Text

namespace Progress

/-- Something was found wrong. -/
def Flawed (s : Progress) : Prop := s.reader.faults ≠ []

/-- The token has been looked at and not been taken. -/
def InSight (s : Progress) (l : Lexeme) : Prop := s.current = some l ∨ s.following = some l

/-- Everything that has been read stands in the text and fits it. -/
structure Sound (text : List Char) (s : Progress) : Prop where
  reader : s.reader.Sound text
  stands : ∀ l, s.InSight l → l.Stands text
  fits : ∀ l, s.InSight l → s.Flawed ∨ l.token.Fits l.text
  last : IsBoundary text s.lastSpan.stop

/-- Going from `s` to `s'`, everything stays sound and no fault is forgotten. -/
def Kept (text : List Char) (s s' : Progress) : Prop :=
  s.Sound text → s'.Sound text ∧ (s.Flawed → s'.Flawed)

theorem Kept.refl {text : List Char} (s : Progress) : Kept text s s := fun h => ⟨h, id⟩

theorem Kept.trans {text : List Char} {a b c : Progress} (h : Kept text a b) (k : Kept text b c) :
    Kept text a c := by
  intro ha
  obtain ⟨hb, hf⟩ := h ha
  obtain ⟨hc, hf'⟩ := k hb
  exact ⟨hc, hf' ∘ hf⟩

/-- Only what is in sight matters, not the notes that rules make for each other. -/
theorem Kept.of_eq {text : List Char} {s s' : Progress} (hr : s'.reader = s.reader)
    (hs : ∀ l, s'.InSight l → s.InSight l) (hl : s'.lastSpan = s.lastSpan) : Kept text s s' := by
  intro h
  refine ⟨⟨hr ▸ h.reader, fun l hin => h.stands l (hs l hin), fun l hin => ?_, hl ▸ h.last⟩, ?_⟩
  · exact (h.fits l (hs l hin)).imp_left fun hf => show s'.reader.faults ≠ [] from hr ▸ hf
  · exact fun hf => show s'.reader.faults ≠ [] from hr ▸ hf

/-- The reader gives one more token, which comes in sight. -/
theorem Kept.of_next {text : List Char} {s s' : Progress}
    (hr : s'.reader = (s.reader.next Word.isReserved).2)
    (hs : ∀ l, s'.InSight l → s.InSight l ∨ (s.reader.next Word.isReserved).1 = some l)
    (hl : s'.lastSpan = s.lastSpan) : Kept text s s' := by
  intro h
  obtain ⟨hn, hf, hnew⟩ := h.reader.next Word.isReserved
  rw [← hr] at hn hf hnew
  refine ⟨⟨hn, fun l hin => ?_, fun l hin => ?_, hl ▸ h.last⟩, hf⟩
  · rcases hs l hin with hold | hread
    · exact h.stands l hold
    · exact (hnew l hread).1
  · rcases hs l hin with hold | hread
    · exact (h.fits l hold).imp_left hf
    · exact (hnew l hread).2

end Progress

namespace Parse

open Progress

/-- However the step ends, the state it leaves is kept. -/
class Keeps (text : List Char) (m : Parse α) : Prop where
  kept : ∀ scope s, Kept text s (reached (m scope s))

variable {text : List Char}

theorem Keeps.of_ok {m : Parse α} [hm : Keeps text m] {scope : Scope} {s s' : Progress} {a : α}
    (h : m scope s = .ok a s') : Kept text s s' := by
  have hk := hm.kept scope s
  rw [h] at hk
  exact hk

theorem bind_eq_ok {m : Parse α} {f : α → Parse β} {scope : Scope} {s s' : Progress} {b : β} :
    (m >>= f) scope s = .ok b s' ↔ ∃ a s₁, m scope s = .ok a s₁ ∧ f a scope s₁ = .ok b s' := by
  change EStateM.bind (m scope) (fun a => f a scope) s = _ ↔ _
  unfold EStateM.bind
  cases h : m scope s with
  | ok a s₁ =>
    simp only [EStateM.Result.ok.injEq]
    exact ⟨fun hf => ⟨a, s₁, ⟨rfl, rfl⟩, hf⟩, by rintro ⟨_, _, ⟨rfl, rfl⟩, hf⟩; exact hf⟩
  | error e s₁ => simp

theorem bind_of_ok {m : Parse α} {f : α → Parse β} {scope : Scope} {s s₁ : Progress} {a : α}
    (h : m scope s = .ok a s₁) : (m >>= f) scope s = f a scope s₁ := by
  change EStateM.bind (m scope) (fun a => f a scope) s = _
  unfold EStateM.bind
  rw [h]

theorem kept_bind {m : Parse α} {f : α → Parse β} {scope : Scope} {s : Progress}
    (hm : Kept text s (reached (m scope s))) (hf : ∀ a, Keeps text (f a)) :
    Kept text s (reached ((m >>= f) scope s)) := by
  change Kept text s (reached (EStateM.bind (m scope) (fun a => f a scope) s))
  unfold EStateM.bind
  cases h : m scope s with
  | ok a s' =>
    rw [h] at hm
    exact hm.trans ((hf a).kept scope s')
  | error e s' =>
    rw [h] at hm
    exact hm

theorem Keeps.andThen {m : Parse α} {f : α → Parse β} [hm : Keeps text m]
    (hf : ∀ a, Keeps text (f a)) :
    Keeps text (m >>= f) := ⟨fun scope s => kept_bind (hm.kept scope s) hf⟩

theorem Keeps.ite {p : Prop} [Decidable p] {m k : Parse α} (hm : Keeps text m) (hk : Keeps text k) :
    Keeps text (if p then m else k) := by
  split
  · exact hm
  · exact hk

theorem keeps_modify {f : Progress → Progress}
    (h : ∀ s, Kept text s (f s)) : Keeps text (modify f : Parse Unit) :=
  ⟨fun _ s => h s⟩

instance (a : α) : Keeps text (pure a : Parse α) := ⟨fun _ s => .refl s⟩

instance : Keeps text (get : Parse Progress) := ⟨fun _ s => .refl s⟩

instance : Keeps text (read : Parse Scope) := ⟨fun _ s => .refl s⟩

instance (fault : Fault) : Keeps text (throw fault : Parse α) := ⟨fun _ s => .refl s⟩

instance {m : Parse α} {f : α → Parse β} [Keeps text m]
    [hf : ∀ a, Keeps text (f a)] : Keeps text (m >>= f) :=
  .andThen hf

instance {p : Prop} [Decidable p] {m k : Parse α} [hm : Keeps text m] [hk : Keeps text k] :
    Keeps text (if p then m else k) := .ite hm hk

/-! ### Looking at tokens -/

/-- Looking at the next token brings it in sight. -/
theorem current?_run (text : List Char) (scope : Scope) (s : Progress) :
    ∃ s', current? scope s = .ok s'.current s' ∧ Kept text s s' := by
  obtain ⟨reader, size, current, following, lastSpan, labels, arrowStart, commas, initialized⟩ := s
  cases current with
  | some l => exact ⟨_, rfl, .refl _⟩
  | none =>
    cases following with
    | some l =>
      refine ⟨⟨reader, size, some l, none, lastSpan, labels, arrowStart, commas, initialized⟩, rfl,
        ?_⟩
      refine .of_eq rfl (fun l' h => .inr ?_) rfl
      simpa [InSight] using h
    | none =>
      let found := reader.next Word.isReserved
      refine ⟨⟨found.2, size, found.1, none, lastSpan, labels, arrowStart, commas, initialized⟩,
        rfl, ?_⟩
      refine .of_next rfl (fun l' h => .inr ?_) rfl
      simpa [InSight] using h

theorem current?_eq_ok {scope : Scope} {s s' : Progress} {l? : Option Lexeme}
    (h : current? scope s = .ok l? s') :
    s'.current = l? := by
  obtain ⟨s₁, h₁, -⟩ := current?_run [] scope s
  rw [h₁] at h
  cases h
  rfl

instance : Keeps text current? := by
  refine ⟨fun scope s => ?_⟩
  obtain ⟨s', h, hk⟩ := current?_run text scope s
  rw [h]
  exact hk

/-- What follows may rest on where the token stands that was looked at. -/
theorem Keeps.ofCurrent {f : Option Lexeme → Parse α}
    (hf : ∀ l?, (∀ l, l? = some l → l.Stands text) →
      Keeps text (f l?)) : Keeps text (current? >>= f) := by
  refine ⟨fun scope s hs => ?_⟩
  obtain ⟨s', h, hk⟩ := current?_run text scope s
  rw [bind_of_ok h]
  have hstands (l : Lexeme) (hl : s'.current = some l) : l.Stands text :=
    (hk hs).1.stands l (.inl hl)
  exact hk.trans ((hf s'.current hstands).kept scope s') hs

instance : Keeps text token? := by unfold token?; infer_instance

instance : Keeps text peek? := by
  refine .andThen fun _ => ⟨fun scope s => ?_⟩
  obtain ⟨reader, size, current, following, lastSpan, labels, arrowStart, commas, initialized⟩ := s
  cases following with
  | some l => exact .refl _
  | none => exact .of_next rfl (fun _ h => h.imp_left .inl) rfl

theorem kept_take {s : Progress} {l : Lexeme} (h : s.current = some l) :
    Kept text s { s with current := none, lastSpan := l.span } := by
  intro hs
  have hin (l' : Lexeme) (hl : InSight { s with current := none, lastSpan := l.span } l') :
      s.InSight l' :=
    .inr (by simpa [InSight] using hl)
  exact ⟨⟨hs.reader, fun l' hl => hs.stands l' (hin l' hl), fun l' hl => hs.fits l' (hin l' hl),
    (hs.stands l (.inl h)).stop⟩, id⟩

instance : Keeps text bump := by
  refine ⟨fun scope s => ?_⟩
  obtain ⟨s₁, h, hk⟩ := current?_run text scope s
  unfold bump
  rw [bind_of_ok h]
  cases hc : s₁.current with
  | some l => exact hk.trans (kept_take hc)
  | none => exact hk

instance : Keeps text here := by unfold here; infer_instance

instance : Keeps text position := by
  refine .andThen fun l? => ?_
  cases l? <;> infer_instance

instance : Keeps text lastSpan := by unfold lastSpan; infer_instance

instance (start : Nat) : Keeps text (since start) := by unfold since; infer_instance

instance : Keeps text described := by
  refine .andThen fun l? => ?_
  cases l? <;> infer_instance

instance : Keeps text budget := by unfold budget; infer_instance

/-! ### Faults -/

instance (fault : Fault) : Keeps text (push fault) := by
  refine keeps_modify fun s h => ?_
  have hflawed : Flawed { s with reader := { s.reader with faults := fault :: s.reader.faults } } :=
    List.cons_ne_nil _ _
  exact ⟨⟨⟨h.reader.cursor, h.reader.regexFrom⟩, h.stands, fun _ _ => .inl hflawed, h.last⟩,
    fun _ => hflawed⟩

instance : Keeps text noteBadToken := by
  refine .andThen fun l? => ?_
  split <;> infer_instance

instance (fault : Fault) : Keeps text (noteFault fault) := by unfold noteFault; infer_instance

instance (cause : Cause) (span : Span) : Keeps text (note cause span) := by
  unfold note; infer_instance

instance (span : Span) (cause : Cause) : Keeps text (failAt span cause : Parse α) := by
  unfold failAt; infer_instance

instance (cause : Cause) : Keeps text (fail cause : Parse α) := by unfold fail; infer_instance

instance (wanted : String) : Keeps text (unexpected wanted : Parse α) := by
  unfold unexpected; infer_instance

instance : Keeps text required := by
  refine .andThen fun l? => ?_
  split
  · infer_instance
  · split <;> infer_instance

theorem keeps_of_reached_eq {m : Parse α} [hm : Keeps text m] {k : Parse β}
    (h : ∀ scope s, reached (k scope s) = reached (m scope s)) : Keeps text k :=
  ⟨fun scope s => h scope s ▸ hm.kept scope s⟩

instance {m : Parse α} [Keeps text m] : Keeps text (attempt m) := by
  refine keeps_of_reached_eq (m := m) fun scope s => ?_
  unfold attempt
  cases m scope s <;> rfl

/-! ### Taking tokens -/

instance (t : Token) : Keeps text (sees t) := by unfold sees; infer_instance

instance (ts : List Token) : Keeps text (seesOne ts) := by unfold seesOne; infer_instance

instance (m : Mark) : Keeps text (atMark m) := inferInstanceAs (Keeps text (sees _))

instance (k : Keyword) : Keeps text (atKeyword k) := inferInstanceAs (Keeps text (sees _))

instance (name : String) : Keeps text (atName name) := inferInstanceAs (Keeps text (sees _))

instance (t : Token) : Keeps text (peeks t) := by unfold peeks; infer_instance

instance {first second : Parse Bool} [Keeps text first] [Keeps text second] :
    Keeps text (both first second) := by
  unfold both; infer_instance

instance : Keeps text atEnd := by unfold atEnd; infer_instance

instance : Keeps text atBindable := by
  refine .andThen fun l? => ?_
  split <;> infer_instance

instance (t : Token) : Keeps text (eat t) := by unfold eat; infer_instance

instance (m : Mark) : Keeps text (eatMark m) := inferInstanceAs (Keeps text (eat _))

instance (k : Keyword) : Keeps text (eatKeyword k) := inferInstanceAs (Keeps text (eat _))

instance (name : String) : Keeps text (eatName name) := inferInstanceAs (Keeps text (eat _))

instance (t : Token) : Keeps text (expect t) := by unfold expect; infer_instance

instance (m : Mark) : Keeps text (expectMark m) := inferInstanceAs (Keeps text (expect _))

instance : Keeps text lineBefore := by unfold lineBefore; infer_instance

instance : Keeps text lineBeforePeeked := by unfold lineBeforePeeked; infer_instance

instance : Keeps text atStatementEnd := by
  refine .andThen fun l? => ?_
  split <;> infer_instance

instance : Keeps text eatStatementEnd := by unfold eatStatementEnd; infer_instance

instance : Keeps text expectStatementEnd := by unfold expectStatementEnd; infer_instance

/-! ### Scopes and loops -/

theorem Keeps.within {change : Scope → Scope} {m : Parse α} (hm : Keeps text m) :
    Keeps text (within change m) :=
  ⟨fun scope s => hm.kept (change scope) s⟩

instance {change : Scope → Scope} {m : Parse α} [hm : Keeps text m] :
    Keeps text (within change m) := hm.within

instance {m : Parse α} [Keeps text m] : Keeps text (withIn m) :=
  inferInstanceAs (Keeps text (within _ m))

instance {m : Parse α} [hm : Keeps text m] : Keeps text (inBody m) := by
  refine ⟨fun scope s => ?_⟩
  have hin : Kept text s { s with labels := [], arrowStart := none, trailingCommas := [] } :=
    .of_eq rfl (fun _ => id) rfl
  have hk := hm.kept scope { s with labels := [], arrowStart := none, trailingCommas := [] }
  unfold inBody
  cases h : m scope { s with labels := [], arrowStart := none, trailingCommas := [] } <;>
    (rw [h] at hk; exact (hin.trans hk).trans (.of_eq rfl (fun _ => id) rfl))

theorem keeps_iterate {step : α → Parse (α ⊕ β)} (hstep : ∀ a, Keeps text (step a))
    (fuel : Nat) (a : α) :
    Keeps text (iterate step fuel a) := by
  induction fuel generalizing a with
  | zero => exact inferInstanceAs (Keeps text (fail _))
  | succ fuel ih =>
    refine .andThen fun next => ?_
    cases next <;> infer_instance

instance {step : α → Parse (α ⊕ β)} [hstep : ∀ a, Keeps text (step a)] (fuel : Nat) (a : α) :
    Keeps text (iterate step fuel a) := keeps_iterate hstep fuel a

instance {step : Parse (Option α)} [Keeps text step] : Keeps text (collect step) := by
  refine .andThen fun fuel => keeps_iterate (fun taken => .andThen fun next => ?_) _ _
  cases next <;> infer_instance

instance {f : α → Parse Unit} [hf : ∀ a, Keeps text (f a)]
    (as : List α) : Keeps text (as.forM f) := by
  induction as with
  | nil => exact inferInstanceAs (Keeps text (pure _))
  | cons a as ih => exact inferInstanceAs (Keeps text (f a >>= fun _ => as.forM f))

end Parse

/-- Every rule that the others refer back to keeps the state. -/
class Grammar.Keeps (text : List Char) (g : Grammar) : Prop where
  assignment : Parse.Keeps text g.assignment
  unary : Parse.Keeps text g.unary
  binaryTail : ∀ left bound, Parse.Keeps text (g.binaryTail left bound)
  memberOrNew : Parse.Keeps text g.memberOrNew
  operand : Parse.Keeps text g.operand
  statement : ∀ declares, Parse.Keeps text (g.statement declares)
  bindingPattern : ∀ forbidsLet, Parse.Keeps text (g.bindingPattern forbidsLet)
  toPattern : ∀ kind e, Parse.Keeps text (g.toPattern kind e)

attribute [instance] Grammar.Keeps.assignment Grammar.Keeps.unary Grammar.Keeps.binaryTail
  Grammar.Keeps.memberOrNew
  Grammar.Keeps.operand Grammar.Keeps.statement Grammar.Keeps.bindingPattern Grammar.Keeps.toPattern

end Playground.Script
