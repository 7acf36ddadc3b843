import Playground.Script.Lexer
import Playground.Text.Position

/-! Reading moves forward. Every step of the reader takes characters from the front of what is left,
counts their bytes, and forgets no fault; `Moves` says so of a step, and instances of it carry the
fact from the steps to the tokens. -/

-- The instances for the longer rules are found through some hundred steps.
set_option synthInstance.maxSize 4000

namespace Playground

open Text

/-- A byte offset between two characters of a text, or at one of its ends. -/
def Text.IsBoundary (text : List Char) (n : Nat) : Prop :=
  ∃ before rest, text = before ++ rest ∧ byteSize before = n

namespace Script

/-- The state that a step leaves, whether it succeeds or fails. -/
def reached : EStateM.Result ε σ α → σ
  | .ok _ s | .error _ s => s

/-! ### Places -/

namespace Cursor

/-- `c'` is `c` with some characters taken. -/
def Leads (c c' : Cursor) : Prop :=
  ∃ taken, c.rest = taken ++ c'.rest ∧ c'.position = c.position + byteSize taken

theorem Leads.refl (c : Cursor) : c.Leads c := ⟨[], rfl, rfl⟩

theorem Leads.trans {a b c : Cursor} (h : a.Leads b) (k : b.Leads c) : a.Leads c := by
  obtain ⟨xs, hx, px⟩ := h
  obtain ⟨ys, hy, py⟩ := k
  refine ⟨xs ++ ys, ?_, ?_⟩
  · rw [hx, hy, List.append_assoc]
  · rw [py, px, byteSize_append, Nat.add_assoc]

theorem Leads.length_le {c c' : Cursor} (h : c.Leads c') : c'.rest.length ≤ c.rest.length := by
  obtain ⟨taken, hr, -⟩ := h
  simp [hr]

theorem leads_advance (c : Cursor) : c.Leads c.advance := by
  cases h : c.rest with
  | nil => simpa [advance, h] using Leads.refl c
  | cons x rest => exact ⟨[x], by simp [advance, h], by simp [advance, h]⟩

theorem leads_advanceBy (c : Cursor) (n : Nat) : c.Leads (c.advanceBy n) := by
  induction n generalizing c with
  | zero => exact .refl c
  | succ n ih => exact c.leads_advance.trans (ih c.advance)

/-- The text between two places is what was taken. -/
theorem upTo_of_eq_append {c c' : Cursor} {taken : List Char} (h : c.rest = taken ++ c'.rest) :
    c.upTo c' = taken := by
  simp [upTo, h]

/-- The place lies in the text, as far from its start as it says. -/
def At (text : List Char) (c : Cursor) : Prop :=
  ∃ before, text = before ++ c.rest ∧ c.position = byteSize before

theorem At.isBoundary {text : List Char} {c : Cursor} (h : c.At text) :
    IsBoundary text c.position := by
  obtain ⟨before, ht, hp⟩ := h
  exact ⟨before, c.rest, ht, hp.symm⟩

theorem At.of_leads {text : List Char} {c c' : Cursor} (h : c.At text) (k : c.Leads c') :
    c'.At text := by
  obtain ⟨before, ht, hp⟩ := h
  obtain ⟨taken, hr, hp'⟩ := k
  refine ⟨before ++ taken, ?_, ?_⟩
  · rw [ht, hr, List.append_assoc]
  · rw [hp', hp, byteSize_append]

end Cursor

namespace Reader

/-! ### Steps that move forward -/

/-- `r'` is further in the same text than `r`, and every fault of `r` is still held against it. -/
structure Onward (r r' : Reader) : Prop where
  cursor : r.cursor.Leads r'.cursor
  regexFrom : r'.regexFrom = r.regexFrom
  flawed : r.faults ≠ [] → r'.faults ≠ []

theorem Onward.refl (r : Reader) : Onward r r := ⟨.refl _, rfl, id⟩

theorem Onward.trans {a b c : Reader} (h : Onward a b) (k : Onward b c) : Onward a c :=
  ⟨h.cursor.trans k.cursor, k.regexFrom.trans h.regexFrom, k.flawed ∘ h.flawed⟩

/-- However the step ends, it has moved forward. -/
class Moves (m : Read α) : Prop where
  onward : ∀ r, Onward r (reached (m r))

theorem Moves.of_ok {m : Read α} [hm : Moves m] {r r' : Reader} {a : α} (h : m r = .ok a r') :
    Onward r r' := by
  have ho := hm.onward r
  rw [h] at ho
  exact ho

theorem bind_eq_ok {m : Read α} {f : α → Read β} {r r' : Reader} {b : β} :
    (m >>= f) r = .ok b r' ↔ ∃ a r₁, m r = .ok a r₁ ∧ f a r₁ = .ok b r' := by
  change EStateM.bind m f r = _ ↔ _
  unfold EStateM.bind
  cases h : m r with
  | ok a r₁ =>
    simp only [EStateM.Result.ok.injEq]
    exact ⟨fun hf => ⟨a, r₁, ⟨rfl, rfl⟩, hf⟩, by rintro ⟨_, _, ⟨rfl, rfl⟩, hf⟩; exact hf⟩
  | error e r₁ => simp

/-- A step from `r` that moves forward, and then steps that do so from anywhere. -/
theorem onward_bind {m : Read α} {f : α → Read β} {r : Reader} (ho : Onward r (reached (m r)))
    (hf : ∀ a, Moves (f a)) : Onward r (reached ((m >>= f) r)) := by
  change Onward r (reached (EStateM.bind m f r))
  unfold EStateM.bind
  cases h : m r with
  | ok a r' =>
    rw [h] at ho
    exact ho.trans ((hf a).onward r')
  | error e r' =>
    rw [h] at ho
    exact ho

theorem Moves.andThen {m : Read α} {f : α → Read β} [hm : Moves m]
    (hf : ∀ a, Moves (f a)) : Moves (m >>= f) :=
  ⟨fun r => onward_bind (hm.onward r) hf⟩

theorem Moves.getThen {f : Reader → Read α}
    (h : ∀ r, Onward r (reached (f r r))) : Moves (get >>= f) := ⟨h⟩

theorem Moves.ite {c : Prop} [Decidable c] {m k : Read α} (hm : Moves m) (hk : Moves k) :
    Moves (if c then m else k) := by
  split
  · exact hm
  · exact hk

theorem moves_modify {f : Reader → Reader}
    (h : ∀ r, Onward r (f r)) : Moves (modify f : Read Unit) := ⟨h⟩

section

variable {α β : Type}

instance (a : α) : Moves (pure a : Read α) := ⟨.refl⟩

instance : Moves (get : Read Reader) := ⟨.refl⟩

instance (e : Fault) : Moves (throw e : Read α) := ⟨.refl⟩

instance {m : Read α} {f : α → Read β} [Moves m] [hf : ∀ a, Moves (f a)] : Moves (m >>= f) :=
  .andThen hf

instance {c : Prop} [Decidable c] {m k : Read α} [hm : Moves m] [hk : Moves k] :
    Moves (if c then m else k) :=
  .ite hm hk

instance : Moves position := by unfold position; infer_instance

instance : Moves current? := by unfold current?; infer_instance

instance : Moves peek? := by unfold peek?; infer_instance

instance : Moves budget := by unfold budget; infer_instance

instance : Moves advance := moves_modify fun r => ⟨r.cursor.leads_advance, rfl, id⟩

instance (n : Nat) : Moves (advanceBy n) :=
  moves_modify fun r => ⟨r.cursor.leads_advanceBy n, rfl, id⟩

instance (cause : Cause) (start : Nat) : Moves (note cause start) :=
  moves_modify fun r => ⟨.refl _, rfl, by simp⟩

instance (cause : Cause) (start : Nat) : Moves (fail cause start : Read α) := by
  unfold fail; infer_instance

instance (c : Char) : Moves (eat c) := by unfold eat; infer_instance

instance (c : Cursor) : Moves (textFrom c) := by unfold textFrom; infer_instance

end

/-! ### Space and comments -/

instance : Moves skipSpace := moves_modify fun r => ⟨r.cursor.leads_advanceBy _, rfl, id⟩

instance (c : Comment) (forNext : Bool) : Moves (keep c forNext) := by
  refine moves_modify fun r => ?_
  cases forNext <;> exact ⟨.refl _, rfl, id⟩

instance (marks : Nat) : Moves (lineComment marks) := by
  refine ⟨fun r => ?_⟩
  have h :
      Onward r { r with cursor := (r.cursor.advanceBy marks).skipWhile fun c => !isLineEnd c } :=
    ⟨(r.cursor.leads_advanceBy marks).trans (Cursor.leads_advanceBy _ _), rfl, id⟩
  exact h.trans (Moves.onward (m := keep _ _) _)

instance : Moves blockComment := by
  refine .andThen fun _ => .getThen fun r => ?_
  cases h : untilBlockEnd r.cursor.rest with
  | none =>
    exact onward_bind (m := modify _) ⟨r.cursor.leads_advanceBy _, rfl, id⟩ inferInstance
  | some text =>
    exact onward_bind (m := set _) ⟨r.cursor.leads_advanceBy _, rfl, id⟩ inferInstance

theorem moves_skipBlanks (fuel : Nat) : Moves (skipBlanks fuel) := by
  induction fuel with
  | zero => exact inferInstanceAs (Moves (pure ()))
  | succ fuel ih =>
    unfold skipBlanks
    refine .andThen fun _ => .andThen fun r => ?_
    split <;> infer_instance

instance (fuel : Nat) : Moves (skipBlanks fuel) := moves_skipBlanks fuel

/-! ### Words -/

theorem moves_digitRun (radix limit start fuel : Nat) (taken : List Char) :
    Moves (digitRun radix limit start fuel taken) := by
  induction fuel generalizing taken with
  | zero => exact inferInstanceAs (Moves (pure _))
  | succ fuel ih =>
    unfold digitRun
    refine .andThen fun c? => ?_
    split <;> infer_instance

instance (radix limit : Nat) : Moves (digits radix limit) :=
  .andThen fun start => .andThen fun fuel => moves_digitRun radix limit start fuel []

instance : Moves unicodeEscape := by unfold unicodeEscape; infer_instance

theorem moves_wordRun (fuel : Nat) (taken : List Char) (escaped : Bool) :
    Moves (wordRun fuel taken escaped) := by
  induction fuel generalizing taken escaped with
  | zero => exact inferInstanceAs (Moves (pure _))
  | succ fuel ih =>
    unfold wordRun
    refine .andThen fun c? => ?_
    split
    · infer_instance
    · refine .ite inferInstance (.ite ?_ inferInstance)
      refine .andThen fun start => .andThen fun _ => .andThen
        fun isEscape => .ite (.andThen fun _ => ?_) ?_
      all_goals
        refine .andThen fun chars => ?_
        dsimp only
        split <;> infer_instance

instance (fuel : Nat) (taken : List Char) (escaped : Bool) : Moves (wordRun fuel taken escaped) :=
  moves_wordRun fuel taken escaped

instance (isReserved : Word → Bool) : Moves (word isReserved) := by unfold word; infer_instance

/-! ### Literals -/

instance : Moves noIdent := by
  refine .andThen fun c? => ?_
  split <;> infer_instance

instance (radix : Nat) : Moves (someDigits radix) := by unfold someDigits; infer_instance

instance (radix : Nat) : Moves (radixNumber radix) := by unfold radixNumber; infer_instance

instance (start : Cursor) : Moves (numberEnd start) := by
  unfold numberEnd
  refine .andThen fun _ => .ite (.andThen fun _ => ?_) ?_
  all_goals
    refine .andThen fun _ => .andThen
      fun _ => .ite (.andThen fun _ => .andThen fun c? => ?_) inferInstance
    cases c? <;> infer_instance

instance : Moves decimalNumber := by unfold decimalNumber; infer_instance

theorem moves_octalRun (count value : Nat) : Moves (octalRun count value) := by
  induction count generalizing value with
  | zero => exact inferInstanceAs (Moves (pure _))
  | succ count ih =>
    unfold octalRun
    refine .andThen fun c? => ?_
    split <;> infer_instance

instance (count value : Nat) : Moves (octalRun count value) := moves_octalRun count value

/-- A step whose failure is turned into a result moves as it did. -/
theorem moves_of_reached_eq {m : Read α} [hm : Moves m] {k : Read β}
    (h : ∀ r, reached (k r) = reached (m r)) :
    Moves k := ⟨fun r => h r ▸ hm.onward r⟩

instance {m : Read α} [Moves m] : Moves (escape.observing m) := by
  refine moves_of_reached_eq (m := m) fun r => ?_
  unfold escape.observing
  cases m r <;> rfl

instance (inTemplate : Bool) : Moves (escape inTemplate) := by
  unfold escape
  refine .andThen fun start => .andThen fun _ => .andThen fun c? => ?_
  cases c? with
  | none => infer_instance
  | some c =>
    iterate 9 refine .ite inferInstance ?_
    refine .ite (.andThen fun _ => .andThen fun outcome => ?_) ?_
    · cases outcome <;> infer_instance
    · split <;> infer_instance

theorem moves_stringRun (quote : Char) (start fuel : Nat) (taken : List Char) :
    Moves (stringRun quote start fuel taken) := by
  induction fuel generalizing taken with
  | zero => exact inferInstanceAs (Moves (pure _))
  | succ fuel ih =>
    unfold stringRun
    refine .andThen fun c? => ?_
    cases c? <;> infer_instance

instance (quote : Char) (start fuel : Nat) (taken : List Char) :
    Moves (stringRun quote start fuel taken) :=
  moves_stringRun quote start fuel taken

instance (quote : Char) : Moves (string quote) := by unfold string; infer_instance

theorem moves_templateRun (start fuel : Nat) (bad : Option Fault) :
    Moves (templateRun start fuel bad) := by
  induction fuel generalizing bad with
  | zero => exact inferInstanceAs (Moves (pure _))
  | succ fuel ih =>
    unfold templateRun
    refine .andThen fun r => ?_
    split
    · infer_instance
    · infer_instance
    · infer_instance
    · refine .ite ?_ ?_
      · refine @Moves.andThen _ _ _ _ (moves_of_reached_eq (m := escape true) fun r => ?_) ih
        cases escape true r <;> rfl
      · have : Moves (modify fun r => { r with lineBefore := true } : Read Unit) :=
          moves_modify fun r => ⟨.refl _, rfl, id⟩
        infer_instance

instance (start fuel : Nat) (bad : Option Fault) : Moves (templateRun start fuel bad) :=
  moves_templateRun start fuel bad

instance : Moves templateToken := by
  unfold templateToken
  refine .andThen fun r => ?_
  dsimp only
  split <;> infer_instance

theorem moves_regexRun (start fuel : Nat) (escaped inClass : Bool) :
    Moves (regexRun start fuel escaped inClass) := by
  induction fuel generalizing escaped inClass with
  | zero => exact inferInstanceAs (Moves (pure _))
  | succ fuel ih =>
    unfold regexRun
    refine .andThen fun c? => ?_
    cases c? <;> infer_instance

instance (start fuel : Nat) (escaped inClass : Bool) :
    Moves (regexRun start fuel escaped inClass) :=
  moves_regexRun start fuel escaped inClass

instance : Moves regex := by
  unfold regex
  refine .andThen fun _ => .andThen fun _ => .andThen fun _ => .andThen fun _ => .andThen
      fun _ => .andThen fun _ =>
    .andThen fun _ => .andThen fun c? => ?_
  cases c? <;> infer_instance

/-! ### Tokens -/

theorem moves_token (isReserved : Word → Bool) (fuel : Nat) : Moves (token isReserved fuel) := by
  induction fuel with
  | zero => exact inferInstanceAs (Moves (pure _))
  | succ fuel ih =>
    unfold token
    refine .andThen fun r => ?_
    split
    · infer_instance
    · refine .ite inferInstance (.ite ?_ ?_)
      · split <;> infer_instance
      · iterate 4 refine .ite inferInstance ?_
        split <;> infer_instance

instance (isReserved : Word → Bool) (fuel : Nat) : Moves (token isReserved fuel) :=
  moves_token isReserved fuel

end Reader

end Script

end Playground
