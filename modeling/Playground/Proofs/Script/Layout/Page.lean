import Playground.Proofs.Script.Token
import Playground.Script.Layout.Page

/-! Writing only adds. `Tame` says so of a step: what was on the page stays in front of what the
step writes, and the indent is what it was. `Opens` says in addition that what is written without
indent begins with a character that can be seen. -/

namespace Playground.Script

/-- `q` is `p` with `added` written behind what was there. -/
structure Page.Adds (p : Page) (added : List Char) (q : Page) : Prop where
  text : q.text.toList = p.text.toList ++ added
  indent : q.indent = p.indent

namespace Page.Adds

theorem refl (p : Page) : p.Adds [] p := ⟨by simp, rfl⟩

theorem trans {p q r : Page} {xs ys : List Char} (h : p.Adds xs q) (k : q.Adds ys r) :
    p.Adds (xs ++ ys) r :=
  ⟨by rw [k.text, h.text, List.append_assoc], k.indent.trans h.indent⟩

end Page.Adds

namespace Write

/-- Whatever the page, the step adds to it. -/
class Tame (w : Write α) : Prop where
  adds : ∀ p : Page, ∃ added, p.Adds added (w p).2

theorem Tame.andThen {w : Write α} {f : α → Write β} [hw : Tame w]
    (hf : ∀ a, Tame (f a)) : Tame (w >>= f) := by
  refine ⟨fun p => ?_⟩
  obtain ⟨xs, hxs⟩ := hw.adds p
  obtain ⟨ys, hys⟩ := (hf (w p).1).adds (w p).2
  exact ⟨xs ++ ys, hxs.trans hys⟩

theorem Tame.ite {c : Prop} [Decidable c] {w v : Write α} (hw : Tame w) (hv : Tame v) :
    Tame (if c then w else v) := by
  split
  · exact hw
  · exact hv

instance (a : α) : Tame (pure a : Write α) := ⟨fun p => ⟨[], .refl p⟩⟩

instance : Tame (get : Write Page) := ⟨fun p => ⟨[], .refl p⟩⟩

instance {w : Write α} {f : α → Write β} [Tame w] [hf : ∀ a, Tame (f a)] : Tame (w >>= f) :=
  .andThen hf

instance {c : Prop} [Decidable c] {w v : Write α} [hw : Tame w] [hv : Tame v] :
    Tame (if c then w else v) := .ite hw hv

/-- A text goes behind the indent if it is the first one of its line. -/
theorem put_adds (s : String) (p : Page) :
    p.Adds (if s.isEmpty then [] else if p.atLineStart then List.replicate (4 * p.indent) ' ' ++
      s.toList else s.toList) (put s p).2 := by
  change p.Adds _ (if s.isEmpty then p else if p.atLineStart then _ else _)
  split
  · exact .refl p
  split
  · exact ⟨by simp [Page.text, String.toList_join], rfl⟩
  · exact ⟨by simp [Page.text, String.toList_join], rfl⟩

theorem newline_adds (p : Page) : p.Adds (if p.atLineStart then [] else ['\n']) (newline p).2 := by
  change p.Adds _ (if p.atLineStart then p else _)
  split
  · exact .refl p
  · exact ⟨by simp [Page.text, String.toList_join], rfl⟩

instance (s : String) : Tame (put s) := ⟨fun p => ⟨_, put_adds s p⟩⟩

instance : Tame space := inferInstanceAs (Tame (put " "))

instance : Tame newline := ⟨fun p => ⟨_, newline_adds p⟩⟩

instance {w : Write Unit} [hw : Tame w] : Tame (indented w) := by
  refine ⟨fun p => ?_⟩
  obtain ⟨added, hadded⟩ := hw.adds { p with indent := p.indent + 1 }
  refine ⟨added, hadded.text, ?_⟩
  change (w { p with indent := p.indent + 1 }).2.indent - 1 = p.indent
  rw [hadded.indent]
  rfl

theorem tame_forM {f : α → Write Unit} {as : List α}
    (h : ∀ a ∈ as, Tame (f a)) : Tame (as.forM f) := by
  induction as with
  | nil => exact inferInstanceAs (Tame (pure ()))
  | cons a as ih =>
    have := h a List.mem_cons_self
    have := ih fun b hb => h b (List.mem_cons_of_mem a hb)
    exact inferInstanceAs (Tame (f a >>= fun _ => as.forM f))

instance {f : α → Write Unit} [hf : ∀ a, Tame (f a)] (as : List α) : Tame (as.forM f) :=
  tame_forM fun a _ => hf a

/-! ### Comments -/

instance (c : Comment) : Tame (comment c) := by unfold comment; infer_instance

instance (position : Nat) : Tame (leading position) := by
  refine ⟨fun p => ?_⟩
  let found := commentsAt position p.comments.leading
  obtain ⟨added, hadded⟩ :=
    (inferInstance : Tame (found.1.forM comment)).adds { p with comments.leading := found.2 }
  exact ⟨added, hadded.text, hadded.indent⟩

instance (position : Nat) : Tame (takeTrailing position) :=
  ⟨fun p => ⟨[], (Page.Adds.refl p).text, rfl⟩⟩

instance (position : Nat) : Tame (trailing position) := by unfold trailing; infer_instance

/-! ### Lists -/

/-- Every member of the list adds to the page. -/
class AllTame (cs : List Child) : Prop where
  tame : ∀ c ∈ cs, Tame c.write

instance : AllTame [] := ⟨by simp⟩

instance {c : Child} {cs : List Child} [hc : Tame c.write] [hcs : AllTame cs] : AllTame (c :: cs) :=
  ⟨List.forall_mem_cons.mpr ⟨hc, hcs.tame⟩⟩

instance (listStop : Nat) (c : Child) : Tame (afterChild listStop c) := by
  unfold afterChild; infer_instance

instance (listStop : Nat) {gap : Write Unit} [Tame gap] {cs : List Child} [hcs : AllTame cs] :
    Tame (separated listStop gap cs) := by
  obtain ⟨hcs⟩ := hcs
  fun_induction separated listStop gap cs with
  | case1 => infer_instance
  | case2 c =>
    have := hcs c List.mem_cons_self
    infer_instance
  | case3 c cs _ ih =>
    have := hcs c List.mem_cons_self
    have := ih fun d hd => hcs d (List.mem_cons_of_mem c hd)
    infer_instance

instance (listStop : Nat) {cs : List Child} [AllTame cs] : Tame (onOneLine listStop cs) :=
  inferInstanceAs (Tame (separated listStop space cs))

instance (listStop : Nat) {cs : List Child} [AllTame cs] : Tame (onLines listStop cs) := by
  unfold onLines; infer_instance

/-- Something is written before each member. -/
theorem tame_members {before : Write Unit} [Tame before] {cs : List Child} [hcs : AllTame cs] :
    Tame (cs.forM fun c => do
      before
      c.write) := by
  refine tame_forM fun c hc => ?_
  have := hcs.tame c hc
  infer_instance

instance {cs : List Child} [AllTame cs] : Tame (stacked cs) := by
  have : Tame (cs.forM fun c => do
      newline
      c.write) := tame_members
  unfold stacked; infer_instance

/-! ### What a step writes first -/

/-- Nothing, or a text that begins with a character that can be seen, behind one space at most. -/
def Started (cs : List Char) : Prop :=
  cs = [] ∨ Visible cs ∨ ∃ rest, cs = ' ' :: rest ∧ Visible rest

/-- Without indent, what the step writes starts as it should. -/
class Starts (w : Write α) : Prop where
  starts : ∀ p : Page, p.indent = 0 → ∃ added, p.Adds added (w p).2 ∧ Started added

/-- Without indent, the step writes something that begins with a character that can be seen. -/
class Opens (w : Write α) : Prop where
  opens : ∀ p : Page, p.indent = 0 → ∃ added, p.Adds added (w p).2 ∧ Visible added

/-- Without indent, the step writes nothing or something that begins with a character that can be
seen. -/
class MayOpen (w : Write α) : Prop where
  opens : ∀ p : Page, p.indent = 0 → ∃ added, p.Adds added (w p).2 ∧ (added = [] ∨ Visible added)

instance {w : Write α} [hw : Opens w] : MayOpen w := by
  refine ⟨fun p hp => ?_⟩
  obtain ⟨added, hadded, hv⟩ := hw.opens p hp
  exact ⟨added, hadded, .inr hv⟩

instance {w : Write α} {f : α → Write β} [hw : Opens w]
    [hf : ∀ a, Tame (f a)] : Opens (w >>= f) := by
  refine ⟨fun p hp => ?_⟩
  obtain ⟨xs, hxs, hv⟩ := hw.opens p hp
  obtain ⟨ys, hys⟩ := (hf (w p).1).adds (w p).2
  exact ⟨xs ++ ys, hxs.trans hys, hv.append ys⟩

instance {w : Write α} {f : α → Write β} [hw : MayOpen w]
    [hf : ∀ a, Opens (f a)] : Opens (w >>= f) := by
  refine ⟨fun p hp => ?_⟩
  obtain ⟨xs, hxs, hv⟩ := hw.opens p hp
  obtain ⟨ys, hys, hv'⟩ := (hf (w p).1).opens (w p).2 (hxs.indent.trans hp)
  refine ⟨xs ++ ys, hxs.trans hys, ?_⟩
  rcases hv with rfl | hv
  · exact hv'
  · exact hv.append ys

instance {c : Prop} [Decidable c] {w v : Write α} [hw : Opens w] [hv : Opens v] :
    Opens (if c then w else v) := by
  split
  · exact hw
  · exact hv

instance {w : Write α} {f : α → Write β} [hw : MayOpen w]
    [hf : ∀ a, Starts (f a)] : Starts (w >>= f) := by
  refine ⟨fun p hp => ?_⟩
  obtain ⟨xs, hxs, hv⟩ := hw.opens p hp
  obtain ⟨ys, hys, hs⟩ := (hf (w p).1).starts (w p).2 (hxs.indent.trans hp)
  refine ⟨xs ++ ys, hxs.trans hys, ?_⟩
  rcases hv with rfl | hv
  · exact hs
  · exact .inr (.inl (hv.append ys))

theorem opens_put {s : String} (h : Visible s.toList) : Opens (put s) := by
  refine ⟨fun p hp => ⟨s.toList, ?_, h⟩⟩
  have hs : s.isEmpty = false := by
    obtain ⟨c, rest, hs, -⟩ := h
    simp [String.isEmpty_eq_false_iff, ← String.toList_eq_nil_iff, hs]
  simpa [hs, hp] using put_adds s p

instance (c : Comment) : Opens (comment c) := by
  have : Opens (put "//") := opens_put (by decide)
  have : Opens (put "/*") := opens_put (by decide)
  unfold comment; infer_instance

/-- Items that open write nothing only if there are none. -/
theorem mayOpen_forM {f : α → Write Unit} {as : List α} (hf : ∀ a, Tame (f a))
    (h : ∀ a ∈ as, Opens (f a)) :
    MayOpen (as.forM f) := by
  refine ⟨fun p hp => ?_⟩
  cases as with
  | nil => exact ⟨[], .refl p, .inl rfl⟩
  | cons a as =>
    have := h a List.mem_cons_self
    exact (inferInstance : MayOpen (f a >>= fun _ => as.forM f)).opens p hp

instance (position : Nat) : MayOpen (leading position) := by
  refine ⟨fun p hp => ?_⟩
  let found := commentsAt position p.comments.leading
  have : MayOpen (found.1.forM comment) := mayOpen_forM inferInstance fun _ _ => inferInstance
  obtain ⟨added, hadded, hv⟩ := this.opens { p with comments.leading := found.2 } hp
  exact ⟨added, ⟨hadded.text, hadded.indent⟩, hv⟩

/-- Comments after a node go behind a space. -/
instance (position : Nat) : Starts (trailing position) := by
  refine ⟨fun p hp => ?_⟩
  let found := commentsAt position p.comments.trailing
  let q : Page := { p with comments.trailing := found.2 }
  have ⟨added, hadded, hs⟩ : ∃ added, q.Adds added ((found.1.forM fun c => do
      space
      comment c : Write Unit) q).2 ∧ Started added := by
    cases found.1 with
    | nil => exact ⟨[], .refl q, .inl rfl⟩
    | cons c cs =>
      have hspace : q.Adds [' '] (space q).2 := by
        have hput := put_adds " " q
        rw [show q.indent = 0 from hp] at hput
        change q.Adds [' '] (put " " q).2
        simpa using hput
      obtain ⟨xs, hxs, hv⟩ := (inferInstance : Opens (comment c >>= fun _ => cs.forM fun c => do
        space
        comment c)).opens (space q).2 (hspace.indent.trans hp)
      exact ⟨' ' :: xs, hspace.trans hxs, .inr (.inr ⟨xs, rfl, hv⟩)⟩
  exact ⟨added, ⟨hadded.text, hadded.indent⟩, hs⟩

end Write

end Playground.Script
