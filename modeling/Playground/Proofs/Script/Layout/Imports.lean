import Playground.Proofs.Script.Layout.Module

/-! Imports in print. Where no comment is kept for any place of an import, it takes one line of its
own, and the line is known from the tree. So if imports come first, a module is printed as their
lines and then the rest. -/

namespace Playground.Script

/-! ### Writing without comments -/

/-- No comment is kept for the place. -/
def Comments.Free (cs : Comments) (place : Nat) : Prop :=
  (∀ kept ∈ cs.leading, kept.1 ≠ place) ∧ ∀ kept ∈ cs.trailing, kept.1 ≠ place

instance (cs : Comments) (place : Nat) : Decidable (cs.Free place) :=
  inferInstanceAs (Decidable (_ ∧ _))

theorem commentsAt_of_forall_ne {place : Nat} {kept : List (Nat × Comment)}
    (h : ∀ k ∈ kept, k.1 ≠ place) :
    commentsAt place kept = ([], kept) := by
  have hnone : kept.filter (·.1 == place) = [] := by simpa using h
  have hall : kept.filter (·.1 != place) = kept := by simpa using h
  rw [commentsAt, hnone, hall, List.map_nil]

namespace Write

/-- While these comments wait, the step writes the text on the line it is on. -/
structure Puts (cs : Comments) (text : List Char) (p q : Page) : Prop where
  adds : p.Adds text q
  comments : q.comments = cs
  start : q.atLineStart = (p.atLineStart && text.isEmpty)

/-- Wherever these comments wait and there is no indent, the step writes the text. -/
def Writes (cs : Comments) (w : Write Unit) (text : List Char) : Prop :=
  ∀ p : Page, p.comments = cs → p.indent = 0 → Puts cs text p (w p).2

variable {cs : Comments}

/-- A step that leaves the page as it is writes nothing. -/
theorem writes_nothing {w : Write Unit}
    (h : ∀ p : Page, p.comments = cs → w p = ((), p)) : Writes cs w [] := by
  intro p hc _
  rw [h p hc]
  exact ⟨.refl p, hc, by simp⟩

theorem Writes.andThen {w v : Write Unit} {xs ys : List Char} (hw : Writes cs w xs)
    (hv : Writes cs v ys) :
    Writes cs (w >>= fun _ => v) (xs ++ ys) := by
  intro p hc hi
  have h := hw p hc hi
  have h' := hv (w p).2 h.comments (h.adds.indent.trans hi)
  refine ⟨h.adds.trans h'.adds, h'.comments, ?_⟩
  change (v (w p).2).2.atLineStart = _
  rw [h'.start, h.start, Bool.and_assoc]
  cases xs <;> simp

theorem Writes.andThen_assoc {u w v : Write Unit} {xs ys : List Char}
    (hw : Writes cs (u >>= fun _ => w) xs) (hv : Writes cs v ys) :
    Writes cs (u >>= fun _ => w >>= fun _ => v) (xs ++ ys) := by
  have := hw.andThen hv
  rwa [bind_assoc] at this

theorem writes_put (s : String) : Writes cs (put s) s.toList := by
  intro p hc hi
  have hadds := put_adds s p
  have hput : (put s p).2 = if s.isEmpty then p else if p.atLineStart then
      { p with pieces := s :: String.ofList (List.replicate (4 * p.indent) ' ')
        :: p.pieces, atLineStart := false }
    else { p with pieces := s :: p.pieces } := rfl
  by_cases hs : s.toList = []
  · have hempty : s.isEmpty = true := by simpa using hs
    simp only [hempty, ↓reduceIte] at hadds hput
    rw [hs]
    exact ⟨hadds, by rw [hput, hc], by simp [hput]⟩
  · have hempty : s.isEmpty = false := by simpa using hs
    simp only [hempty, hi, Nat.mul_zero, List.replicate_zero, List.nil_append, ite_self,
      Bool.false_eq_true, ↓reduceIte] at hadds hput
    refine ⟨hadds, ?_, ?_⟩
    · rw [hput]
      split <;> exact hc
    · rw [hput]
      split <;> simp_all

theorem writes_space : Writes cs space [' '] := writes_put " "

theorem leading_of_free {place : Nat} {p : Page} (h : p.comments.Free place) :
    leading place p = ((), p) := by
  change (commentsAt place p.comments.leading).1.forM comment
    { p with comments.leading := (commentsAt place p.comments.leading).2 } = ((), p)
  rw [commentsAt_of_forall_ne h.1]
  rfl

theorem writes_leading {place : Nat} (h : cs.Free place) : Writes cs (leading place) [] :=
  writes_nothing fun _ hc => leading_of_free (hc ▸ h)

theorem takeTrailing_of_free {place : Nat} {p : Page} (h : p.comments.Free place) :
    takeTrailing place p = ([], p) := by
  change ((commentsAt place p.comments.trailing).1,
    { p with comments.trailing := (commentsAt place p.comments.trailing).2 }) = ([], p)
  rw [commentsAt_of_forall_ne h.2]

theorem writes_trailing {place : Nat} (h : cs.Free place) : Writes cs (trailing place) [] := by
  refine writes_nothing fun p hc => ?_
  subst hc
  change ((takeTrailing place p).1.forM fun c => do
    space
    comment c : Write Unit) (takeTrailing place p).2 = ((), p)
  rw [takeTrailing_of_free h]
  rfl

theorem writes_afterChild {c : Child} (h : cs.Free c.stop) (listStop : Nat) :
    Writes cs (afterChild listStop c) [] := by
  refine writes_nothing fun p hc => ?_
  subst hc
  unfold afterChild
  split
  · change ((takeTrailing c.stop p).1.forM comment : Write Unit) (takeTrailing c.stop p).2 = ((), p)
    rw [takeTrailing_of_free h]
    rfl
  · rfl

end Write

/-! ### Specifiers -/

open Write

def ExternalName.text : ExternalName → List Char
  | .name id => id.name.toList
  | .string lit => lit.raw.toList

/-- The specifier in print. -/
def ImportSpecifier.text : ImportSpecifier → List Char
  | .default id => id.name.toList
  | .star _ id => "* as ".toList ++ id.name.toList
  | .named _ none id => id.name.toList
  | .named _ (some imported) id => imported.text ++ " as ".toList ++ id.name.toList

/-- Where writing a specifier looks for comments. -/
def ImportSpecifier.places : ImportSpecifier → List Nat
  | .default id => [id.span.start, id.span.stop]
  | .star span id => [span.start, id.span.start, span.stop]
  | .named span none id => [span.start, id.span.start, span.stop]
  | .named span (some (.name ext)) id => [span.start, ext.span.start, id.span.start, span.stop]
  | .named span (some (.string lit)) id => [span.start, lit.span.start, id.span.start, span.stop]

def ImportSpecifier.isNamed : ImportSpecifier → Bool
  | .named .. => true
  | _ => false

def ImportSpecifier.child : ImportSpecifier → Child
  | .default id => ⟨id.span.stop, (ImportSpecifier.default id).write⟩
  | .star span id => ⟨span.stop, (ImportSpecifier.star span id).write⟩
  | .named span imported id => ⟨span.stop, (ImportSpecifier.named span imported id).write⟩

theorem namedImports_eq (ss : List ImportSpecifier) :
    namedImports ss = (ss.filter (·.isNamed)).map ImportSpecifier.child := by
  induction ss with
  | nil => rfl
  | cons s ss ih =>
    cases s <;> simpa [namedImports, ImportSpecifier.isNamed, ImportSpecifier.child] using ih

theorem otherImports_eq (ss : List ImportSpecifier) :
    otherImports ss = (ss.filter (!·.isNamed)).map ImportSpecifier.child := by
  induction ss with
  | nil => rfl
  | cons s ss ih =>
    cases s <;> simpa [otherImports, ImportSpecifier.isNamed, ImportSpecifier.child] using ih

variable {cs : Comments}

theorem writes_ident {id : Ident} (h : cs.Free id.span.start) : Writes cs id.write id.name.toList :=
  (writes_leading h).andThen (writes_put id.name)

theorem writes_lit {lit : StringLit} (h : cs.Free lit.span.start) :
    Writes cs lit.write lit.raw.toList :=
  (writes_leading h).andThen (writes_put lit.raw)

theorem ImportSpecifier.free_stop {s : ImportSpecifier} (h : ∀ place ∈ s.places, cs.Free place) :
    cs.Free s.child.stop := by
  refine h _ ?_
  cases s with
  | default | star => simp [child, places]
  | named span imported id =>
    cases imported with
    | none => simp [child, places]
    | some name => cases name <;> simp [child, places]

theorem writes_specifier {s : ImportSpecifier} (h : ∀ place ∈ s.places, cs.Free place) :
    Writes cs s.child.write s.text := by
  cases s with
  | default id => exact writes_ident (h _ (by simp [ImportSpecifier.places]))
  | star span id =>
    exact (writes_leading (h _ (by simp [ImportSpecifier.places]))).andThen
      ((writes_put "* as ").andThen (writes_ident (h _ (by simp [ImportSpecifier.places]))))
  | named span imported id =>
    cases imported with
    | none =>
      exact (writes_leading (h _ (by simp [ImportSpecifier.places]))).andThen
        (writes_ident (h _ (by simp [ImportSpecifier.places])))
    | some name =>
      have hname : Writes cs name.write name.text := by
        cases name with
        | name ext => exact writes_ident (h _ (by simp [ImportSpecifier.places]))
        | string lit => exact writes_lit (h _ (by simp [ImportSpecifier.places]))
      have hplaces : cs.Free span.start ∧ cs.Free id.span.start := by
        cases name <;>
          exact ⟨h _ (by simp [ImportSpecifier.places]), h _ (by simp [ImportSpecifier.places])⟩
      have := (writes_leading hplaces.1).andThen (hname.andThen
        ((writes_put " as ").andThen (writes_ident hplaces.2)))
      simpa [ImportSpecifier.text, ImportSpecifier.child, ImportSpecifier.write] using this

theorem intercalate_cons (sep x : List Char) (xs : List (List Char)) :
    sep.intercalate (x :: xs) = x ++ xs.flatMap (sep ++ ·) := by
  induction xs generalizing x with
  | nil => simp
  | cons y xs ih =>
    rw [List.intercalate_cons_cons, ih, List.flatMap_cons, List.append_assoc, List.append_assoc]

section

variable {ss : List ImportSpecifier} (h : ∀ s ∈ ss, ∀ place ∈ s.places, cs.Free place)

include h

theorem writes_separated (listStop : Nat) :
    Writes cs (separated listStop space (ss.map ImportSpecifier.child))
      (", ".toList.intercalate (ss.map ImportSpecifier.text)) := by
  induction ss with
  | nil => exact writes_nothing fun _ _ => rfl
  | cons s ss ih =>
    obtain ⟨hs, hss⟩ := List.forall_mem_cons.mp h
    have hfirst :=
      (writes_specifier hs).andThen (writes_afterChild (ImportSpecifier.free_stop hs) listStop)
    cases ss with
    | nil => simpa [separated] using hfirst
    | cons s' ss =>
      have := hfirst.andThen ((writes_put ",").andThen (writes_space.andThen (ih hss)))
      simpa [separated, List.intercalate_cons_cons] using this

/-- A first member, and the others behind commas. -/
theorem writes_behind :
    Writes cs (do
      (ss.map ImportSpecifier.child).head?.forM (·.write)
      (ss.map ImportSpecifier.child).tail.forM fun c => do
        put ", "
        c.write) (", ".toList.intercalate (ss.map ImportSpecifier.text)) := by
  cases ss with
  | nil => exact writes_nothing fun _ _ => rfl
  | cons s ss =>
    obtain ⟨hs, hss⟩ := List.forall_mem_cons.mp h
    have hothers : Writes cs ((ss.map ImportSpecifier.child).forM fun c => do
        put ", "
        c.write) (ss.flatMap (", ".toList ++ ImportSpecifier.text ·)) := by
      clear h hs
      induction ss with
      | nil => exact writes_nothing fun _ _ => rfl
      | cons s' ss ih =>
        obtain ⟨hs', hss⟩ := List.forall_mem_cons.mp hss
        exact ((writes_put ", ").andThen (writes_specifier hs')).andThen (ih hss)
    have htext : ", ".toList.intercalate ((s :: ss).map ImportSpecifier.text) =
        s.text ++ ss.flatMap (", ".toList ++ ImportSpecifier.text ·) := by
      rw [List.map_cons, intercalate_cons, List.flatMap_map]
    rw [htext]
    exact (writes_specifier hs).andThen hothers

end

/-- What stands between the word and the module. -/
def importClause (ss : List ImportSpecifier) : List Char :=
  let named := ss.filter (·.isNamed)
  let others := ss.filter (!·.isNamed)
  ", ".toList.intercalate (others.map ImportSpecifier.text)
    ++ (if named.isEmpty then [] else
      (if others.isEmpty then [] else ", ".toList)
        ++ ("\x7b ".toList ++ ", ".toList.intercalate (named.map ImportSpecifier.text)
          ++ " \x7d".toList))
    ++ (if ss.isEmpty then [] else " from ".toList)

theorem writes_writeImports {ss : List ImportSpecifier}
    (h : ∀ s ∈ ss, ∀ place ∈ s.places, cs.Free place) (stop : Nat) :
    Writes cs (writeImports stop ss) (importClause ss) := by
  have hnamed :
      Writes cs
        (separated stop Write.space ((ss.filter (·.isNamed)).map ImportSpecifier.child)) _ :=
    writes_separated (fun s hs => h s (List.mem_filter.mp hs).1) stop
  have hothers : Writes cs (do
      ((ss.filter (!·.isNamed)).map ImportSpecifier.child).head?.forM (·.write)
      ((ss.filter (!·.isNamed)).map ImportSpecifier.child).tail.forM fun c => do
        put ", "
        c.write) _ := writes_behind fun s hs => h s (List.mem_filter.mp hs).1
  have hfrom : Writes cs (if (!ss.isEmpty) = true then put " from " else pure ())
      (if ss.isEmpty then [] else " from ".toList) := by
    cases ss with
    | nil => exact writes_nothing fun _ _ => rfl
    | cons => exact writes_put " from "
  have hbraces := (writes_put "\x7b ").andThen (hnamed.andThen ((writes_put " \x7d").andThen hfrom))
  unfold writeImports
  rw [namedImports_eq, otherImports_eq]
  delta importClause
  dsimp only
  generalize ss.filter (·.isNamed) = named at *
  generalize ss.filter (!·.isNamed) = others at *
  rw [List.append_assoc]
  refine hothers.andThen_assoc ?_
  cases named with
  | nil => exact hfrom
  | cons s named =>
    cases others with
    | nil => simpa [onOneLine] using hbraces
    | cons s' others => simpa [onOneLine] using (writes_put ", ").andThen hbraces

/-! ### Imports -/

/-- An import in print; other items are not told. -/
def ModuleItem.importLine : ModuleItem → List Char
  | .importFrom _ phase ss lit =>
    "import ".toList ++
    (phase.name?.elim [] (·.toList ++ [' ']) ++ (importClause ss ++ (lit.raw.toList ++ [';'])))
  | _ => []

/-- Where writing an import looks for comments. -/
def ModuleItem.importPlaces : ModuleItem → List Nat
  | .importFrom span _ ss lit =>
    span.start :: span.stop :: lit.span.start :: ss.flatMap ImportSpecifier.places
  | _ => []

theorem writes_importFrom {span : Span} {phase : ImportPhase} {ss : List ImportSpecifier}
    {lit : StringLit} (h : ∀ place ∈ (ModuleItem.importFrom span phase ss lit).importPlaces,
      cs.Free place) :
    Writes cs (ModuleItem.importFrom span phase ss lit).writeOwn
      (ModuleItem.importFrom span phase ss lit).importLine := by
  have hss : ∀ s ∈ ss, ∀ place ∈ s.places, cs.Free place := by
    intro s hs place hplace
    refine h place ?_
    simp only [ModuleItem.importPlaces, List.mem_cons, List.mem_flatMap]
    exact .inr (.inr (.inr ⟨s, hs, hplace⟩))
  have hlit : cs.Free lit.span.start := h _ (by simp [ModuleItem.importPlaces])
  have hrest :=
    (writes_writeImports hss span.stop).andThen ((writes_lit hlit).andThen (writes_put ";"))
  unfold ModuleItem.writeOwn
  cases phase with
  | evaluation => exact (writes_put "import ").andThen hrest
  | source =>
    exact (writes_put "import ").andThen
      (((writes_put "source").andThen writes_space).andThen_assoc hrest)
  | defer =>
    exact (writes_put "import ").andThen
      (((writes_put "defer").andThen writes_space).andThen_assoc hrest)

def ModuleItem.isImport : ModuleItem → Bool
  | .importFrom .. => true
  | _ => false

/-- An import is written as its line, with the end of it. -/
theorem adds_import {item : ModuleItem} (himport : item.isImport = true) {p : Page}
    (h : ∀ place ∈ item.importPlaces, p.comments.Free place) (hi : p.indent = 0) :
    p.Adds (item.importLine ++ ['\n']) (item.write p).2 ∧
      (item.write p).2.comments = p.comments := by
  cases item with
  | importFrom span phase ss lit =>
    have hstart : p.comments.Free span.start := h _ (by simp [ModuleItem.importPlaces])
    have hstop : p.comments.Free span.stop := h _ (by simp [ModuleItem.importPlaces])
    have hframed :=
      ((writes_leading hstart).andThen ((writes_importFrom h).andThen (writes_trailing hstop)))
        p rfl hi
    rw [List.nil_append, List.append_nil] at hframed
    generalize hq : ((do
      leading span.start
      (ModuleItem.importFrom span phase ss lit).writeOwn
      trailing span.stop : Write Unit) p).2 = q at hframed
    have hwrite : ((ModuleItem.importFrom span phase ss lit).write p).2 = (newline q).2 := hq ▸ rfl
    have hline : q.atLineStart = false := by
      rw [hframed.start, Bool.and_eq_false_iff]
      exact .inr rfl
    have hadds := newline_adds q
    have hnewline : (newline q).2 = { q with pieces := "\n" :: q.pieces, atLineStart := true } := by
      change (if q.atLineStart then q else _) = _
      rw [hline]
      rfl
    rw [hline] at hadds
    rw [hwrite]
    exact ⟨hframed.adds.trans hadds, by rw [hnewline, ← hframed.comments]⟩
  | _ => cases himport

theorem adds_imports {items : List ModuleItem} {p : Page}
    (h : ∀ item ∈ items, item.isImport = true ∧ ∀ place ∈ item.importPlaces, p.comments.Free place)
    (hi : p.indent = 0) :
    p.Adds (items.flatMap fun item => item.importLine ++ ['\n'])
        ((items.forM ModuleItem.write) p).2 ∧
      ((items.forM ModuleItem.write) p).2.comments = p.comments := by
  induction items generalizing p with
  | nil => exact ⟨.refl p, rfl⟩
  | cons item items ih =>
    obtain ⟨⟨himport, hfree⟩, hitems⟩ := List.forall_mem_cons.mp h
    obtain ⟨hadds, hcomments⟩ := adds_import himport hfree hi
    obtain ⟨hadds', hcomments'⟩ :=
      ih (p := (item.write p).2) (hcomments ▸ hitems) (hadds.indent.trans hi)
    exact ⟨hadds.trans hadds', hcomments'.trans hcomments⟩

/-- If the first items are imports and no comment is kept for any of their places, nor for the start
of the module, they are printed on lines of their own, before everything else. -/
theorem Source.print_imports {s : Source} {k : Nat} (hshebang : s.module.shebang = none)
    (hstart : s.comments.Free s.module.span.start)
    (h : ∀ item ∈ s.module.items.take k, item.isImport = true ∧
      ∀ place ∈ item.importPlaces, s.comments.Free place) :
    s.print.toList =
      ((s.module.items.take k).flatMap fun item => item.importLine ++ ['\n']) ++ s.textFrom k := by
  cases k with
  | zero => rfl
  | succ k =>
    have hhead : (s.module.writeHead { comments := s.comments }).2 =
        { comments := s.comments } := by
      unfold Module.writeHead
      rw [hshebang]
      change (leading s.module.span.start { comments := s.comments }).2 = _
      rw [leading_of_free (p := { comments := s.comments }) hstart]
    have hpage : (s.pageAfter (k + 1)).text.toList =
        (s.module.items.take (k + 1)).flatMap fun item => item.importLine ++ ['\n'] := by
      change ((((s.module.items.take (k + 1)).forM ModuleItem.write : Write Unit)
        (s.module.writeHead { comments := s.comments }).2).2).text.toList = _
      rw [hhead, (adds_imports (p := { comments := s.comments }) h rfl).1.text]
      rfl
    obtain ⟨added, hadds⟩ := (inferInstance : Tame (do
      (s.module.items.drop (k + 1)).forM ModuleItem.write
      trailing s.module.span.stop : Write Unit)).adds (s.pageAfter (k + 1))
    have hprint : s.print.toList = (s.pageAfter (k + 1)).text.toList ++ added := by
      rw [s.print_eq (k + 1), hadds.text]
    rw [Source.textFrom, ← hpage, hprint, List.drop_left]

end Playground.Script
