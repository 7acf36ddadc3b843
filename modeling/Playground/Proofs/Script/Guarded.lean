import Playground.Proofs.Script.LoopGuard
import Playground.Proofs.Script.Outline
import Playground.Proofs.Woven

/-! What guards make of a code. `Guarded` says it by cutting the code at its loops: each loop gets a
start time before it and a deadline as the first thing in its body, and all other text stays where
it was. The guards themselves are patches at byte offsets, and a loop's own are not given in the
order of the text; `guarded_woven` says that they come to the same for loops that stand one after
the other. -/

namespace Playground.Script

open Text Patch

/-- A loop with its body. -/
def ModuleItem.loop? : ModuleItem → Option (Stmt × Stmt)
  | .stmt s => s.loopBody?.map fun body => (s, body)
  | _ => none

/-- The items come one after the other, and the body of a loop lies inside the loop, behind its
start. -/
structure Module.InOrder (m : Module) : Prop where
  items : m.items.Pairwise fun a b => a.span.stop ≤ b.span.start
  bodies : ∀ item ∈ m.items, ∀ l ∈ item.loop?,
    l.1.span.start < l.2.span.start ∧ l.2.span.start < l.2.span.stop ∧ l.2.span.stop ≤ l.1.span.stop

instance (m : Module) : Decidable m.InOrder :=
  decidable_of_iff (m.items.Pairwise (fun a b => a.span.stop ≤ b.span.start) ∧
      ∀ item ∈ m.items, ∀ l ∈ item.loop?, l.1.span.start < l.2.span.start ∧
        l.2.span.start < l.2.span.stop ∧ l.2.span.stop ≤ l.1.span.stop)
    ⟨fun h => ⟨h.1, h.2⟩, fun h => ⟨h.items, h.bodies⟩⟩

namespace LoopGuard

/-! ### Guarded code -/

/-- The statement that ends the loop numbered `id` once it has run for longer than the timeout: it
compares the time since the loop's start, tells the page and leaves the loop. -/
def deadline (id timeout : Nat) : List Char :=
  ("\nif (Date.now() - _wmloopvar" ++ toString id ++ " > " ++ toString timeout ++ ") \x7b "
    ++ "window._handleInfiniteLoopException(new Error(\"Bucle infinito\")); break;\x7d\n").toList

/-- The text of a loop that begins at the offset `n`, with its deadline as the first thing in its
body. -/
inductive Checked (timeout id n : Nat) : (body : Stmt) → (text out : List Char) → Prop
  /-- A block gets the deadline behind its brace. -/
  | block {b : Block} {head inner : List Char} : n + byteSize head = b.span.start →
      Checked timeout id n (.block b) (head ++ '{' :: inner)
        (head ++ '{' :: deadline id timeout ++ inner)
  /-- Any other body gets braces of its own, with the deadline behind the first one. -/
  | braced {body : Stmt} {head own tail : List Char} : (∀ b, body ≠ .block b) →
      n + byteSize head = body.span.start → n + byteSize head + byteSize own = body.span.stop →
      Checked timeout id n body (head ++ own ++ tail)
        (head ++ '{' :: deadline id timeout ++ own ++ '}' :: tail)

/-- A text that begins at the offset `n`, with its loops guarded; the first of them is numbered
`id`. -/
inductive Guarded (timeout : Nat) :
    (id n : Nat) → List (Stmt × Stmt) → (text out : List Char) → Prop
  | nil {id n : Nat} {text : List Char} : Guarded timeout id n [] text text
  | cons {id n : Nat} {loop body : Stmt} {loops : List (Stmt × Stmt)}
      {before own after own' after' : List Char} :
      n + byteSize before = loop.span.start → loop.span.start + byteSize own = loop.span.stop →
      Checked timeout id loop.span.start body own own' →
      Guarded timeout (id + 1) loop.span.stop loops after after' →
      Guarded timeout id n ((loop, body) :: loops) (before ++ own ++ after)
        (before ++ ("var _wmloopvar" ++ toString id ++ " = Date.now();\n").toList ++ own' ++ after')

variable {timeout id n : Nat} {text out out' : List Char}

theorem Checked.unique {body : Stmt} {text' : List Char} (h : Checked timeout id n body text out)
    (h' : Checked timeout id n body text' out') (heq : text = text') : out = out' := by
  cases h with
  | block hstart =>
    cases h' with
    | block hstart' =>
      obtain ⟨rfl, hrest⟩ := append_inj_of_byteSize heq (by omega)
      cases hrest
      rfl
    | braced hb => exact absurd rfl (hb _)
  | braced hb hstart hstop =>
    cases h' with
    | block => exact absurd rfl (hb _)
    | braced _ hstart' hstop' =>
      obtain ⟨hfirst, rfl⟩ := append_inj_of_byteSize heq (by simp only [byteSize_append]; omega)
      obtain ⟨rfl, rfl⟩ := append_inj_of_byteSize hfirst (by omega)
      rfl

/-- There is one way to guard the loops of a text. -/
theorem Guarded.unique {loops : List (Stmt × Stmt)} {text' : List Char}
    (h : Guarded timeout id n loops text out) (h' : Guarded timeout id n loops text' out')
    (heq : text = text') : out = out' := by
  induction h generalizing text' out' with
  | nil =>
    cases h'
    exact heq
  | cons hstart hstop hbody _ ih =>
    cases h' with
    | cons hstart' hstop' hbody' hrest' =>
      obtain ⟨hfirst, rfl⟩ := append_inj_of_byteSize heq (by simp only [byteSize_append]; omega)
      obtain ⟨rfl, rfl⟩ := append_inj_of_byteSize hfirst (by omega)
      rw [hbody.unique hbody' rfl, ih hrest' rfl]

/-! ### The patches of the loops -/

/-- The patches of some loops; the first one is numbered `id`. -/
def patchesOf (timeout : Nat) : (id : Nat) → List (Stmt × Stmt) → List Patch
  | _, [] => []
  | id, (loop, body) :: loops =>
    loopPatches timeout id loop body ++ patchesOf timeout (id + 1) loops

theorem itemPatches_eq (timeout id : Nat) (items : List ModuleItem) :
    itemPatches timeout id items = patchesOf timeout id (items.filterMap ModuleItem.loop?) := by
  fun_induction itemPatches timeout id items with
  | case1 => rfl
  | case2 id s items body hbody ih => simp [ModuleItem.loop?, hbody, patchesOf, ih]
  | case3 id s items hbody ih => simp [ModuleItem.loop?, hbody, ih]
  | case4 id item items hitem ih =>
    have : item.loop? = none := by
      cases item with
      | stmt s => exact absurd rfl (hitem s)
      | _ => rfl
    simp [this, ih]

/-- The loop stands in the text, from `n` on, and its body inside it. -/
structure Stands (text : List Char) (n : Nat) (loop body : Stmt) : Prop where
  placed : loop.Placed text
  bodyPlaced : body.Placed text
  behind : n ≤ loop.span.start
  starts : loop.span.start < body.span.start
  stops : body.span.start < body.span.stop
  inside : body.span.stop ≤ loop.span.stop

/-- A patch that stands before the others may be given after them. -/
theorem woven_snoc {patches : List Patch} {p : Patch}
    (h : ∀ q ∈ patches, p.position < q.position) (n : Nat)
    (text : List Char) : woven (patches ++ [p]) n text = woven (p :: patches) n text := by
  refine woven_congr (fun k => ?_) n text
  rw [textsAt_append, textsAt_cons, textsAt_cons]
  by_cases hk : p.position = k
  · have hnone : textsAt patches k = [] := textsAt_eq_nil fun q hq _ => by
      have := h q hq
      omega
    simp [hk, hnone]
  · simp [hk]

theorem toList_check (id timeout : Nat) : (check id timeout).toList = deadline id timeout := by
  have hassoc (a b c d e f g x y : String) :
      a ++ (b ++ x) ++ c ++ y ++ d ++ e ++ f ++ g =
        a ++ b ++ x ++ c ++ y ++ (d ++ e) ++ (f ++ g) := by
    simp only [String.append_assoc]
  -- The fixed texts of the code are cut where it names a constant.
  have hjoined (start brace call : String)
      (hstart : "\nif (Date.now() - " ++ "_wmloopvar" = start) (hbrace : ") " ++ "\x7b " = brace)
      (hcall : "window._handleInfiniteLoopException" ++
        "(new Error(\"Bucle infinito\")); break;\x7d\n" = call) :
      check id timeout = start ++ toString id ++ " > " ++ toString timeout ++ brace ++ call := by
    subst hstart hbrace hcall
    exact hassoc _ _ _ _ _ _ _ _ _
  exact congrArg String.toList (hjoined _ _ _ (by decide) (by decide) (by decide))

/-- A block gets its check behind its brace. -/
theorem checked_block {head inner : List Char} {b : Block} (h : n + byteSize head = b.span.start) :
    Checked timeout id n (.block b) (head ++ '{' :: inner)
      (woven [⟨b.span.start + 1, check id timeout⟩] n (head ++ '{' :: inner)) := by
  have hbrace : b.span.start + 1 = n + byteSize (head ++ ['{']) := by
    have : byteSize ['{'] = 1 := by decide
    rw [byteSize_append]
    omega
  have hwoven := woven_singleton (p := ⟨b.span.start + 1, check id timeout⟩) inner hbrace
  rw [List.append_assoc, List.singleton_append] at hwoven
  rw [hwoven, toList_check]
  simpa using Checked.block h

/-- Any other body gets braces of its own. -/
theorem checked_braced {head own tail : List Char} {body : Stmt} (hb : ∀ b, body ≠ .block b)
    (hstart : n + byteSize head = body.span.start)
    (hstop : n + byteSize head + byteSize own = body.span.stop) :
    Checked timeout id n body (head ++ own ++ tail)
      (woven [⟨body.span.start, "\x7b" ++ check id timeout⟩, ⟨body.span.stop, "\x7d"⟩] n
        (head ++ own ++ tail)) := by
  let opening : Patch := ⟨body.span.start, "\x7b" ++ check id timeout⟩
  let closing : Patch := ⟨body.span.stop, "\x7d"⟩
  have hfirst : ∀ p ∈ [opening], p.position ≤ n + byteSize head := by simp [opening, hstart]
  have hlast : ∀ p ∈ [closing], n + byteSize head ≤ p.position := by simp [closing]; omega
  have hopen : woven [opening] n head = head ++ opening.text.toList := by
    simpa using woven_singleton (p := opening) [] hstart.symm
  have hclose : woven [closing] (n + byteSize head) (own ++ tail) =
      own ++ closing.text.toList ++ tail :=
    woven_singleton (p := closing) tail hstop.symm
  have hwoven := woven_append (own ++ tail) hfirst hlast
  rw [List.singleton_append, hopen, hclose, ← List.append_assoc] at hwoven
  rw [hwoven]
  have hbraced : Checked timeout id n body (head ++ own ++ tail) _ := .braced hb hstart hstop
  simpa [opening, closing, toList_check] using hbraced

/-- What the patches of a loop make of the text before it and its own. -/
theorem checked_woven (timeout id : Nat) {done before own after : List Char} {loop body : Stmt}
    (h : Stands (done ++ before ++ own ++ after) n loop body) (hdone : byteSize done = n)
    (hbefore : n + byteSize before = loop.span.start)
    (hown : loop.span.start + byteSize own = loop.span.stop) :
    ∃ own', Checked timeout id loop.span.start body own own' ∧
      woven (loopPatches timeout id loop body) n (before ++ own) =
        before ++ (start id).toList ++ own' := by
  have hsize : byteSize (done ++ before) = loop.span.start := by rw [byteSize_append]; omega
  obtain ⟨-, hplaced, -, hstarts, hstops, hinside⟩ := h
  -- The start time stands before everything that goes inside.
  have hwoven (inside : List Patch) (hp : ∀ p ∈ inside, loop.span.start < p.position) :
      woven (inside ++ [⟨loop.span.start, start id⟩]) n (before ++ own) =
        before ++ (start id).toList ++ woven inside loop.span.start own := by
    have hfirst : ∀ p ∈ [(⟨loop.span.start, start id⟩ : Patch)], p.position ≤
        n + byteSize before := by
      simp [hbefore]
    have hlast : ∀ p ∈ inside, n + byteSize before ≤ p.position := fun p hin => by
      have := hp p hin
      omega
    have hstart : woven [(⟨loop.span.start, start id⟩ : Patch)] n before =
        before ++ (start id).toList := by
      simpa using woven_singleton (p := ⟨loop.span.start, start id⟩) [] hbefore.symm
    rw [woven_snoc hp, ← List.singleton_append, woven_append own hfirst hlast, hstart, hbefore]
  by_cases hblock : ∃ b, body = .block b
  · obtain ⟨b, rfl⟩ := hblock
    change loop.span.start < b.span.start at hstarts
    change b.span.start < b.span.stop at hstops
    change b.span.stop ≤ loop.span.stop at hinside
    obtain ⟨head, more, rfl, hhead⟩ :=
      hplaced.span.start.exists_split_middle (by change _ ≤ b.span.start; omega)
      (by change b.span.start ≤ _; omega)
    change _ = b.span.start at hhead
    -- The brace is the first character of what is left of the loop.
    obtain ⟨inner, rfl⟩ : ∃ inner, more = '{' :: inner := by
      obtain ⟨first, rest, htext, hfirst⟩ := hplaced.brace b rfl
      have hsame : done ++ before ++ head ++ (more ++ after) = first ++ '{' :: rest := by
        simpa using htext
      obtain ⟨-, hrest⟩ := append_inj_of_byteSize hsame (by rw [byteSize_append]; omega)
      cases more with
      | nil =>
        simp at hown
        omega
      | cons c inner =>
        cases hrest
        exact ⟨inner, rfl⟩
    have hhead' : loop.span.start + byteSize head = b.span.start := by omega
    exact ⟨_, checked_block hhead', hwoven [_] (by simp; omega)⟩
  · have hb : ∀ b, body ≠ .block b := fun b hb => hblock ⟨b, hb⟩
    have hpatches : loopPatches timeout id loop body =
        [⟨body.span.start, "\x7b" ++ check id timeout⟩, ⟨body.span.stop, "\x7d"⟩] ++
            [⟨loop.span.start, start id⟩] := by
      unfold loopPatches
      split
      · exact absurd rfl (hb _)
      · rfl
    obtain ⟨first, tail, rfl, hfirst⟩ := hplaced.span.stop.exists_split_middle (by omega) (by omega)
    have hstart := hplaced.span.start
    rw [← List.append_assoc _ first, List.append_assoc _ tail] at hstart
    obtain ⟨head, inner, rfl, hhead⟩ := hstart.exists_split_middle (by omega) (by omega)
    have hhead' : loop.span.start + byteSize head = body.span.start := by omega
    have hinner : loop.span.start + byteSize head + byteSize inner = body.span.stop := by
      have := byteSize_append head inner
      omega
    rw [hpatches]
    exact ⟨_, checked_braced hb hhead' hinner, hwoven _ (by simp; omega)⟩

theorem Stands.position_loopPatches {loop body : Stmt} (h : Stands text n loop body) :
    ∀ p ∈ loopPatches timeout id loop body, n ≤ p.position ∧ p.position ≤ loop.span.stop := by
  obtain ⟨-, -, hbehind, hstarts, hstops, hinside⟩ := h
  intro p hp
  unfold loopPatches at hp
  split at hp
  · rename_i b
    change loop.span.start < b.span.start at hstarts
    change b.span.start < b.span.stop at hstops
    change b.span.stop ≤ loop.span.stop at hinside
    simp only [List.cons_append, List.nil_append, List.mem_cons, List.not_mem_nil, or_false] at hp
    rcases hp with rfl | rfl <;> exact ⟨by dsimp only; omega, by dsimp only; omega⟩
  · simp only [List.cons_append, List.nil_append, List.mem_cons, List.not_mem_nil, or_false] at hp
    rcases hp with rfl | rfl | rfl <;> exact ⟨by dsimp only; omega, by dsimp only; omega⟩

theorem position_patchesOf {loops : List (Stmt × Stmt)} (h : ∀ l ∈ loops, Stands text n l.1 l.2) :
    ∀ p ∈ patchesOf timeout id loops, n ≤ p.position := by
  induction loops generalizing id with
  | nil => simp [patchesOf]
  | cons l loops ih =>
    obtain ⟨hthis, hothers⟩ := List.forall_mem_cons.mp h
    intro p hp
    rcases List.mem_append.mp hp with hp | hp
    · exact (hthis.position_loopPatches p hp).1
    · exact ih hothers p hp

/-- The patches of loops that stand one after the other guard them. -/
theorem guarded_woven (timeout id : Nat) {loops : List (Stmt × Stmt)} {done rest : List Char}
    (hdone : byteSize done = n) (hstands : ∀ l ∈ loops, Stands (done ++ rest) n l.1 l.2)
    (horder : loops.Pairwise fun a b => a.1.span.stop ≤ b.1.span.start) :
    Guarded timeout id n loops rest (woven (patchesOf timeout id loops) n rest) := by
  induction loops generalizing id n done rest with
  | nil =>
    rw [patchesOf, woven_of_lt _ (by simp)]
    exact .nil
  | cons l loops ih =>
    obtain ⟨loop, body⟩ := l
    obtain ⟨hfirst, horder⟩ := List.pairwise_cons.mp horder
    have hthis : Stands (done ++ rest) n loop body := hstands (loop, body) List.mem_cons_self
    have hle : loop.span.start ≤ loop.span.stop := by
      have := hthis.starts
      have := hthis.stops
      have := hthis.inside
      omega
    obtain ⟨before, more, rfl, hbefore⟩ :=
      hthis.placed.span.start.exists_split (hdone ▸ hthis.behind)
    have hstop := hthis.placed.span.stop
    rw [← List.append_assoc] at hstop
    obtain ⟨own, after, rfl, hown⟩ := hstop.exists_split (by rw [byteSize_append]; omega)
    rw [hdone] at hbefore
    rw [byteSize_append, hdone, hbefore] at hown
    have htext : done ++ (before ++ (own ++ after)) = done ++ before ++ own ++ after := by simp
    rw [htext] at hthis hstands
    obtain ⟨own', hchecked, hwoven⟩ := checked_woven timeout id hthis hdone hbefore hown
    have hn : n + byteSize (before ++ own) = loop.span.stop := by
      rw [byteSize_append]
      omega
    have hothers : ∀ l ∈ loops, Stands (done ++ before ++ own ++ after) loop.span.stop l.1 l.2 :=
        fun l hl =>
      { hstands l (List.mem_cons_of_mem _ hl) with behind := hfirst l hl }
    have hrest : Guarded timeout (id + 1) loop.span.stop loops after
        (woven (patchesOf timeout (id + 1) loops) loop.span.stop after) := by
      refine ih _ ?_ hothers horder
      simp only [byteSize_append]
      omega
    have hmine : ∀ p ∈ loopPatches timeout id loop body, p.position ≤
        n + byteSize (before ++ own) := fun p hp =>
      hn ▸ (hthis.position_loopPatches p hp).2
    have htheirs : ∀ p ∈ patchesOf timeout (id + 1) loops,
        n + byteSize (before ++ own) ≤ p.position :=
      hn ▸ position_patchesOf hothers
    rw [patchesOf, ← List.append_assoc, woven_append after hmine htheirs, hwoven, hn]
    exact .cons hbefore hown hchecked hrest

end LoopGuard

/-- The loops of a code that was read stand in it. -/
theorem Module.InOrder.stands {code : String} {source : Source} (h : source.module.InOrder)
    (hread : Source.read code = .ok source) :
    ∀ l ∈ source.module.items.filterMap ModuleItem.loop?,
      LoopGuard.Stands (Reader.withoutMark code.toList) 0 l.1 l.2 := by
  rintro ⟨loop, body⟩ hl
  obtain ⟨item, hitem, hloop⟩ := List.mem_filterMap.mp hl
  obtain ⟨hstarts, hstops, hinside⟩ := h.bodies item hitem (loop, body) hloop
  cases item with
  | stmt s =>
    obtain ⟨body', hbody, heq⟩ := Option.map_eq_some_iff.mp hloop
    cases heq
    have hgood := Source.read_good hread (.stmt loop) hitem loop rfl
    exact ⟨hgood.placed, hgood.body body hbody, Nat.zero_le _, hstarts, hstops, hinside⟩
  | _ => cases hloop

theorem Module.InOrder.loops {m : Module} (h : m.InOrder) :
    (m.items.filterMap ModuleItem.loop?).Pairwise fun a b => a.1.span.stop ≤ b.1.span.start := by
  refine List.pairwise_filterMap.mpr (h.items.imp fun {a b} hab la ha lb hb => ?_)
  have hspan (item : ModuleItem) (l : Stmt × Stmt) (hl : item.loop? = some l) :
      l.1.span = item.span := by
    cases item with
    | stmt s =>
      obtain ⟨body, -, rfl⟩ := Option.map_eq_some_iff.mp hl
      rfl
    | _ => cases hl
  rw [hspan a la ha, hspan b lb hb]
  exact hab

theorem Reader.withoutMark_eq_self {cs : List Char}
    (h : ∀ rest, cs ≠ '\uFEFF' :: rest) : withoutMark cs = cs := by
  cases cs with
  | nil => rfl
  | cons c rest =>
    have hc : c.toNat ≠ 0xFEFF :=
      fun hc => h rest (by rw [show c = '\uFEFF' from Char.ext (UInt32.toNat_inj.mp hc)])
    rw [withoutMark, if_neg hc]

/-- Guarding the loops of a code that can be read gives the code with a start time before each loop,
the loops numbered from one on, and its deadline as the first thing in each body, and with nothing
else changed. -/
theorem Stage.guardLoops_places {timeout : Nat} {code : String} {source : Source}
    (hread : Source.read code = .ok source) (hmark : ∀ rest, code.toList ≠ '\uFEFF' :: rest)
    (horder : source.module.InOrder) :
    ∃ out, (Stage.guardLoops timeout).run code = .ok out ∧
      ∀ text, LoopGuard.Guarded timeout 1 0 (source.module.items.filterMap ModuleItem.loop?)
        code.toList text ↔ text = out.toList := by
  have hstands := horder.stands hread
  have hgood := Source.read_good hread
  rw [Reader.withoutMark_eq_self hmark] at hstands hgood
  have happly :=
    applyAll?_eq_woven code fun p hp _ => LoopGuard.itemPatches_isBoundary timeout 1 hgood p hp
  have hguarded := LoopGuard.guarded_woven timeout 1 byteSize_nil hstands horder.loops
  rw [← LoopGuard.itemPatches_eq] at hguarded
  have hrun : (Stage.guardLoops timeout).run code =
      .ok (String.ofList
        (woven (LoopGuard.itemPatches timeout 1 source.module.items) 0 code.toList)) := by
    change guard timeout code = _
    unfold guard LoopGuard.patches
    rw [hread]
    simp only [Except.map]
    rw [happly]
  refine ⟨_, hrun, fun text => ?_⟩
  rw [String.toList_ofList]
  constructor
  · intro h
    exact h.unique hguarded rfl
  · rintro rfl
    exact hguarded

/-- Two loops that touch, the first of them with a body of its own, and a loop that is not at the
top level. -/
def touchingLoops : String := "let ñ = '¿';for(;;)ñ++;while(ñ)\x7b do ; while(a) \x7d\n"

/-- Each of the two loops behind its start time, with its deadline in its body. -/
def touchingLoopsGuarded : String :=
  "let ñ = '¿';"
    ++ "var _wmloopvar1 = Date.now();\n"
    ++ "for(;;)" ++ "\x7b"
    ++ ("\nif (Date.now() - _wmloopvar1 > 100) \x7b "
      ++ "window._handleInfiniteLoopException(new Error(\"Bucle infinito\")); break;\x7d\n")
    ++ "ñ++;" ++ "\x7d"
    ++ "var _wmloopvar2 = Date.now();\n"
    ++ "while(ñ)" ++ "\x7b"
    ++ ("\nif (Date.now() - _wmloopvar2 > 100) \x7b "
      ++ "window._handleInfiniteLoopException(new Error(\"Bucle infinito\")); break;\x7d\n")
    ++ " do ; while(a) \x7d" ++ "\n"

/-- The text cut at the parts that are put in. -/
theorem toList_touchingLoopsGuarded : touchingLoopsGuarded.toList =
    "let ñ = '¿';".toList ++ ("var _wmloopvar" ++ toString 1 ++ " = Date.now();\n").toList ++
      ("for(;;)".toList ++ '{' :: LoopGuard.deadline 1 100 ++ "ñ++;".toList ++ '}' :: []) ++
    ([] ++ ("var _wmloopvar" ++ toString 2 ++ " = Date.now();\n").toList ++
      ("while(ñ)".toList ++ '{' :: LoopGuard.deadline 2 100 ++ " do ; while(a) \x7d".toList) ++
      "\n".toList) := by
  have hopen : "\x7b".toList = ['{'] := by decide
  have hclose : "\x7d".toList = ['}'] := by decide
  have hparts (before loop own loop' inner after : String) {start start' check check' : String}
      {s s' d d' : String} (hstart : start = s) (hcheck : check = d) (hstart' : start' = s')
      (hcheck' : check' = d') :
      (before ++ start ++ loop ++ "\x7b" ++ check ++ own ++ "\x7d" ++ start' ++ loop' ++ "\x7b"
          ++ check' ++ inner ++ after).toList =
        before.toList ++ s.toList ++ (loop.toList ++ '{' :: d.toList ++ own.toList ++ '}' :: []) ++
          ([] ++ s'.toList ++ (loop'.toList ++ '{' :: d'.toList ++ inner.toList) ++
            after.toList) := by
    subst hstart hcheck hstart' hcheck'
    simp only [String.toList_append, hopen, hclose, List.append_assoc, List.cons_append,
      List.nil_append]
  exact hparts _ _ _ _ _ _ (by decide) (by decide) (by decide) (by decide)

theorem guarded_touchingLoops {first own second : Stmt} {b : Block} (hfirst : first.span = ⟨14, 26⟩)
    (hown : own.span = ⟨21, 26⟩) (hnot : ∀ b, own ≠ .block b) (hsecond : second.span = ⟨26, 52⟩)
    (hb : b.span.start = 35) :
    LoopGuard.Guarded 100 1 0 [(first, own), (second, .block b)] touchingLoops.toList
      touchingLoopsGuarded.toList := by
  have htext : touchingLoops.toList = "let ñ = '¿';".toList ++
      ("for(;;)".toList ++ "ñ++;".toList ++ []) ++
        ([] ++ ("while(ñ)".toList ++ '{' :: " do ; while(a) \x7d".toList) ++ "\n".toList) := by
        decide
  rw [htext, toList_touchingLoopsGuarded]
  refine .cons (by rw [hfirst]; decide) (by rw [hfirst]; decide) ?_ ?_
  · exact .braced hnot (by rw [hfirst, hown]; decide) (by rw [hfirst, hown]; decide)
  · rw [hfirst]
    refine .cons (by rw [hsecond]; decide) (by rw [hsecond]; decide) (.block ?_) .nil
    rw [hsecond, hb]
    decide

theorem Stage.guardLoops_places_touchingLoops : ∃ source, Source.read touchingLoops = .ok source ∧
    source.module.InOrder ∧ (Stage.guardLoops 100).run touchingLoops = .ok touchingLoopsGuarded ∧
    LoopGuard.Guarded 100 1 0 (source.module.items.filterMap ModuleItem.loop?) touchingLoops.toList
      touchingLoopsGuarded.toList := by
  have hmark : ∀ rest, touchingLoops.toList ≠ '\uFEFF' :: rest := fun rest h => by
    have : touchingLoops.toList.head? = some 'l' := by decide
    rw [h] at this
    cases this
  have hok : (Source.read touchingLoops).isOk = true := by decide +kernel
  have hsource : ∀ source, Source.read touchingLoops = .ok source → source.module.InOrder ∧
      (source.module.items.filterMap ModuleItem.loop?).map
        (fun l => (l.1.span, l.2.span, l.2.isBlock)) =
          [(⟨14, 26⟩, ⟨21, 26⟩, false), (⟨26, 52⟩, ⟨35, 52⟩, true)] := by decide +kernel
  obtain ⟨source, hread⟩ := Source.exists_of_isOk hok
  obtain ⟨horder, hspans⟩ := hsource source hread
  have hguarded : LoopGuard.Guarded 100 1 0 (source.module.items.filterMap ModuleItem.loop?)
      touchingLoops.toList touchingLoopsGuarded.toList := by
    generalize source.module.items.filterMap ModuleItem.loop? = loops at hspans
    obtain _ | ⟨⟨first, own⟩, _ | ⟨⟨second, body⟩, _ | _⟩⟩ := loops
    · simp at hspans
    · simp at hspans
    · simp only [List.map_cons, List.map_nil, List.cons.injEq, Prod.mk.injEq, and_true] at hspans
      obtain ⟨⟨hfirst, hown, hnot⟩, hsecond, hbody, hblock⟩ := hspans
      obtain ⟨b, rfl⟩ : ∃ b, body = .block b := by
        cases body with
        | block b => exact ⟨b, rfl⟩
        | _ => cases hblock
      refine guarded_touchingLoops hfirst hown ?_ hsecond (congrArg Span.start hbody)
      rintro b rfl
      cases hnot
    · simp at hspans
  obtain ⟨out, hrun, hplaced⟩ := Stage.guardLoops_places hread hmark horder
  obtain rfl : touchingLoopsGuarded = out :=
    String.toList_injective ((hplaced _).mp hguarded)
  exact ⟨source, hread, horder, hrun, hguarded⟩

end Playground.Script
