import Playground.Proofs.Script.Grammar.Statements
import Playground.Proofs.Script.Layout.Openings
import Playground.Script.Layout.Module

/-! The text of a module: its head, one part for each item, and the comments that are left. The part
of an item that was read begins with a character that can be seen, so that no printed text begins
with a byte order mark. -/

-- The instances for the longer nodes are found through some hundred steps.
set_option synthInstance.maxSize 4000

namespace Playground.Script

open Write

/-! ### Items -/

instance (name : ExternalName) : Tame name.write := by
  cases name <;> unfold ExternalName.write <;> infer_instance

instance (s : ImportSpecifier) : Tame s.write := by
  cases s with
  | default id => unfold ImportSpecifier.write; infer_instance
  | star span id => unfold ImportSpecifier.write; infer_instance
  | named span imported id =>
    unfold ImportSpecifier.write
    cases imported <;> infer_instance

instance (s : ExportSpecifier) : Tame s.write := by
  cases s with
  | star span name => unfold ExportSpecifier.write; infer_instance
  | named span own exported =>
    unfold ExportSpecifier.write
    cases exported <;> infer_instance

instance (ss : List ImportSpecifier) : AllTame (namedImports ss) := by
  refine ⟨fun c hc => ?_⟩
  obtain ⟨s, -, hs⟩ := List.mem_filterMap.mp hc
  cases s with
  | named span imported id =>
    cases hs
    infer_instance
  | _ => cases hs

instance (ss : List ImportSpecifier) : AllTame (otherImports ss) := by
  refine ⟨fun c hc => ?_⟩
  obtain ⟨s, -, hs⟩ := List.mem_filterMap.mp hc
  cases s <;> cases hs <;> infer_instance

instance (stop : Nat) (ss : List ImportSpecifier) : Tame (writeImports stop ss) := by
  have : Tame ((otherImports ss).head?.forM (·.write)) := by
    cases hc : (otherImports ss).head? with
    | none => exact inferInstanceAs (Tame (pure ()))
    | some c => exact AllTame.tame c (List.mem_of_mem_head? hc)
  have : AllTame (otherImports ss).tail := ⟨fun c hc => AllTame.tame c (List.mem_of_mem_tail hc)⟩
  have : Tame ((otherImports ss).tail.forM fun c => do
      put ", "
      c.write) := tame_members
  unfold writeImports; infer_instance

instance (stop : Nat) (ss : List ExportSpecifier) : Tame (writeExports stop ss) := by
  have : AllTame (ss.map fun s => (⟨s.span.stop, s.write⟩ : Child)) := by
    refine ⟨fun c hc => ?_⟩
    obtain ⟨s, -, rfl⟩ := List.mem_map.mp hc
    infer_instance
  unfold writeExports
  split <;> infer_instance

instance (item : ModuleItem) : Tame item.writeOwn := by
  cases item with
  | importFrom span phase ss lit =>
    unfold ModuleItem.writeOwn
    dsimp only
    split <;> infer_instance
  | exportNamed span ss lit =>
    unfold ModuleItem.writeOwn
    cases lit <;> infer_instance
  | _ => unfold ModuleItem.writeOwn; infer_instance

instance (item : ModuleItem) : Tame item.write := by
  cases item <;> unfold ModuleItem.write <;> infer_instance

/-- A statement among the items shows. -/
def ModuleItem.Shows (item : ModuleItem) : Prop := ∀ s, item = .stmt s → s.Shows

theorem ModuleItem.opens (item : ModuleItem) (h : item.Shows) : Opens item.write := by
  cases item with
  | stmt s =>
    have := s.opens true (h s rfl)
    unfold ModuleItem.write; infer_instance
  | importFrom span phase ss lit =>
    have : Opens (put "import ") := opens_put (by decide)
    unfold ModuleItem.write ModuleItem.writeOwn
    dsimp only
    split <;> infer_instance
  | exportDecl _ decl =>
    have : Opens (put "export ") := opens_put (by decide)
    unfold ModuleItem.write ModuleItem.writeOwn; infer_instance
  | exportNamed span ss lit =>
    have : Opens (put "export ") := opens_put (by decide)
    unfold ModuleItem.write ModuleItem.writeOwn
    cases lit <;> infer_instance
  | exportAll _ lit =>
    have : Opens (put "export * from ") := opens_put (by decide)
    unfold ModuleItem.write ModuleItem.writeOwn; infer_instance
  | exportDefault _ e =>
    have : Opens (put "export default ") := opens_put (by decide)
    unfold ModuleItem.write ModuleItem.writeOwn; infer_instance
  | exportDefaultFunction _ name fn =>
    have : Opens (put "export default ") := opens_put (by decide)
    unfold ModuleItem.write ModuleItem.writeOwn; infer_instance
  | exportDefaultClass _ name cls =>
    have : Opens (put "export default ") := opens_put (by decide)
    unfold ModuleItem.write ModuleItem.writeOwn; infer_instance

/-! ### Parts of the text -/

/-- Writes what stands before the items. -/
def Module.writeHead (m : Module) : Write Unit := do
  leading m.span.start
  if let some text := m.shebang then
    put "#!"
    put text
    newline

theorem Module.write_eq (m : Module) : m.write = (do
    m.writeHead
    m.items.forM ModuleItem.write
    trailing m.span.stop) := by
  unfold Module.write Module.writeHead
  cases m.shebang <;> rfl

instance (m : Module) : Tame m.writeHead := by
  unfold Module.writeHead
  cases m.shebang <;> infer_instance

instance (m : Module) : MayOpen m.writeHead := by
  have : Opens (put "#!") := opens_put (by decide)
  unfold Module.writeHead
  cases m.shebang with
  | none => exact inferInstanceAs (MayOpen (leading m.span.start))
  | some text => infer_instance

namespace Source

/-- The page with the head and the first `k` items of a source on it. -/
def pageAfter (s : Source) (k : Nat) : Page :=
  ((do
    s.module.writeHead
    (s.module.items.take k).forM ModuleItem.write : Write Unit) { comments := s.comments }).2

/-- What is printed from the item numbered `k` on. The head comes with the first item. -/
def textFrom (s : Source) : Nat → List Char
  | 0 => s.print.toList
  | k + 1 => s.print.toList.drop (s.pageAfter (k + 1)).text.toList.length

variable {s : Source}

theorem pageAfter_indent (s : Source) (k : Nat) : (s.pageAfter k).indent = 0 := by
  obtain ⟨_, hadds⟩ := (inferInstance : Tame (do
    s.module.writeHead
    (s.module.items.take k).forM ModuleItem.write : Write Unit)).adds { comments := s.comments }
  exact hadds.indent

/-- The rest of the page is written behind the first items. -/
theorem print_eq (s : Source) (k : Nat) : s.print = ((do
    (s.module.items.drop k).forM ModuleItem.write
    trailing s.module.span.stop : Write Unit) (s.pageAfter k)).2.text := by
  have happend : s.module.items.forM ModuleItem.write = (do
      (s.module.items.take k).forM ModuleItem.write
      (s.module.items.drop k).forM ModuleItem.write) := by
    conv => lhs; rw [← List.take_append_drop k s.module.items]
    exact List.forM_append
  unfold Source.print
  rw [Module.write_eq, happend]
  rfl

theorem started_textFrom (h : ∀ item ∈ s.module.items, item.Shows)
    (k : Nat) : Started (s.textFrom k) := by
  have hopens (items : List ModuleItem) (hsub : items ⊆ s.module.items) :
      MayOpen (items.forM ModuleItem.write) :=
    mayOpen_forM inferInstance fun item hi => item.opens (h item (hsub hi))
  cases k with
  | zero =>
    have := hopens s.module.items fun _ => id
    obtain ⟨added, hadds, hs⟩ := (inferInstance : Starts (do
      s.module.writeHead
      s.module.items.forM ModuleItem.write
      trailing s.module.span.stop : Write Unit)).starts { comments := s.comments } rfl
    rw [← Module.write_eq] at hadds
    have : s.textFrom 0 = added := hadds.text
    exact this ▸ hs
  | succ k =>
    have := hopens (s.module.items.drop (k + 1)) (List.drop_subset _ _)
    obtain ⟨added, hadds, hs⟩ := (inferInstance : Starts (do
      (s.module.items.drop (k + 1)).forM ModuleItem.write
      trailing s.module.span.stop : Write Unit)).starts (s.pageAfter (k + 1)) (s.pageAfter_indent _)
    have : s.textFrom (k + 1) = added := by
      rw [textFrom, s.print_eq (k + 1), hadds.text, List.drop_left]
    exact this ▸ hs

/-- No printed text begins with a byte order mark. -/
theorem withoutMark_print (h : ∀ item ∈ s.module.items, item.Shows) :
    Reader.withoutMark s.print.toList = s.print.toList := by
  have hs : Started s.print.toList := started_textFrom h 0
  have hvisible {cs : List Char} (hv : Visible cs) : Reader.withoutMark cs = cs := by
    obtain ⟨c, rest, rfl, hc⟩ := hv
    have : c.toNat ≠ 0xFEFF := by
      intro he
      rw [← Char.ofNat_toNat c, he] at hc
      exact absurd hc (by decide)
    simp [Reader.withoutMark, this]
  rcases hs with hnil | hv | ⟨rest, hsp, -⟩
  · rw [hnil]
    rfl
  · exact hvisible hv
  · rw [hsp]
    rfl

end Source

end Playground.Script
