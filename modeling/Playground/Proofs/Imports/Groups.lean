import Mathlib.Data.List.Induction
import Mathlib.Data.List.Nodup
import Playground.Imports.Merge

/-! Grouping imports by module. Each module has one group, in which every name that is imported from
it stands once, in increasing order: adding one import keeps that, so all of them together do. -/

namespace Playground.Imports

/-! ### Names -/

theorem mem_insertName {name b : List Char} {names : List (List Char)} :
    b ∈ insertName name names ↔ b = name ∨ b ∈ names := by
  induction names with
  | nil => simp [insertName]
  | cons n names ih =>
    unfold insertName
    split
    · simp
    · split
      · rename_i heq
        simp [heq]
      · rw [List.mem_cons, ih, List.mem_cons, or_left_comm]

/-- A name is put in after all smaller ones and before all greater ones. -/
theorem pairwise_insertName (name : List Char) {names : List (List Char)}
    (h : names.Pairwise (· < ·)) :
    (insertName name names).Pairwise (· < ·) := by
  induction names with
  | nil => simp [insertName]
  | cons n names ih =>
    obtain ⟨hn, hnames⟩ := List.pairwise_cons.mp h
    unfold insertName
    split
    · rename_i hlt
      refine List.pairwise_cons.mpr ⟨fun b hb => ?_, h⟩
      rcases List.mem_cons.mp hb with rfl | hb
      · exact hlt
      · exact List.lt_trans hlt (hn b hb)
    · rename_i hle
      split
      · exact h
      · rename_i hne
        refine List.pairwise_cons.mpr ⟨fun b hb => ?_, ih hnames⟩
        rcases mem_insertName.mp hb with rfl | hb
        · refine Decidable.byContradiction fun hlt => hne ?_
          exact List.le_antisymm (List.not_lt.mp hlt) (List.not_lt.mp hle)
        · exact hn b hb

theorem mem_insertNames {b : List Char} (names : List (List Char)) {into : List (List Char)} :
    b ∈ insertNames names into ↔ b ∈ names ∨ b ∈ into := by
  unfold insertNames
  induction names generalizing into with
  | nil => simp
  | cons name names ih =>
    rw [List.foldl_cons, ih, mem_insertName, List.mem_cons, or_assoc, or_left_comm]

theorem pairwise_insertNames (names : List (List Char)) {into : List (List Char)}
    (h : into.Pairwise (· < ·)) :
    (insertNames names into).Pairwise (· < ·) := by
  unfold insertNames
  induction names generalizing into with
  | nil => exact h
  | cons name names ih => exact ih (pairwise_insertName name h)

theorem insertName_of_forall_lt {name : List Char} {names : List (List Char)}
    (h : ∀ b ∈ names, b < name) :
    insertName name names = names ++ [name] := by
  induction names with
  | nil => rfl
  | cons n names ih =>
    obtain ⟨hn, hnames⟩ := List.forall_mem_cons.mp h
    have hgreater : ¬name < n := List.lt_asymm hn
    have hother : name ≠ n := fun heq => List.lt_irrefl n (heq ▸ hn)
    rw [insertName, if_neg hgreater, if_neg hother, ih hnames, List.cons_append]

/-- Names in order that are greater than all there are come behind them. -/
theorem insertNames_of_pairwise {names into : List (List Char)}
    (h : (into ++ names).Pairwise (· < ·)) :
    insertNames names into = into ++ names := by
  induction names generalizing into with
  | nil => rw [List.append_nil]; rfl
  | cons name names ih =>
    have hless : ∀ b ∈ into, b < name :=
      fun b hb => (List.pairwise_append.mp h).2.2 b hb name List.mem_cons_self
    rw [List.append_cons] at h ⊢
    rw [← ih h, ← insertName_of_forall_lt hless]
    rfl

/-! ### Groups -/

/-- Some group has the name, for the module. -/
def Binds (gs : List Group) (module name : List Char) : Prop :=
  ∃ g ∈ gs, g.module = module ∧ name ∈ g.names

/-- No two groups are for one module, and in each the names are in order. -/
structure Tidy (gs : List Group) : Prop where
  modules : (gs.map Group.module).Nodup
  names : ∀ g ∈ gs, g.names.Pairwise (· < ·)

/-- The module of an import comes after those that have a group, unless it has one itself. -/
theorem modules_addNamed (n : Named) (gs : List Group) :
    (addNamed n gs).map Group.module =
      if n.module ∈ gs.map Group.module then gs.map Group.module
        else gs.map Group.module ++ [n.module] := by
  induction gs with
  | nil => rfl
  | cons g gs ih =>
    unfold addNamed
    split
    · rename_i heq
      simp [heq]
    · rename_i hne
      have hmem : n.module ∈ (g :: gs).map Group.module ↔ n.module ∈ gs.map Group.module := by
        rw [List.map_cons, List.mem_cons, or_iff_right (Ne.symm hne)]
      simp only [List.map_cons, ih] at hmem ⊢
      simp only [hmem]
      split <;> rfl

/-- The first import from a module opens a group behind the others. -/
theorem addNamed_of_not_mem {n : Named} {gs : List Group} (h : n.module ∉ gs.map Group.module) :
    addNamed n gs = gs ++ [⟨n.module, insertNames n.parts []⟩] := by
  induction gs with
  | nil => rfl
  | cons g gs ih =>
    rw [List.map_cons, List.mem_cons, not_or] at h
    rw [addNamed, if_neg (Ne.symm h.1), ih h.2, List.cons_append]

theorem binds_cons {g : Group} {gs : List Group} {module name : List Char} :
    Binds (g :: gs) module name ↔ (g.module = module ∧ name ∈ g.names) ∨ Binds gs module name := by
  simp [Binds, or_and_right, exists_or]

/-- What the groups hold after an import is added was there before, or the import brings it. -/
theorem binds_addNamed {n : Named} {gs : List Group} {module name : List Char} :
    Binds (addNamed n gs) module name ↔
      Binds gs module name ∨ (n.module = module ∧ name ∈ n.parts) := by
  induction gs with
  | nil => simp [addNamed, Binds, mem_insertNames]
  | cons g gs ih =>
    unfold addNamed
    split
    · rename_i heq
      simp only [binds_cons, mem_insertNames, heq]
      grind
    · simp only [binds_cons, ih, or_assoc]

theorem Tidy.addNamed {gs : List Group} (h : Tidy gs) (n : Named) : Tidy (addNamed n gs) := by
  refine ⟨?_, ?_⟩
  · rw [modules_addNamed]
    split
    · exact h.modules
    · rename_i hnew
      refine List.nodup_append.mpr ⟨h.modules, List.nodup_singleton _, ?_⟩
      rintro m hm m' hm' rfl
      exact hnew (List.mem_singleton.mp hm' ▸ hm)
  · have hnames := h.names
    clear h
    induction gs with
    | nil => simpa [Imports.addNamed] using pairwise_insertNames n.parts List.Pairwise.nil
    | cons g gs ih =>
      obtain ⟨hg, hgs⟩ := List.forall_mem_cons.mp hnames
      unfold Imports.addNamed
      split
      · exact List.forall_mem_cons.mpr ⟨pairwise_insertNames n.parts hg, hgs⟩
      · exact List.forall_mem_cons.mpr ⟨hg, ih hgs⟩

/-- What holds without imports, and is kept when one is added, holds of the groups of all. -/
theorem groups_induction {motive : List Named → List Group → Prop} (nil : motive [] [])
    (step : ∀ ns n gs, motive ns gs → motive (ns ++ [n]) (addNamed n gs)) (ns : List Named) :
    motive ns (groups ns) := by
  induction ns using List.reverseRecOn with
  | nil => exact nil
  | append_singleton ns n ih =>
    rw [groups, List.foldl_append]
    exact step ns n _ ih

theorem tidy_groups (ns : List Named) : Tidy (groups ns) :=
  groups_induction (motive := fun _ gs => Tidy gs) ⟨List.nodup_nil, by simp⟩
    (fun _ n _ h => h.addNamed n) ns

/-- There is a group for each module, in the order in which they are first named. -/
theorem modules_groups (ns : List Named) :
    (groups ns).map Group.module = (ns.map Named.module).eraseDups := by
  refine groups_induction (motive := fun ns gs => gs.map Group.module =
    (ns.map Named.module).eraseDups) rfl ?_ ns
  intro ns n gs ih
  rw [modules_addNamed, ih, List.map_append, List.map_singleton, List.eraseDups_append]
  generalize ns.map Named.module = modules
  have hone : [n.module].eraseDups = [n.module] := rfl
  by_cases h : n.module ∈ modules <;> simp [List.removeAll, h, hone]

/-- The groups hold exactly what the imports bring. -/
theorem binds_groups {ns : List Named} {module name : List Char} :
    Binds (groups ns) module name ↔ ∃ n ∈ ns, n.module = module ∧ name ∈ n.parts := by
  refine groups_induction
    (motive := fun ns gs => Binds gs module name ↔ ∃ n ∈ ns, n.module = module ∧ name ∈ n.parts)
    (by simp [Binds]) ?_ ns
  intro ns n gs ih
  simp [binds_addNamed, ih, or_and_right, exists_or]

/-- What holds of the modules and names of all imports holds of those of their groups. -/
theorem forall_mem_groups {ns : List Named} (p q : List Char → Prop)
    (h : ∀ n ∈ ns, p n.module ∧ ∀ name ∈ n.parts, q name) :
    ∀ g ∈ groups ns, p g.module ∧ ∀ name ∈ g.names, q name := by
  intro g hg
  constructor
  · have hmodule : g.module ∈ (ns.map Named.module).eraseDups :=
      modules_groups ns ▸ List.mem_map_of_mem hg
    obtain ⟨n, hn, hmod⟩ := List.mem_map.mp (List.mem_eraseDups.mp hmodule)
    exact hmod ▸ (h n hn).1
  · intro name hname
    obtain ⟨n, hn, -, hparts⟩ := binds_groups.mp ⟨g, hg, rfl, hname⟩
    exact (h n hn).2 name hparts

theorem Tidy.mem_names_iff {gs : List Group} (h : Tidy gs) {g : Group} (hg : g ∈ gs)
    {name : List Char} :
    name ∈ g.names ↔ Binds gs g.module name := by
  constructor
  · intro hname
    exact ⟨g, hg, rfl, hname⟩
  · rintro ⟨g', hg', hmodule, hname⟩
    rwa [← List.inj_on_of_nodup_map h.modules hg' hg hmodule]

end Playground.Imports
