import Playground.Imports.Header

/-! Merging imports: all named imports from one module become a single one. -/

namespace Playground.Imports

/-- An import of names: the text between its braces, and the module. -/
structure Named where
  names : List Char
  module : List Char
deriving DecidableEq, Repr

/-- The text after at least one blank. -/
def dropBlanks? (cs : List Char) : Option (List Char) :=
  match cs with
  | c :: _ => if Text.isBlank c then some (cs.dropWhile Text.isBlank) else none
  | [] => none

/-- The text after a quote. -/
def dropQuote? (cs : List Char) : Option (List Char) :=
  match cs with
  | c :: rest => if isQuote c then some rest else none
  | [] => none

/-- The text after an optional semicolon. -/
def dropSemicolon : List Char → List Char
  | ';' :: cs => cs
  | cs => cs

/-- The characters in front that pass a test, at least one of them, and the text after them. -/
def run? (p : Char → Bool) (cs : List Char) : Option (List Char × List Char) :=
  if (cs.takeWhile p).isEmpty then none else some (cs.takeWhile p, cs.dropWhile p)

/-- An import of names at the start of a text, and the text after it. Blanks and a semicolon at its
end belong to it. -/
def named? (cs : List Char) : Option (Named × List Char) := do
  let cs ← Text.dropWord? "import".toList cs
  let cs ← dropBlanks? cs
  let cs ← Text.dropWord? ['{'] cs
  let (names, cs) ← run? (· ≠ '}') cs
  let cs ← Text.dropWord? ['}'] cs
  let cs ← dropBlanks? cs
  let cs ← Text.dropWord? "from".toList cs
  let cs ← dropBlanks? cs
  let cs ← dropQuote? cs
  let (module, cs) ← run? (!isQuote ·) cs
  let cs ← dropQuote? cs
  return (⟨names, module⟩, dropSemicolon (cs.dropWhile Text.isBlank))

theorem length_dropBlanks? {cs rest : List Char} (h : dropBlanks? cs = some rest) :
    rest.length ≤ cs.length := by
  unfold dropBlanks? at h
  split at h
  · split at h
    · simp only [Option.some.injEq] at h
      exact h ▸ (List.dropWhile_suffix _).length_le
    · simp at h
  · simp at h

theorem length_dropQuote? {cs rest : List Char} (h : dropQuote? cs = some rest) :
    rest.length ≤ cs.length := by
  unfold dropQuote? at h
  split at h
  · split at h
    · simp only [Option.some.injEq] at h
      simp [h]
    · simp at h
  · simp at h

theorem length_dropSemicolon (cs : List Char) : (dropSemicolon cs).length ≤ cs.length := by
  unfold dropSemicolon
  split <;> simp

theorem length_dropWord? {word cs rest : List Char} (h : Text.dropWord? word cs = some rest) :
    cs.length = word.length + rest.length := by
  simp [Text.dropWord?_eq_some_iff.1 h]

theorem length_run? {p : Char → Bool} {cs taken rest : List Char}
    (h : run? p cs = some (taken, rest)) :
    rest.length ≤ cs.length := by
  unfold run? at h
  split at h
  · simp at h
  · simp only [Option.some.injEq, Prod.mk.injEq] at h
    exact h.2 ▸ (List.dropWhile_suffix p).length_le

/-- An import takes characters, so that the text after it is shorter. -/
theorem length_named? {cs rest : List Char} {n : Named} (h : named? cs = some (n, rest)) :
    rest.length < cs.length := by
  simp only [named?, Option.bind_eq_bind, Option.bind_eq_some_iff, Option.pure_def,
    Option.some.injEq, Prod.mk.injEq] at h
  obtain ⟨a, ha, b, hb, c, hc, ⟨_, d⟩, hd, e, he, f, hf, g, hg, i, hi, j, hj, ⟨_, k⟩, hk, l,
    hl, _, rfl⟩ := h
  simp only at he hl
  have h1 := length_dropWord? ha
  have h2 := length_dropBlanks? hb
  have h3 := length_dropWord? hc
  have h4 := length_run? hd
  have h5 := length_dropWord? he
  have h6 := length_dropBlanks? hf
  have h7 := length_dropWord? hg
  have h8 := length_dropBlanks? hi
  have h9 := length_dropQuote? hj
  have h10 := length_run? hk
  have h11 := length_dropQuote? hl
  have h12 := length_dropSemicolon (l.dropWhile Text.isBlank)
  have h13 := (List.dropWhile_suffix (l := l) Text.isBlank).length_le
  have h14 : "import".toList.length = 6 := by decide
  omega

/-- The imports of names in a text, from left to right, and what is left of it without them. -/
def scan (cs : List Char) : List Named × List Char :=
  match h : named? cs with
  | some (n, rest) =>
    have := length_named? h
    let (ns, left) := scan rest
    (n :: ns, left)
  | none =>
    match cs with
    | [] => ([], [])
    | c :: cs =>
      let (ns, left) := scan cs
      (ns, c :: left)
termination_by cs.length

/-- The names of an import: cut at commas, without the blanks around them, and empty ones left
out. -/
def Named.parts (n : Named) : List (List Char) :=
  ((Text.cutAt (· = ',') n.names).map Text.trim).filter (!·.isEmpty)

/-- The names that are imported from one module, in increasing order. -/
structure Group where
  module : List Char
  names : List (List Char)
deriving DecidableEq, Repr

/-- Puts a name where it belongs; a name that is there already is not put in again. -/
def insertName (name : List Char) : List (List Char) → List (List Char)
  | [] => [name]
  | n :: ns =>
    if name < n then name :: n :: ns
    else if name = n then n :: ns
    else n :: insertName name ns

def insertNames (names : List (List Char)) (into : List (List Char)) : List (List Char) :=
  names.foldl (fun acc name => insertName name acc) into

/-- Adds an import to the group of its module, or opens that group after the others. -/
def addNamed (n : Named) : List Group → List Group
  | [] => [⟨n.module, insertNames n.parts []⟩]
  | g :: gs =>
    if g.module = n.module then { g with names := insertNames n.parts g.names } :: gs
    else g :: addNamed n gs

/-- One group for each module, in the order in which the modules are first named. -/
def groups (ns : List Named) : List Group := ns.foldl (fun gs n => addNamed n gs) []

/-- The import that stands for a group. -/
def Group.chars (g : Group) : List Char :=
  "import \x7b ".toList ++ ", ".toList.intercalate g.names ++ " \x7d from '".toList ++
    g.module ++ "'\n".toList

/-- Merges the imports of names by module; what is left of the text comes after them. -/
def merge (imports : List Char) : List Char :=
  let (ns, left) := scan imports
  Text.trim ((groups ns).flatMap Group.chars ++ Text.trim left)

end Playground.Imports
