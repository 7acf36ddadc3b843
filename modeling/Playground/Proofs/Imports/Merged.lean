import Playground.Proofs.Imports.Merge
import Playground.Proofs.Imports.NamedPattern

/-! Merging what is merged already. A scan finds the lines of groups again, one after the other, and
then goes on in the text behind them; so `GoesOn` says when merged text is merged once more without
a change. -/

namespace Playground.Imports

open Text

/-! ### What a scan leaves -/

theorem fits_of_mem_scan (cs : List Char) : ∀ n ∈ (scan cs).1, n.Fits := by
  induction cs using scan_induction with
  | nil => simp [scan_nil]
  | found cs n rest h ih =>
    rw [scan_of_named? h]
    exact List.forall_mem_cons.mpr ⟨(exists_written h).1, ih⟩
  | skip c cs h ih => rwa [scan_cons h]

/-- A scan that finds nothing leaves the text as it is. -/
theorem scan_of_nil {cs : List Char} (h : (scan cs).1 = []) : (scan cs).2 = cs := by
  induction cs using scan_induction with
  | nil => rw [scan_nil]
  | found cs n rest hn _ =>
    rw [scan_of_named? hn] at h
    cases h
  | skip c cs hn ih =>
    rw [scan_cons hn] at h ⊢
    rw [ih h]

/-- A scan that finds something leaves less. -/
theorem length_scan_le (cs : List Char) : (scan cs).2.length ≤ cs.length ∧
    ((scan cs).2.length = cs.length → (scan cs).1 = []) := by
  induction cs using scan_induction with
  | nil => simp [scan_nil]
  | found cs n rest h ih =>
    have hlt := length_named? h
    have hleft : (scan cs).2 = (scan rest).2 := by rw [scan_of_named? h]
    rw [hleft]
    exact ⟨by omega, fun heq => by omega⟩
  | skip c cs h ih =>
    rw [scan_cons h]
    simpa using ih

/-! ### Blanks around a text -/

theorem dropSemicolon_eq_self {cs : List Char} (h : cs.head? ≠ some ';') :
    dropSemicolon cs = cs := by
  unfold dropSemicolon
  split
  · exact absurd rfl h
  · rfl

theorem dropSemicolon_append {cs : List Char} (h : cs ≠ []) (rest : List Char) :
    dropSemicolon (cs ++ rest) = dropSemicolon cs ++ rest := by
  obtain ⟨c, cs, rfl⟩ := List.exists_cons_of_ne_nil h
  by_cases hc : c = ';'
  · subst hc
    rfl
  · simp [dropSemicolon, hc]

theorem named?_append_blank {cs rest w : List Char} {n : Named} (hw : AllBlank w)
    (h : named? cs = some (n, rest)) :
    ∃ v, AllBlank v ∧ named? (cs ++ w) = some (n, rest ++ v) := by
  obtain ⟨hn, a, b, c, opening, closing, after, ho, hc, rfl, rfl⟩ := exists_written h
  rw [List.append_assoc, hn.named?_written ho hc, List.dropWhile_append]
  split
  · rename_i hafter
    refine ⟨[], by simp [AllBlank], ?_⟩
    rw [List.isEmpty_iff.mp hafter, List.dropWhile_eq_nil_iff.mpr hw, List.append_nil]
  · rename_i hafter
    exact ⟨w, hw, by rw [dropSemicolon_append (by simpa using hafter)]⟩

theorem named?_append_blank_none {cs w : List Char} (hw : AllBlank w) (h : named? cs = none) :
    named? (cs ++ w) = none := by
  refine Option.eq_none_iff_forall_ne_some.mpr fun found hfound => ?_
  obtain ⟨n, rest⟩ := found
  obtain ⟨hn, a, b, c, opening, closing, after, ho, hc, heq, -⟩ := exists_written hfound
  rcases List.append_eq_append_iff.mp heq with ⟨mid, hmid, hrest⟩ | ⟨mid, rfl, -⟩
  · -- The closing quote is not blank, so that it stands in the text itself.
    obtain ⟨front, hfront⟩ : ∃ front, n.written a b c opening closing = front ++ [closing] :=
      ⟨"import".toList ++ (a.chars ++ '{' :: (n.names ++ '}' ::
        (b.chars ++ ("from".toList ++ (c.chars ++ opening :: n.module))))),
        by simp [Named.written]⟩
    cases mid using List.reverseRecOn with
    | nil =>
      rw [List.append_nil] at hmid
      have hwhole : named? (n.written a b c opening closing ++ []) = some (n, []) :=
        hn.named?_written ho hc []
      rw [List.append_nil, hmid, h] at hwhole
      cases hwhole
    | append_singleton mid d =>
      have hd : isBlank d = true := hw d (by rw [hrest]; simp)
      rw [hfront, ← List.append_assoc] at hmid
      obtain rfl : closing = d := List.singleton_inj.mp (List.append_inj' hmid rfl).2
      rw [isBlank_of_isQuote hc] at hd
      cases hd
  · rw [hn.named?_written ho hc] at h
    cases h

/-- Blanks behind a text are no part of an import, or are taken out with one. -/
theorem scan_append_blank (cs : List Char) : ∀ w, AllBlank w → ∃ v, AllBlank v ∧
    scan (cs ++ w) = ((scan cs).1, (scan cs).2 ++ v) := by
  induction cs using scan_induction with
  | nil =>
    intro w hw
    refine ⟨w, hw, ?_⟩
    simpa [scan_nil] using scan_blank hw []
  | found cs n rest h ih =>
    intro w hw
    obtain ⟨v, hv, hnamed⟩ := named?_append_blank hw h
    obtain ⟨u, hu, hrest⟩ := ih v hv
    exact ⟨u, hu, by rw [scan_of_named? hnamed, scan_of_named? h, hrest]⟩
  | skip c cs h ih =>
    intro w hw
    obtain ⟨v, hv, hrest⟩ := ih w hw
    have hnone : named? (c :: (cs ++ w)) = none := named?_append_blank_none hw h
    exact ⟨v, hv, by rw [List.cons_append, scan_cons hnone, scan_cons h, hrest]; rfl⟩

theorem scan_trim (cs : List Char) :
    (scan (trim cs)).1 = (scan cs).1 ∧ trim (scan (trim cs)).2 = trim (scan cs).2 := by
  obtain ⟨w, v, hw, hv, heq⟩ := exists_blanks cs
  obtain ⟨u, hu, hscan⟩ := scan_append_blank (trim cs) v hv
  generalize trim cs = text at heq hscan ⊢
  rw [heq, scan_blank hw, hscan]
  exact ⟨rfl, by rw [trim_blank_append hw, trim_append_blank hu]⟩

theorem merge_eq (cs : List Char) :
    merge cs = trim ((groups (scan cs).1).flatMap Group.chars ++ trim (scan cs).2) := rfl

theorem merge_trim (cs : List Char) : merge (trim cs) = merge cs := by
  rw [merge_eq, merge_eq, (scan_trim cs).1, (scan_trim cs).2]

/-! ### The lines of groups -/

/-- The group can be written as an import and read back. -/
structure Group.Fits (g : Group) : Prop where
  names : ∀ name ∈ g.names, IsBinding name
  module_ne_nil : g.module ≠ []
  quote : ∀ c ∈ g.module, isQuote c = false

/-- The import that is found in the line of a group. -/
def Group.named (g : Group) : Named := ⟨' ' :: (", ".toList.intercalate g.names ++ [' ']), g.module⟩

theorem Group.chars_append (g : Group) (rest : List Char) :
    g.chars ++ rest = g.named.chars space space space '\'' ++ '\n' :: rest := by
  delta Group.chars Named.chars Group.named space
  simp

variable {g : Group} {gs : List Group}

theorem Group.Fits.parts_named (h : g.Fits) : g.named.parts = g.names := by
  by_cases hne : g.names = []
  · have hblank : AllBlank g.named.names := by simp [Group.named, hne, AllBlank]; decide
    rw [hne]
    exact shown_blank ',' hblank
  · exact (listed_intercalate hne h.names).parts_eq

theorem Group.Fits.fits_named (h : g.Fits) : g.named.Fits := by
  refine ⟨by simp [Group.named], ?_, h.module_ne_nil, h.quote⟩
  by_cases hne : g.names = []
  · simp [Group.named, hne]
  · exact (listed_intercalate hne h.names).brace

theorem Group.Fits.named?_chars (h : g.Fits) (rest : List Char) :
    Imports.named? (g.chars ++ rest) = some (g.named, dropSemicolon (trimStart rest)) := by
  rw [g.chars_append, h.fits_named.named? (by decide)]
  rfl

theorem isBinding_of_mem_parts {n : Named} (hn : n.Fits) {name : List Char} (h : name ∈ n.parts) :
    IsBinding name := by
  obtain ⟨hmap, hne⟩ := List.mem_filter.mp h
  obtain ⟨part, hpart, rfl⟩ := List.mem_map.mp hmap
  have hmem {c : Char} (hc : c ∈ trim part) : c ∈ n.names ∧ c ≠ ',' := by
    obtain ⟨w, v, -, -, heq⟩ := exists_blanks part
    have hin : c ∈ part := by rw [heq]; simp [hc]
    obtain ⟨hnames, hcomma⟩ := mem_of_mem_cutAt hpart hin
    exact ⟨hnames, of_decide_eq_false hcomma⟩
  exact ⟨by simpa using hne, trimmed_trim part, fun hc => (hmem hc).2 rfl,
    fun hc => hn.brace (hmem hc).1⟩

theorem fits_groups {ns : List Named} (h : ∀ n ∈ ns, n.Fits) : ∀ g ∈ groups ns, g.Fits := by
  intro g hg
  have hall :=
    forall_mem_groups (fun module => module ≠ [] ∧ ∀ c ∈ module, isQuote c = false) IsBinding
    (fun n hn => ⟨⟨(h n hn).module_ne_nil, (h n hn).quote⟩,
      fun _ => isBinding_of_mem_parts (h n hn)⟩) g hg
  exact ⟨hall.2, hall.1.1, hall.1.2⟩

/-- The lines of groups are grouped as they were. -/
theorem groups_named (ht : Tidy gs) (hf : ∀ g ∈ gs, g.Fits) : groups (gs.map Group.named) = gs := by
  induction gs using List.reverseRecOn with
  | nil => rfl
  | append_singleton gs g ih =>
    obtain ⟨hgs, hg⟩ := List.forall_mem_append.mp hf
    have hg := hg g List.mem_cons_self
    have hnames := ht.names g (by simp)
    have hmodules := ht.modules
    rw [List.map_append, List.nodup_append] at hmodules
    have hnew : g.named.module ∉ gs.map Group.module := fun hmem =>
      hmodules.2.2 _ hmem g.module (by simp) rfl
    have hbefore : groups (gs.map Group.named) = gs :=
      ih ⟨hmodules.1, fun h hh => ht.names h (List.mem_append_left _ hh)⟩ hgs
    have hstep : groups ((gs ++ [g]).map Group.named) =
        addNamed g.named (groups (gs.map Group.named)) := by
      simp [groups, List.foldl_append]
    have hown : insertNames g.names [] = g.names := insertNames_of_pairwise (by simpa using hnames)
    rw [hstep, hbefore, addNamed_of_not_mem hnew, hg.parts_named, hown]
    rfl

theorem head?_chars (hne : gs ≠ []) (rest : List Char) :
    (gs.flatMap Group.chars ++ rest).head? = some 'i' := by
  obtain ⟨g, gs, rfl⟩ := List.exists_cons_of_ne_nil hne
  rfl

/-- The text begins with imports of names, each right behind the one before it, and `rest` comes
after them. -/
inductive BackToBack : List Char → List Named → List Char → Prop
  | nil (text : List Char) : BackToBack text [] text
  | cons {text after rest : List Char} {n : Named} {ns : List Named} :
      Pattern.Matches text n after →
      BackToBack after ns rest → BackToBack text (n :: ns) rest

/-- A scan finds these imports first and goes on behind them. -/
theorem BackToBack.scan_eq {text rest : List Char} {ns : List Named} (h : BackToBack text ns rest) :
    scan text = (ns ++ (scan rest).1, (scan rest).2) := by
  induction h with
  | nil text => rfl
  | cons hmatch _ ih => rw [scan_of_named? (Pattern.matches_iff.mp hmatch), ih, List.cons_append]

/-- What comes after the lines of groups: a semicolon in front of it belongs to the last of them. -/
def behind (gs : List Group) (rest : List Char) : List Char :=
  if gs = [] then rest else dropSemicolon rest

theorem behind_of_head? {rest : List Char} (h : gs ≠ [] → rest.head? ≠ some ';') :
    behind gs rest = rest := by
  unfold behind
  split
  · rfl
  · rename_i hne
    exact dropSemicolon_eq_self (h hne)

/-- The lines of groups are found one right behind the other. -/
theorem backToBack_chars (hf : ∀ g ∈ gs, g.Fits) {rest : List Char}
    (hrest : ∀ c ∈ rest.head?, isBlank c = false) :
    BackToBack (gs.flatMap Group.chars ++ rest) (gs.map Group.named) (behind gs rest) := by
  induction gs with
  | nil => exact .nil rest
  | cons g gs ih =>
    obtain ⟨hg, hgs⟩ := List.forall_mem_cons.mp hf
    rw [List.flatMap_cons, List.append_assoc]
    apply BackToBack.cons (Pattern.matches_iff.mpr (hg.named?_chars _))
    by_cases hne : gs = []
    · subst hne
      rw [List.flatMap_nil, List.nil_append, trimStart_eq_self hrest]
      exact .nil _
    · have hhead := head?_chars hne rest
      have hbehind : behind (g :: gs) rest = behind gs rest := by simp [behind, hne]
      rw [trimStart_eq_self (by simp [hhead]; decide),
        dropSemicolon_eq_self (by simp [hhead]), hbehind]
      exact ih hgs

/-- A scan finds the lines of groups, and goes on behind a semicolon that follows them. -/
theorem scan_chars (hf : ∀ g ∈ gs, g.Fits) {rest : List Char}
    (hrest : ∀ c ∈ rest.head?, isBlank c = false) :
    scan (gs.flatMap Group.chars ++ rest) = (gs.map Group.named ++ (scan (behind gs rest)).1,
      (scan (behind gs rest)).2) :=
  (backToBack_chars hf hrest).scan_eq

/-! ### Merged text -/

/-- Groups, and a text behind them in which a scan finds nothing more. -/
structure Settled (gs : List Group) (rest : List Char) : Prop where
  tidy : Tidy gs
  fits : ∀ g ∈ gs, g.Fits
  trimmed : Trimmed rest
  semicolon : gs ≠ [] → rest.head? ≠ some ';'
  nothing : (scan rest).1 = []

variable {rest : List Char}

theorem Settled.scan_chars (h : Settled gs rest) :
    scan (gs.flatMap Group.chars ++ rest) = (gs.map Group.named, rest) := by
  rw [Imports.scan_chars h.fits h.trimmed.first, behind_of_head? h.semicolon,
    scan_of_nil h.nothing, h.nothing, List.append_nil]

/-- Merging leaves such a text as it is. -/
theorem Settled.merge_chars (h : Settled gs rest) :
    merge (gs.flatMap Group.chars ++ rest) = trim (gs.flatMap Group.chars ++ rest) := by
  rw [merge_eq, h.scan_chars, groups_named h.tidy h.fits, h.trimmed.trim_eq]

theorem Settled.merge_merge {cs : List Char} (h : Settled gs rest)
    (hmerge : merge cs = trim (gs.flatMap Group.chars ++ rest)) : merge (merge cs) = merge cs := by
  rw [hmerge, merge_trim, h.merge_chars]

theorem length_trim_le (cs : List Char) : (trim cs).length ≤ cs.length := by
  obtain ⟨w, v, -, -, heq⟩ := exists_blanks cs
  have := congrArg List.length heq
  simp only [List.length_append] at this
  omega

/-- What merging leaves as it is consists of groups and a text behind them. -/
theorem exists_settled {cs : List Char} (h : merge cs = cs) :
    ∃ gs rest, Settled gs rest ∧ cs = trim (gs.flatMap Group.chars ++ rest) := by
  let gs := groups (scan cs).1
  let left := trim (scan cs).2
  have htrimmed : Trimmed left := trimmed_trim _
  have hfits : ∀ g ∈ gs, g.Fits := fits_groups (fits_of_mem_scan cs)
  have hcs : trim (gs.flatMap Group.chars ++ left) = cs := h
  -- The scan of the text ends behind the groups, so that nothing can have been taken from what it
  -- leaves.
  have hleft : left = trim (scan (behind gs left)).2 := by
    have htrim := (scan_trim (gs.flatMap Group.chars ++ left)).2
    rwa [hcs, scan_chars hfits htrimmed.first] at htrim
  have hle : left.length ≤ (scan (behind gs left)).2.length := by
    have := length_trim_le (scan (behind gs left)).2
    rwa [← hleft] at this
  obtain ⟨hscan, hnothing⟩ := length_scan_le (behind gs left)
  have hsemicolon : gs ≠ [] → left.head? ≠ some ';' := by
    intro hne hhead
    obtain ⟨tail, htail⟩ := List.head?_eq_some_iff.mp hhead
    have hshort : behind gs left = tail := by
      rw [behind, if_neg hne, htail]
      rfl
    rw [hshort] at hscan hle
    rw [htail, List.length_cons] at hle
    omega
  have hself : behind gs left = left := behind_of_head? hsemicolon
  rw [hself] at hnothing hle hscan
  exact ⟨gs, left, ⟨tidy_groups _, hfits, htrimmed, hsemicolon, hnothing (by omega)⟩, hcs.symm⟩

theorem Group.Fits.named_inj {g' : Group} (h : g.Fits) (h' : g'.Fits) (heq : g.named = g'.named) :
    g = g' := by
  have hnames : g.names = g'.names := by rw [← h.parts_named, heq, h'.parts_named]
  have hmodule : g.module = g'.module := congrArg Named.module heq
  cases g
  cases g'
  cases hnames
  cases hmodule
  rfl

theorem eq_of_map_named {hs : List Group} (hg : ∀ g ∈ gs, g.Fits) (hh : ∀ h ∈ hs, h.Fits)
    (heq : gs.map Group.named = hs.map Group.named) : gs = hs := by
  induction gs generalizing hs with
  | nil => exact (List.map_eq_nil_iff.mp heq.symm).symm
  | cons g gs ih =>
    cases hs with
    | nil => cases heq
    | cons h hs =>
      obtain ⟨hfirst, hrest⟩ := List.cons.inj heq
      obtain ⟨hg, hgs⟩ := List.forall_mem_cons.mp hg
      obtain ⟨hh, hhs⟩ := List.forall_mem_cons.mp hh
      rw [hg.named_inj hh hfirst, ih hgs hhs hrest]

theorem first_chars (h : ∀ c ∈ rest.head?, isBlank c = false) (gs : List Group) :
    ∀ c ∈ (gs.flatMap Group.chars ++ rest).head?, isBlank c = false := by
  by_cases hne : gs = []
  · subst hne
    exact h
  · rw [head?_chars hne]
    rintro c ⟨⟩
    decide

/-- Behind the lines of groups, the text goes on with lines of other groups, if there are any, and
then with a text in which a scan finds nothing more. -/
def GoesOn (gs : List Group) (text : List Char) : Prop :=
  ∃ hs rest, Settled (gs ++ hs) rest ∧ text = trim (hs.flatMap Group.chars ++ rest)

theorem GoesOn.merge_merge {cs : List Char} (h : GoesOn (groups (scan cs).1) (trim (scan cs).2)) :
    merge (merge cs) = merge cs := by
  obtain ⟨hs, rest, hsettled, hleft⟩ := h
  apply hsettled.merge_merge
  rw [merge_eq, hleft, trim_eq_trimEnd (first_chars hsettled.trimmed.first hs), trim_append_trimEnd,
    List.flatMap_append, List.append_assoc]

/-- Merging a second time changes nothing exactly if what the first time leaves of the text, behind
the imports that it merges, goes on as merged text does. -/
theorem merge_merge_eq_iff (imports : List Char) :
    merge (merge imports) = merge imports ↔
      GoesOn (groups (scan imports).1) (trim (scan imports).2) := by
  refine ⟨fun h => ?_, GoesOn.merge_merge⟩
  obtain ⟨gs, rest, hsettled, heq⟩ := exists_settled h
  have hfits : ∀ g ∈ groups (scan imports).1, g.Fits := fits_groups (fits_of_mem_scan imports)
  have hleft : Trimmed (trim (scan imports).2) := trimmed_trim _
  rw [merge_eq] at heq
  generalize groups (scan imports).1 = first at hfits heq ⊢
  generalize trim (scan imports).2 = left at hleft heq ⊢
  -- The scan of the merged text finds the groups of the imports before all others.
  obtain ⟨hs, rfl⟩ : ∃ hs, gs = first ++ hs := by
    have hscan := congrArg (fun cs => (scan cs).1) heq
    simp only [(scan_trim _).1, hsettled.scan_chars, scan_chars hfits hleft.first] at hscan
    obtain ⟨found, hs, rfl, hfound, -⟩ := List.map_eq_append_iff.mp hscan.symm
    have hsame : found = first :=
      eq_of_map_named (fun g hg => hsettled.fits g (List.mem_append_left hs hg)) hfits hfound
    exact ⟨hs, by rw [hsame]⟩
  refine ⟨hs, rest, hsettled, ?_⟩
  rw [List.flatMap_append, List.append_assoc, trim_eq_trimEnd (first_chars hleft.first first),
    trim_eq_trimEnd (first_chars (first_chars hsettled.trimmed.first hs) first)] at heq
  rw [trim_eq_trimEnd (first_chars hsettled.trimmed.first hs), ← trimEnd_append_inj heq,
    trimEnd_eq_self hleft.last]

/-- An import with two semicolons behind it. -/
def twiceClosed : List Char := "import \x7ba\x7d from 'x';;".toList

/-- The first semicolon is taken out with the import, and the second one when the text is merged
again. -/
theorem merge_merge_ne_twiceClosed : merge (merge twiceClosed) ≠ merge twiceClosed := by
  have hfirst : named? twiceClosed = some (⟨['a'], ['x']⟩, [';']) := by decide
  have hlone : scan [';'] = ([], [';']) := by rw [scan_cons (by decide), scan_nil]
  have hmerged : merge twiceClosed = "import \x7b a \x7d from 'x'\n;".toList := by
    rw [merge_eq, scan_of_named? hfirst, hlone]
    decide
  have hsecond : named? "import \x7b a \x7d from 'x'\n;".toList =
    some (⟨[' ', 'a', ' '], ['x']⟩, []) := by decide
  rw [hmerged, merge_eq, scan_of_named? hsecond, scan_nil]
  decide

end Playground.Imports
