import Playground.Proofs.Woven

/-! Which patches can be put in, and what they leave of a code. If no position is past the end,
patches can be put in exactly if their texts fall between characters; the code is then still there,
around the texts, and `unwoven` takes it out again. -/

namespace Playground

open Text

/-! ### Places in a text -/

theorem Text.isBoundary_zero (text : List Char) : IsBoundary text 0 := ⟨[], text, rfl, rfl⟩

theorem Text.isBoundary_cons {c : Char} {cs : List Char} {n : Nat} :
    IsBoundary (c :: cs) n ↔ n = 0 ∨ c.utf8Size ≤ n ∧ IsBoundary cs (n - c.utf8Size) := by
  constructor
  · rintro ⟨before, rest, heq, hn⟩
    cases before with
    | nil => exact .inl hn.symm
    | cons d before =>
      cases heq
      rw [byteSize_cons] at hn
      exact .inr ⟨by omega, before, rest, rfl, by omega⟩
  · rintro (rfl | ⟨hle, before, rest, rfl, hn⟩)
    · exact isBoundary_zero _
    · exact ⟨c :: before, rest, rfl, by rw [byteSize_cons]; omega⟩

namespace Patch

variable {patches others : List Patch} {p : Patch} {n m : Nat} {text out : List Char}

/-! ### Texts that cannot be put in -/

/-- A text that is put in at an offset parts the code there. -/
theorem exists_of_insertAt? {new : List Char} (h : insertAt? new n text = some out) :
    ∃ before rest, text = before ++ rest ∧ byteSize before = n ∧ out = before ++ new ++ rest := by
  induction text generalizing n out with
  | nil =>
    cases n with
    | zero =>
      cases h
      exact ⟨[], [], rfl, rfl, rfl⟩
    | succ n => cases h
  | cons c cs ih =>
    cases n with
    | zero =>
      cases h
      exact ⟨[], c :: cs, rfl, rfl, rfl⟩
    | succ n =>
      unfold insertAt? at h
      split at h
      · obtain ⟨out', hout, rfl⟩ := Option.map_eq_some_iff.mp h
        obtain ⟨before, rest, rfl, hsize, rfl⟩ := ih hout
        exact ⟨c :: before, rest, rfl, by rw [byteSize_cons]; omega, rfl⟩
      · cases h

theorem byteSize_le_woven (patches : List Patch) (n : Nat) (text : List Char) :
    byteSize text ≤ byteSize (woven patches n text) := by
  induction text generalizing n with
  | nil => exact Nat.zero_le _
  | cons c cs ih =>
    have := ih (n + c.utf8Size)
    simp only [woven, byteSize_append, byteSize_cons]
    omega

/-- Up to the first of its patches, a woven text has the places of the text. -/
theorem isBoundary_of_woven (hm : m ≤ byteSize text) (hpatches : ∀ p ∈ patches, n + m ≤ p.position)
    (h : IsBoundary (woven patches n text) m) : IsBoundary text m := by
  induction text generalizing n m with
  | nil =>
    obtain rfl : m = 0 := Nat.le_zero.mp hm
    exact isBoundary_zero _
  | cons c cs ih =>
    rcases Nat.eq_zero_or_pos m with rfl | hpos
    · exact isBoundary_zero _
    have hhere : textsAt patches n = [] := textsAt_eq_nil fun p hp _ => by
      have := hpatches p hp
      omega
    rw [woven, hhere, List.nil_append, isBoundary_cons] at h
    obtain rfl | ⟨hle, hrest⟩ := h
    · omega
    have hsize : m - c.utf8Size ≤ byteSize cs := by
      rw [byteSize_cons] at hm
      omega
    have hlater : ∀ p ∈ patches, n + c.utf8Size + (m - c.utf8Size) ≤ p.position := fun p hp => by
      have := hpatches p hp
      omega
    exact isBoundary_cons.mpr (.inr ⟨hle, ih hsize hlater hrest⟩)

/-- A text goes in before what the others put in only if it falls between characters. -/
theorem isBoundary_of_putIn? (hp : p.position ≤ byteSize text)
    (hothers : ∀ q ∈ others, p.position ≤ q.position)
    (h : putIn? (woven others 0 text) p = some out) (hsome : p.text.isEmpty = false) :
    IsBoundary text p.position := by
  have hsize := byteSize_le_woven others 0 text
  rw [putIn?, if_neg (by simp [hsome]), Nat.min_eq_left (Nat.le_trans hp hsize)] at h
  obtain ⟨before, rest, heq, hbefore, -⟩ := exists_of_insertAt? h
  exact isBoundary_of_woven hp (by simpa using hothers) ⟨before, rest, heq, hbefore⟩

/-- Patches that come from the last position to the first go in only if each text falls between
characters. -/
theorem isBoundary_of_foldlM (hsorted : patches.Pairwise fun a b => b.position ≤ a.position)
    (hin : ∀ p ∈ patches, p.position ≤ byteSize text)
    (hothers : ∀ p ∈ patches, ∀ q ∈ others, p.position ≤ q.position)
    (h : patches.foldlM putIn? (woven others 0 text) = some out) :
    ∀ p ∈ patches, p.text.isEmpty = false → IsBoundary text p.position := by
  induction hsorted generalizing others with
  | nil => simp
  | @cons p ps hfirst _ ih =>
    obtain ⟨hp, hps⟩ := List.forall_mem_cons.mp hin
    obtain ⟨hpo, hpso⟩ := List.forall_mem_cons.mp hothers
    rw [List.foldlM_cons] at h
    obtain ⟨mid, hmid, hrest⟩ := Option.bind_eq_some_iff.mp h
    have hhere : p.text.isEmpty = false → IsBoundary text p.position :=
      isBoundary_of_putIn? hp hpo hmid
    -- So far all is woven, and the others find it so.
    rw [putIn?_woven hhere hpo] at hmid
    cases hmid
    have hnext : ∀ q ∈ ps, ∀ o ∈ p :: others, q.position ≤ o.position := fun q hq =>
      List.forall_mem_cons.mpr ⟨hfirst q hq, hpso q hq⟩
    exact List.forall_mem_cons.mpr ⟨hhere, ih hps hnext hrest⟩

@[simp] theorem mem_ordered : p ∈ ordered patches ↔ p ∈ patches := by simp [ordered]

theorem isBoundary_of_ordered (h : ∀ p ∈ patches, p.position ≤ byteSize text)
    (hout : (ordered patches).foldlM putIn? text = some out) :
    ∀ p ∈ patches, p.text.isEmpty = false → IsBoundary text p.position := by
  have hin : ∀ p ∈ ordered patches, p.position ≤ byteSize text :=
    fun p hp => h p (mem_ordered.mp hp)
  have hnone : woven [] 0 text = text := woven_of_lt _ (by simp)
  rw [← hnone] at hout
  have hall := isBoundary_of_foldlM (ordered_pairwise patches) hin (by simp) hout
  exact fun p hp => hall p (mem_ordered.mpr hp)

theorem isBoundary_of_applyAll? {code result : String}
    (h : ∀ p ∈ patches, p.position ≤ byteSize code.toList)
    (hresult : applyAll? patches code = some result) :
    ∀ p ∈ patches, p.text.isEmpty = false → IsBoundary code.toList p.position := by
  obtain ⟨out, hout, -⟩ := Option.map_eq_some_iff.mp hresult
  exact isBoundary_of_ordered h hout

/-! ### Texts around a place -/

theorem filter_position (keeps : Nat → Bool) (patches : List Patch) (n : Nat) :
    (patches.filter (keeps ·.position)).filter (·.position = n) =
      if keeps n then patches.filter (·.position = n) else [] := by
  rw [List.filter_filter]
  split
  · rename_i hn
    refine List.filter_congr fun p _ => ?_
    by_cases hp : p.position = n <;> simp [hp, hn]
  · rename_i hn
    refine List.filter_eq_nil_iff.mpr fun p _ => ?_
    by_cases hp : p.position = n <;> simp [hp, hn]

theorem textsAt_filter (keeps : Nat → Bool) (patches : List Patch) (n : Nat) :
    textsAt (patches.filter (keeps ·.position)) n = if keeps n then textsAt patches n else [] := by
  unfold textsAt
  rw [filter_position]
  split <;> rfl

/-- Patches may be sorted into those before an offset, those at it and those behind it. -/
theorem textsAt_apart (patches : List Patch) (n k : Nat) :
    textsAt patches k = textsAt (patches.filter (·.position < n) ++
      (patches.filter (·.position = n) ++ patches.filter (n < ·.position))) k := by
  have hfirst : textsAt (patches.filter (·.position < n)) k =
      if k < n then textsAt patches k else [] := by
    simpa using textsAt_filter (· < n) patches k
  have hhere : textsAt (patches.filter (·.position = n)) k =
      if k = n then textsAt patches k else [] := by
    simpa using textsAt_filter (· = n) patches k
  have hlater : textsAt (patches.filter (n < ·.position)) k =
      if n < k then textsAt patches k else [] := by
    simpa using textsAt_filter (n < ·) patches k
  rw [textsAt_append, textsAt_append, hfirst, hhere, hlater]
  rcases Nat.lt_trichotomy k n with hk | hk | hk <;>
    simp [hk, Nat.ne_of_lt, Nat.ne_of_gt, Nat.lt_asymm]

/-- At every place of a text stand the texts that belong there, between what the patches before make
of the beginning and what those behind make of the rest. -/
theorem woven_around (patches : List Patch) (before rest : List Char) :
    woven patches 0 (before ++ rest) =
      woven (patches.filter (·.position < byteSize before)) 0 before ++
        textsAt patches (byteSize before) ++
        woven (patches.filter (byteSize before < ·.position)) (byteSize before) rest := by
  have hbefore : ∀ p ∈ patches.filter (·.position < byteSize before), p.position ≤
      0 + byteSize before :=
    fun p hp => by
      simp only [List.mem_filter, decide_eq_true_eq] at hp
      omega
  have hat : ∀ p ∈ patches.filter (·.position = byteSize before), p.position = byteSize before :=
      fun p hp => by
    simpa using (List.mem_filter.mp hp).2
  have hbehind : ∀ p ∈ patches.filter (byteSize before < ·.position), byteSize before ≤
      p.position := fun p hp => by
    simp only [List.mem_filter, decide_eq_true_eq] at hp
    omega
  have hfrom : ∀ p ∈ patches.filter (·.position = byteSize before) ++
      patches.filter (byteSize before < ·.position), 0 + byteSize before ≤ p.position := by
    rw [Nat.zero_add]
    exact List.forall_mem_append.mpr ⟨fun p hp => Nat.le_of_eq (hat p hp).symm, hbehind⟩
  have hhere : textsAt (patches.filter (·.position = byteSize before)) (byteSize before) =
      textsAt patches (byteSize before) := by
    simpa using textsAt_filter (· = byteSize before) patches (byteSize before)
  have hmiddle :
      woven (patches.filter (·.position = byteSize before) ++
          patches.filter (byteSize before < ·.position)) (byteSize before) ([] ++ rest) =
        textsAt (patches.filter (·.position = byteSize before)) (byteSize before) ++
          woven (patches.filter (byteSize before < ·.position)) (byteSize before) rest :=
    woven_append rest (fun p hp => Nat.le_of_eq (hat p hp)) hbehind
  rw [woven_congr (textsAt_apart patches (byteSize before)), woven_append rest hbefore hfrom,
    Nat.zero_add, ← hhere, List.append_assoc, ← hmiddle, List.nil_append]

/-! ### The code without the texts -/

/-- A text, of which `skip` more characters are left out, without the texts of the patches behind
the offset `n`. -/
def unwovenFrom (patches : List Patch) (n skip : Nat) : List Char → List Char
  | [] => []
  | c :: cs =>
    match skip with
    | skip + 1 => unwovenFrom patches n skip cs
    | 0 => c :: unwovenFrom patches (n + c.utf8Size) (textsAt patches (n + c.utf8Size)).length cs

/-- A code without the texts that patches put in. -/
def unwoven (patches : List Patch) (cs : List Char) : List Char :=
  unwovenFrom patches 0 (textsAt patches 0).length cs

theorem unwovenFrom_append (patches : List Patch) (n : Nat) (new cs : List Char) :
    unwovenFrom patches n new.length (new ++ cs) = unwovenFrom patches n 0 cs := by
  induction new with
  | nil => rfl
  | cons c new ih => exact ih

theorem unwovenFrom_woven (patches : List Patch) (n : Nat) (text : List Char) :
    unwovenFrom patches n (textsAt patches n).length (woven patches n text) = text := by
  induction text generalizing n with
  | nil => simpa [woven, unwovenFrom] using unwovenFrom_append patches n (textsAt patches n) []
  | cons c cs ih => rw [woven, unwovenFrom_append, unwovenFrom, ih]

/-! ### Putting the patches in -/

/-- Patches within a code can be put in exactly if their texts fall between characters. They go in
where they say, in the order given where they say the same, whatever else goes in; and without their
texts the code is as it was. -/
theorem applyAll?_weaves {code : String} (h : ∀ p ∈ patches, p.position ≤ byteSize code.toList) :
    ((applyAll? patches code).isSome ↔
      ∀ p ∈ patches, p.text.isEmpty = false → IsBoundary code.toList p.position) ∧
    ∀ out, applyAll? patches code = some out →
      out.toList = woven patches 0 code.toList ∧ unwoven patches out.toList = code.toList ∧
      ∀ before rest, code.toList = before ++ rest →
        out.toList = woven (patches.filter (·.position < byteSize before)) 0 before ++
          textsAt patches (byteSize before) ++
          woven (patches.filter (byteSize before < ·.position)) (byteSize before) rest := by
  refine ⟨⟨fun hsome => ?_, fun hall => ?_⟩, fun out hout => ?_⟩
  · obtain ⟨out, hout⟩ := Option.isSome_iff_exists.mp hsome
    exact isBoundary_of_applyAll? h hout
  · rw [applyAll?_eq_woven code hall]
    rfl
  · rw [applyAll?_eq_woven code (isBoundary_of_applyAll? h hout)] at hout
    cases hout
    rw [String.toList_ofList]
    refine ⟨rfl, unwovenFrom_woven patches 0 code.toList, fun before rest hcode => ?_⟩
    rw [hcode, woven_around]

/-- Texts at both ends, two at one place, and an empty one inside a character. -/
def aroundAccent : List Patch := [⟨3, ">"⟩, ⟨1, "1"⟩, ⟨0, "<"⟩, ⟨2, ""⟩, ⟨1, "2"⟩]

theorem applyAll?_weaves_aroundAccent : (∀ p ∈ aroundAccent, p.position ≤ byteSize "aé".toList) ∧
    applyAll? aroundAccent "aé" = some "<a12é>" ∧
    "<a12é>".toList = woven aroundAccent 0 "aé".toList ∧
    unwoven aroundAccent "<a12é>".toList = "aé".toList := by
  have hin : ∀ p ∈ aroundAccent, p.position ≤ byteSize "aé".toList := by decide
  have hordered : ordered aroundAccent = [⟨3, ">"⟩, ⟨2, ""⟩, ⟨1, "2"⟩, ⟨1, "1"⟩, ⟨0, "<"⟩] := by
    simp [ordered, aroundAccent, List.mergeSort, List.MergeSort.Internal.splitInTwo]
  have hout : applyAll? aroundAccent "aé" = some "<a12é>" := by
    rw [applyAll?, hordered]
    decide
  obtain ⟨hwoven, hunwoven, -⟩ := (applyAll?_weaves hin).2 "<a12é>" hout
  exact ⟨hin, hout, hwoven, hunwoven⟩

end Patch

end Playground
