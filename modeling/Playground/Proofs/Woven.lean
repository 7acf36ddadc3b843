import Playground.Proofs.Patch

/-! What patches make of a code. `woven` goes through the code once and puts in, at each place, the
texts that belong there; `applyAll?_eq_woven` says that putting the patches in one after the other
comes to the same. -/

namespace Playground

open Text

/-! ### Places in a text -/

theorem Text.eq_nil_of_byteSize {cs : List Char} (h : byteSize cs = 0) : cs = [] := by
  cases cs with
  | nil => rfl
  | cons c cs =>
    have := c.utf8Size_pos
    simp at h
    omega

/-- A text is cut in one way at a byte offset. -/
theorem Text.append_inj_of_byteSize {a b a' b' : List Char} (h : a ++ b = a' ++ b')
    (hsize : byteSize a = byteSize a') :
    a = a' ∧ b = b' := by
  rcases List.append_eq_append_iff.mp h with ⟨between, rfl, rfl⟩ | ⟨between, rfl, rfl⟩
  all_goals
    obtain rfl : between = [] := eq_nil_of_byteSize (by simp at hsize; omega)
    simp

/-- A place behind the beginning of a text cuts what follows. -/
theorem Text.IsBoundary.exists_split {before rest : List Char} {n : Nat}
    (h : IsBoundary (before ++ rest) n) (hn : byteSize before ≤ n) :
    ∃ first more, rest = first ++ more ∧ byteSize before + byteSize first = n := by
  obtain ⟨start, more, heq, rfl⟩ := h
  rcases List.append_eq_append_iff.mp heq with ⟨between, rfl, rfl⟩ | ⟨between, rfl, rfl⟩
  · exact ⟨between, more, rfl, by simp⟩
  · obtain rfl : between = [] := eq_nil_of_byteSize (by simp at hn; omega)
    exact ⟨[], rest, rfl, by simp⟩

/-- A place between the ends of a part cuts that part. -/
theorem Text.IsBoundary.exists_split_middle {before part rest : List Char} {n : Nat}
    (h : IsBoundary (before ++ part ++ rest) n) (hlow : byteSize before ≤ n)
    (hhigh : n ≤ byteSize before + byteSize part) :
    ∃ first more, part = first ++ more ∧ byteSize before + byteSize first = n :=
  (Patch.isBoundary_of_le h (by simpa using hhigh)).exists_split hlow

namespace Patch

variable {patches others : List Patch} {p : Patch} {n m : Nat} {text before rest : List Char}

/-! ### Weaving -/

/-- The texts of the patches at a position, in the order in which they were given. -/
def textsAt (patches : List Patch) (n : Nat) : List Char :=
  (patches.filter fun p => p.position = n).flatMap fun p => p.text.toList

/-- A text that begins at the offset `n`, with the patches put in before its characters and at its
end. -/
def woven (patches : List Patch) : (n : Nat) → List Char → List Char
  | n, [] => textsAt patches n
  | n, c :: cs => textsAt patches n ++ c :: woven patches (n + c.utf8Size) cs

@[simp] theorem textsAt_nil (n : Nat) : textsAt [] n = [] := rfl

theorem textsAt_append (patches others : List Patch) (n : Nat) :
    textsAt (patches ++ others) n = textsAt patches n ++ textsAt others n := by
  simp [textsAt]

theorem textsAt_cons (p : Patch) (patches : List Patch) (n : Nat) :
    textsAt (p :: patches) n =
      (if p.position = n then p.text.toList else []) ++ textsAt patches n := by
  by_cases h : p.position = n <;> simp [textsAt, h]

theorem textsAt_eq_nil (h : ∀ p ∈ patches, p.text.isEmpty = false →
    p.position ≠ n) : textsAt patches n = [] := by
  simp only [textsAt, List.flatMap_eq_nil_iff, List.mem_filter, decide_eq_true_eq, and_imp]
  intro p hp hn
  cases htext : p.text.isEmpty with
  | true => simpa using htext
  | false => exact absurd hn (h p hp htext)

theorem woven_congr (h : ∀ k, textsAt patches k = textsAt others k) (n : Nat) (text : List Char) :
    woven patches n text = woven others n text := by
  induction text generalizing n with
  | nil => exact h n
  | cons c cs ih => rw [woven, woven, h, ih]

/-- Patches before a text leave it as it is. -/
theorem woven_of_lt (text : List Char)
    (h : ∀ p ∈ patches, p.position < n) : woven patches n text = text := by
  induction text generalizing n with
  | nil => exact textsAt_eq_nil fun p hp _ => Nat.ne_of_lt (h p hp)
  | cons c cs ih =>
    rw [woven, textsAt_eq_nil fun p hp _ => Nat.ne_of_lt (h p hp), List.nil_append]
    exact congrArg (c :: ·) (ih fun p hp => Nat.lt_add_right _ (h p hp))

/-- Patches up to a place and patches from it on go in apart from each other; at the place itself,
those given first come first. -/
theorem woven_append (rest : List Char) (hpatches : ∀ p ∈ patches, p.position ≤ n + byteSize before)
    (hothers : ∀ p ∈ others, n + byteSize before ≤ p.position) :
    woven (patches ++ others) n (before ++ rest) =
      woven patches n before ++ woven others (n + byteSize before) rest := by
  induction before generalizing n with
  | nil =>
    cases rest with
    | nil => exact textsAt_append patches others n
    | cons c cs =>
      have hsame : woven (patches ++ others) (n + c.utf8Size) cs =
          woven others (n + c.utf8Size) cs := by
        have hnone (k : Nat) (hk : n < k) : textsAt (patches ++ others) k = textsAt others k := by
          rw [textsAt_append, textsAt_eq_nil
            fun p hp _ => Nat.ne_of_lt (Nat.lt_of_le_of_lt (hpatches p hp) hk), List.nil_append]
        have := c.utf8Size_pos
        generalize hk : n + c.utf8Size = k
        have hlt : n < k := by omega
        clear hk
        induction cs generalizing k with
        | nil => exact hnone k hlt
        | cons d ds ih => rw [woven, woven, hnone k hlt, ih _ (by omega)]
      simp only [List.nil_append, byteSize_nil, Nat.add_zero, woven, textsAt_append, hsame,
        List.append_assoc]
  | cons c cs ih =>
    have hn : n + byteSize (c :: cs) = n + c.utf8Size + byteSize cs := by simp [Nat.add_assoc]
    rw [hn] at hpatches hothers
    have hhere : textsAt others n = [] := textsAt_eq_nil fun p hp _ => by
      have := hothers p hp
      have := c.utf8Size_pos
      omega
    rw [List.cons_append, woven, woven, textsAt_append, hhere, ih hpatches hothers, hn]
    simp

/-- One patch goes in where it says. -/
theorem woven_singleton (rest : List Char) (h : p.position = n + byteSize before) :
    woven [p] n (before ++ rest) = before ++ p.text.toList ++ rest := by
  induction before generalizing n with
  | nil =>
    have hp : p.position = n := by simpa using h
    have hhere : textsAt [p] n = p.text.toList := by simp [textsAt, hp]
    cases rest with
    | nil => simpa [woven] using hhere
    | cons c cs =>
      have := c.utf8Size_pos
      rw [List.nil_append, woven, hhere, woven_of_lt _ (by simp [hp]; omega)]
      simp
  | cons c cs ih =>
    have := c.utf8Size_pos
    have hp : p.position = n + c.utf8Size + byteSize cs := by simpa [Nat.add_assoc] using h
    have hhere : textsAt [p] n = [] := textsAt_eq_nil (by simp; omega)
    rw [List.cons_append, woven, hhere, ih hp]
    simp

/-! ### Putting the patches in -/

/-- A patch that is not behind the others goes in before what they put in. -/
theorem putIn?_woven (hp : p.text.isEmpty = false → IsBoundary text p.position)
    (hothers : ∀ q ∈ others, p.position ≤ q.position) :
    putIn? (woven others 0 text) p = some (woven (p :: others) 0 text) := by
  unfold putIn?
  split
  · rename_i hempty
    refine congrArg some (woven_congr (fun k => ?_) 0 text)
    rw [textsAt_cons, String.isEmpty_iff.mp hempty]
    simp
  · rename_i hsome
    obtain ⟨before, rest, rfl, hsize⟩ := hp (by simpa using hsome)
    have hzero : 0 + byteSize before = p.position := by omega
    have hothers' : ∀ q ∈ others, 0 + byteSize before ≤ q.position := hzero.symm ▸ hothers
    have hunder : woven others 0 (before ++ rest) = before ++ woven others p.position rest := by
      have hnone : ∀ q ∈ ([] : List Patch), q.position ≤ 0 + byteSize before := by simp
      have := woven_append rest hnone hothers'
      rwa [List.nil_append, hzero, woven_of_lt before (by simp)] at this
    have hover : woven (p :: others) 0 (before ++ rest) =
        before ++ p.text.toList ++ woven others p.position rest := by
      have hone : ∀ q ∈ [p], q.position ≤ 0 + byteSize before := by simp [hzero]
      have := woven_append rest hone hothers'
      have hfirst : woven [p] 0 before = before ++ p.text.toList := by
        simpa using woven_singleton [] hzero.symm
      rwa [List.singleton_append, hzero, hfirst] at this
    have hmin : min p.position (byteSize (before ++ woven others p.position rest)) =
        byteSize before := by
      simp only [byteSize_append]
      omega
    rw [hunder, hover, hmin, insertAt?_append]

/-- Patches that come from the last position to the first go in as they would be woven. -/
theorem foldlM_putIn?_woven (hsorted : patches.Pairwise fun a b => b.position ≤ a.position)
    (h : ∀ p ∈ patches, p.text.isEmpty = false → IsBoundary text p.position)
    (hothers : ∀ p ∈ patches, ∀ q ∈ others, p.position ≤ q.position) :
    patches.foldlM putIn? (woven others 0 text) =
      some (woven (patches.reverse ++ others) 0 text) := by
  induction hsorted generalizing others with
  | nil => rfl
  | @cons p ps hfirst _ ih =>
    rw [List.foldlM_cons, putIn?_woven (h p List.mem_cons_self) (hothers p List.mem_cons_self)]
    have hnext : ∀ q ∈ ps, ∀ o ∈ p :: others, q.position ≤ o.position := by
      intro q hq o ho
      rcases List.mem_cons.mp ho with rfl | ho
      · exact hfirst q hq
      · exact hothers q (List.mem_cons_of_mem p hq) o ho
    have := ih (fun q hq => h q (List.mem_cons_of_mem p hq)) hnext
    simpa using this

/-- At one position, patches are put in from the last given to the first. -/
theorem filter_ordered (patches : List Patch) (n : Nat) :
    (ordered patches).filter (fun p => p.position = n) =
      (patches.filter fun p => p.position = n).reverse := by
  let le (a b : Patch) : Bool := b.position ≤ a.position
  have hsub : (patches.reverse.filter fun p => p.position = n).Sublist (ordered patches) := by
    have htrans (a b c : Patch) : le a b = true → le b c = true → le a c = true := by
      simp [le]; omega
    have htotal (a b : Patch) : (le a b || le b a) = true := by simp [le]; omega
    refine List.sublist_mergeSort htrans htotal ?_ List.filter_sublist
    refine List.pairwise_of_forall_mem_list fun a ha b hb => ?_
    have ha : a.position = n := by simpa using (List.mem_filter.mp ha).2
    have hb : b.position = n := by simpa using (List.mem_filter.mp hb).2
    simp [le, ha, hb]
  have hperm : (ordered patches).Perm patches.reverse := List.mergeSort_perm _ _
  have hkept := hsub.filter fun p => decide (p.position = n)
  rw [List.filter_filter] at hkept
  simp only [Bool.and_self] at hkept
  rw [← List.filter_reverse]
  exact (hkept.eq_of_length (hperm.filter _).length_eq.symm).symm

theorem textsAt_ordered (patches : List Patch) (n : Nat) :
    textsAt (ordered patches).reverse n = textsAt patches n := by
  rw [textsAt, List.filter_reverse, filter_ordered, List.reverse_reverse, textsAt]

/-- Patches whose texts fall between characters go in where they say, and in the order given where
they say the same. -/
theorem applyAll?_eq_woven (code : String)
    (h : ∀ p ∈ patches, p.text.isEmpty = false → IsBoundary code.toList p.position) :
    applyAll? patches code = some (String.ofList (woven patches 0 code.toList)) := by
  have hin : ∀ p ∈ ordered patches, p.text.isEmpty = false → IsBoundary code.toList p.position :=
    fun p hp => h p (by simpa [ordered] using hp)
  have hnone : woven [] 0 code.toList = code.toList := woven_of_lt _ (by simp)
  have hfirst : ∀ p ∈ ordered patches, ∀ q ∈ ([] : List Patch), p.position ≤ q.position := by simp
  have hfold := foldlM_putIn?_woven (ordered_pairwise patches) hin hfirst
  rw [hnone, List.append_nil, woven_congr (textsAt_ordered patches)] at hfold
  rw [applyAll?, hfold]
  rfl

end Patch

end Playground
