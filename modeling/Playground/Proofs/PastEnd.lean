import Mathlib.Data.List.Nodup
import Playground.Proofs.Patched

/-! Patches past the end of a code. Such a patch goes in as far behind the end as it says, or behind
all that stands there by then, if that is less; so it may fall among the texts of other patches.
`InPlace` says that each of them falls where it belongs. If so, a position past the end stands for
the end; and only then, if no character occurs twice in the texts. -/

namespace Playground

open Text

/-- Of two beginnings of a text, the longer one begins with the other. -/
theorem Text.exists_append_of_byteSize_le {a b a' b' : List Char} (h : a ++ b = a' ++ b')
    (hsize : byteSize a ≤ byteSize a') : ∃ more, a' = a ++ more := by
  rcases List.append_eq_append_iff.mp h with ⟨more, rfl, -⟩ | ⟨more, rfl, -⟩
  · exact ⟨more, rfl⟩
  · obtain rfl : more = [] := eq_nil_of_byteSize (by simp at hsize; omega)
    exact ⟨[], by simp⟩

theorem Text.IsBoundary.append {text : List Char} {n : Nat} (h : IsBoundary text n)
    (rest : List Char) :
    IsBoundary (text ++ rest) n := by
  obtain ⟨before, more, rfl, hn⟩ := h
  exact ⟨before, more ++ rest, by simp, hn⟩

namespace Patch

variable {patches : List Patch} {p : Patch} {size : Nat} {code : List Char}

/-! ### Texts and their places -/

/-- The patch, at the end of a code of the given size if it is past it. -/
def within (size : Nat) (p : Patch) : Patch := { p with position := min p.position size }

/-- The patches before the end of a code of the given size. -/
def inside (size : Nat) (patches : List Patch) : List Patch := patches.filter (·.position < size)

/-- The patches at the end of a code of the given size, or past it. -/
def past (size : Nat) (patches : List Patch) : List Patch := patches.filter (size ≤ ·.position)

@[simp] theorem mem_inside : p ∈ inside size patches ↔ p ∈ patches ∧ p.position < size := by
  simp [inside]

@[simp] theorem mem_past : p ∈ past size patches ↔ p ∈ patches ∧ size ≤ p.position := by simp [past]

/-- The texts of patches, one after the other. -/
def texts (patches : List Patch) : List Char := patches.flatMap fun p => p.text.toList

@[simp] theorem texts_nil : texts [] = [] := rfl

@[simp] theorem texts_cons (p : Patch) (patches : List Patch) :
    texts (p :: patches) = p.text.toList ++ texts patches := rfl

@[simp] theorem texts_append (patches others : List Patch) :
    texts (patches ++ others) = texts patches ++ texts others := by
  simp [texts]

/-- Patches at the end of a code or past it fall where they belong. The first one of those with the
least position is put in last: all the others are there by then, and it belongs behind those that
were given before it. -/
inductive InPlace (size : Nat) : List Patch → Prop
  | nil : InPlace size []
  | last {p : Patch} {as bs : List Patch} :
      (∀ a ∈ as, p.position < a.position) → (∀ b ∈ bs, p.position ≤ b.position) →
      (p.text.isEmpty = false →
        min p.position (size + byteSize (texts as) + byteSize (texts bs)) =
          size + byteSize (texts as)) →
      InPlace size (as ++ bs) → InPlace size (as ++ p :: bs)

/-! ### The order of putting in -/

/-- Patches from the last position to the first are told by what stands at each position. -/
theorem eq_of_filter_position {ps qs : List Patch}
    (hps : ps.Pairwise fun a b => b.position ≤ a.position)
    (hqs : qs.Pairwise fun a b => b.position ≤ a.position)
    (h : ∀ n, ps.filter (fun p => p.position = n) = qs.filter fun p => p.position = n) :
    ps = qs := by
  induction hps generalizing qs with
  | nil =>
    cases qs with
    | nil => rfl
    | cons q qs => simpa using h q.position
  | @cons p ps hp _ ih =>
    cases hqs with
    | nil => simpa using h p.position
    | @cons q qs hq hqs =>
      have hmem {a : Patch} {as bs : List Patch} (hab : ∀ n, as.filter (fun p => p.position = n) =
          bs.filter fun p => p.position = n) (ha : a ∈ as) : a ∈ bs := by
        have : a ∈ as.filter fun p => p.position = a.position := by simpa using ha
        rw [hab] at this
        exact (List.mem_filter.mp this).1
      -- Each of the two first ones is somewhere in the other list, so neither is behind the other.
      have hpq : p.position = q.position := by
        have hle : p.position ≤ q.position := by
          rcases List.mem_cons.mp (hmem h List.mem_cons_self) with rfl | hin
          · exact Nat.le_refl _
          · exact hq p hin
        have hge : q.position ≤ p.position := by
          rcases List.mem_cons.mp (hmem (fun n => (h n).symm) List.mem_cons_self) with rfl | hin
          · exact Nat.le_refl _
          · exact hp q hin
        omega
      have hfirst := h p.position
      simp only [List.filter_cons, hpq, decide_true, if_true, List.cons.injEq] at hfirst
      obtain ⟨rfl, -⟩ := hfirst
      refine congrArg (p :: ·) (ih hqs fun n => ?_)
      have hn := h n
      by_cases hpn : p.position = n
      · simpa [hpn] using hn
      · simpa [hpn] using hn

/-- The first of the patches with the least position is put in last. -/
theorem ordered_first_least {as bs : List Patch} (has : ∀ a ∈ as, p.position < a.position)
    (hbs : ∀ b ∈ bs, p.position ≤ b.position) :
    ordered (as ++ p :: bs) = ordered (as ++ bs) ++ [p] := by
  refine eq_of_filter_position (ordered_pairwise _) ?_ fun n => ?_
  · refine List.pairwise_append.mpr ⟨ordered_pairwise _, List.pairwise_singleton _ _,
      fun q hq p' hp' => ?_⟩
    obtain rfl := List.mem_singleton.mp hp'
    rcases List.mem_append.mp (mem_ordered.mp hq) with hq | hq
    · exact Nat.le_of_lt (has q hq)
    · exact hbs q hq
  · rw [filter_ordered, List.filter_append (ordered (as ++ bs)), filter_ordered]
    by_cases hn : p.position = n
    · have hnone : as.filter (fun q => q.position = n) = [] := by
        refine List.filter_eq_nil_iff.mpr fun a ha => ?_
        have := has a ha
        simp only [decide_eq_true_eq]
        omega
      simp [hn, hnone]
    · simp [hn]

theorem exists_first_least (h : patches ≠ []) : ∃ as p bs, patches = as ++ p :: bs ∧
    (∀ a ∈ as, p.position < a.position) ∧ ∀ b ∈ bs, p.position ≤ b.position := by
  induction patches with
  | nil => exact absurd rfl h
  | cons q qs ih =>
    cases qs with
    | nil => exact ⟨[], q, [], rfl, by simp, by simp⟩
    | cons r rs =>
      obtain ⟨as, p, bs, heq, has, hbs⟩ := ih (List.cons_ne_nil r rs)
      by_cases hlt : p.position < q.position
      · exact ⟨q :: as, p, bs, by rw [heq]; rfl, List.forall_mem_cons.mpr ⟨hlt, has⟩, hbs⟩
      · refine ⟨[], q, r :: rs, rfl, by simp, ?_⟩
        rw [heq]
        refine List.forall_mem_append.mpr ⟨fun a ha => ?_,
          List.forall_mem_cons.mpr ⟨by omega, fun b hb => ?_⟩⟩
        · have := has a ha
          omega
        · have := hbs b hb
          omega

/-- What holds of no patches, and is kept when the one that is put in last is added, holds of all
patches. -/
theorem ordered_induction {motive : List Patch → Prop} (nil : motive [])
    (step : ∀ as p bs, (∀ a ∈ as, p.position < a.position) → (∀ b ∈ bs, p.position ≤ b.position) →
      motive (as ++ bs) → motive (as ++ p :: bs)) (patches : List Patch) : motive patches := by
  induction hlen : patches.length using Nat.strongRecOn generalizing patches with
  | ind n ih =>
    by_cases hne : patches = []
    · exact hne ▸ nil
    · obtain ⟨as, p, bs, rfl, has, hbs⟩ := exists_first_least hne
      exact step as p bs has hbs (ih _ (by simp [← hlen]) (as ++ bs) rfl)

/-! ### Falling into place -/

theorem foldlM_first_least {as bs : List Patch} (has : ∀ a ∈ as, p.position < a.position)
    (hbs : ∀ b ∈ bs, p.position ≤ b.position) (code : List Char) :
    (ordered (as ++ p :: bs)).foldlM putIn? code =
      ((ordered (as ++ bs)).foldlM putIn? code).bind fun mid => putIn? mid p := by
  rw [ordered_first_least has hbs, List.foldlM_append]
  simp

/-- Patches that fall into place come out in the order given. -/
theorem InPlace.foldlM (h : InPlace (byteSize code) patches) :
    (ordered patches).foldlM putIn? code = some (code ++ texts patches) := by
  induction h with
  | nil => simp [ordered]
  | @last p as bs has hbs hp _ ih =>
    rw [foldlM_first_least has hbs, ih, Option.bind_some, putIn?]
    split
    · rename_i hempty
      simp [String.isEmpty_iff.mp hempty]
    · rename_i hsome
      have hplace := hp (by simpa using hsome)
      have hsize : byteSize (code ++ texts (as ++ bs)) =
          byteSize code + byteSize (texts as) + byteSize (texts bs) := by
        simp [Nat.add_assoc]
      have hcut : code ++ texts (as ++ bs) = (code ++ texts as) ++ texts bs := by simp
      rw [hsize, hplace, ← byteSize_append, hcut, insertAt?_append]
      simp

/-- A text of which no character occurs twice stands in one place only. -/
theorem eq_of_append_new {xs ys xs' ys' new : List Char} (h : xs ++ new ++ ys = xs' ++ new ++ ys')
    (hdistinct : (xs' ++ new ++ ys').Nodup) (hne : new ≠ []) : xs = xs' ∧ ys = ys' := by
  obtain ⟨c, new, rfl⟩ := List.exists_cons_of_ne_nil hne
  simp only [List.append_assoc, List.cons_append] at h hdistinct
  obtain ⟨-, hc, hapart⟩ := List.nodup_append.mp hdistinct
  have hbefore : c ∉ xs' := fun hmem => hapart c hmem c List.mem_cons_self rfl
  obtain ⟨rfl, -, hrest⟩ :=
    (List.append_cons_inj_of_notMem hbefore (List.nodup_cons.mp hc).1).mp h.symm
  exact ⟨rfl, (List.append_cancel_left hrest).symm⟩

/-- If no character occurs twice, patches come out in the order given only if they fall into
place. -/
theorem inPlace_of_foldlM (hdistinct : (texts patches).Nodup)
    (hpast : ∀ p ∈ patches, byteSize code ≤ p.position)
    (h : (ordered patches).foldlM putIn? code = some (code ++ texts patches)) :
    InPlace (byteSize code) patches := by
  induction patches using ordered_induction with
  | nil => exact .nil
  | step as p bs has hbs ih =>
    have hdistinct' : (texts (as ++ bs)).Nodup := hdistinct.sublist (by simp)
    have hpast' : ∀ q ∈ as ++ bs, byteSize code ≤ q.position := fun q hq => hpast q (by
      rcases List.mem_append.mp hq with hq | hq <;> simp [hq])
    rw [foldlM_first_least has hbs] at h
    obtain ⟨mid, hmid, hput⟩ := Option.bind_eq_some_iff.mp h
    unfold putIn? at hput
    split at hput
    · rename_i hempty
      have hnone : texts (as ++ p :: bs) = texts (as ++ bs) := by
        simp [String.isEmpty_iff.mp hempty]
      rw [Option.some.injEq] at hput
      rw [hput, hnone] at hmid
      exact .last has hbs (by simp [hempty]) (ih hdistinct' hpast' hmid)
    · rename_i hsome
      obtain ⟨before, rest, rfl, hbefore, hout⟩ := exists_of_insertAt? hput
      have hpos := hpast p (by simp)
      have hsizes := congrArg byteSize hout
      simp only [texts_append, texts_cons, byteSize_append] at hsizes hbefore
      -- What comes before the text reaches behind the code.
      obtain ⟨more, rfl⟩ : ∃ more, before = code ++ more := by
        rw [List.append_assoc before] at hout
        exact exists_append_of_byteSize_le hout (by omega)
      have htail : more ++ p.text.toList ++ rest = texts as ++ p.text.toList ++ texts bs := by
        simpa using hout.symm
      have hdistinct : (texts as ++ p.text.toList ++ texts bs).Nodup := by simpa using hdistinct
      obtain ⟨rfl, rfl⟩ := eq_of_append_new htail hdistinct (by simpa using hsome)
      refine .last has hbs (fun _ => ?_) (ih hdistinct' hpast' (by simpa using hmid))
      simpa using hbefore.symm

/-! ### Patches within a code and patches past its end -/

/-- The patches at the end of a code or past it go in first. -/
theorem ordered_eq (patches : List Patch) (size : Nat) : ordered patches =
    ordered (past size patches) ++ ordered (inside size patches) := by
  refine eq_of_filter_position (ordered_pairwise _) ?_ fun n => ?_
  · refine List.pairwise_append.mpr ⟨ordered_pairwise _, ordered_pairwise _, fun a ha b hb => ?_⟩
    have ha := (mem_past.mp (mem_ordered.mp ha)).2
    have hb := (mem_inside.mp (mem_ordered.mp hb)).2
    omega
  · have hpast := filter_position (size ≤ ·) patches n
    have hinside := filter_position (· < size) patches n
    rw [List.filter_append, filter_ordered, filter_ordered, filter_ordered, past, inside,
      hpast, hinside]
    by_cases hn : size ≤ n
    · simp [hn, Nat.not_lt.mpr hn]
    · simp [hn, Nat.not_le.mp hn]

/-- What goes in at the end of a code or past it leaves the code as it is. -/
theorem exists_tail {out : List Char} (tail : List Char)
    (hpast : ∀ p ∈ patches, byteSize code ≤ p.position)
    (h : patches.foldlM putIn? (code ++ tail) = some out) : ∃ tail', out = code ++ tail' := by
  induction patches generalizing tail with
  | nil => exact ⟨tail, by simpa using h.symm⟩
  | cons p ps ih =>
    obtain ⟨hp, hps⟩ := List.forall_mem_cons.mp hpast
    rw [List.foldlM_cons] at h
    obtain ⟨mid, hmid, hrest⟩ := Option.bind_eq_some_iff.mp h
    obtain ⟨tail', rfl⟩ : ∃ tail', mid = code ++ tail' := by
      unfold putIn? at hmid
      split at hmid
      · exact ⟨tail, by simpa using hmid.symm⟩
      · obtain ⟨before, rest, heq, hbefore, rfl⟩ := exists_of_insertAt? hmid
        rw [byteSize_append] at hbefore
        obtain ⟨more, rfl⟩ := exists_append_of_byteSize_le heq (by omega)
        exact ⟨more ++ p.text.toList ++ rest, by simp⟩
    exact ih tail' hps hrest

/-- No text falls inside a character of the code. -/
def FitsInside (patches : List Patch) (code : List Char) : Prop :=
  ∀ p ∈ patches, p.text.isEmpty = false → p.position < byteSize code → IsBoundary code p.position

theorem foldlM_ordered {text : List Char} (h : ∀ p ∈ patches, p.text.isEmpty = false →
    IsBoundary text p.position) :
    (ordered patches).foldlM putIn? text = some (woven patches 0 text) := by
  have happly := applyAll?_eq_woven (String.ofList text) (by simpa using h)
  rw [applyAll?, String.toList_ofList] at happly
  obtain ⟨out, hout, heq⟩ := Option.map_eq_some_iff.mp happly
  rw [hout, String.ofList_injective heq]

/-- Patches within a code go in as they would be woven, whatever stands behind the code. -/
theorem foldlM_inside (h : FitsInside patches code) (tail : List Char) :
    (ordered (inside (byteSize code) patches)).foldlM putIn? (code ++ tail) =
      some (woven (inside (byteSize code) patches) 0 code ++ tail) := by
  have hplaces : ∀ p ∈ inside (byteSize code) patches, p.text.isEmpty = false →
      IsBoundary (code ++ tail) p.position := fun p hp hsome =>
    (h p (mem_inside.mp hp).1 hsome (mem_inside.mp hp).2).append tail
  have hbefore : ∀ p ∈ inside (byteSize code) patches, p.position ≤ 0 + byteSize code :=
      fun p hp => by
    have := (mem_inside.mp hp).2
    omega
  have hwoven : woven (inside (byteSize code) patches ++ []) 0 (code ++ tail) =
      woven (inside (byteSize code) patches) 0 code ++ woven [] (0 + byteSize code) tail :=
    woven_append tail hbefore (by simp)
  rw [List.append_nil, woven_of_lt tail (by simp)] at hwoven
  rw [foldlM_ordered hplaces, hwoven]

theorem fitsInside_of_foldlM {out tail : List Char}
    (h : (ordered (inside (byteSize code) patches)).foldlM putIn? (code ++ tail) = some out) :
    FitsInside patches code := by
  intro p hp hsome hlt
  have hin : ∀ q ∈ inside (byteSize code) patches, q.position ≤ byteSize (code ++ tail) := by
    intro q hq
    have := (mem_inside.mp hq).2
    rw [byteSize_append]
    omega
  have hplace := isBoundary_of_ordered hin h p (mem_inside.mpr ⟨hp, hlt⟩) hsome
  exact isBoundary_of_le hplace (Nat.le_of_lt hlt)

/-- Patches go in as those within the code would be woven, with what the others make of the end
behind it. -/
theorem foldlM_ordered_eq_some_iff {out : List Char} :
    (ordered patches).foldlM putIn? code = some out ↔
      FitsInside patches code ∧
        ∃ tail, (ordered (past (byteSize code) patches)).foldlM putIn? code = some (code ++ tail) ∧
          out = woven (inside (byteSize code) patches) 0 code ++ tail := by
  rw [ordered_eq patches (byteSize code), List.foldlM_append]
  constructor
  · intro h
    obtain ⟨mid, hmid, hrest⟩ := Option.bind_eq_some_iff.mp h
    have hpast : ∀ p ∈ ordered (past (byteSize code) patches), byteSize code ≤ p.position :=
      fun p hp => (mem_past.mp (mem_ordered.mp hp)).2
    obtain ⟨tail, rfl⟩ := exists_tail [] hpast (by rwa [List.append_nil])
    have hfits := fitsInside_of_foldlM hrest
    rw [foldlM_inside hfits, Option.some.injEq] at hrest
    exact ⟨hfits, tail, hmid, hrest.symm⟩
  · rintro ⟨hfits, tail, hpast, rfl⟩
    rw [hpast]
    exact foldlM_inside hfits tail

/-! ### Positions moved to the end -/

theorem inPlace_of_position_eq (h : ∀ p ∈ patches, p.position = size) : InPlace size patches := by
  induction patches with
  | nil => exact .nil
  | cons p ps ih =>
    obtain ⟨hp, hps⟩ := List.forall_mem_cons.mp h
    have hrest : ∀ q ∈ ps, p.position ≤ q.position :=
      fun q hq => Nat.le_of_eq (hp.trans (hps q hq).symm)
    have hall : InPlace size ([] ++ p :: ps) := .last (by simp) hrest (by simp [hp]) (ih hps)
    exact hall

theorem inside_map_within (size : Nat) (patches : List Patch) :
    inside size (patches.map (within size)) = inside size patches := by
  induction patches with
  | nil => rfl
  | cons p ps ih =>
    unfold inside at ih ⊢
    by_cases hp : p.position < size
    · simp [hp, ih, within, Nat.min_eq_left (Nat.le_of_lt hp)]
    · simp [hp, ih, within, Nat.min_eq_right (Nat.not_lt.mp hp)]

theorem past_map_within (size : Nat) (patches : List Patch) :
    past size (patches.map (within size)) = (past size patches).map (within size) := by
  have hsame : (fun p : Patch => decide (size ≤ p.position)) ∘ within size =
      fun p => decide (size ≤ p.position) := by
    funext p
    exact decide_eq_decide.mpr (by simp only [within]; omega)
  rw [past, List.filter_map, hsame, past]

theorem texts_map_within (size : Nat) (patches : List Patch) :
    texts (patches.map (within size)) = texts patches := by
  simp [texts, within, List.flatMap_map]

theorem fitsInside_map_within :
    FitsInside (patches.map (within (byteSize code))) code ↔ FitsInside patches code := by
  have hsame (p : Patch) : (within (byteSize code) p).position < byteSize code ↔
      p.position < byteSize code := by
    simp only [within]
    omega
  constructor
  · intro h p hp hsome hlt
    have hplace := h (within (byteSize code) p) (List.mem_map_of_mem hp) hsome ((hsame p).mpr hlt)
    simpa [within, Nat.min_eq_left (Nat.le_of_lt hlt)] using hplace
  · intro h q hq hsome hlt
    obtain ⟨p, hp, rfl⟩ := List.mem_map.mp hq
    have hlt := (hsame p).mp hlt
    simpa [within, Nat.min_eq_left (Nat.le_of_lt hlt)] using h p hp hsome hlt

/-- Patches at the end of a code come out in the order given. -/
theorem foldlM_map_within_eq_some_iff {out : List Char} :
    (ordered (patches.map (within (byteSize code)))).foldlM putIn? code = some out ↔
      FitsInside patches code ∧
        out = woven (inside (byteSize code) patches) 0 code ++
          texts (past (byteSize code) patches) := by
  have hend : ∀ p ∈ (past (byteSize code) patches).map (within (byteSize code)),
      p.position = byteSize code := by
    intro q hq
    obtain ⟨p, hp, rfl⟩ := List.mem_map.mp hq
    exact Nat.min_eq_right (mem_past.mp hp).2
  rw [foldlM_ordered_eq_some_iff, inside_map_within, past_map_within, fitsInside_map_within,
    (inPlace_of_position_eq hend).foldlM, texts_map_within]
  simp

/-- Positions past the end stand for the end if the patches there fall where they belong, and
otherwise only if some character occurs twice in their texts, or a text falls inside a character of
the code. -/
theorem applyAll?_within (patches : List Patch) (code : String) :
    (InPlace (byteSize code.toList) (past (byteSize code.toList) patches) →
      applyAll? patches code = applyAll? (patches.map (within (byteSize code.toList))) code ∧
      ∀ out, applyAll? patches code = some out →
        out.toList = woven (inside (byteSize code.toList) patches) 0 code.toList ++
          texts (past (byteSize code.toList) patches)) ∧
    (FitsInside patches code.toList → (texts (past (byteSize code.toList) patches)).Nodup →
      applyAll? patches code = applyAll? (patches.map (within (byteSize code.toList))) code →
      InPlace (byteSize code.toList) (past (byteSize code.toList) patches)) := by
  constructor
  · intro h
    have hfold (out : List Char) : (ordered patches).foldlM putIn? code.toList = some out ↔
        FitsInside patches code.toList ∧
          out = woven (inside (byteSize code.toList) patches) 0 code.toList ++
          texts (past (byteSize code.toList) patches) := by
      rw [foldlM_ordered_eq_some_iff, h.foldlM]
      simp
    constructor
    · have hsame : (ordered patches).foldlM putIn? code.toList =
          (ordered (patches.map (within (byteSize code.toList)))).foldlM putIn? code.toList :=
        Option.ext fun out => (hfold out).trans foldlM_map_within_eq_some_iff.symm
      rw [applyAll?, hsame, applyAll?]
    · intro out hout
      obtain ⟨chars, hchars, rfl⟩ := Option.map_eq_some_iff.mp hout
      rw [String.toList_ofList]
      exact ((hfold chars).mp hchars).2
  · intro hfits hdistinct heq
    have hwithin := foldlM_map_within_eq_some_iff.mpr ⟨hfits, rfl⟩
    rw [applyAll?, applyAll?, hwithin, Option.map_some] at heq
    obtain ⟨chars, hchars, hsame⟩ := Option.map_eq_some_iff.mp heq
    obtain rfl := String.ofList_injective hsame
    obtain ⟨-, tail, htail, hout⟩ := foldlM_ordered_eq_some_iff.mp hchars
    obtain rfl := List.append_cancel_left hout
    exact inPlace_of_foldlM hdistinct (fun p hp => (mem_past.mp hp).2) htail

/-- Two texts as far past the end as the one before them in the text reaches. -/
def pastAccent : List Patch := [⟨2, "a"⟩, ⟨9, "bc"⟩, ⟨4, "d"⟩, ⟨0, "<"⟩, ⟨4, "e"⟩]

theorem applyAll?_within_pastAccent :
    InPlace 2 (past 2 pastAccent) ∧ applyAll? pastAccent "é" = some "<éabcde" ∧
    applyAll? pastAccent "é" = applyAll? (pastAccent.map (within 2)) "é" := by
  have hplace : InPlace 2 (past 2 pastAccent) := by
    have hbc : InPlace 2 ([] ++ ⟨9, "bc"⟩ :: []) := .last (by decide) (by decide) (by decide) .nil
    have he : InPlace 2 ([⟨9, "bc"⟩] ++ ⟨4, "e"⟩ :: []) :=
      .last (by decide) (by decide) (by decide) hbc
    have hd : InPlace 2 ([⟨9, "bc"⟩] ++ ⟨4, "d"⟩ :: [⟨4, "e"⟩]) :=
      .last (by decide) (by decide) (by decide) he
    have ha : InPlace 2 ([] ++ ⟨2, "a"⟩ :: [⟨9, "bc"⟩, ⟨4, "d"⟩, ⟨4, "e"⟩]) :=
      .last (by decide) (by decide) (by decide) hd
    exact ha
  have hordered : ordered pastAccent = [⟨9, "bc"⟩, ⟨4, "e"⟩, ⟨4, "d"⟩, ⟨2, "a"⟩, ⟨0, "<"⟩] := by
    simp [ordered, pastAccent, List.mergeSort, List.MergeSort.Internal.splitInTwo]
  have hout : applyAll? pastAccent "é" = some "<éabcde" := by
    rw [applyAll?, hordered]
    decide
  exact ⟨hplace, hout, ((applyAll?_within pastAccent "é").1 hplace).1⟩

/-- Two texts at one offset past the end come out in the wrong order. -/
theorem applyAll?_swaps_pastEnd :
    applyAll? [⟨3, "1"⟩, ⟨3, "2"⟩] "ab" ≠
      applyAll? ([⟨3, "1"⟩, ⟨3, "2"⟩].map (within (byteSize "ab".toList))) "ab" := by
  have hordered (n : Nat) : ordered [⟨n, "1"⟩, ⟨n, "2"⟩] = [⟨n, "2"⟩, ⟨n, "1"⟩] := by
    simp [ordered, List.mergeSort, List.MergeSort.Internal.splitInTwo]
  have hgiven : applyAll? [⟨3, "1"⟩, ⟨3, "2"⟩] "ab" = some "ab21" := by
    rw [applyAll?, hordered]
    decide
  have hwithin : applyAll? [⟨2, "1"⟩, ⟨2, "2"⟩] "ab" = some "ab12" := by
    rw [applyAll?, hordered]
    decide
  rw [hgiven, show [⟨3, "1"⟩, ⟨3, "2"⟩].map (within (byteSize "ab".toList)) =
    [⟨2, "1"⟩, ⟨2, "2"⟩] by decide, hwithin]
  decide

end Patch

end Playground
