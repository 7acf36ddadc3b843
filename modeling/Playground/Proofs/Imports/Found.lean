import Playground.Proofs.Imports.Merged

/-! What is found in merged text. The imports of a text are grouped and printed, and a scan cuts
what was printed at the same places again: whatever the text is, its merged form begins with the
imports of the groups, one right behind the other. -/

namespace Playground.Imports

open Text

namespace BackToBack

variable {text rest : List Char} {ns : List Named}

/-- Imports do not reach into blanks at the end of a text. -/
theorem of_append_blank {w : List Char} (hw : AllBlank w) (h : BackToBack (text ++ w) ns rest) :
    ∃ rest' v, AllBlank v ∧ rest = rest' ++ v ∧ BackToBack text ns rest' := by
  generalize hwhole : text ++ w = whole at h
  induction h generalizing text w with
  | nil => exact ⟨text, w, hw, hwhole.symm, .nil text⟩
  | @cons whole after rest n ns hmatch _ ih =>
    subst hwhole
    have hnamed := Pattern.matches_iff.mp hmatch
    cases hfound : named? text with
    | none =>
      rw [named?_append_blank_none hw hfound] at hnamed
      cases hnamed
    | some found =>
      obtain ⟨m, before⟩ := found
      obtain ⟨v, hv, hwith⟩ := named?_append_blank hw hfound
      obtain ⟨rfl, rfl⟩ : n = m ∧ after = before ++ v := by simpa [hwith] using hnamed.symm
      obtain ⟨rest', u, hu, hrest, hback⟩ := ih hv rfl
      exact ⟨rest', u, hu, hrest, .cons (Pattern.matches_iff.mpr hfound) hback⟩

end BackToBack

/-! ### Merged text -/

variable {gs : List Group} {rest : List Char}

end Playground.Imports
