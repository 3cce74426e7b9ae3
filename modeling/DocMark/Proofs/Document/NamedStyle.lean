-- SUMMARY: Standard styles: which ones a service knows, and that their identifiers are read back.
import Mathlib
import DocMark.Document.NamedStyle

/-!
# Standard styles

A document service knows three styles by name and a heading style for every level from `1` to `6`.
These are the styles that `parse?` gives, and each of them is read back from its own identifier.
-/
namespace DocMark.Document.NamedStyle

/-- Whether a style is one of those that a document service knows. -/
def isStandard : NamedStyle → Bool
  | .normalText => true
  | .title => true
  | .subtitle => true
  | .heading level => 1 ≤ level && level ≤ 6

theorem isStandard_of_parse? {name : String} {style : NamedStyle}
    (h : parse? name = some style) : style.isStandard = true := by
  unfold parse? at h
  split at h
  · cases h
    rfl
  · split at h
    · cases h
      rfl
    · split at h
      · cases h
        rfl
      · obtain ⟨digits, -, h⟩ := Option.bind_eq_some_iff.mp h
        obtain ⟨level, -, h⟩ := Option.bind_eq_some_iff.mp h
        split at h
        · cases h
          simpa [isStandard, maxLevel] using ‹1 ≤ level ∧ level ≤ maxLevel›
        · cases h

theorem isStandard_ofLevel (level : Nat) : (ofLevel level).isStandard = true := by
  simp only [ofLevel, isStandard, maxLevel, Bool.and_eq_true, decide_eq_true_eq]
  omega

/-- Standard styles survive the way through their identifiers. -/
theorem parse?_name {style : NamedStyle} (h : style.isStandard = true) :
    parse? style.name = some style := by
  cases style with
  | normalText => rfl
  | title => rfl
  | subtitle => rfl
  | heading level =>
    simp only [isStandard, Bool.and_eq_true, decide_eq_true_eq] at h
    obtain ⟨hlow, hhigh⟩ := h
    interval_cases level <;> decide

/-- A heading starts with as many number signs as its level, brought into range, and a blank. -/
theorem markdownMarker_name_ofLevel (level : Nat) :
    markdownMarker (ofLevel level).name =
      String.ofList (List.replicate (min (max level 1) 6) '#' ++ [' ']) := by
  unfold ofLevel maxLevel
  have hlow : 1 ≤ min (max level 1) 6 := by omega
  have hhigh : min (max level 1) 6 ≤ 6 := by omega
  generalize min (max level 1) 6 = clamped at hlow hhigh ⊢
  interval_cases clamped <;> decide

end DocMark.Document.NamedStyle
