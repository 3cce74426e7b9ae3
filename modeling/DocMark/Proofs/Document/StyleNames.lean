-- SUMMARY: Which names are read as a style: its own identifier, and for headings the padded ones.
import Mathlib
import DocMark.Proofs.Document.NamedStyle
import DocMark.Proofs.Text.Numerals

/-!
# Names of styles

A style is read from its identifier. A heading style is read from other names too, since its level is read as
an unsigned numeral, which may have a plus sign and zeros in front. Such a padded name is not the style's
identifier, and it has no line start of its own.
-/
namespace DocMark.Document

open Text

namespace NamedStyle

variable {name : String} {style : NamedStyle}

theorem afterStart?_eq_some_iff {start cs rest : List Char} :
    afterStart? start cs = some rest ↔ cs = start ++ rest := by
  induction start generalizing cs with
  | nil => simp [afterStart?]
  | cons s start ih =>
    cases cs with
    | nil => simp [afterStart?]
    | cons c cs =>
      rw [afterStart?, List.cons_append, List.cons.injEq]
      split
      · simp_all
      · simp_all [eq_comm]

/-- The names from which a style is read. -/
def IsReadFrom (style : NamedStyle) (name : String) : Prop :=
  match style with
  | .heading level => ∃ sign ∈ [[], ['+']], ∃ zeros,
    name = "HEADING_" ++ String.ofList (sign ++ (List.replicate zeros '0' ++ Nat.toDigits 10 level))
  | _ => name = style.name

/-- A name that starts as those of headings do is read by its level. -/
theorem parse?_heading (numeral : List Char) :
    parse? ("HEADING_" ++ String.ofList numeral) = (Decimal.readUnsigned? 255 numeral).bind fun level =>
      if 1 ≤ level ∧ level ≤ maxLevel then some (.heading level) else none := by
  have hlist : ("HEADING_" ++ String.ofList numeral).toList = "HEADING_".toList ++ numeral := by simp
  have hne (other : String) (h : other.toList.head? ≠ some 'H') :
      "HEADING_" ++ String.ofList numeral ≠ other := by
    rintro rfl
    exact h (by rw [hlist]; rfl)
  rw [parse?, if_neg (hne _ (by decide)), if_neg (hne _ (by decide)), if_neg (hne _ (by decide)), hlist,
    afterStart?_eq_some_iff.mpr rfl]
  rfl

theorem parse?_eq_some_iff :
    parse? name = some style ↔ style.isStandard = true ∧ style.IsReadFrom name := by
  constructor
  · intro h
    refine ⟨isStandard_of_parse? h, ?_⟩
    unfold parse? at h
    split_ifs at h with hnormal htitle hsubtitle
    · cases h
      exact hnormal
    · cases h
      exact htitle
    · cases h
      exact hsubtitle
    · obtain ⟨numeral, hstart, h⟩ := Option.bind_eq_some_iff.mp h
      obtain ⟨level, hread, h⟩ := Option.bind_eq_some_iff.mp h
      obtain ⟨-, heq⟩ := Option.ite_none_right_eq_some.mp h
      obtain ⟨-, sign, hsign, zeros, rfl⟩ := Decimal.readUnsigned?_eq_some_iff.mp hread
      cases heq
      have hlist := afterStart?_eq_some_iff.mp hstart
      exact ⟨sign, hsign, zeros, String.toList_inj.mp (by simp [hlist])⟩
  · rintro ⟨hstandard, hfrom⟩
    cases style with
    | heading level =>
      obtain ⟨sign, hsign, zeros, rfl⟩ := hfrom
      have hbounds : 1 ≤ level ∧ level ≤ maxLevel := by simpa [isStandard, maxLevel] using hstandard
      have hread := Decimal.readUnsigned?_eq_some_iff.mpr
        ⟨hbounds.2.trans (by decide : maxLevel ≤ 255), sign, hsign, zeros, rfl⟩
      rw [parse?_heading, hread, Option.bind_some, if_pos hbounds]
    | normalText | title | subtitle =>
      rw [hfrom]
      rfl

/-- Whether the level in a heading's name has a plus sign or a zero in front. -/
def hasPaddedLevel (name : String) : Bool :=
  ((afterStart? "HEADING_".toList name.toList).bind (·.head?)).any fun c => c = '+' || c = '0'

theorem hasPaddedLevel_heading (numeral : List Char) :
    hasPaddedLevel ("HEADING_" ++ String.ofList numeral) =
      numeral.head?.any fun c => c = '+' || c = '0' := by
  have hlist : ("HEADING_" ++ String.ofList numeral).toList = "HEADING_".toList ++ numeral := by simp
  rw [hasPaddedLevel, hlist, afterStart?_eq_some_iff.mpr rfl, Option.bind_some]

/-- The names from which a style is read are its own and padded ones. -/
theorem name_eq_iff_of_parse? (h : parse? name = some style) :
    style.name = name ↔ hasPaddedLevel name = false := by
  obtain ⟨hstandard, hfrom⟩ := parse?_eq_some_iff.mp h
  cases style with
  | heading level =>
    obtain ⟨sign, hsign, zeros, rfl⟩ := hfrom
    constructor
    · intro hown
      rw [← hown]
      obtain ⟨hlow, hhigh⟩ : 1 ≤ level ∧ level ≤ 6 := by simpa [isStandard] using hstandard
      interval_cases level <;> decide
    · intro hpadded
      rw [hasPaddedLevel_heading] at hpadded
      rcases List.mem_pair.mp hsign with rfl | rfl
      · cases zeros with
        | zero => exact congrArg ("HEADING_" ++ ·) Nat.toString_eq_ofList_toDigits
        | succ zeros => simp [List.replicate_succ] at hpadded
      · simp at hpadded
  | normalText | title | subtitle =>
    cases hfrom
    exact iff_of_true rfl (by decide)

end NamedStyle

/-! ## Line starts -/

variable {name : String} {style : NamedStyle}

/-- The names with a line start are those of styles. -/
theorem markdownMarker_eq_empty (h : NamedStyle.parse? name = some style) (hne : style.name ≠ name) :
    markdownMarker name = "" := by
  have hkeys : ∀ entry ∈ markdownMarkers, (NamedStyle.parse? entry.1).any (·.name = entry.1) := by decide
  have hnone : markdownMarkers.lookup name = none := by
    refine List.lookup_eq_none_iff.mpr fun entry hentry => ?_
    by_contra hkey
    have hname : name = entry.1 := by simpa using hkey
    have hread := hkeys entry hentry
    rw [← hname, h] at hread
    exact hne (by simpa using hread)
  rw [markdownMarker, hnone]
  rfl

/-- A name and the style read from it have the same line start just if the name is the style's own. -/
theorem markdownMarker_eq_iff_of_parse? (h : NamedStyle.parse? name = some style) :
    markdownMarker name = markdownMarker style.name ↔ NamedStyle.hasPaddedLevel name = false := by
  rw [← NamedStyle.name_eq_iff_of_parse? h]
  constructor
  · intro hmarker
    by_contra hne
    rw [markdownMarker_eq_empty h hne] at hmarker
    obtain ⟨hstandard, hfrom⟩ := NamedStyle.parse?_eq_some_iff.mp h
    cases style with
    | heading level =>
      obtain ⟨hlow, hhigh⟩ : 1 ≤ level ∧ level ≤ 6 := by simpa [NamedStyle.isStandard] using hstandard
      revert hmarker
      interval_cases level <;> decide
    | normalText | title | subtitle => exact hne hfrom.symm
  · rintro rfl
    rfl

end DocMark.Document
