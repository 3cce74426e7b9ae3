-- SUMMARY: Finding the end of a paragraph, and changing the attributes of neighbouring paragraphs.
import Mathlib
import DocMark.Proofs.Service.Requests

/-!
# Terminators

`terminatorFrom` finds the end of the paragraph that holds a position. The lemmas say so for units
that are given in pieces, and say what `mapParagraphs` makes of them.
-/
namespace DocMark.Service

namespace CodeUnit

variable {f : ParagraphAttributes → ParagraphAttributes}

theorem mapAttributes_of_not_isTerminator {u : CodeUnit} (h : u.isTerminator = false) :
    u.mapAttributes f = u := by
  simp [mapAttributes, h]

theorem map_mapAttributes_of_no_terminator {us : List CodeUnit}
    (h : ∀ u ∈ us, u.isTerminator = false) : us.map (mapAttributes f) = us := by
  calc
    us.map (mapAttributes f) = us.map id :=
      List.map_congr_left fun u hu => mapAttributes_of_not_isTerminator (h u hu)
    _ = us := List.map_id us

@[simp] theorem isTerminator_terminator (a : ParagraphAttributes) :
    (terminator a).isTerminator = true := rfl

end CodeUnit

namespace LocalDocument

/-! ## The end of a paragraph -/

/-- The first terminator, where there is one. -/
theorem terminatorFrom_spec {units : List CodeUnit} {position : Nat}
    (h : ∃ u ∈ units.drop position, u.isTerminator = true) :
    ∃ offset t, (units.drop position).findIdx? (·.isTerminator) = some offset
      ∧ terminatorFrom units position = position + offset
      ∧ units[position + offset]? = some t ∧ t.isTerminator = true := by
  have hfound : ((units.drop position).findIdx? (·.isTerminator)).isSome := by
    rw [List.findIdx?_isSome, List.any_eq_true]
    exact h
  obtain ⟨offset, hoffset⟩ := Option.isSome_iff_exists.mp hfound
  obtain ⟨hlt, hterm, -⟩ := List.findIdx?_eq_some_iff_getElem.mp hoffset
  refine ⟨offset, (units.drop position)[offset], hoffset, ?_, ?_, hterm⟩
  · rw [terminatorFrom, hoffset]
  · rw [← List.getElem?_drop, List.getElem?_eq_getElem hlt]

/-- No terminator is passed over. -/
theorem not_isTerminator_of_lt {units : List CodeUnit} {position offset i : Nat}
    (h : (units.drop position).findIdx? (·.isTerminator) = some offset) (hi : i < offset) :
    units[position + i]?.any (·.isTerminator) = false := by
  obtain ⟨hlt, -, hbefore⟩ := List.findIdx?_eq_some_iff_getElem.mp h
  have hi' : i < (units.drop position).length := by omega
  rw [← List.getElem?_drop, List.getElem?_eq_getElem hi']
  simpa using hbefore i hi

theorem terminatorFrom_mono (units : List CodeUnit) {p q : Nat} (hpq : p ≤ q) :
    terminatorFrom units p ≤ terminatorFrom units q := by
  cases hq : (units.drop q).findIdx? (·.isTerminator) with
  | none =>
    have hlast : terminatorFrom units q = units.length - 1 := by rw [terminatorFrom, hq]
    cases hp : (units.drop p).findIdx? (·.isTerminator) with
    | none => rw [hlast, terminatorFrom, hp]
    | some offset =>
      obtain ⟨hlt, -⟩ := List.findIdx?_eq_some_iff_getElem.mp hp
      rw [List.length_drop] at hlt
      rw [hlast, terminatorFrom, hp]
      change p + offset ≤ _
      omega
  | some later =>
    obtain ⟨hlt, hterm, -⟩ := List.findIdx?_eq_some_iff_getElem.mp hq
    have hat : units[q + later]?.any (·.isTerminator) = true := by
      rw [← List.getElem?_drop, List.getElem?_eq_getElem hlt]
      exact hterm
    have hmem : ∃ u ∈ units.drop p, u.isTerminator = true :=
      ⟨_, List.drop_subset_drop_left units hpq (List.getElem_mem hlt), hterm⟩
    obtain ⟨offset, -, hp, hfrom, -, -⟩ := terminatorFrom_spec hmem
    rw [hfrom, terminatorFrom, hq]
    change p + offset ≤ q + later
    by_contra hgt
    have hbefore := not_isTerminator_of_lt hp (i := q + later - p) (by omega)
    rw [show p + (q + later - p) = q + later by omega, hat] at hbefore
    cases hbefore

theorem terminatorFrom_append (pre : List CodeUnit) {body : List CodeUnit} {t : CodeUnit}
    (post : List CodeUnit) (hbody : ∀ u ∈ body, u.isTerminator = false)
    (ht : t.isTerminator = true) {i : Nat} (hi : i ≤ body.length) :
    terminatorFrom (pre ++ (body ++ t :: post)) (pre.length + i) = pre.length + body.length := by
  have hdrop : (pre ++ (body ++ t :: post)).drop (pre.length + i) = body.drop i ++ t :: post := by
    rw [← List.drop_drop, List.drop_left, List.drop_append_of_le_length hi]
  have hnone : (body.drop i).findIdx? (·.isTerminator) = none :=
    List.findIdx?_eq_none_iff.mpr fun u hu => hbody u (List.mem_of_mem_drop hu)
  have hfound : ((pre ++ (body ++ t :: post)).drop (pre.length + i)).findIdx? (·.isTerminator) =
      some (body.length - i) := by
    rw [hdrop, List.findIdx?_append, hnone, List.findIdx?_cons, ht]
    simp
  rw [terminatorFrom, hfound]
  change pre.length + i + (body.length - i) = _
  omega

/-- The attributes at a position are those of the terminator that follows. -/
theorem attributesAt_append (pre : List CodeUnit) {body : List CodeUnit} {t : CodeUnit}
    (post : List CodeUnit) (hbody : ∀ u ∈ body, u.isTerminator = false)
    (ht : t.isTerminator = true) {i : Nat} (hi : i ≤ body.length) :
    attributesAt (pre ++ (body ++ t :: post)) (pre.length + i) = t.paragraph.getD {} := by
  rw [attributesAt, terminatorFrom_append pre post hbody ht hi]
  simp

/-- An insertion right before the last terminator sees the attributes of that terminator. -/
theorem insertedAt_concat (text : String) (pre : List CodeUnit) {t : CodeUnit}
    (ht : t.isTerminator = true) :
    insertedAt text pre.length (pre ++ [t]) =
      pre ++ insertedUnits text (t.paragraph.getD {})
        ++ [if text.toList.contains '\n' then { t with paragraph := some {} } else t] := by
  have hattributes : attributesAt (pre ++ [t]) pre.length = t.paragraph.getD {} :=
    attributesAt_append pre (i := 0) [] (List.forall_mem_nil _) ht (le_refl 0)
  have hat : (pre ++ [t])[pre.length]? = some t := List.getElem?_concat_length
  rw [insertedAt, List.take_left, List.drop_left, hattributes, hat, Option.any_some, ht]
  cases text.toList.contains '\n' <;> rfl

/-! ## Changing stretches -/

theorem codes_mapParagraphs {first last : Nat} (h : first ≤ last)
    (f : ParagraphAttributes → ParagraphAttributes) (units : List CodeUnit) :
    (mapParagraphs first last f units).map (·.code) = units.map (·.code) :=
  codes_mapBetween (f := CodeUnit.mapAttributes f) (CodeUnit.mapAttributes_code f)
    ((terminatorFrom_mono units h).trans (Nat.le_succ _)) units

theorem mapBetween_append {first last : Nat} (f : CodeUnit → CodeUnit)
    (pre mid post : List CodeUnit) (hfirst : first = pre.length)
    (hlast : last + 1 = pre.length + mid.length) :
    mapBetween first last f (pre ++ (mid ++ post)) = pre ++ (mid.map f ++ post) := by
  have hcount : pre.length + mid.length - pre.length = mid.length := by omega
  have hpost : (pre ++ (mid ++ post)).drop (pre.length + mid.length) = post := by
    rw [← List.append_assoc, ← List.length_append, List.drop_left]
  rw [mapBetween, hfirst, hlast, hcount, hpost, List.take_left, List.drop_left, List.take_left,
    List.append_assoc]

/-- Attributes change from the paragraph that begins in `mid` to the one that ends it. -/
theorem mapParagraphs_append {first last k : Nat} (f : ParagraphAttributes → ParagraphAttributes)
    (pre mid post : List CodeUnit) (hk : k < mid.length)
    (hbody : ∀ u ∈ mid.take k, u.isTerminator = false)
    (hfirst : terminatorFrom (pre ++ (mid ++ post)) first = pre.length + k)
    (hlast : terminatorFrom (pre ++ (mid ++ post)) last + 1 = pre.length + mid.length) :
    mapParagraphs first last f (pre ++ (mid ++ post)) =
      pre ++ (mid.map (CodeUnit.mapAttributes f) ++ post) := by
  have hsplit : pre ++ (mid ++ post) = (pre ++ mid.take k) ++ (mid.drop k ++ post) := by
    simp only [List.append_assoc, List.take_append_drop, ← List.append_assoc (mid.take k)]
  have hchange : mapBetween (pre.length + k) (terminatorFrom (pre ++ (mid ++ post)) last)
      (CodeUnit.mapAttributes f) ((pre ++ mid.take k) ++ (mid.drop k ++ post)) =
      (pre ++ mid.take k) ++ ((mid.drop k).map (CodeUnit.mapAttributes f) ++ post) := by
    apply mapBetween_append
    · simp [Nat.min_eq_left hk.le]
    · simp only [List.length_append, List.length_take, List.length_drop]
      omega
  calc
    mapParagraphs first last f (pre ++ (mid ++ post))
      = mapBetween (pre.length + k) (terminatorFrom (pre ++ (mid ++ post)) last)
          (CodeUnit.mapAttributes f) ((pre ++ mid.take k) ++ (mid.drop k ++ post)) := by
        rw [← hsplit, ← hfirst]
        rfl
    _ = (pre ++ (mid.take k).map (CodeUnit.mapAttributes f))
          ++ ((mid.drop k).map (CodeUnit.mapAttributes f) ++ post) := by
        rw [hchange, CodeUnit.map_mapAttributes_of_no_terminator hbody]
    _ = pre ++ (mid.map (CodeUnit.mapAttributes f) ++ post) := by
        rw [List.append_assoc, ← List.append_assoc _ _ post, ← List.map_append,
          List.take_append_drop]

end LocalDocument

end DocMark.Service
