-- SUMMARY: What each request needs to be accepted, and what it then makes of the units.
import Mathlib
import DocMark.Proofs.Text.Utf16
import DocMark.Service.LocalDocument

/-!
# Requests on a local document

For every kind of request one lemma says exactly when it is accepted and which document it gives.
All other statements about requests go through these. No request looks at the revision or changes
it, and only an insertion changes the codes.
-/
namespace DocMark.Service

open Document Edit Text

namespace CodeUnit

/-- A terminator with its attributes changed; any other unit as it is. -/
def mapAttributes (f : ParagraphAttributes → ParagraphAttributes) (u : CodeUnit) : CodeUnit :=
  if u.isTerminator then { u with paragraph := some (f (u.paragraph.getD {})) } else u

@[simp] theorem mapAttributes_code (f : ParagraphAttributes → ParagraphAttributes) (u : CodeUnit) :
    (u.mapAttributes f).code = u.code := by
  unfold mapAttributes
  split <;> rfl

end CodeUnit

namespace LocalDocument

variable {d d' : LocalDocument}

/-- The units after an insertion before `position`. -/
def insertedAt (text : String) (position : Nat) (units : List CodeUnit) : List CodeUnit :=
  units.take position ++ insertedUnits text (attributesAt units position)
    ++ if units[position]?.any (·.isTerminator) && text.toList.contains '\n' then
        resetFirst (units.drop position)
      else units.drop position

/-! ## Places -/

theorem checkIndex_eq_ok_iff {index : Nat} :
    d.checkIndex index = .ok () ↔ 1 ≤ index ∧ index ≤ d.endIndex := by
  unfold checkIndex
  split
  · simp only [reduceCtorEq, false_iff]
    omega
  · simp only [true_iff]
    omega

theorem checkIndex_eq_error {index : Nat} (h : ¬(1 ≤ index ∧ index ≤ d.endIndex)) :
    d.checkIndex index = .error (.indexOutside index d.endIndex) := by
  unfold checkIndex
  rw [if_pos (by omega)]

/-- A range is accepted if it is not empty and ends at the last unit at the latest. -/
theorem checkRange_eq_ok_iff {range : Range} {first last : Nat} :
    d.checkRange range = .ok (first, last) ↔
      (1 ≤ range.startIndex ∧ range.startIndex < range.endIndex ∧ range.endIndex ≤ d.endIndex + 1)
        ∧ first = range.startIndex - 1 ∧ last = range.endIndex - 2 := by
  unfold checkRange
  by_cases hempty : range.endIndex ≤ range.startIndex
  · simp only [hempty, if_true, reduceCtorEq, false_iff]
    omega
  · by_cases hstart : 1 ≤ range.startIndex ∧ range.startIndex ≤ d.endIndex
    · by_cases hstop : 1 ≤ range.endIndex - 1 ∧ range.endIndex - 1 ≤ d.endIndex
      · rw [if_neg hempty, checkIndex_eq_ok_iff.mpr hstart, checkIndex_eq_ok_iff.mpr hstop]
        simp only [bind, Except.bind, Except.ok.injEq, Prod.mk.injEq]
        omega
      · rw [if_neg hempty, checkIndex_eq_ok_iff.mpr hstart, checkIndex_eq_error hstop]
        simp only [bind, Except.bind, reduceCtorEq, false_iff]
        omega
    · rw [if_neg hempty, checkIndex_eq_error hstart]
      simp only [bind, Except.bind, reduceCtorEq, false_iff]
      omega

/-- The range of an operation is accepted if it ends at the last unit at the latest. -/
theorem checkRange_toRange {r : StyleRange} (hstart : 1 ≤ r.start) (hordered : r.start ≤ r.last)
    (hwithin : r.last ≤ d.endIndex) :
    d.checkRange r.toRange = .ok (r.start - 1, r.last - 1) := by
  refine checkRange_eq_ok_iff.mpr ⟨?_, rfl, ?_⟩
  · simp only [StyleRange.toRange, StyleRange.stop]
    omega
  · simp only [StyleRange.toRange, StyleRange.stop]
    omega

/-! ## Requests -/

theorem insertText_eq_ok_iff {text : String} {index : Nat} :
    d.insertText text index = .ok d' ↔
      text ≠ "" ∧ (1 ≤ index ∧ index ≤ d.endIndex)
        ∧ d.units[index - 1]?.any (·.isLowHalf) = false
        ∧ d' = { d with units := insertedAt text (index - 1) d.units } := by
  unfold insertText insertedAt
  by_cases htext : text = ""
  · simp [htext]
  · by_cases hindex : 1 ≤ index ∧ index ≤ d.endIndex
    · rw [if_neg (by simpa using htext), checkIndex_eq_ok_iff.mpr hindex]
      simp only [bind, Except.bind, List.head?_drop]
      cases hlow : d.units[index - 1]?.any (·.isLowHalf) with
      | true => simp
      | false =>
        simp only [Bool.false_eq_true, if_false, Except.ok.injEq, ne_eq, htext, not_false_eq_true,
          hindex, and_self, true_and]
        exact eq_comm
    · rw [if_neg (by simpa using htext), checkIndex_eq_error hindex]
      simp [bind, Except.bind, hindex]

theorem updateParagraphStyle_eq_ok_iff {style : ParagraphStyle} {range : Range} :
    d.updateParagraphStyle style range = .ok d' ↔
      ∃ named first last, NamedStyle.parse? style.namedStyleType = some named
        ∧ d.checkRange range = .ok (first, last)
        ∧ d' = { d with units := mapParagraphs first last ({ · with style := named }) d.units } := by
  unfold updateParagraphStyle
  cases NamedStyle.parse? style.namedStyleType with
  | none => simp
  | some named =>
    cases d.checkRange range with
    | error refusal => simp [bind, Except.bind]
    | ok place =>
      obtain ⟨first, last⟩ := place
      simp [bind, Except.bind, eq_comm]

theorem createParagraphBullets_eq_ok_iff {preset : String} {range : Range} :
    d.createParagraphBullets preset range = .ok d' ↔
      preset ≠ "" ∧ ∃ first last, d.checkRange range = .ok (first, last)
        ∧ d' = { d with
            units := mapParagraphs first last
              ({ · with bullet := some ⟨"list." ++ toString (d.listsCreated + 1), none⟩ }) d.units
            listsCreated := d.listsCreated + 1 } := by
  unfold createParagraphBullets
  by_cases hpreset : preset = ""
  · simp [hpreset]
  · rw [if_neg (by simpa using hpreset)]
    cases d.checkRange range with
    | error refusal => simp [bind, Except.bind]
    | ok place =>
      obtain ⟨first, last⟩ := place
      simp [bind, Except.bind, hpreset, eq_comm]

theorem updateTextStyle_eq_ok_iff {style : TextStyle} {range : Range} {fields : String} :
    d.updateTextStyle style range fields = .ok d' ↔
      ∃ first last, d.checkRange range = .ok (first, last)
        ∧ d' = if namesField fields "link" then
            { d with units := mapBetween first last ({ · with link := style.link.map (·.url) }) d.units }
          else d := by
  unfold updateTextStyle
  cases d.checkRange range with
  | error refusal => simp [bind, Except.bind]
  | ok place =>
    obtain ⟨first, last⟩ := place
    by_cases hfields : namesField fields "link" = true <;>
      simp [bind, Except.bind, hfields, eq_comm]

/-! ## Codes -/

theorem codes_insertedUnits (text : String) (containing : ParagraphAttributes) :
    (insertedUnits text containing).map (·.code) = Utf16.encode text.toList := by
  simp [insertedUnits, Function.comp_def]

theorem length_insertedUnits (text : String) (containing : ParagraphAttributes) :
    (insertedUnits text containing).length = Utf16.length text := by
  rw [insertedUnits, List.length_map, Utf16.length_encode]

theorem insertedUnits_append (s₁ s₂ : String) (containing : ParagraphAttributes) :
    insertedUnits (s₁ ++ s₂) containing = insertedUnits s₁ containing ++ insertedUnits s₂ containing := by
  simp only [insertedUnits, String.toList_append, Utf16.encode_append, List.map_append]

theorem codes_resetFirst (units : List CodeUnit) :
    (resetFirst units).map (·.code) = units.map (·.code) := by
  cases units <;> rfl

theorem codes_insertedAt (text : String) (position : Nat) (units : List CodeUnit) :
    (insertedAt text position units).map (·.code) =
      (units.map (·.code)).take position ++ Utf16.encode text.toList
        ++ (units.map (·.code)).drop position := by
  unfold insertedAt
  split <;> simp [codes_insertedUnits, codes_resetFirst, List.map_take, List.map_drop]

/-- A list is what stands before, within and behind a stretch of it. -/
theorem take_append_take_drop_append {α : Type} {i j : Nat} (h : i ≤ j) (xs : List α) :
    xs.take i ++ ((xs.drop i).take (j - i) ++ xs.drop j) = xs := by
  have hrest : xs.drop j = (xs.drop i).drop (j - i) := by rw [List.drop_drop, Nat.add_sub_cancel' h]
  rw [hrest, List.take_append_drop, List.take_append_drop]

/-- What a change leaves alone in every unit it leaves alone in all of them. -/
theorem map_mapBetween {α : Type} {g : CodeUnit → α} {f : CodeUnit → CodeUnit}
    (hf : ∀ u, g (f u) = g u) {first last : Nat} (h : first ≤ last + 1) (units : List CodeUnit) :
    (mapBetween first last f units).map g = units.map g := by
  have hmap : (((units.drop first).take (last + 1 - first)).map f).map g =
      ((units.drop first).take (last + 1 - first)).map g := by
    rw [List.map_map]
    exact List.map_congr_left fun u _ => hf u
  rw [mapBetween, List.map_append, List.map_append, hmap, ← List.map_append, ← List.map_append,
    List.append_assoc, take_append_take_drop_append h]

theorem codes_mapBetween {f : CodeUnit → CodeUnit} (hf : ∀ u, (f u).code = u.code)
    {first last : Nat} (h : first ≤ last + 1) (units : List CodeUnit) :
    (mapBetween first last f units).map (·.code) = units.map (·.code) :=
  map_mapBetween hf h units

/-! ## What requests leave alone -/

/-- No request sees the revision. -/
theorem apply_withRevision (d : LocalDocument) (r : Request) (n : Nat) :
    ({ d with revision := n } : LocalDocument).apply r =
      (d.apply r).map fun d' => { d' with revision := n } := by
  have hindex (index : Nat) :
      ({ d with revision := n } : LocalDocument).checkIndex index = d.checkIndex index := rfl
  have hrange (range : Range) :
      ({ d with revision := n } : LocalDocument).checkRange range = d.checkRange range := rfl
  cases r with
  | insertText text index =>
    simp only [apply, insertText, hindex]
    split
    · rfl
    · cases d.checkIndex index with
      | error refusal => rfl
      | ok _ =>
        simp only [bind, Except.bind]
        split <;> rfl
  | updateParagraphStyle style range fields =>
    simp only [apply, updateParagraphStyle, hrange]
    cases NamedStyle.parse? style.namedStyleType with
    | none => rfl
    | some named => cases d.checkRange range <;> rfl
  | createParagraphBullets preset range =>
    simp only [apply, createParagraphBullets, hrange]
    split
    · rfl
    · cases d.checkRange range <;> rfl
  | updateTextStyle style range fields =>
    simp only [apply, updateTextStyle, hrange]
    cases d.checkRange range with
    | error refusal => rfl
    | ok place =>
      simp only [bind, Except.bind]
      split <;> rfl

/-- A request changes units and the number of lists only. -/
theorem apply_eq_ok {r : Request} (h : d.apply r = .ok d') :
    d'.documentId = d.documentId ∧ d'.title = d.title ∧ d'.revision = d.revision := by
  cases r with
  | insertText text index =>
    obtain ⟨-, -, -, rfl⟩ := insertText_eq_ok_iff.mp h
    exact ⟨rfl, rfl, rfl⟩
  | updateParagraphStyle style range fields =>
    obtain ⟨named, first, last, -, -, rfl⟩ := updateParagraphStyle_eq_ok_iff.mp h
    exact ⟨rfl, rfl, rfl⟩
  | createParagraphBullets preset range =>
    obtain ⟨-, first, last, -, rfl⟩ := createParagraphBullets_eq_ok_iff.mp h
    exact ⟨rfl, rfl, rfl⟩
  | updateTextStyle style range fields =>
    obtain ⟨first, last, -, rfl⟩ := updateTextStyle_eq_ok_iff.mp h
    split <;> exact ⟨rfl, rfl, rfl⟩

/-! ## Properties of all units -/

section Units

variable {P Q : CodeUnit → Prop} {units : List CodeUnit}

theorem forall_mem_mapBetween {first last : Nat} {f : CodeUnit → CodeUnit} (hf : ∀ u, P u → Q (f u))
    (hkept : ∀ u, P u → Q u) (h : ∀ u ∈ units, P u) : ∀ u ∈ mapBetween first last f units, Q u := by
  intro u hu
  unfold mapBetween at hu
  rcases List.mem_append.mp hu with hu | hu
  · rcases List.mem_append.mp hu with hu | hu
    · exact hkept u (h u (List.mem_of_mem_take hu))
    · obtain ⟨v, hv, rfl⟩ := List.mem_map.mp hu
      exact hf v (h v (List.mem_of_mem_drop (List.mem_of_mem_take hv)))
  · exact hkept u (h u (List.mem_of_mem_drop hu))

/-- An insertion adds units, and it may reset the terminator that it is made before. -/
theorem forall_mem_insertedAt {text : String} {position : Nat}
    (hinserted : ∀ u ∈ insertedUnits text (attributesAt units position), P u)
    (hreset : ∀ u, u.isTerminator = true → P u → P { u with paragraph := some {} })
    (h : ∀ u ∈ units, P u) : ∀ u ∈ insertedAt text position units, P u := by
  have hdrop : ∀ u ∈ units.drop position, P u := fun u hu => h u (List.mem_of_mem_drop hu)
  intro u hu
  unfold insertedAt at hu
  rcases List.mem_append.mp hu with hu | hu
  · rcases List.mem_append.mp hu with hu | hu
    · exact h u (List.mem_of_mem_take hu)
    · exact hinserted u hu
  · split at hu
    · rename_i hsplit
      rw [Bool.and_eq_true, ← List.head?_drop] at hsplit
      obtain ⟨v, hv, hterminator⟩ := (Option.any_eq_true ..).mp hsplit.1
      obtain ⟨vs, hvs⟩ := List.head?_eq_some_iff.mp hv
      rw [hvs, List.forall_mem_cons] at hdrop
      rw [hvs, resetFirst] at hu
      rcases List.mem_cons.mp hu with rfl | hu
      · exact hreset v hterminator hdrop.1
      · exact hdrop.2 u hu
    · exact hdrop u hu

theorem attributesAt_of_forall {P : ParagraphAttributes → Prop} (hdefault : P {})
    (h : ∀ u ∈ units, P (u.paragraph.getD {})) (position : Nat) : P (attributesAt units position) := by
  unfold attributesAt
  cases hu : units[terminatorFrom units position]? with
  | none => exact hdefault
  | some u => exact h u (List.mem_of_getElem? hu)

end Units

end LocalDocument

end DocMark.Service
