-- SUMMARY: Operations at the end of a document: what they make of the attributes of its paragraphs.
import Mathlib
import DocMark.Proofs.Edit.Acceptance
import DocMark.Proofs.Service.Attributes

/-!
# Operations at the end of a document

What a builder inserts stands right before the last terminator of a new document, and a range that sets
a style or bullets ends there. An insertion leaves the attributes of what was written before alone. A
range changes all paragraphs from its first position on, if a paragraph begins there, except that the
last terminator may be past its end.
-/
namespace DocMark

open Document Edit Markdown Service Text

/-! ## Changes of attributes -/

namespace Service

/-- From `a` to `a'` a text was inserted at position `stop`, before the last terminator. -/
structure Continues (a a' : Nat → ParagraphAttributes) (stop : Nat) (text : String) : Prop where
  before : ∀ i < stop, a' i = a i
  after : ∀ i, stop ≤ i → i ≤ stop + (Utf16.encode text.toList).length → a' i = a stop ∨ a' i = {}
  last : a' (stop + (Utf16.encode text.toList).length) =
    if '\n' ∈ text.toList then {} else a stop

theorem continues_nothing (a : Nat → ParagraphAttributes) (stop : Nat) : Continues a a stop "" where
  before := fun _ _ => rfl
  after := fun _ hi hlast => Or.inl (congrArg a (Nat.le_antisymm hlast hi))
  last := rfl

/-- From `a` to `a'` the paragraphs from position `first` on were changed; the last one, of which
    only the terminator at `stop` may be there, was changed or not. -/
structure Restyles (a a' : Nat → ParagraphAttributes) (first stop : Nat)
    (f : ParagraphAttributes → ParagraphAttributes) : Prop where
  before : ∀ i < first, a' i = a i
  within : ∀ i, first ≤ i → i < stop → a' i = f (a i)
  last : a' stop = a stop ∨ a' stop = f (a stop)

theorem restyles_nothing (a : Nat → ParagraphAttributes) (first stop : Nat) :
    Restyles a a first stop id where
  before := fun _ _ => rfl
  within := fun _ _ _ => rfl
  last := Or.inl rfl

end Service

/-! ## Carrying out one operation -/

/-- The bullet of the list that is made as the one of this number. -/
def Service.listBullet (number : Nat) : Bullet := ⟨"list." ++ toString number, none⟩

namespace Service.LocalDocument.Holds

variable {d d' : LocalDocument} {written : List UInt16} {cursor first : Nat}

theorem exists_units (h : d.Holds written [CodeUnit.lineFeed] cursor) :
    ∃ pre t, d.units = pre ++ [t] ∧ pre.map (·.code) = written ∧ t.isTerminator = true := by
  obtain ⟨pre, last, hunits, hpre, hlast⟩ := List.map_eq_append_iff.mp h.codes
  obtain ⟨t, rfl, ht⟩ := List.map_eq_singleton_iff.mp hlast
  exact ⟨pre, t, hunits, hpre, beq_iff_eq.mpr ht⟩

theorem exists_terminator (h : d.Holds written [CodeUnit.lineFeed] cursor) {i : Nat}
    (hi : i ≤ written.length) : ∃ u ∈ d.units.drop i, u.isTerminator = true := by
  obtain ⟨pre, t, hunits, rfl, ht⟩ := h.exists_units
  rw [List.length_map] at hi
  rw [hunits, List.drop_append_of_le_length hi]
  exact ⟨t, List.mem_append_right _ (List.mem_singleton.mpr rfl), ht⟩

theorem exists_getElem?_terminator (h : d.Holds written [CodeUnit.lineFeed] cursor) {i : Nat}
    (hline : written[i]? = some CodeUnit.lineFeed) :
    ∃ t, d.units[i]? = some t ∧ t.isTerminator = true := by
  have hcode : (d.units[i]?).map (·.code) = some CodeUnit.lineFeed := by
    rw [← List.getElem?_map]
    change d.codes[i]? = _
    rw [h.codes, List.getElem?_append_left (List.getElem?_eq_some_iff.mp hline).1]
    exact hline
  obtain ⟨t, ht, hterm⟩ := Option.map_eq_some_iff.mp hcode
  exact ⟨t, ht, beq_iff_eq.mpr hterm⟩

theorem continues (h : d.Holds written [CodeUnit.lineFeed] cursor) {text : String}
    (hd : d.apply (.insertText text cursor) = .ok d') :
    Continues d.attributes d'.attributes written.length text := by
  obtain ⟨pre, t, hunits, rfl, ht⟩ := h.exists_units
  obtain ⟨-, -, -, rfl⟩ := insertText_eq_ok_iff.mp hd
  have hcursor : cursor - 1 = pre.length := by
    rw [h.cursor, List.length_map, Nat.add_sub_cancel]
  have hlast : attributesAt (pre ++ [t]) pre.length = t.paragraph.getD {} :=
    attributesAt_append pre (i := 0) [] (List.forall_mem_nil _) ht (le_refl 0)
  constructor
  all_goals simp only [attributes, hunits, hcursor, List.length_map, hlast]
  · exact fun i hi => attributesAt_insertedAt_of_lt text pre ht hi
  · exact fun i hi hend => attributesAt_insertedAt_of_ge text pre ht hi hend
  · exact attributesAt_insertedAt_last text pre ht

/-- A closed range changes the paragraphs from its first position on, if a paragraph begins there. -/
theorem restyles (h : d.Holds written [CodeUnit.lineFeed] cursor) (hwithin : first ≤ written.length)
    (hbegins : first = 0 ∨ written[first - 1]? = some CodeUnit.lineFeed)
    {f : ParagraphAttributes → ParagraphAttributes}
    (hd : d'.units = mapParagraphs first (max first (written.length - 1)) f d.units) :
    Restyles d.attributes d'.attributes first written.length f := by
  have hordered : first ≤ max first (written.length - 1) := le_max_left ..
  constructor
  all_goals simp only [attributes, hd]
  · intro i hi
    rcases hbegins with hzero | hline
    · omega
    · obtain ⟨t, ht, hterm⟩ := h.exists_getElem?_terminator hline
      exact attributesAt_mapParagraphs_of_lt f hordered hi ht hterm (h.exists_terminator hwithin)
  · intro i hi hstop
    exact attributesAt_mapParagraphs_of_mem f hi (by omega) (h.exists_terminator hstop.le)
  · rw [attributesAt_mapParagraphs f hordered (h.exists_terminator (le_refl _))]
    split
    · exact Or.inr rfl
    · exact Or.inl rfl

/-- A closed range of some units, of which the last one ends a paragraph, does not reach the last
    terminator. -/
theorem attributes_last (h : d.Holds written [CodeUnit.lineFeed] cursor) (hsome : first < written.length)
    (hline : written.getLast? = some CodeUnit.lineFeed) {f : ParagraphAttributes → ParagraphAttributes}
    (hd : d'.units = mapParagraphs first (max first (written.length - 1)) f d.units) :
    d'.attributes written.length = d.attributes written.length := by
  have hclosed : max first (written.length - 1) = written.length - 1 := by omega
  rw [List.getLast?_eq_getElem?] at hline
  obtain ⟨t, ht, hterm⟩ := h.exists_getElem?_terminator hline
  have hends : terminatorFrom d.units (written.length - 1) < terminatorFrom d.units written.length :=
    terminatorFrom_lt (by omega) (le_refl _) ht hterm (h.exists_terminator (le_refl _))
  simp only [attributes, hd, hclosed]
  rw [attributesAt_mapParagraphs f (by omega) (h.exists_terminator (le_refl _))]
  exact if_neg (by omega)

theorem codes_of_mapParagraphs (h : d.Holds written [CodeUnit.lineFeed] cursor) {last : Nat}
    (hordered : first ≤ last) {f : ParagraphAttributes → ParagraphAttributes}
    (hd : d'.units = mapParagraphs first last f d.units) :
    d'.codes = written ++ [CodeUnit.lineFeed] := by
  rw [← h.codes, LocalDocument.codes, hd]
  exact codes_mapParagraphs hordered f d.units

theorem checkRange_closedRange (h : d.Holds written [CodeUnit.lineFeed] cursor)
    (hwithin : first ≤ written.length) :
    d.checkRange (closedRange (first + 1) cursor).toRange =
      .ok (first, max first (written.length - 1)) := by
  have hlast : max (first + 1) (cursor - 1) - 1 = max first (written.length - 1) := by
    rw [h.cursor]
    omega
  have hend : max (first + 1) (cursor - 1) ≤ d.endIndex := by
    rw [h.endIndex_eq, h.cursor, List.length_singleton]
    omega
  rw [← hlast]
  exact checkRange_toRange (r := closedRange (first + 1) cursor) (Nat.le_add_left ..)
    (le_max_left ..) hend

theorem setParagraphStyle (h : d.Holds written [CodeUnit.lineFeed] cursor)
    (hwithin : first ≤ written.length)
    (hbegins : first = 0 ∨ written[first - 1]? = some CodeUnit.lineFeed) {style : NamedStyle}
    (hstyle : style.isStandard = true) :
    ∃ d', d.apply (.ofOperation (.setParagraphStyle (closedRange (first + 1) cursor) style.name)) =
        .ok d'
      ∧ d'.Holds written [CodeUnit.lineFeed] cursor
      ∧ Restyles d.attributes d'.attributes first written.length ({ · with style })
      ∧ d'.listsCreated = d.listsCreated := by
  have hcheck := h.checkRange_closedRange hwithin
  refine ⟨_, updateParagraphStyle_eq_ok_iff.mpr
    ⟨style, _, _, NamedStyle.parse?_name hstyle, hcheck, rfl⟩, ⟨?_, h.cursor⟩, ?_, rfl⟩
  · exact h.codes_of_mapParagraphs (f := ({ · with style })) (le_max_left ..) rfl
  · exact h.restyles hwithin hbegins rfl

theorem setBulletList (h : d.Holds written [CodeUnit.lineFeed] cursor)
    (hwithin : first ≤ written.length)
    (hbegins : first = 0 ∨ written[first - 1]? = some CodeUnit.lineFeed) {preset : String}
    (hpreset : preset ≠ "") :
    ∃ d', d.apply (.ofOperation (.setBulletList (closedRange (first + 1) cursor) preset)) = .ok d'
      ∧ d'.Holds written [CodeUnit.lineFeed] cursor
      ∧ Restyles d.attributes d'.attributes first written.length
        ({ · with bullet := some (listBullet (d.listsCreated + 1)) })
      ∧ d'.listsCreated = d.listsCreated + 1 := by
  have hcheck := h.checkRange_closedRange hwithin
  refine ⟨_, createParagraphBullets_eq_ok_iff.mpr ⟨hpreset, _, _, hcheck, rfl⟩,
    ⟨?_, h.cursor⟩, ?_, rfl⟩
  · exact h.codes_of_mapParagraphs (f := ({ · with bullet := some (listBullet (d.listsCreated + 1)) }))
      (le_max_left ..) rfl
  · exact h.restyles hwithin hbegins rfl

/-- Links are no attributes of paragraphs. -/
theorem setLink (h : d.Holds written [CodeUnit.lineFeed] cursor) (hwithin : first < written.length)
    (url : String) :
    ∃ d', d.apply (.ofOperation (.setLink ⟨first + 1, cursor - 1⟩ url)) = .ok d'
      ∧ d'.Holds written [CodeUnit.lineFeed] cursor
      ∧ d'.attributes = d.attributes
      ∧ d'.listsCreated = d.listsCreated := by
  have hcheck : d.checkRange (StyleRange.mk (first + 1) (cursor - 1)).toRange =
      .ok (first, written.length - 1) := by
    rw [h.cursor, Nat.add_sub_cancel]
    refine checkRange_toRange (Nat.le_add_left ..) hwithin ?_
    rw [h.endIndex_eq]
    exact Nat.le_add_right ..
  have hordered : first ≤ written.length - 1 + 1 := by omega
  refine ⟨_, updateTextStyle_eq_ok_iff.mpr ⟨_, _, hcheck, rfl⟩, ⟨?_, h.cursor⟩, ?_, ?_⟩
  all_goals rw [if_pos (by decide)]
  · rw [← h.codes]
    exact codes_mapBetween (f := ({ · with link := some url })) (fun _ => rfl) hordered d.units
  · funext i
    exact attributesAt_mapBetween (f := ({ · with link := some url })) (fun _ => rfl) (fun _ => rfl)
      hordered d.units i

end Service.LocalDocument.Holds

end DocMark
