-- SUMMARY: What style requests make of the names of styles and of the fields that they name.
import Mathlib
import DocMark.Proofs.Document.StyleNames
import DocMark.Proofs.Service.Restyling

/-!
# Names and fields of style requests

A request for a paragraph style gives the style by a name. An accepted name is read as a style, and the
paragraphs that the request touches are stored and exported under that style's own identifier, which has the
line start of the name unless the name is padded.

A request for a style also names the fields that it is about. One for a text style changes nothing if it does
not name the link. One for a paragraph style is carried out whatever it names.
-/
namespace DocMark.Service

open Document Edit

namespace LocalDocument

open StoredParagraph (layout)

variable {d d' : LocalDocument} {range : Range} {f : ParagraphAttributes → ParagraphAttributes}

/-! ## Restyled paragraphs -/

theorem getElem?_mapTouched (i : Nat) :
    (d.mapTouched range f)[i]? = d.storedParagraphs[i]?.map fun p =>
      if d.Touches range i then p.mapAttributes f else p := List.getElem?_mapIdx

theorem mapTouched_eq_self_iff : d.mapTouched range f = d.storedParagraphs ↔
    ∀ i p, d.storedParagraphs[i]? = some p → d.Touches range i → f p.attributes = p.attributes := by
  rw [List.ext_getElem?_iff]
  refine forall_congr' fun i => ?_
  rw [getElem?_mapTouched]
  cases d.storedParagraphs[i]? with
  | none => simp
  | some p =>
    have hsame : p.mapAttributes f = p ↔ f p.attributes = p.attributes := by
      cases p
      simp [StoredParagraph.mapAttributes]
    by_cases htouches : d.Touches range i
    · simp [htouches, hsame]
    · simp [htouches]

/-- A range touches only paragraphs that there are. -/
theorem Touches.lt_length {i : Nat} (h : d.Touches range i) : i < d.storedParagraphs.length := by
  obtain ⟨index, ⟨hstart, hstop⟩, -⟩ := h
  by_contra hnot
  rw [not_lt] at hnot
  rw [StoredParagraph.startOf, List.take_of_length_le hnot] at hstart
  rw [StoredParagraph.startOf, List.take_of_length_le (hnot.trans (Nat.le_succ i))] at hstop
  omega

/-- An accepted request for a paragraph style. -/
theorem Consistent.restyled (h : d.Consistent) {style : ParagraphStyle} {fields : String}
    (hok : d.apply (.updateParagraphStyle style range fields) = .ok d') :
    ∃ named, NamedStyle.parse? style.namedStyleType = some named
      ∧ d'.storedParagraphs = d.mapTouched range ({ · with style := named })
      ∧ d' = { d with units := layout (d.mapTouched range ({ · with style := named })) } := by
  obtain ⟨named, first, last, hnamed, hcheck, rfl⟩ := updateParagraphStyle_eq_ok_iff.mp hok
  obtain ⟨⟨hpos, hordered, hend⟩, rfl, rfl⟩ := checkRange_eq_ok_iff.mp hcheck
  refine ⟨named, hnamed, (h.changeParagraphs hpos hordered hend rfl).2, ?_⟩
  rw [h.mapParagraphs_eq hpos hordered hend]

/-! ## Names of styles -/

/-- The style names that a document is exported with, one for each paragraph. -/
def exportedStyles (d : LocalDocument) : List (Option String) :=
  d.toDocument.body.content.map fun e => e.paragraph.map (·.paragraphStyle.namedStyleType)

theorem exportedStyles_eq (d : LocalDocument) :
    d.exportedStyles = d.storedParagraphs.map fun p => some p.attributes.style.name := by
  have hparagraphs (index : Nat) (paragraphs : List (List CodeUnit)) :
      (exportParagraphs index paragraphs).map (fun e => e.paragraph.map (·.paragraphStyle.namedStyleType)) =
        (paragraphs.map StoredParagraph.ofUnits).map fun p => some p.attributes.style.name := by
    induction paragraphs generalizing index with
    | nil => rfl
    | cons units rest ih => exact congrArg _ (ih _)
  exact hparagraphs 1 d.paragraphs

/-- A name is a style's own identifier just if it is not padded. Whatever name a document accepts, it stores and
    exports the style that is read from it, and the name has that style's line start just if it is not
    padded. -/
theorem accepted_name (name : String) :
    (∀ style, NamedStyle.parse? name = some style →
      (style.name = name ↔ NamedStyle.hasPaddedLevel name = false))
    ∧ ∀ (d d' : LocalDocument) (range : Range) (fields : String), Reachable d →
      d.apply (.updateParagraphStyle ⟨name⟩ range fields) = .ok d' →
      ∃ style, NamedStyle.parse? name = some style
        ∧ (∀ i, d.Touches range i → d'.storedParagraphs[i]?.map (·.attributes.style) = some style
          ∧ d'.exportedStyles[i]? = some (some style.name))
        ∧ (markdownMarker name = markdownMarker style.name ↔ NamedStyle.hasPaddedLevel name = false) := by
  refine ⟨fun style hstyle => NamedStyle.name_eq_iff_of_parse? hstyle, ?_⟩
  intro d d' range fields hreachable hok
  obtain ⟨style, hstyle, hstored, -⟩ := hreachable.consistent.restyled hok
  refine ⟨style, hstyle, fun i hi => ?_, markdownMarker_eq_iff_of_parse? hstyle⟩
  obtain ⟨p, hp⟩ : ∃ p, d.storedParagraphs[i]? = some p := ⟨_, List.getElem?_eq_getElem hi.lt_length⟩
  have hat : d'.storedParagraphs[i]? = some (p.mapAttributes ({ · with style := style })) := by
    rw [hstored, getElem?_mapTouched, hp, Option.map_some, if_pos hi]
  rw [exportedStyles_eq, List.getElem?_map, hat]
  exact ⟨rfl, rfl⟩

/-- A heading's own identifier, over a range in two paragraphs. -/
theorem accepted_name_twoParagraphs :
    let d := (LocalDocument.new "doc" "T").perform (.update "doc" [.insertText "ab\ncd\nef" 1])
    let r := Request.updateParagraphStyle ⟨"HEADING_3"⟩ ⟨3, 5⟩ ""
    let d' := d.perform (.apply r)
    (NamedStyle.parse? "HEADING_3" = some (.heading 3) ∧ Reachable d ∧ d.apply r = .ok d'
        ∧ d.Touches ⟨3, 5⟩ 1)
      ∧ (NamedStyle.heading 3).name = "HEADING_3"
      ∧ d'.exportedStyles[1]? = some (some "HEADING_3")
      ∧ markdownMarker "HEADING_3" = markdownMarker (NamedStyle.heading 3).name := by
  intro d r d'
  have hreachable : Reachable d := .perform _ (.new _ _)
  have hparse : NamedStyle.parse? "HEADING_3" = some (.heading 3) := by decide
  have hok : d.apply r = .ok d' := by decide
  have htouches : d.Touches ⟨3, 5⟩ 1 := by decide
  obtain ⟨hname, hstored⟩ := accepted_name "HEADING_3"
  obtain ⟨style, hstyle, hexported, hmarker⟩ := hstored d d' ⟨3, 5⟩ "" hreachable hok
  obtain rfl : style = .heading 3 := by simpa [hparse] using hstyle.symm
  exact ⟨⟨hparse, hreachable, hok, htouches⟩, (hname _ hparse).mpr (by decide), (hexported 1 htouches).2,
    hmarker.mpr (by decide)⟩

/-- A plus sign in front of the level: the name is accepted, but the style stored for it is shown in another
    way than the name is. -/
theorem markdownMarker_ne_of_plusSign :
    let d := LocalDocument.new "doc" "T"
    let d' := d.perform (.apply (.updateParagraphStyle ⟨"HEADING_+1"⟩ ⟨1, 2⟩ "namedStyleType"))
    NamedStyle.parse? "HEADING_+1" = some (.heading 1) ∧ (NamedStyle.heading 1).name ≠ "HEADING_+1"
      ∧ d.apply (.updateParagraphStyle ⟨"HEADING_+1"⟩ ⟨1, 2⟩ "namedStyleType") = .ok d'
      ∧ d'.exportedStyles = [some "HEADING_1"]
      ∧ markdownMarker "HEADING_+1" = "" ∧ markdownMarker "HEADING_1" = "# " := by
  decide

end LocalDocument

/-! ## Fields -/

/-- Whether a request that names fields names the one that it can change. Other requests name none. -/
def namesItsField : Request → Bool
  | .insertText _ _ => true
  | .updateParagraphStyle _ _ fields => LocalDocument.namesField fields "namedStyleType"
  | .createParagraphBullets _ _ => true
  | .updateTextStyle _ _ fields => LocalDocument.namesField fields "link"

namespace LocalDocument

variable {d d' : LocalDocument} {r : Request}

/-- An accepted request that does not name the field it can change leaves the document as it was, unless it is
    one for a paragraph style: that does so just if all paragraphs that it touches have the style already. -/
theorem apply_unnamed (h : Reachable d) (hfields : namesItsField r = false) (hok : d.apply r = .ok d') :
    d' = d ↔ ∀ style range fields, r = .updateParagraphStyle style range fields →
      ∀ i p, d.storedParagraphs[i]? = some p → d.Touches range i →
        NamedStyle.parse? style.namedStyleType = some p.attributes.style := by
  cases r with
  | insertText text index => cases hfields
  | createParagraphBullets preset range => cases hfields
  | updateTextStyle style range fields =>
    obtain ⟨first, last, -, hd'⟩ := updateTextStyle_eq_ok_iff.mp hok
    rw [if_neg (by simpa [namesItsField] using hfields)] at hd'
    exact iff_of_true hd' (by rintro _ _ _ ⟨⟩)
  | updateParagraphStyle style range fields =>
    obtain ⟨named, hnamed, hstored, hd'⟩ := h.consistent.restyled hok
    have hkeeps : d' = d ↔ d.mapTouched range ({ · with style := named }) = d.storedParagraphs := by
      constructor
      · rintro rfl
        exact hstored.symm
      · intro hsame
        rw [hd', hsame, ← h.consistent.stores.units]
    have hstyle (p : StoredParagraph) : ({ p.attributes with style := named } : ParagraphAttributes) =
        p.attributes ↔ NamedStyle.parse? style.namedStyleType = some p.attributes.style := by
      rw [hnamed, Option.some.injEq]
      cases p.attributes
      simp
    rw [hkeeps, mapTouched_eq_self_iff]
    simp only [hstyle]
    constructor
    · rintro hall _ _ _ ⟨⟩
      exact hall
    · exact fun hall => hall _ _ _ rfl

/-- A heading that is to become the heading that it is, by a request that names other fields. -/
theorem apply_unnamed_sameStyle :
    let d := (LocalDocument.new "doc" "T").perform (.update "doc"
      [.insertText "ab\ncd" 1, .updateParagraphStyle ⟨"HEADING_1"⟩ ⟨1, 2⟩ "namedStyleType"])
    let r := Request.updateParagraphStyle ⟨"HEADING_1"⟩ ⟨2, 4⟩ " namedstyletype ,link"
    let d' := d.perform (.apply r)
    (Reachable d ∧ namesItsField r = false ∧ d.apply r = .ok d')
      ∧ (d' = d ↔ ∀ style range fields, r = .updateParagraphStyle style range fields →
        ∀ i p, d.storedParagraphs[i]? = some p → d.Touches range i →
          NamedStyle.parse? style.namedStyleType = some p.attributes.style) := by
  intro d r d'
  have hreachable : Reachable d := .perform _ (.new _ _)
  have hfields : namesItsField r = false := by decide
  have hok : d.apply r = .ok d' := by decide
  exact ⟨⟨hreachable, hfields, hok⟩, apply_unnamed hreachable hfields hok⟩

/-- A paragraph becomes a title by a request that names the link as its only field. -/
theorem apply_ne_of_unnamedParagraphStyle :
    let d := LocalDocument.new "doc" "T"
    let r := Request.updateParagraphStyle ⟨"TITLE"⟩ ⟨1, 2⟩ "link"
    let d' := d.perform (.apply r)
    Reachable d ∧ namesItsField r = false ∧ d.apply r = .ok d' ∧ d' ≠ d :=
  ⟨.new _ _, by decide, by decide, by decide⟩

end LocalDocument

end DocMark.Service
