-- SUMMARY: Documents of paragraphs without links, and what requests at their end make of the paragraphs.
import Mathlib
import DocMark.Proofs.Document.NamedStyle
import DocMark.Proofs.Edit.Compilation
import DocMark.Proofs.Service.Submission
import DocMark.Proofs.Service.Terminators

/-!
# Documents of plain paragraphs

A plain paragraph is a line of text with attributes; a list of them is laid out one after the other.
Text inserted at the end of such a document continues its last paragraph, a line feed opens a new one
with default attributes, and a style or a list that reaches from the start of a paragraph to the end
of the document changes that paragraph and all after it.
-/
namespace DocMark.Service

open Document Edit Text

structure PlainParagraph where
  text : List Char
  attributes : ParagraphAttributes := {}
  singleLine : '\n' ∉ text

namespace CodeUnit

/-- A unit of text that no link covers. -/
def plain (code : UInt16) : CodeUnit := { code }

end CodeUnit

namespace PlainParagraph

def fresh : PlainParagraph where
  text := []
  singleLine := List.not_mem_nil

/-- The units before the terminator. -/
def body (p : PlainParagraph) : List CodeUnit := (Utf16.encode p.text).map .plain

def units (p : PlainParagraph) : List CodeUnit := p.body ++ [.terminator p.attributes]

def append (p : PlainParagraph) (text : List Char) (h : '\n' ∉ text) : PlainParagraph :=
  { p with
    text := p.text ++ text
    singleLine := by simp [p.singleLine, h] }

def mapAttributes (f : ParagraphAttributes → ParagraphAttributes) (p : PlainParagraph) :
    PlainParagraph :=
  { p with attributes := f p.attributes }

def withStyle (style : NamedStyle) : PlainParagraph → PlainParagraph :=
  mapAttributes fun a => { a with style }

def withBullet (bullet : Bullet) : PlainParagraph → PlainParagraph :=
  mapAttributes fun a => { a with bullet := some bullet }

/-- The units of paragraphs, one after the other. -/
def layout (ps : List PlainParagraph) : List CodeUnit := ps.flatMap units

variable {p : PlainParagraph} {ps qs : List PlainParagraph}

/-! ## Units -/

/-- Only a line feed is encoded as one. -/
theorem lineFeed_notMem_encode {cs : List Char} (h : '\n' ∉ cs) :
    CodeUnit.lineFeed ∉ Utf16.encode cs := by
  intro hmem
  obtain ⟨c, hc, hcode⟩ := List.mem_flatMap.mp hmem
  have hlineFeed : CodeUnit.lineFeed.toNat = 10 := rfl
  unfold Utf16.encodeChar at hcode
  split at hcode
  · rename_i hnarrow
    have hvalue := congrArg UInt16.toNat (List.mem_singleton.mp hcode)
    rw [(Utf16.narrow_unit hnarrow).1, hlineFeed] at hvalue
    have hchar : c = '\n' := Char.toNat_inj.mp hvalue.symm
    exact h (hchar ▸ hc)
  · -- Both halves of a pair are far above a line feed.
    rcases List.mem_cons.mp hcode with hhigh | hlow
    · have hvalue := congrArg UInt16.toNat hhigh
      rw [hlineFeed, Utf16.toNat_highHalf (Utf16.toNat_lt_limit c)] at hvalue
      omega
    · have hvalue := congrArg UInt16.toNat (List.mem_singleton.mp hlow)
      rw [hlineFeed, Utf16.toNat_lowHalf] at hvalue
      omega

theorem isTerminator_of_mem_body {u : CodeUnit} (h : u ∈ p.body) : u.isTerminator = false := by
  obtain ⟨code, hcode, rfl⟩ := List.mem_map.mp h
  have hne : code ≠ CodeUnit.lineFeed := fun heq =>
    lineFeed_notMem_encode p.singleLine (heq ▸ hcode)
  simpa [CodeUnit.plain, CodeUnit.isTerminator] using hne

theorem map_mapAttributes_units (f : ParagraphAttributes → ParagraphAttributes)
    (p : PlainParagraph) : p.units.map (.mapAttributes f) = (p.mapAttributes f).units := by
  rw [units, List.map_append, CodeUnit.map_mapAttributes_of_no_terminator
    fun u => isTerminator_of_mem_body]
  rfl

theorem body_append (text : List Char) (h : '\n' ∉ text) :
    (p.append text h).body = p.body ++ (Utf16.encode text).map .plain := by
  rw [body, append, Utf16.encode_append, List.map_append, body]

theorem layout_append : layout (ps ++ qs) = layout ps ++ layout qs := List.flatMap_append

@[simp] theorem layout_singleton : layout [p] = p.units := List.flatMap_singleton ..

theorem layout_cons : layout (p :: ps) = p.units ++ layout ps := List.flatMap_cons

theorem length_units : p.units.length = p.body.length + 1 := List.length_append

theorem map_mapAttributes_layout (f : ParagraphAttributes → ParagraphAttributes)
    (ps : List PlainParagraph) :
    (layout ps).map (.mapAttributes f) = layout (ps.map (mapAttributes f)) := by
  induction ps with
  | nil => rfl
  | cons p ps ih =>
    rw [layout_cons, List.map_append, map_mapAttributes_units, ih, List.map_cons, layout_cons]

end PlainParagraph

namespace LocalDocument

open PlainParagraph (fresh layout_append layout_singleton layout_cons)

/-- The document consists of plain paragraphs. -/
def Shows (d : LocalDocument) (ps : List PlainParagraph) : Prop := d.units = PlainParagraph.layout ps

variable {d : LocalDocument} {before ps : List PlainParagraph} {last : PlainParagraph}

theorem Shows.endIndex_eq (h : d.Shows ps) : d.endIndex = (PlainParagraph.layout ps).length :=
  congrArg List.length h

theorem shows_new (documentId title : String) : (LocalDocument.new documentId title).Shows [fresh] :=
  rfl

/-! ## Insertions at the end -/

theorem insertedAt_end (text : String) (pre : List CodeUnit) (a : ParagraphAttributes) :
    insertedAt text pre.length (pre ++ [.terminator a]) =
      pre ++ insertedUnits text a
        ++ [.terminator (if text.toList.contains '\n' then {} else a)] := by
  rw [insertedAt_concat text pre (CodeUnit.isTerminator_terminator a)]
  cases text.toList.contains '\n' <;> rfl

theorem insertedUnits_eq_plain {text : String} (h : '\n' ∉ text.toList) (a : ParagraphAttributes) :
    insertedUnits text a = (Utf16.encode text.toList).map .plain := by
  refine List.map_congr_left fun code hcode => ?_
  have hne : code ≠ CodeUnit.lineFeed := fun heq =>
    PlainParagraph.lineFeed_notMem_encode h (heq ▸ hcode)
  simp [CodeUnit.plain, hne]

theorem Shows.insertAtEnd (h : d.Shows (before ++ [last])) {text : String} (htext : text ≠ "") :
    d.apply (.insertText text d.endIndex) = .ok { d with
      units := PlainParagraph.layout before ++ last.body ++ insertedUnits text last.attributes
        ++ [.terminator (if text.toList.contains '\n' then {} else last.attributes)] } := by
  have hunits : d.units = (PlainParagraph.layout before ++ last.body)
      ++ [.terminator last.attributes] := by
    rw [h, layout_append, layout_singleton, PlainParagraph.units, List.append_assoc]
  have hend : d.endIndex = (PlainParagraph.layout before ++ last.body).length + 1 := by
    rw [endIndex, hunits, List.length_append]
    rfl
  have hposition : d.endIndex - 1 = (PlainParagraph.layout before ++ last.body).length := by
    rw [hend, Nat.add_sub_cancel]
  refine insertText_eq_ok_iff.mpr ⟨htext, by omega, ?_, ?_⟩
  · rw [hposition, hunits, List.getElem?_concat_length]
    rfl
  · rw [hposition]
    conv_rhs => rw [hunits]
    rw [insertedAt_end]

/-- A line feed ends the last paragraph and opens a new one. -/
theorem Shows.insertBreak (h : d.Shows (before ++ [last])) :
    ∃ d', d.apply (.insertText "\n" d.endIndex) = .ok d'
      ∧ d'.Shows (before ++ [last] ++ [fresh]) := by
  refine ⟨_, h.insertAtEnd (by decide), ?_⟩
  have hline : insertedUnits "\n" last.attributes = [.terminator last.attributes] := rfl
  change _ ++ _ ++ _ ++ _ = _
  rw [layout_append, layout_append, layout_singleton, layout_singleton, hline,
    List.append_assoc (PlainParagraph.layout before)]
  rfl

theorem Shows.insertText (h : d.Shows (before ++ [last])) {text : String} (htext : text ≠ "")
    (hline : '\n' ∉ text.toList) :
    ∃ d', d.apply (.insertText text d.endIndex) = .ok d'
      ∧ d'.Shows (before ++ [last.append text.toList hline]) := by
  refine ⟨_, h.insertAtEnd htext, ?_⟩
  have hcontains : text.toList.contains '\n' = false := by simpa using hline
  change _ ++ _ ++ _ ++ _ = _
  rw [layout_append, layout_singleton, insertedUnits_eq_plain hline, hcontains,
    PlainParagraph.units, PlainParagraph.body_append, List.append_assoc (PlainParagraph.layout before),
    List.append_assoc (PlainParagraph.layout before)]
  rfl

/-! ## Attributes up to the end -/

/-- The range from the paragraph after `before` to the end of the document. -/
def rangeFrom (before new : List PlainParagraph) : StyleRange :=
  closedRange ((PlainParagraph.layout before).length + 1)
    (PlainParagraph.layout (before ++ new)).length

/-- Every position in a paragraph finds the paragraph's own terminator. -/
theorem terminatorFrom_layout (before after : List PlainParagraph) (p : PlainParagraph) {i : Nat}
    (hi : i ≤ p.body.length) :
    terminatorFrom (PlainParagraph.layout (before ++ p :: after))
        ((PlainParagraph.layout before).length + i) =
      (PlainParagraph.layout before).length + p.body.length := by
  have hunits : PlainParagraph.layout (before ++ p :: after) = PlainParagraph.layout before
      ++ (p.body ++ .terminator p.attributes :: PlainParagraph.layout after) := by
    rw [layout_append, layout_cons, PlainParagraph.units, List.append_assoc]
    rfl
  rw [hunits]
  exact terminatorFrom_append _ _ (fun _ => PlainParagraph.isTerminator_of_mem_body) rfl hi

/-- Such a range ends on the last character, so the last paragraph must have one unless it is also
    the first of the range. -/
theorem exists_rangeFrom_last (before init : List PlainParagraph) (last : PlainParagraph)
    (hlast : init = [] ∨ last.text ≠ []) :
    ∃ i ≤ last.body.length, (rangeFrom before (init ++ [last])).last - 1 =
      (PlainParagraph.layout (before ++ init)).length + i := by
  have hlength : (PlainParagraph.layout (before ++ (init ++ [last]))).length =
      (PlainParagraph.layout before).length + (PlainParagraph.layout init).length
        + last.body.length + 1 := by
    rw [← List.append_assoc, layout_append, layout_append, layout_singleton, List.length_append,
      List.length_append, PlainParagraph.length_units, Nat.add_assoc _ last.body.length]
  refine ⟨last.body.length - 1, Nat.sub_le _ _, ?_⟩
  simp only [rangeFrom, closedRange, hlength]
  rw [layout_append, List.length_append]
  rcases hlast with rfl | htext
  · have hnone : (PlainParagraph.layout []).length = 0 := rfl
    omega
  · have hpos : 0 < last.body.length := by
      rw [PlainParagraph.body, List.length_map]
      exact List.length_pos_iff.mpr (mt Utf16.encode_eq_nil_iff.mp htext)
    omega

theorem mapParagraphs_rangeFrom (f : ParagraphAttributes → ParagraphAttributes)
    (before init : List PlainParagraph) (last : PlainParagraph) (hlast : init = [] ∨ last.text ≠ []) :
    mapParagraphs ((rangeFrom before (init ++ [last])).start - 1)
        ((rangeFrom before (init ++ [last])).last - 1) f
        (PlainParagraph.layout (before ++ (init ++ [last]))) =
      PlainParagraph.layout (before ++ (init ++ [last]).map (.mapAttributes f)) := by
  obtain ⟨first, rest, hnew⟩ := List.exists_cons_of_ne_nil (l := init ++ [last]) (by simp)
  obtain ⟨i, hi, hstop⟩ := exists_rangeFrom_last before init last hlast
  have hstart : (rangeFrom before (init ++ [last])).start - 1 =
      (PlainParagraph.layout before).length + 0 := rfl
  have hwhole : PlainParagraph.layout (before ++ (init ++ [last])) =
      PlainParagraph.layout before ++ (PlainParagraph.layout (init ++ [last]) ++ []) := by
    rw [layout_append, List.append_nil]
  rw [hwhole, mapParagraphs_append (k := first.body.length), List.append_nil,
    PlainParagraph.map_mapAttributes_layout, layout_append]
  · rw [hnew, layout_cons, List.length_append, PlainParagraph.length_units]
    omega
  · intro u hu
    rw [hnew, layout_cons, PlainParagraph.units, List.append_assoc, List.take_left] at hu
    exact PlainParagraph.isTerminator_of_mem_body hu
  · rw [← hwhole, hstart, hnew]
    exact terminatorFrom_layout before rest first (Nat.zero_le _)
  · rw [← hwhole, hstop, ← List.append_assoc, terminatorFrom_layout (before ++ init) [] last hi,
      layout_append, layout_append, layout_singleton, List.length_append, List.length_append,
      PlainParagraph.length_units]
    omega

theorem Shows.checkRange {new : List PlainParagraph} (h : d.Shows (before ++ new))
    (hnew : new ≠ []) :
    d.checkRange (rangeFrom before new).toRange =
      .ok ((rangeFrom before new).start - 1, (rangeFrom before new).last - 1) := by
  obtain ⟨first, rest, rfl⟩ := List.exists_cons_of_ne_nil hnew
  have hstop : (PlainParagraph.layout before).length + 1 ≤
      (PlainParagraph.layout (before ++ first :: rest)).length := by
    rw [layout_append, layout_cons, List.length_append, List.length_append,
      PlainParagraph.length_units]
    omega
  obtain ⟨hstart, hordered, hwithin⟩ := closedRange_within (Nat.le_add_left 1 _) hstop
  exact checkRange_toRange hstart hordered (hwithin.trans_eq h.endIndex_eq.symm)

theorem Shows.setStyle (h : d.Shows (before ++ [last])) {style : NamedStyle}
    (hstyle : style.isStandard = true) :
    ∃ d', d.apply (.ofOperation (.setParagraphStyle (rangeFrom before [last]) style.name)) = .ok d'
      ∧ d'.Shows (before ++ [last.withStyle style]) := by
  refine ⟨_, updateParagraphStyle_eq_ok_iff.mpr
    ⟨style, _, _, NamedStyle.parse?_name hstyle, h.checkRange (by simp), rfl⟩, ?_⟩
  have hmapped := mapParagraphs_rangeFrom (fun a => { a with style }) before [] last
    (.inl rfl)
  unfold Shows at h ⊢
  rw [h]
  exact hmapped

/-- All paragraphs from the one after `before` become items of one list. -/
theorem Shows.setBullets {init : List PlainParagraph} (h : d.Shows (before ++ (init ++ [last])))
    (hlast : last.text ≠ []) {preset : String} (hpreset : preset ≠ "") :
    ∃ d' bullet, d.apply (.ofOperation (.setBulletList (rangeFrom before (init ++ [last])) preset))
        = .ok d'
      ∧ d'.Shows (before ++ (init ++ [last]).map (.withBullet bullet)) := by
  refine ⟨_, ⟨"list." ++ toString (d.listsCreated + 1), none⟩,
    createParagraphBullets_eq_ok_iff.mpr ⟨hpreset, _, _, h.checkRange (by simp), rfl⟩, ?_⟩
  have hmapped := mapParagraphs_rangeFrom (fun a =>
    { a with bullet := some ⟨"list." ++ toString (d.listsCreated + 1), none⟩ }) before init last
    (.inr hlast)
  unfold Shows at h ⊢
  dsimp only
  rw [h]
  exact hmapped

end LocalDocument

end DocMark.Service
