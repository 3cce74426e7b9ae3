-- SUMMARY: An insertion at the end of a document commutes with styles, bullets and links before it.
import Mathlib
import DocMark.Proofs.Edit.Appending

/-!
# Insertions that come first

A style, bullets or a link is set over what was written before, and then more is inserted right before
the last terminator. The same document comes of inserting first. Only a change that reaches the last
paragraph is delicate: set first, it is handed on to the break that ends this paragraph, and the last
terminator starts afresh; inserted first, that break is the terminator that the range finds. So a text
that is inserted may be a break or lie within a paragraph, but not run over several.
-/
namespace DocMark

open Document Edit Service Text

namespace Edit

/-- A break, or a text without one. -/
def IsChunk (text : String) : Prop := text = "\n" ∨ '\n' ∉ text.toList

/-- A style operation that reaches the unit at `cursor` at most, and a link only what is before it. -/
structure Operation.ReachesTo (cursor : Nat) (op : Operation) : Prop where
  range : ∃ r, op.range? = some r ∧ 1 ≤ r.start ∧ r.start ≤ r.last ∧ r.last ≤ cursor
  link : ∀ r url, op = .setLink r url → r.last < cursor

namespace Operation.ReachesTo

variable {cursor later : Nat} {op : Operation}

theorem mono (h : op.ReachesTo cursor) (hlater : cursor ≤ later) : op.ReachesTo later where
  range := by
    obtain ⟨r, hr, hstart, hordered, hlast⟩ := h.range
    exact ⟨r, hr, hstart, hordered, hlast.trans hlater⟩
  link := fun r url hop => (h.link r url hop).trans_le hlater

end Operation.ReachesTo

end Edit

namespace Service.LocalDocument

/-! ## Changes at the end -/

section Units

variable {first last : Nat} {units xs pre body : List CodeUnit} {t : CodeUnit}
  {f : ParagraphAttributes → ParagraphAttributes}

theorem mapBetween_append_of_lt (f : CodeUnit → CodeUnit) (h : first ≤ last) (hlast : last < xs.length)
    (ys : List CodeUnit) :
    mapBetween first last f (xs ++ ys) = mapBetween first last f xs ++ ys := by
  have hdrop : (xs ++ ys).drop first = xs.drop first ++ ys :=
    List.drop_append_of_le_length (h.trans hlast.le)
  have hcount : last + 1 - first ≤ (xs.drop first).length := by
    rw [List.length_drop]
    omega
  rw [mapBetween, mapBetween, List.take_append_of_le_length (h.trans hlast.le), hdrop,
    List.take_append_of_le_length hcount, List.drop_append_of_le_length hlast, ← List.append_assoc]

/-- The first paragraph is changed from `first` on: before its terminator there is nothing to change. -/
theorem mapParagraphs_eq_mapBetween (f : ParagraphAttributes → ParagraphAttributes) (h : first ≤ last)
    (hlast : ∃ u ∈ units.drop last, u.isTerminator = true) :
    mapParagraphs first last f units =
      mapBetween first (terminatorFrom units last) (.mapAttributes f) units := by
  obtain ⟨u, hu, hterm⟩ := hlast
  obtain ⟨offset, -, hoffset, hfrom, -, -⟩ :=
    terminatorFrom_spec ⟨u, List.drop_subset_drop_left units h hu, hterm⟩
  have hordered := terminatorFrom_mono units h
  refine List.ext_getElem? fun i => ?_
  change (mapBetween _ _ (.mapAttributes f) units)[i]? = _
  rw [getElem?_mapBetween _ _ (hordered.trans (Nat.le_succ _)),
    getElem?_mapBetween _ _ (by omega)]
  by_cases hbefore : first ≤ i ∧ i < terminatorFrom units first
  · have hplain := not_isTerminator_of_lt hoffset (i := i - first) (by omega)
    rw [Nat.add_sub_cancel' hbefore.1] at hplain
    rw [if_neg (by omega), if_pos (by omega)]
    cases hi : units[i]? with
    | none => rfl
    | some v =>
      rw [hi] at hplain
      exact congrArg some (CodeUnit.mapAttributes_of_not_isTerminator hplain).symm
  · congr 1
    exact propext ⟨fun hi => ⟨by omega, hi.2⟩, fun hi => ⟨by omega, hi.2⟩⟩

theorem terminatorFrom_append_of_exists {i : Nat} (h : ∃ u ∈ xs.drop i, u.isTerminator = true)
    (ys : List CodeUnit) :
    terminatorFrom (xs ++ ys) i = terminatorFrom xs i ∧ terminatorFrom xs i < xs.length := by
  obtain ⟨offset, t, hoffset, hfrom, hat, -⟩ := terminatorFrom_spec h
  have hlength : i + offset < xs.length := (List.getElem?_eq_some_iff.mp hat).1
  have hdrop : (xs ++ ys).drop i = xs.drop i ++ ys := List.drop_append_of_le_length (by omega)
  refine ⟨?_, by rw [hfrom]; exact hlength⟩
  rw [hfrom, terminatorFrom, hdrop, List.findIdx?_append, hoffset, Option.some_or]

/-- Paragraphs that end before a position are changed whatever comes after it. -/
theorem mapParagraphs_append_of_exists (f : ParagraphAttributes → ParagraphAttributes)
    (h : first ≤ last) (hlast : ∃ u ∈ xs.drop last, u.isTerminator = true) (ys : List CodeUnit) :
    mapParagraphs first last f (xs ++ ys) = mapParagraphs first last f xs ++ ys := by
  obtain ⟨u, hu, hterm⟩ := hlast
  obtain ⟨hsame, hwithin⟩ := terminatorFrom_append_of_exists ⟨u, hu, hterm⟩ ys
  obtain ⟨hsameFirst, -⟩ :=
    terminatorFrom_append_of_exists ⟨u, List.drop_subset_drop_left xs h hu, hterm⟩ ys
  rw [mapParagraphs, hsame, hsameFirst]
  exact mapBetween_append_of_lt _ (terminatorFrom_mono xs h) hwithin ys

/-- A change that reaches the last paragraph changes all that ends from `first` on. -/
theorem mapParagraphs_append_of_forall (f : ParagraphAttributes → ParagraphAttributes)
    (h : first ≤ last) (hlast : last ≤ pre.length) (hpre : ∀ u ∈ pre.drop last, u.isTerminator = false)
    (hbody : ∀ u ∈ body, u.isTerminator = false) (ht : t.isTerminator = true) (post : List CodeUnit) :
    mapParagraphs first last f (pre ++ (body ++ t :: post)) =
      pre.take first ++ (pre.drop first).map (.mapAttributes f)
        ++ (body ++ t.mapAttributes f :: post) := by
  have hsplit : pre ++ (body ++ t :: post) =
      pre.take last ++ ((pre.drop last ++ body) ++ t :: post) := by
    rw [← List.append_assoc, ← List.append_assoc, ← List.append_assoc, List.take_append_drop]
  have hend : terminatorFrom (pre ++ (body ++ t :: post)) last = pre.length + body.length := by
    have hnone : ∀ u ∈ pre.drop last ++ body, u.isTerminator = false := fun u hu =>
      (List.mem_append.mp hu).elim (hpre u) (hbody u)
    have hfrom := terminatorFrom_append (pre.take last) post hnone ht (i := 0) (Nat.zero_le _)
    rw [← hsplit, List.length_take, Nat.min_eq_left hlast, Nat.add_zero] at hfrom
    rw [hfrom, List.length_append, List.length_drop]
    omega
  have hsome : ∃ u ∈ (pre ++ (body ++ t :: post)).drop last, u.isTerminator = true := by
    rw [List.drop_append_of_le_length hlast]
    exact ⟨t, by simp, ht⟩
  have hstretch : pre ++ (body ++ t :: post) =
      pre.take first ++ ((pre.drop first ++ (body ++ [t])) ++ post) := by
    simp only [List.append_assoc, List.singleton_append]
    rw [← List.append_assoc (pre.take first), List.take_append_drop]
  rw [mapParagraphs_eq_mapBetween f h hsome, hend, hstretch, mapBetween_append]
  · rw [List.map_append, List.map_append, CodeUnit.map_mapAttributes_of_no_terminator hbody]
    simp only [List.map_singleton, List.append_assoc, List.singleton_append]
  · rw [List.length_take, Nat.min_eq_left (h.trans hlast)]
  · simp only [List.length_take, List.length_append, List.length_drop, List.length_singleton]
    omega

/-- An insertion leaves a change alone that ends in a paragraph before it. -/
theorem insertedAt_mapParagraphs_of_exists (text : String) (ht : t.isTerminator = true)
    (f : ParagraphAttributes → ParagraphAttributes) (h : first ≤ last)
    (hbefore : ∃ u ∈ pre.drop last, u.isTerminator = true) :
    insertedAt text pre.length (mapParagraphs first last f (pre ++ [t])) =
      mapParagraphs first last f (insertedAt text pre.length (pre ++ [t])) := by
  have hlength : (mapParagraphs first last f pre).length = pre.length := by
    simpa using congrArg List.length (codes_mapParagraphs h f pre)
  rw [insertedAt_concat text pre ht, mapParagraphs_append_of_exists f h hbefore, ← hlength,
    insertedAt_concat _ _ ht, List.append_assoc, List.append_assoc,
    mapParagraphs_append_of_exists f h hbefore]

/-- A change that reaches the last paragraph gives the same attributes to what is inserted there, and a
    break that is inserted there leaves the plain paragraph after it alone. -/
theorem insertedAt_mapParagraphs_of_forall {text : String} (htext : IsChunk text)
    (ht : t.isTerminator = true) (f : ParagraphAttributes → ParagraphAttributes) (h : first ≤ last)
    (hlast : last ≤ pre.length) (hpre : ∀ u ∈ pre.drop last, u.isTerminator = false) :
    insertedAt text pre.length (mapParagraphs first last f (pre ++ [t])) =
      mapParagraphs first last f (insertedAt text pre.length (pre ++ [t])) := by
  have hempty : ∀ u ∈ ([] : List CodeUnit), u.isTerminator = false := List.forall_mem_nil _
  have hreach := mapParagraphs_append_of_forall f h hlast hpre hempty ht []
  have hlength : (pre.take first ++ (pre.drop first).map (CodeUnit.mapAttributes f)).length =
      pre.length := by
    rw [List.length_append, List.length_map, ← List.length_append, List.take_append_drop]
  have hchanged : (t.mapAttributes f).isTerminator = true := by
    rw [CodeUnit.isTerminator, CodeUnit.mapAttributes_code]
    exact ht
  have hparagraph : (t.mapAttributes f).paragraph.getD {} = f (t.paragraph.getD {}) := by
    rw [CodeUnit.mapAttributes, if_pos ht, Option.getD_some]
  rw [insertedAt_concat text pre ht, show mapParagraphs first last f (pre ++ [t]) = _ from hreach]
  conv_lhs => rw [List.nil_append, ← hlength]
  rw [insertedAt_concat _ _ hchanged, hparagraph]
  rcases htext with rfl | hplain
  · have hbreak (a : ParagraphAttributes) : insertedUnits "\n" a = [.terminator a] := rfl
    have hline : "\n".toList.contains '\n' = true := by decide
    have hreset : { t.mapAttributes f with paragraph := some {} } = { t with paragraph := some {} } := by
      rw [CodeUnit.mapAttributes, if_pos ht]
    have hinserted := mapParagraphs_append_of_forall f h hlast hpre hempty
      (CodeUnit.isTerminator_terminator (t.paragraph.getD {})) [{ t with paragraph := some {} }]
    rw [if_pos hline, if_pos hline, hbreak, hbreak, hreset, List.append_assoc pre]
    exact (List.append_assoc ..).trans hinserted.symm
  · have hline : text.toList.contains '\n' = false := by simpa using hplain
    have hbody (a : ParagraphAttributes) : ∀ u ∈ insertedUnits text a, u.isTerminator = false :=
      fun u hu => isTerminator_of_mem_insertedUnits hplain hu
    have hinserted := mapParagraphs_append_of_forall f h hlast hpre (hbody (t.paragraph.getD {})) ht []
    rw [hline, if_neg (by decide), if_neg (by decide), List.append_assoc pre, hinserted,
      insertedUnits_eq_plain hplain, insertedUnits_eq_plain hplain]
    exact List.append_assoc ..

/-- A change of paragraphs and an insertion after them can change places. -/
theorem insertedAt_mapParagraphs {text : String} (htext : IsChunk text) (ht : t.isTerminator = true)
    (f : ParagraphAttributes → ParagraphAttributes) (h : first ≤ last) (hlast : last ≤ pre.length) :
    insertedAt text pre.length (mapParagraphs first last f (pre ++ [t])) =
      mapParagraphs first last f (insertedAt text pre.length (pre ++ [t])) := by
  by_cases hbefore : ∃ u ∈ pre.drop last, u.isTerminator = true
  · exact insertedAt_mapParagraphs_of_exists text ht f h hbefore
  · refine insertedAt_mapParagraphs_of_forall htext ht f h hlast fun u hu => ?_
    simpa using fun hterm => hbefore ⟨u, hu, hterm⟩

/-- So can a change of units that are all before the insertion. -/
theorem insertedAt_mapBetween (text : String) (ht : t.isTerminator = true) (f : CodeUnit → CodeUnit)
    (h : first ≤ last) (hlast : last < pre.length) :
    insertedAt text pre.length (mapBetween first last f (pre ++ [t])) =
      mapBetween first last f (insertedAt text pre.length (pre ++ [t])) := by
  have hlength : (mapBetween first last f pre).length = pre.length := by
    simp only [mapBetween, List.length_append, List.length_map, List.length_take, List.length_drop]
    omega
  rw [insertedAt_concat text pre ht, mapBetween_append_of_lt f h hlast, ← hlength,
    insertedAt_concat _ _ ht, List.append_assoc, List.append_assoc, mapBetween_append_of_lt f h hlast]

end Units

/-! ## Requests -/

section Requests

variable {d d₁ d₂ : LocalDocument} {written : List UInt16} {cursor : Nat} {op : Operation}

/-- From a document with so many units on, a style operation changes the units in the same way. -/
structure Changes (d : LocalDocument) (cursor : Nat) (op : Operation)
    (change : List CodeUnit → List CodeUnit) (lists : Nat) : Prop where
  apply : ∀ e : LocalDocument, e.listsCreated = d.listsCreated → cursor ≤ e.endIndex →
    e.apply (.ofOperation op) =
      .ok { e with units := change e.units, listsCreated := e.listsCreated + lists }
  codes : ∀ units, (change units).map (·.code) = units.map (·.code)
  inserted : ∀ {text pre t}, IsChunk text → t.isTerminator = true → cursor = pre.length + 1 →
    insertedAt text pre.length (change (pre ++ [t])) =
      change (insertedAt text pre.length (pre ++ [t]))

theorem changes_mapParagraphs {r : StyleRange} {lists : Nat} {f : ParagraphAttributes → ParagraphAttributes}
    (hordered : r.start ≤ r.last) (hlast : r.last ≤ cursor)
    (happly : ∀ e : LocalDocument, e.listsCreated = d.listsCreated → cursor ≤ e.endIndex →
      e.apply (.ofOperation op) =
        .ok { e with
          units := mapParagraphs (r.start - 1) (r.last - 1) f e.units
          listsCreated := e.listsCreated + lists }) :
    d.Changes cursor op (mapParagraphs (r.start - 1) (r.last - 1) f) lists where
  apply := happly
  codes := codes_mapParagraphs (by omega) f
  inserted := fun htext ht hcursor => insertedAt_mapParagraphs htext ht f (by omega) (by omega)

theorem exists_changes (hop : op.ReachesTo cursor) (hd : d.apply (.ofOperation op) = .ok d₁) :
    ∃ change lists, d.Changes cursor op change lists := by
  obtain ⟨r, hr, hstart, hordered, hlast⟩ := hop.range
  have hcheck {e : LocalDocument} (hend : cursor ≤ e.endIndex) :
      e.checkRange r.toRange = .ok (r.start - 1, r.last - 1) :=
    checkRange_toRange hstart hordered (hlast.trans hend)
  cases op with
  | insertText text index => cases hr
  | setParagraphStyle range name =>
    cases hr
    obtain ⟨named, -, -, hnamed, -, -⟩ := updateParagraphStyle_eq_ok_iff.mp hd
    refine ⟨_, 0, changes_mapParagraphs (f := ({ · with style := named })) hordered hlast ?_⟩
    intro e _ hend
    exact updateParagraphStyle_eq_ok_iff.mpr ⟨named, _, _, hnamed, hcheck hend, rfl⟩
  | setBulletList range preset =>
    cases hr
    obtain ⟨hpreset, -⟩ := createParagraphBullets_eq_ok_iff.mp hd
    refine ⟨_, 1, changes_mapParagraphs
      (f := ({ · with bullet := some (listBullet (d.listsCreated + 1)) })) hordered hlast ?_⟩
    intro e hlists hend
    refine createParagraphBullets_eq_ok_iff.mpr ⟨hpreset, _, _, hcheck hend, ?_⟩
    rw [hlists]
    rfl
  | setLink range url =>
    cases hr
    have hbefore := hop.link r url rfl
    refine ⟨mapBetween (r.start - 1) (r.last - 1) ({ · with link := some url }), 0, ?_, ?_, ?_⟩
    · intro e _ hend
      exact updateTextStyle_eq_ok_iff.mpr ⟨_, _, hcheck hend, (if_pos (by decide)).symm⟩
    · have hplaces : r.start - 1 ≤ r.last - 1 + 1 := by omega
      exact codes_mapBetween (f := ({ · with link := some url })) (fun _ => rfl) hplaces
    · intro text pre t _ ht hcursor
      exact insertedAt_mapBetween text ht _ (by omega) (by omega)

namespace Holds

theorem cursor_le (h : d.Holds written [CodeUnit.lineFeed] cursor) : cursor ≤ d.endIndex := by
  rw [h.endIndex_eq, h.cursor]
  exact le_refl _

theorem style_of_ok (h : d.Holds written [CodeUnit.lineFeed] cursor) (hop : op.ReachesTo cursor)
    (hd : d.apply (.ofOperation op) = .ok d₁) : d₁.Holds written [CodeUnit.lineFeed] cursor := by
  obtain ⟨change, lists, hchanges⟩ := exists_changes hop hd
  cases hd.symm.trans (hchanges.apply d rfl h.cursor_le)
  exact ⟨(hchanges.codes d.units).trans h.codes, h.cursor⟩

/-- An operation that is carried out before an insertion can be carried out after it. -/
theorem insertText_style (h : d.Holds written [CodeUnit.lineFeed] cursor) (hop : op.ReachesTo cursor)
    {text : String} (htext : IsChunk text) (hd : d.apply (.ofOperation op) = .ok d₁)
    (hd₁ : d₁.apply (.insertText text cursor) = .ok d₂) :
    ∃ e, d.apply (.insertText text cursor) = .ok e ∧ e.apply (.ofOperation op) = .ok d₂ := by
  obtain ⟨change, lists, hchanges⟩ := exists_changes hop hd
  cases hd.symm.trans (hchanges.apply d rfl h.cursor_le)
  obtain ⟨hsome, -, -, rfl⟩ := insertText_eq_ok_iff.mp hd₁
  obtain ⟨e, he, hholds⟩ := h.insertText (by decide) (by decide) hsome
  have hlater : cursor ≤ e.endIndex := (Nat.le_add_right ..).trans hholds.cursor_le
  refine ⟨e, he, ?_⟩
  obtain ⟨-, -, -, rfl⟩ := insertText_eq_ok_iff.mp he
  obtain ⟨pre, t, hunits, rfl, ht⟩ := h.exists_units
  have hplace : cursor = pre.length + 1 := by rw [h.cursor, List.length_map]
  have hposition : cursor - 1 = pre.length := by rw [hplace, Nat.add_sub_cancel]
  refine (hchanges.apply _ ?_ hlater).trans ?_
  · rfl
  · dsimp only
    rw [hposition, hunits, hchanges.inserted htext ht hplace]

end Holds

end Requests

end Service.LocalDocument

end DocMark
