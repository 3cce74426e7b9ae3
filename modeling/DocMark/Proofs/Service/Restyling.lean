-- SUMMARY: Which paragraphs and which units a style request changes: those that its range touches.
import Mathlib
import DocMark.Proofs.Service.Attributes
import DocMark.Proofs.Service.StoredParagraphs

/-!
# Requests over a range

The paragraphs of a document have intervals of indices, terminators included, that follow each other. A
request for a style or for bullets changes the attributes of those paragraphs whose interval has an index
in its range, and a request for a link changes the units in its range. Nothing else changes, and the list
that bullets are given is a new one.
-/
namespace DocMark.Edit.Request

/-- The range of a style request. -/
def range? : Request → Option Range
  | .insertText _ _ => none
  | .updateParagraphStyle _ range _ => some range
  | .createParagraphBullets _ range => some range
  | .updateTextStyle _ range _ => some range

end DocMark.Edit.Request

namespace DocMark.Service

open Document Edit

namespace StoredParagraph

variable {ps : List StoredParagraph}

/-- The index at which the paragraph number `i` begins. -/
def startOf (ps : List StoredParagraph) (i : Nat) : Nat := (layout (ps.take i)).length + 1

theorem startOf_mono (ps : List StoredParagraph) {i j : Nat} (h : i ≤ j) : startOf ps i ≤ startOf ps j := by
  obtain ⟨k, rfl⟩ := Nat.exists_eq_add_of_le h
  rw [startOf, startOf, List.take_add, layout_append, List.length_append]
  omega

theorem startOf_succ {i : Nat} (h : i < ps.length) :
    startOf ps (i + 1) = startOf ps i + ps[i].units.length := by
  rw [startOf, startOf, List.take_succ_eq_append_getElem h, layout_append, layout_singleton,
    List.length_append]
  omega

/-- No paragraph has an empty interval. -/
theorem startOf_lt {i j : Nat} (h : i < j) (hj : j ≤ ps.length) : startOf ps i < startOf ps j := by
  have hsome : startOf ps i < startOf ps (i + 1) := by
    rw [startOf_succ (h.trans_le hj), length_units]
    omega
  exact hsome.trans_le (startOf_mono ps h)

/-- Every index up to the last one lies in the interval of a paragraph. -/
theorem exists_startOf_le {index : Nat} (hpos : 1 ≤ index) (hend : index ≤ (layout ps).length) :
    ∃ i < ps.length, startOf ps i ≤ index ∧ index < startOf ps (i + 1) := by
  have hlt : index - 1 < (layout ps).length := Nat.sub_one_lt_of_le hpos hend
  obtain ⟨before, p, after, rfl, j, hj, hindex⟩ := exists_around hlt
  have hi : before.length < (before ++ p :: after).length := by simp
  have hstart : startOf (before ++ p :: after) before.length = (layout before).length + 1 := by
    rw [startOf, List.take_left]
  refine ⟨before.length, hi, by omega, ?_⟩
  rw [startOf_succ hi, hstart, List.getElem_append_right (le_refl _)]
  simp only [Nat.sub_self, List.getElem_cons_zero, length_units]
  omega

/-- In the interval of a paragraph one finds its terminator, the unit with the last index. -/
theorem terminatorFrom_of_startOf (hlines : ∀ p ∈ ps, p.IsLine) {i index : Nat} (hi : i < ps.length)
    (hstart : startOf ps i ≤ index) (hstop : index < startOf ps (i + 1)) :
    LocalDocument.terminatorFrom (layout ps) (index - 1) + 2 = startOf ps (i + 1) := by
  have hparts : layout ps = layout (ps.take i) ++ (ps[i].body ++ ps[i].terminator :: layout (ps.drop (i + 1))) := by
    rw [← layout_around, ← List.drop_eq_getElem_cons hi, List.take_append_drop]
  rw [startOf_succ hi, length_units] at hstop ⊢
  have hfound := LocalDocument.terminatorFrom_append (layout (ps.take i)) (layout (ps.drop (i + 1)))
    (hlines _ (List.getElem_mem hi)).isTerminator ps[i].isTerminator_terminator
    (i := index - startOf ps i) (by omega)
  rw [← hparts] at hfound
  have hposition : (layout (ps.take i)).length + (index - startOf ps i) = index - 1 := by
    rw [startOf] at hstart ⊢
    omega
  rw [hposition] at hfound
  rw [hfound, startOf]
  omega

/-! ## Changed paragraphs -/

/-- The paragraphs from number `a` to number `b` with their attributes changed, the others as they are. -/
def mapFrom (a b : Nat) (f : ParagraphAttributes → ParagraphAttributes) (ps : List StoredParagraph) :
    List StoredParagraph :=
  ps.mapIdx fun i p => if a ≤ i ∧ i ≤ b then p.mapAttributes f else p

theorem mapIdx_eq_map {α β : Type} {g : Nat → α → β} {f : α → β} {xs : List α}
    (h : ∀ i < xs.length, g i = f) : xs.mapIdx g = xs.map f := by
  refine List.ext_getElem (by simp) fun i hi _ => ?_
  rw [List.length_mapIdx] at hi
  rw [List.getElem_mapIdx, List.getElem_map, h i hi]

theorem mapFrom_append {a b : Nat} (f : ParagraphAttributes → ParagraphAttributes)
    (before mid after : List StoredParagraph) (ha : a = before.length)
    (hb : b + 1 = before.length + mid.length) :
    mapFrom a b f (before ++ (mid ++ after)) = before ++ (mid.map (mapAttributes f) ++ after) := by
  rw [mapFrom, List.mapIdx_append, List.mapIdx_append, mapIdx_eq_map (f := id),
    mapIdx_eq_map (f := mapAttributes f), mapIdx_eq_map (f := id), List.map_id, List.map_id]
  · exact fun i _ => funext fun p => if_neg (by omega)
  · exact fun i hi => funext fun p => if_pos (by omega)
  · exact fun i hi => funext fun p => if_neg (by omega)

/-- A change from a place in paragraph `a` to a place in paragraph `b` changes these and all between. -/
theorem mapParagraphs_layout (hlines : ∀ p ∈ ps, p.IsLine) {a b first last : Nat} (hab : a ≤ b)
    (hb : b < ps.length)
    (hfirst : LocalDocument.terminatorFrom (layout ps) first + 2 = startOf ps (a + 1))
    (hlast : LocalDocument.terminatorFrom (layout ps) last + 2 = startOf ps (b + 1))
    (f : ParagraphAttributes → ParagraphAttributes) :
    LocalDocument.mapParagraphs first last f (layout ps) = layout (mapFrom a b f ps) := by
  have ha : a < ps.length := hab.trans_lt hb
  have hab' : a ≤ b + 1 := hab.trans (Nat.le_succ b)
  have hparts := (LocalDocument.take_append_take_drop_append hab' ps).symm
  have hlength : (ps.take a).length = a := by rw [List.length_take, Nat.min_eq_left ha.le]
  have hmid : ((ps.drop a).take (b + 1 - a)).length = b + 1 - a := by
    rw [List.length_take, List.length_drop, Nat.min_eq_left (by omega)]
  have hhead : (ps.drop a).take (b + 1 - a) = ps[a] :: (ps.drop (a + 1)).take (b - a) := by
    rw [List.drop_eq_getElem_cons ha, Nat.succ_sub hab, List.take_succ_cons]
  have hmidLines : ∀ p ∈ (ps.drop a).take (b + 1 - a), p.IsLine := fun p hp =>
    hlines p (List.mem_of_mem_drop (List.mem_of_mem_take hp))
  have hlayout : layout ps = layout (ps.take a)
      ++ (layout ((ps.drop a).take (b + 1 - a)) ++ layout (ps.drop (b + 1))) := by
    rw [← layout_append, ← layout_append, ← hparts]
  have hstop : (layout (ps.take a)).length + (layout ((ps.drop a).take (b + 1 - a))).length + 1 =
      startOf ps (b + 1) := by
    rw [startOf, ← List.length_append, ← layout_append, ← List.take_add, Nat.add_sub_cancel' hab']
  rw [startOf_succ ha, length_units, startOf] at hfirst
  have hchange : LocalDocument.mapParagraphs first last f (layout ps) = layout (ps.take a)
      ++ ((layout ((ps.drop a).take (b + 1 - a))).map (CodeUnit.mapAttributes f)
        ++ layout (ps.drop (b + 1))) := by
    rw [hlayout] at hfirst hlast ⊢
    refine LocalDocument.mapParagraphs_append (k := ps[a].body.length) f _ _ _ ?_ ?_ ?_ ?_
    · rw [hhead, layout_cons, List.length_append, length_units]
      omega
    · rw [hhead, layout_cons, units, List.append_assoc, List.take_left]
      exact (hlines _ (List.getElem_mem ha)).isTerminator
    · omega
    · omega
  rw [hchange, map_mapAttributes_layout hmidLines, ← layout_append, ← layout_append,
    ← mapFrom_append (b := b) f _ _ _ hlength.symm (by omega), ← hparts]

end StoredParagraph

namespace LocalDocument

open StoredParagraph (layout startOf mapFrom)

variable {d d' : LocalDocument} {range : Range} {f : ParagraphAttributes → ParagraphAttributes}

/-- Whether the range has an index in the interval of the paragraph number `i`, which ends with the index
    of the terminator. -/
def Touches (d : LocalDocument) (range : Range) (i : Nat) : Prop :=
  ∃ index, (startOf d.storedParagraphs i ≤ index ∧ index < startOf d.storedParagraphs (i + 1))
    ∧ range.startIndex ≤ index ∧ index < range.endIndex

theorem touches_iff {i : Nat} : d.Touches range i ↔
    max (startOf d.storedParagraphs i) range.startIndex <
      min (startOf d.storedParagraphs (i + 1)) range.endIndex := by
  constructor
  · rintro ⟨index, hinterval, hrange⟩
    omega
  · intro h
    exact ⟨max (startOf d.storedParagraphs i) range.startIndex, by omega, by omega⟩

instance (d : LocalDocument) (range : Range) (i : Nat) : Decidable (d.Touches range i) :=
  decidable_of_iff _ touches_iff.symm

/-- The paragraphs of a document, those that a range touches with their attributes changed. -/
def mapTouched (d : LocalDocument) (range : Range) (f : ParagraphAttributes → ParagraphAttributes) :
    List StoredParagraph :=
  d.storedParagraphs.mapIdx fun i p => if d.Touches range i then p.mapAttributes f else p

/-- A range touches the paragraphs from the one with its first index to the one with its last. -/
theorem touches_iff_between {a b i : Nat} (hb : b < d.storedParagraphs.length)
    (hfirst : startOf d.storedParagraphs a ≤ range.startIndex
      ∧ range.startIndex < startOf d.storedParagraphs (a + 1))
    (hlast : startOf d.storedParagraphs b ≤ range.endIndex - 1
      ∧ range.endIndex - 1 < startOf d.storedParagraphs (b + 1))
    (hordered : range.startIndex < range.endIndex) : d.Touches range i ↔ a ≤ i ∧ i ≤ b := by
  have hmono := @StoredParagraph.startOf_mono d.storedParagraphs
  rw [touches_iff]
  constructor
  · intro h
    refine ⟨?_, ?_⟩
    · by_contra hbefore
      have hstop := hmono (i := i + 1) (j := a) (by omega)
      omega
    · by_contra hafter
      have hstart := hmono (i := b + 1) (j := i) (by omega)
      omega
  · rintro ⟨ha, hi⟩
    have hstart := hmono hi
    have hstop := hmono (Nat.add_le_add_right ha 1)
    have hsome := StoredParagraph.startOf_lt (Nat.lt_add_one i) (hi.trans_lt hb)
    omega

/-- The paragraphs that a range touches, from the one with its first unit to the one with its last. -/
theorem Consistent.exists_touched (h : d.Consistent) (hpos : 1 ≤ range.startIndex)
    (hordered : range.startIndex < range.endIndex) (hend : range.endIndex ≤ d.endIndex + 1) :
    ∃ a b, a ≤ b ∧ b < d.storedParagraphs.length
      ∧ terminatorFrom d.units (range.startIndex - 1) + 2 = startOf d.storedParagraphs (a + 1)
      ∧ terminatorFrom d.units (range.endIndex - 2) + 2 = startOf d.storedParagraphs (b + 1)
      ∧ ∀ i, d.Touches range i ↔ a ≤ i ∧ i ≤ b := by
  obtain ⟨hunits, hlines⟩ := h.stores
  rw [endIndex, hunits] at hend
  have hstart : range.startIndex ≤ (layout d.storedParagraphs).length := by omega
  have hstop : range.endIndex - 1 ≤ (layout d.storedParagraphs).length := by omega
  obtain ⟨a, ha, hfirst⟩ := StoredParagraph.exists_startOf_le hpos hstart
  obtain ⟨b, hb, hlast⟩ := StoredParagraph.exists_startOf_le (by omega) hstop
  have hab : a ≤ b := by
    by_contra hba
    have hmono := StoredParagraph.startOf_mono d.storedParagraphs (i := b + 1) (j := a) (by omega)
    omega
  have hfound := StoredParagraph.terminatorFrom_of_startOf hlines ha hfirst.1 hfirst.2
  have hfoundLast := StoredParagraph.terminatorFrom_of_startOf hlines hb hlast.1 hlast.2
  rw [Nat.sub_sub] at hfoundLast
  rw [← hunits] at hfound hfoundLast
  exact ⟨a, b, hab, hb, hfound, hfoundLast, fun _ => touches_iff_between hb hfirst hlast hordered⟩

theorem Consistent.mapParagraphs_eq (h : d.Consistent) (hpos : 1 ≤ range.startIndex)
    (hordered : range.startIndex < range.endIndex) (hend : range.endIndex ≤ d.endIndex + 1)
    (f : ParagraphAttributes → ParagraphAttributes) :
    LocalDocument.mapParagraphs (range.startIndex - 1) (range.endIndex - 2) f d.units =
      layout (d.mapTouched range f) := by
  obtain ⟨hunits, hlines⟩ := h.stores
  obtain ⟨a, b, hab, hb, hfound, hfoundLast, htouches⟩ := h.exists_touched hpos hordered hend
  have htouched : mapFrom a b f d.storedParagraphs = d.mapTouched range f := by
    simp only [mapFrom, mapTouched, htouches]
  rw [hunits] at hfound hfoundLast
  rw [← htouched, hunits, StoredParagraph.mapParagraphs_layout hlines hab hb hfound hfoundLast]

/-- What a change of the paragraphs that a range touches comes to. -/
theorem Consistent.changeParagraphs (h : d.Consistent) (hpos : 1 ≤ range.startIndex)
    (hordered : range.startIndex < range.endIndex) (hend : range.endIndex ≤ d.endIndex + 1)
    (hunits : d'.units = LocalDocument.mapParagraphs (range.startIndex - 1) (range.endIndex - 2) f d.units) :
    d'.codes = d.codes ∧ d'.storedParagraphs = d.mapTouched range f := by
  refine ⟨?_, Stores.storedParagraphs_eq ⟨hunits.trans (h.mapParagraphs_eq hpos hordered hend f), ?_⟩⟩
  · rw [codes, hunits, codes_mapParagraphs (by omega), codes]
  · intro p hp
    obtain ⟨i, hi, rfl⟩ := List.mem_mapIdx.mp hp
    have hline := h.stores.lines _ (List.getElem_mem hi)
    split
    · exact hline
    · exact hline

/-- The list of new bullets has no items yet. -/
theorem Consistent.listId_ne (h : d.Consistent) {p : StoredParagraph} (hp : p ∈ d.storedParagraphs)
    {b : Bullet} (hb : b ∈ p.attributes.bullet) : b.listId ≠ "list." ++ toString (d.listsCreated + 1) := by
  have hterminator : p.terminator ∈ d.units := by
    rw [h.stores.units]
    exact List.mem_flatMap.mpr ⟨p, hp, List.mem_append_right _ (List.mem_singleton.mpr rfl)⟩
  obtain ⟨k, -, hk, hid⟩ := ((h.sound _ hterminator).attributes p.attributes rfl).bullet b hb
  intro heq
  have hnumber : k = d.listsCreated + 1 :=
    Nat.repr_inj.mp ((String.append_right_inj "list.").mp (hid.symm.trans heq))
  omega

/-! ## Changed units -/

/-- The units whose index lies in the range are changed. -/
theorem mapBetween_eq_mapIdx (hpos : 1 ≤ range.startIndex) (hordered : range.startIndex < range.endIndex)
    (f : CodeUnit → CodeUnit) (units : List CodeUnit) :
    mapBetween (range.startIndex - 1) (range.endIndex - 2) f units =
      units.mapIdx fun i u => if range.startIndex ≤ i + 1 ∧ i + 1 < range.endIndex then f u else u := by
  refine List.ext_getElem? fun i => ?_
  have hposition : range.startIndex - 1 ≤ i ∧ i ≤ range.endIndex - 2 ↔
      range.startIndex ≤ i + 1 ∧ i + 1 < range.endIndex := by omega
  rw [getElem?_mapBetween f units (by omega), List.getElem?_mapIdx, if_congr hposition rfl rfl]
  split
  · rfl
  · exact (Option.map_id' ..).symm

/-! ## Style requests -/

/-- What a style request asks for: a style or a bullet for all paragraphs that its range
    touches, with the bullet of a list that no paragraph has yet, or a link for all units in the range. -/
def Fulfils (d : LocalDocument) (range : Range) (d' : LocalDocument) : Request → Prop
  | .insertText _ _ => False
  | .updateParagraphStyle style _ _ =>
    ∃ named, NamedStyle.parse? style.namedStyleType = some named
      ∧ d'.storedParagraphs = d.mapTouched range ({ · with style := named })
  | .createParagraphBullets _ _ =>
    ∃ listId, d'.storedParagraphs = d.mapTouched range ({ · with bullet := some ⟨listId, none⟩ })
      ∧ ∀ p ∈ d.storedParagraphs, ∀ b ∈ p.attributes.bullet, b.listId ≠ listId
  | .updateTextStyle style _ fields =>
    d'.units = if namesField fields "link" then
        d.units.mapIdx fun i u =>
          if range.startIndex ≤ i + 1 ∧ i + 1 < range.endIndex then
            { u with link := style.link.map (·.url) }
          else u
      else d.units

/-- An accepted style request keeps the text and changes what its range touches, and nothing else. -/
theorem fulfils_of_apply {r : Request} (h : Reachable d) (hrange : r.range? = some range)
    (hok : d.apply r = .ok d') :
    d'.text = d.text ∧ d'.endIndex = d.endIndex ∧ d.Fulfils range d' r := by
  have hconsistent := h.consistent
  suffices hcodes : d'.codes = d.codes ∧ d.Fulfils range d' r by
    obtain ⟨hcodes, hfulfils⟩ := hcodes
    have hlength := congrArg List.length hcodes
    rw [codes, codes, List.length_map, List.length_map] at hlength
    exact ⟨by rw [text, hcodes, text], hlength, hfulfils⟩
  cases r with
  | insertText text index => cases hrange
  | updateParagraphStyle style _ fields =>
    cases hrange
    obtain ⟨named, first, last, hnamed, hcheck, hd'⟩ := updateParagraphStyle_eq_ok_iff.mp hok
    obtain ⟨⟨hpos, hordered, hend⟩, rfl, rfl⟩ := checkRange_eq_ok_iff.mp hcheck
    have hunits := congrArg LocalDocument.units hd'
    dsimp only at hunits
    obtain ⟨hcodes, hparagraphs⟩ := hconsistent.changeParagraphs hpos hordered hend hunits
    exact ⟨hcodes, named, hnamed, hparagraphs⟩
  | createParagraphBullets preset _ =>
    cases hrange
    obtain ⟨-, first, last, hcheck, hd'⟩ := createParagraphBullets_eq_ok_iff.mp hok
    obtain ⟨⟨hpos, hordered, hend⟩, rfl, rfl⟩ := checkRange_eq_ok_iff.mp hcheck
    have hunits := congrArg LocalDocument.units hd'
    dsimp only at hunits
    obtain ⟨hcodes, hparagraphs⟩ := hconsistent.changeParagraphs hpos hordered hend hunits
    exact ⟨hcodes, _, hparagraphs, fun p hp b hb => hconsistent.listId_ne hp hb⟩
  | updateTextStyle style _ fields =>
    cases hrange
    obtain ⟨first, last, hcheck, hd'⟩ := updateTextStyle_eq_ok_iff.mp hok
    obtain ⟨⟨hpos, hordered, hend⟩, rfl, rfl⟩ := checkRange_eq_ok_iff.mp hcheck
    unfold Fulfils
    dsimp only
    split_ifs at hd' ⊢
    · have hunits := congrArg LocalDocument.units hd'
      refine ⟨?_, hunits.trans (mapBetween_eq_mapIdx hpos hordered _ _)⟩
      rw [codes, hunits, codes_mapBetween (by exact fun _ => rfl) (by omega), codes]
    · exact ⟨congrArg LocalDocument.codes hd', congrArg LocalDocument.units hd'⟩

/-- Bullets from the end of one paragraph to the first unit of the last one, which is in a list. -/
theorem fulfils_of_apply_secondList :
    let d := (LocalDocument.new "doc" "T").perform (.update "doc"
      [.insertText "ab\ncd\nef" 1, .createParagraphBullets "B" ⟨7, 8⟩,
       .updateTextStyle (.ofLink "u") ⟨2, 5⟩ "link"])
    let r := Request.createParagraphBullets "B" ⟨3, 8⟩
    let d' := d.perform (.apply r)
    (Reachable d ∧ r.range? = some ⟨3, 8⟩ ∧ d.apply r = .ok d')
      ∧ d'.text = d.text ∧ d'.endIndex = d.endIndex ∧ d.Fulfils ⟨3, 8⟩ d' r := by
  intro d r d'
  have hreachable : Reachable d := .perform _ (.new _ _)
  have hok : d.apply r = .ok d' := by decide
  exact ⟨⟨hreachable, rfl, hok⟩, fulfils_of_apply hreachable rfl hok⟩

end LocalDocument

end DocMark.Service
