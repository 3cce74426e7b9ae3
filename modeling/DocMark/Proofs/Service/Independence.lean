-- SUMMARY: Style requests do not depend on each other to be accepted, and independent ones can change places.
import Mathlib
import DocMark.Proofs.Service.Restyling

/-!
# Independent style requests

A style request is accepted or refused by its own data and by the length of the document, which no style
request changes. An accepted one gives all units from one position to another a style, a bullet or a link.
Which positions these are is a matter of the codes, so it does not matter what was styled before. Two
requests change places if they give different things, or if no unit gets the same thing from both.
-/
namespace DocMark

open Document Edit

namespace Edit

/-- No index lies in both ranges. -/
def Range.Disjoint (a b : Range) : Prop :=
  ∀ index, ¬((a.startIndex ≤ index ∧ index < a.endIndex) ∧ b.startIndex ≤ index ∧ index < b.endIndex)

namespace Request

def isInsertion : Request → Bool
  | .insertText _ _ => true
  | _ => false

/-- Whether the data of a style request are accepted, apart from its range. -/
def IsProper : Request → Prop
  | .insertText _ _ => False
  | .updateParagraphStyle style _ _ => (NamedStyle.parse? style.namedStyleType).isSome = true
  | .createParagraphBullets preset _ => preset ≠ ""
  | .updateTextStyle _ _ _ => True

/-- How many lists a request makes. -/
def lists : Request → Nat
  | .createParagraphBullets _ _ => 1
  | _ => 0

theorem exists_range {r : Request} (h : r.isInsertion = false) : ∃ range, r.range? = some range := by
  cases r with
  | insertText text index => cases h
  | updateParagraphStyle style range fields => exact ⟨range, rfl⟩
  | createParagraphBullets preset range => exact ⟨range, rfl⟩
  | updateTextStyle style range fields => exact ⟨range, rfl⟩

end Request

end Edit

namespace Service.LocalDocument

variable {d d₁ d₂ e : LocalDocument} {r s : Request} {range a b : Range}

/-! ## What is set -/

/-- What a style request makes of a unit that it reaches; `bullet` is the bullet that it has to give. -/
def setting (bullet : Bullet) : Request → CodeUnit → CodeUnit
  | .insertText _ _ => id
  | .updateParagraphStyle style _ _ =>
    .mapAttributes ({ · with style := (NamedStyle.parse? style.namedStyleType).getD .normalText })
  | .createParagraphBullets _ _ => .mapAttributes ({ · with bullet := some bullet })
  | .updateTextStyle style _ fields =>
    if namesField fields "link" then ({ · with link := style.link.map (·.url) }) else id

theorem setting_updateParagraphStyle (bullet : Bullet) (style : ParagraphStyle) (range : Range)
    (fields : String) :
    setting bullet (.updateParagraphStyle style range fields) =
      .mapAttributes ({ · with style := (NamedStyle.parse? style.namedStyleType).getD .normalText }) := rfl

theorem setting_createParagraphBullets (bullet : Bullet) (preset : String) (range : Range) :
    setting bullet (.createParagraphBullets preset range) =
      .mapAttributes ({ · with bullet := some bullet }) := rfl

theorem setting_updateTextStyle (bullet : Bullet) (style : TextStyle) (range : Range) (fields : String) :
    setting bullet (.updateTextStyle style range fields) =
      if namesField fields "link" then ({ · with link := style.link.map (·.url) }) else id := rfl

theorem setting_code (bullet : Bullet) (r : Request) (u : CodeUnit) : (setting bullet r u).code = u.code := by
  cases r with
  | insertText text index => rfl
  | updateParagraphStyle style range fields => exact u.mapAttributes_code _
  | createParagraphBullets preset range => exact u.mapAttributes_code _
  | updateTextStyle style range fields =>
    rw [setting_updateTextStyle]
    split <;> rfl

/-- The bullet matters to requests that make a list. -/
theorem setting_of_lists_eq_zero (h : r.lists = 0) (bullet bullet' : Bullet) :
    setting bullet r = setting bullet' r := by
  cases r with
  | createParagraphBullets preset range => cases h
  | _ => rfl

theorem commute_mapAttributes {f g : ParagraphAttributes → ParagraphAttributes} (h : Function.Commute f g) :
    Function.Commute (CodeUnit.mapAttributes f) (CodeUnit.mapAttributes g) := by
  intro u
  cases hterm : u.isTerminator with
  | false => simp [CodeUnit.mapAttributes, hterm]
  | true =>
    have hkept (a : Option ParagraphAttributes) : ({ u with paragraph := a } : CodeUnit).isTerminator = true :=
      hterm
    simp [CodeUnit.mapAttributes, hterm, hkept, h.eq]

/-- Attributes and links are set apart. -/
theorem commute_mapAttributes_setting (f : ParagraphAttributes → ParagraphAttributes) (bullet : Bullet)
    (style : TextStyle) (range : Range) (fields : String) :
    Function.Commute (CodeUnit.mapAttributes f) (setting bullet (.updateTextStyle style range fields)) := by
  rw [setting_updateTextStyle]
  split
  · intro u
    have hterm : ({ u with link := style.link.map (·.url) } : CodeUnit).isTerminator = u.isTerminator := rfl
    cases hu : u.isTerminator <;> simp [CodeUnit.mapAttributes, hterm, hu]
  · exact Function.Commute.id_right

/-- Requests of different kinds set different things. -/
theorem commute_setting (h : r.kind ≠ s.kind) (bullet bullet' : Bullet) :
    Function.Commute (setting bullet r) (setting bullet' s) := by
  cases r with
  | insertText text index => exact Function.Commute.id_left
  | updateParagraphStyle style range fields =>
    rw [setting_updateParagraphStyle]
    cases s with
    | insertText text index => exact Function.Commute.id_right
    | updateParagraphStyle _ _ _ => exact absurd rfl h
    | createParagraphBullets preset range =>
      rw [setting_createParagraphBullets]
      exact commute_mapAttributes fun _ => rfl
    | updateTextStyle style range fields => exact commute_mapAttributes_setting _ _ style range fields
  | createParagraphBullets preset range =>
    rw [setting_createParagraphBullets]
    cases s with
    | insertText text index => exact Function.Commute.id_right
    | updateParagraphStyle style range fields =>
      rw [setting_updateParagraphStyle]
      exact commute_mapAttributes fun _ => rfl
    | createParagraphBullets _ _ => exact absurd rfl h
    | updateTextStyle style range fields => exact commute_mapAttributes_setting _ _ style range fields
  | updateTextStyle style range fields =>
    cases s with
    | insertText text index => exact Function.Commute.id_right
    | updateParagraphStyle _ _ _ =>
      rw [setting_updateParagraphStyle]
      exact Function.Commute.symm (commute_mapAttributes_setting _ _ style range fields)
    | createParagraphBullets _ _ =>
      rw [setting_createParagraphBullets]
      exact Function.Commute.symm (commute_mapAttributes_setting _ _ style range fields)
    | updateTextStyle _ _ _ => exact absurd rfl h

/-! ## Where it is set -/

/-- The first and the last position that a style request over the range changes. -/
def reach (units : List CodeUnit) (range : Range) : Request → Nat × Nat
  | .updateTextStyle _ _ _ => (range.startIndex - 1, range.endIndex - 2)
  | _ => (terminatorFrom units (range.startIndex - 1), terminatorFrom units (range.endIndex - 2))

theorem ordered_reach (hordered : range.startIndex < range.endIndex) (units : List CodeUnit) (r : Request) :
    (reach units range r).1 ≤ (reach units range r).2 + 1 := by
  have hterminators : terminatorFrom units (range.startIndex - 1) ≤ terminatorFrom units (range.endIndex - 2) + 1 :=
    (terminatorFrom_mono units (by omega)).trans (Nat.le_succ _)
  cases r with
  | updateTextStyle style range' fields =>
    change range.startIndex - 1 ≤ range.endIndex - 2 + 1
    omega
  | insertText text index => exact hterminators
  | updateParagraphStyle style range' fields => exact hterminators
  | createParagraphBullets preset range' => exact hterminators

/-- The bullet of the list that is created next. -/
def nextBullet (d : LocalDocument) : Bullet := ⟨"list." ++ toString (d.listsCreated + 1), none⟩

/-- The document after a style request over the range was accepted. -/
def restyled (d : LocalDocument) (r : Request) (range : Range) : LocalDocument :=
  { d with
    units := mapBetween (reach d.units range r).1 (reach d.units range r).2 (setting d.nextBullet r) d.units
    listsCreated := d.listsCreated + r.lists }

/-- Whether the range has an index, and none outside the document. -/
def HasRange (d : LocalDocument) (range : Range) : Prop :=
  1 ≤ range.startIndex ∧ range.startIndex < range.endIndex ∧ range.endIndex ≤ d.endIndex + 1

/-- Whether the document accepts the request. -/
def Accepts (d : LocalDocument) (r : Request) : Prop := ∃ d', d.apply r = .ok d'

theorem mapBetween_id {first last : Nat} (h : first ≤ last + 1) (units : List CodeUnit) :
    mapBetween first last id units = units := by
  rw [mapBetween, List.map_id, List.append_assoc, take_append_take_drop_append h]

/-- What a style request needs to be accepted, and the document that it makes. -/
theorem apply_eq_ok_iff (hr : r.range? = some range) :
    d.apply r = .ok e ↔ r.IsProper ∧ d.HasRange range ∧ e = d.restyled r range := by
  cases r with
  | insertText text index => cases hr
  | updateParagraphStyle style range fields =>
    cases hr
    have hmade {named : NamedStyle} (hnamed : NamedStyle.parse? style.namedStyleType = some named) :
        d.restyled (.updateParagraphStyle style range fields) range = { d with
          units := mapParagraphs (range.startIndex - 1) (range.endIndex - 2) ({ · with style := named })
            d.units } := by
      rw [restyled, setting, hnamed]
      rfl
    refine updateParagraphStyle_eq_ok_iff.trans ⟨?_, ?_⟩
    · rintro ⟨named, first, last, hnamed, hcheck, he⟩
      obtain ⟨hbounds, rfl, rfl⟩ := checkRange_eq_ok_iff.mp hcheck
      exact ⟨Option.isSome_iff_exists.mpr ⟨named, hnamed⟩, hbounds, he.trans (hmade hnamed).symm⟩
    · rintro ⟨hproper, hbounds, he⟩
      obtain ⟨named, hnamed⟩ := Option.isSome_iff_exists.mp hproper
      exact ⟨named, _, _, hnamed, checkRange_eq_ok_iff.mpr ⟨hbounds, rfl, rfl⟩, he.trans (hmade hnamed)⟩
  | createParagraphBullets preset range =>
    cases hr
    refine createParagraphBullets_eq_ok_iff.trans (and_congr_right fun _ => ⟨?_, ?_⟩)
    · rintro ⟨first, last, hcheck, he⟩
      obtain ⟨hbounds, rfl, rfl⟩ := checkRange_eq_ok_iff.mp hcheck
      exact ⟨hbounds, he⟩
    · rintro ⟨hbounds, he⟩
      exact ⟨_, _, checkRange_eq_ok_iff.mpr ⟨hbounds, rfl, rfl⟩, he⟩
  | updateTextStyle style range fields =>
    cases hr
    have hmade (hordered : range.startIndex < range.endIndex) :
        d.restyled (.updateTextStyle style range fields) range =
          if namesField fields "link" then
            { d with
              units := mapBetween (range.startIndex - 1) (range.endIndex - 2)
                ({ · with link := style.link.map (·.url) }) d.units }
          else d := by
      rw [restyled, setting_updateTextStyle]
      split
      · rfl
      · exact congrArg (fun units => ({ d with units } : LocalDocument))
          (mapBetween_id (ordered_reach hordered d.units _) d.units)
    refine updateTextStyle_eq_ok_iff.trans ⟨?_, ?_⟩
    · rintro ⟨first, last, hcheck, he⟩
      obtain ⟨hbounds, rfl, rfl⟩ := checkRange_eq_ok_iff.mp hcheck
      exact ⟨trivial, hbounds, he.trans (hmade hbounds.2.1).symm⟩
    · rintro ⟨-, hbounds, he⟩
      exact ⟨_, _, checkRange_eq_ok_iff.mpr ⟨hbounds, rfl, rfl⟩, he.trans (hmade hbounds.2.1)⟩

/-- Whether a style request is accepted depends on nothing of the document but its length. -/
theorem accepts_iff_of_endIndex (hr : r.range? = some range) (h : e.endIndex = d.endIndex) :
    e.Accepts r ↔ d.Accepts r := by
  simp only [Accepts, apply_eq_ok_iff hr, HasRange, h, exists_and_left, exists_eq]

theorem codes_restyled (hordered : range.startIndex < range.endIndex) :
    (d.restyled r range).codes = d.codes :=
  codes_mapBetween (setting_code _ r) (ordered_reach hordered d.units r) d.units

theorem endIndex_restyled (hordered : range.startIndex < range.endIndex) :
    (d.restyled r range).endIndex = d.endIndex := by
  have hlength := congrArg List.length (codes_restyled (d := d) (r := r) hordered)
  rwa [codes, codes, List.length_map, List.length_map] at hlength

/-! ## Changing places -/

/-- Two changes can be made in either order if they commute wherever both are made. -/
theorem mapBetween_comm {first last first' last' : Nat} {f g : CodeUnit → CodeUnit}
    (h : first ≤ last + 1) (h' : first' ≤ last' + 1)
    (hcomm : ∀ i, first ≤ i ∧ i ≤ last → first' ≤ i ∧ i ≤ last' → Function.Commute f g)
    (units : List CodeUnit) :
    mapBetween first last f (mapBetween first' last' g units) =
      mapBetween first' last' g (mapBetween first last f units) := by
  refine List.ext_getElem? fun i => ?_
  simp only [getElem?_mapBetween _ _ h, getElem?_mapBetween _ _ h']
  by_cases hi : first ≤ i ∧ i ≤ last
  · by_cases hi' : first' ≤ i ∧ i ≤ last'
    · simp only [if_pos hi, if_pos hi', Option.map_map, (hcomm i hi hi').comp_eq]
    · simp only [if_pos hi, if_neg hi']
  · simp only [if_neg hi]

/-- After another style request a style request reaches the same units. -/
theorem reach_of_codes {units units' : List CodeUnit} (h : units'.map (·.code) = units.map (·.code))
    (range : Range) (r : Request) : reach units' range r = reach units range r := by
  unfold reach
  simp only [terminatorFrom_of_codes h]

/-- If only one of two requests makes a list, it makes the same one before and after the other. -/
theorem setting_restyled (h : r.lists = 0 ∨ s.lists = 0) :
    setting (d.restyled r a).nextBullet s = setting d.nextBullet s := by
  rcases h with hr | hs
  · have hlists : (d.restyled r a).listsCreated = d.listsCreated := congrArg (d.listsCreated + ·) hr
    rw [nextBullet, hlists, nextBullet]
  · exact setting_of_lists_eq_zero hs _ _

/-- Accepted style requests can be made in either order if they commute at every unit that both reach, and
    if only one of them makes a list. -/
theorem restyled_comm (hr : a.startIndex < a.endIndex) (hs : b.startIndex < b.endIndex)
    (hlists : r.lists = 0 ∨ s.lists = 0)
    (hcomm : ∀ i, (reach d.units a r).1 ≤ i ∧ i ≤ (reach d.units a r).2 →
      (reach d.units b s).1 ≤ i ∧ i ≤ (reach d.units b s).2 →
      ∀ bullet bullet', Function.Commute (setting bullet r) (setting bullet' s)) :
    (d.restyled r a).restyled s b = (d.restyled s b).restyled r a := by
  have hunits : ((d.restyled r a).restyled s b).units = ((d.restyled s b).restyled r a).units := by
    change mapBetween _ _ (setting (d.restyled r a).nextBullet s) (d.restyled r a).units =
      mapBetween _ _ (setting (d.restyled s b).nextBullet r) (d.restyled s b).units
    rw [reach_of_codes (codes_restyled hr), reach_of_codes (codes_restyled hs), setting_restyled hlists,
      setting_restyled hlists.symm]
    refine mapBetween_comm (ordered_reach hs d.units s) (ordered_reach hr d.units r) ?_ d.units
    exact fun i hi hi' => (hcomm i hi' hi _ _).symm
  have hcount : d.listsCreated + r.lists + s.lists = d.listsCreated + s.lists + r.lists :=
    Nat.add_right_comm ..
  exact congrArg₂ (fun units lists => ({ d with units, listsCreated := lists } : LocalDocument)) hunits hcount

/-- Two style requests that do not depend on their order: they are of different kinds, or set the links of
    different units, or the styles of different paragraphs. -/
inductive Independent (d : LocalDocument) : Request → Request → Prop where
  | kinds {r s : Request} (h : r.kind ≠ s.kind) : Independent d r s
  | links {style style' : TextStyle} {a b : Range} {fields fields' : String} (h : a.Disjoint b) :
    Independent d (.updateTextStyle style a fields) (.updateTextStyle style' b fields')
  | styles {style style' : ParagraphStyle} {a b : Range} {fields fields' : String}
    (h : ∀ i, ¬(d.Touches a i ∧ d.Touches b i)) :
    Independent d (.updateParagraphStyle style a fields) (.updateParagraphStyle style' b fields')

theorem Independent.lists_eq_zero (h : d.Independent r s) : r.lists = 0 ∨ s.lists = 0 := by
  cases h with
  | links h => exact Or.inl rfl
  | styles h => exact Or.inl rfl
  | kinds h =>
    cases r with
    | createParagraphBullets preset range =>
      cases s with
      | createParagraphBullets preset range => exact absurd rfl h
      | _ => exact Or.inr rfl
    | _ => exact Or.inl rfl

/-- Requests that touch no common paragraph reach no common unit. -/
theorem Consistent.not_reached_of_not_touches (h : d.Consistent) (ha : d.HasRange a) (hb : d.HasRange b)
    (hdisjoint : ∀ i, ¬(d.Touches a i ∧ d.Touches b i)) {i : Nat}
    (hi : terminatorFrom d.units (a.startIndex - 1) ≤ i ∧ i ≤ terminatorFrom d.units (a.endIndex - 2)) :
    ¬(terminatorFrom d.units (b.startIndex - 1) ≤ i ∧ i ≤ terminatorFrom d.units (b.endIndex - 2)) := by
  intro hi'
  obtain ⟨j, k, hjk, hk, hfirst, hlast, htouches⟩ := h.exists_touched ha.1 ha.2.1 ha.2.2
  obtain ⟨j', k', hjk', hk', hfirst', hlast', htouches'⟩ := h.exists_touched hb.1 hb.2.1 hb.2.2
  -- The later of the two first paragraphs is touched by both, unless one range ends before it.
  have hapart : k < j' ∨ k' < j := by
    by_contra hboth
    refine hdisjoint (max j j') ⟨(htouches _).mpr ?_, (htouches' _).mpr ?_⟩ <;> omega
  rcases hapart with hbefore | hbefore
  · have hends := StoredParagraph.startOf_lt (Nat.add_lt_add_right hbefore 1) (hjk'.trans_lt hk')
    omega
  · have hends := StoredParagraph.startOf_lt (Nat.add_lt_add_right hbefore 1) (hjk.trans_lt hk)
    omega

/-- Where two independent requests reach the same unit, they set different things. -/
theorem Independent.commute (h : d.Independent r s) (hd : d.Consistent) (hr : r.range? = some a)
    (hs : s.range? = some b) (ha : d.HasRange a) (hb : d.HasRange b) {i : Nat}
    (hi : (reach d.units a r).1 ≤ i ∧ i ≤ (reach d.units a r).2)
    (hi' : (reach d.units b s).1 ≤ i ∧ i ≤ (reach d.units b s).2) (bullet bullet' : Bullet) :
    Function.Commute (setting bullet r) (setting bullet' s) := by
  cases h with
  | kinds hkinds => exact commute_setting hkinds bullet bullet'
  | links hdisjoint =>
    cases hr
    cases hs
    exfalso
    unfold HasRange at ha hb
    simp only [reach] at hi hi'
    exact hdisjoint (i + 1) ⟨by omega, by omega⟩
  | styles hdisjoint =>
    cases hr
    cases hs
    exact absurd hi' (hd.not_reached_of_not_touches ha hb hdisjoint hi)

/-- After another style request a style request is accepted if and only if it is accepted before. -/
theorem accepts_perform_iff (hr : r.range? = some a) (hs : s.range? = some b) :
    (d.perform (.apply s)).Accepts r ↔ d.Accepts r := by
  unfold perform
  dsimp only
  cases hd : d.apply s with
  | error refusal => rfl
  | ok d' =>
    obtain ⟨-, hb, rfl⟩ := (apply_eq_ok_iff hs).mp hd
    exact accepts_iff_of_endIndex hr (endIndex_restyled hb.2.1)

/-- Style requests do not depend on each other to be accepted, and independent ones make the same document
    in either order. -/
theorem apply_independent (h : Reachable d) (hr : r.isInsertion = false) (hs : s.isInsertion = false) :
    (d.Accepts r ↔ (d.perform (.apply s)).Accepts r)
      ∧ (d.Accepts s ↔ (d.perform (.apply r)).Accepts s)
      ∧ ∀ d₁ d₂, d.apply r = .ok d₁ → d.apply s = .ok d₂ → d.Independent r s →
        ∃ e, d₁.apply s = .ok e ∧ d₂.apply r = .ok e := by
  obtain ⟨a, ha⟩ := Request.exists_range hr
  obtain ⟨b, hb⟩ := Request.exists_range hs
  refine ⟨(accepts_perform_iff ha hb).symm, (accepts_perform_iff hb ha).symm, ?_⟩
  intro d₁ d₂ hd₁ hd₂ hindependent
  obtain ⟨hproper, hrange, rfl⟩ := (apply_eq_ok_iff ha).mp hd₁
  obtain ⟨hproper', hrange', rfl⟩ := (apply_eq_ok_iff hb).mp hd₂
  have hcomm := restyled_comm hrange.2.1 hrange'.2.1 hindependent.lists_eq_zero
    fun i hi hi' => hindependent.commute h.consistent ha hb hrange hrange' hi hi'
  refine ⟨(d.restyled r a).restyled s b, (apply_eq_ok_iff hb).mpr ⟨hproper', ?_, rfl⟩,
    (apply_eq_ok_iff ha).mpr ⟨hproper, ?_, hcomm⟩⟩
  · rw [HasRange, endIndex_restyled hrange.2.1]
    exact hrange'
  · rw [HasRange, endIndex_restyled hrange'.2.1]
    exact hrange

/-- Two neighbouring paragraphs are made headings, in either order. -/
theorem apply_independent_neighbours :
    let d := (LocalDocument.new "doc" "T").perform (.update "doc"
      [.insertText "ab\ncd" 1, .createParagraphBullets "B" ⟨1, 6⟩])
    let r := Request.updateParagraphStyle ⟨"HEADING_1"⟩ ⟨1, 4⟩ "namedStyleType"
    let s := Request.updateParagraphStyle ⟨"HEADING_2"⟩ ⟨4, 6⟩ "namedStyleType"
    let d₁ := d.perform (.apply r)
    let d₂ := d.perform (.apply s)
    ((Reachable d ∧ r.isInsertion = false ∧ s.isInsertion = false)
        ∧ d.apply r = .ok d₁ ∧ d.apply s = .ok d₂ ∧ d.Independent r s)
      ∧ (d.Accepts r ↔ d₂.Accepts r) ∧ (d.Accepts s ↔ d₁.Accepts s)
      ∧ ∃ e, d₁.apply s = .ok e ∧ d₂.apply r = .ok e := by
  intro d r s d₁ d₂
  have hreachable : Reachable d := .perform _ (.new _ _)
  have hr : d.apply r = .ok d₁ := by decide
  have hs : d.apply s = .ok d₂ := by decide
  have hindependent : d.Independent r s := by
    refine .styles fun i hboth => ?_
    have hfirst : StoredParagraph.startOf d.storedParagraphs 1 = 4 := by decide
    rw [touches_iff, touches_iff] at hboth
    dsimp only at hboth
    rcases Nat.eq_zero_or_pos i with rfl | hi
    · rw [Nat.zero_add, hfirst] at hboth
      omega
    · have hmono : StoredParagraph.startOf d.storedParagraphs 1 ≤ StoredParagraph.startOf d.storedParagraphs i :=
        StoredParagraph.startOf_mono _ hi
      omega
  obtain ⟨hacceptsR, hacceptsS, hcommutes⟩ := apply_independent hreachable (r := r) (s := s) rfl rfl
  exact ⟨⟨⟨hreachable, rfl, rfl⟩, hr, hs, hindependent⟩, hacceptsR, hacceptsS,
    hcommutes d₁ d₂ hr hs hindependent⟩

end Service.LocalDocument

end DocMark
