-- SUMMARY: The representation invariant of local documents, and that requests keep it.
import Mathlib
import DocMark.Proofs.Document.NamedStyle
import DocMark.Proofs.Service.Reachable
import DocMark.Proofs.Service.Terminators

/-!
# Consistent documents

A consistent document ends in a terminator, carries attributes on its terminators and nowhere else,
splits no pair of surrogate halves, and has only standard styles and bullets of lists that were
created. New documents are consistent and accepted requests keep them so.
-/
namespace DocMark.Service

open Document Edit Text

/-- Attributes that requests can give to a paragraph while so many lists have been created. -/
structure ParagraphAttributes.Sound (listsCreated : Nat) (a : ParagraphAttributes) : Prop where
  style : a.style.isStandard = true
  bullet : ∀ b, a.bullet = some b →
    ∃ k, 1 ≤ k ∧ k ≤ listsCreated ∧ b.listId = "list." ++ toString k

/-- A unit that carries attributes if and only if it is a terminator, and then sound ones. -/
structure CodeUnit.Sound (listsCreated : Nat) (u : CodeUnit) : Prop where
  carries : u.paragraph.isSome = true ↔ u.code = lineFeed
  attributes : ∀ a, u.paragraph = some a → a.Sound listsCreated

namespace LocalDocument

structure Consistent (d : LocalDocument) : Prop where
  /-- The last code is a line feed; in particular there is one. -/
  ends : d.codes.getLast? = some CodeUnit.lineFeed
  sound : ∀ u ∈ d.units, u.Sound d.listsCreated
  wellFormed : Utf16.isWellFormed d.codes = true

end LocalDocument

/-! ## Sound units -/

namespace ParagraphAttributes

variable {n : Nat} {a : ParagraphAttributes}

theorem sound_default (n : Nat) : Sound n {} where
  style := rfl
  bullet := by simp

theorem Sound.mono {m : Nat} (h : Sound n a) (hnm : n ≤ m) : Sound m a where
  style := h.style
  bullet := fun b hb => by
    obtain ⟨k, hk, hkn, hid⟩ := h.bullet b hb
    exact ⟨k, hk, hkn.trans hnm, hid⟩

theorem Sound.withStyle (h : Sound n a) {style : NamedStyle} (hstyle : style.isStandard = true) :
    Sound n { a with style } where
  style := hstyle
  bullet := h.bullet

theorem Sound.withNewBullet (h : Sound n a) :
    Sound (n + 1) { a with bullet := some ⟨"list." ++ toString (n + 1), none⟩ } where
  style := h.style
  bullet := fun b hb => by
    cases hb
    exact ⟨n + 1, by omega, le_refl _, rfl⟩

end ParagraphAttributes

namespace CodeUnit

variable {n : Nat} {u : CodeUnit}

theorem Sound.mono {m : Nat} (h : u.Sound n) (hnm : n ≤ m) : u.Sound m where
  carries := h.carries
  attributes := fun a ha => (h.attributes a ha).mono hnm

theorem Sound.isTerminator_iff (h : u.Sound n) : u.isTerminator = true ↔ u.paragraph.isSome = true := by
  rw [h.carries, isTerminator, beq_iff_eq]

theorem Sound.getD_paragraph (h : u.Sound n) : (u.paragraph.getD {}).Sound n := by
  cases hp : u.paragraph with
  | none => exact ParagraphAttributes.sound_default n
  | some a => exact h.attributes a hp

theorem Sound.mapAttributes {m : Nat} {f : ParagraphAttributes → ParagraphAttributes}
    (hf : ∀ a, a.Sound n → (f a).Sound m) (hnm : n ≤ m) (h : u.Sound n) :
    (u.mapAttributes f).Sound m := by
  unfold CodeUnit.mapAttributes
  split
  · constructor
    · simpa [isTerminator] using ‹u.isTerminator = true›
    · intro a ha
      cases ha
      exact hf _ h.getD_paragraph
  · exact h.mono hnm

theorem Sound.withLink (h : u.Sound n) (link : Option String) :
    CodeUnit.Sound n { u with link } :=
  ⟨h.carries, h.attributes⟩

end CodeUnit

namespace LocalDocument

variable {d d' : LocalDocument} {n : Nat} {units : List CodeUnit}

theorem sound_attributesAt (h : ∀ u ∈ units, u.Sound n) (position : Nat) :
    (attributesAt units position).Sound n :=
  attributesAt_of_forall (ParagraphAttributes.sound_default n) (fun u hu => (h u hu).getD_paragraph) position

theorem sound_insertedUnits {text : String} {a : ParagraphAttributes} (ha : a.Sound n)
    {u : CodeUnit} (hu : u ∈ insertedUnits text a) : u.Sound n := by
  obtain ⟨code, -, rfl⟩ := List.mem_map.mp hu
  by_cases hcode : code = CodeUnit.lineFeed
  · subst hcode
    refine ⟨by simp, fun b hb => ?_⟩
    cases hb
    exact ha
  · exact ⟨by simp [hcode], fun b hb => by simp [hcode] at hb⟩

theorem sound_insertedAt {text : String} {position : Nat} (h : ∀ u ∈ units, u.Sound n) :
    ∀ u ∈ insertedAt text position units, u.Sound n := by
  refine forall_mem_insertedAt (fun u hu => sound_insertedUnits (sound_attributesAt h position) hu) ?_ h
  intro u hterminator _
  refine ⟨by simpa [CodeUnit.isTerminator] using hterminator, ?_⟩
  rintro a ⟨⟩
  exact ParagraphAttributes.sound_default n

theorem sound_mapParagraphs {first last m : Nat} {f : ParagraphAttributes → ParagraphAttributes}
    (hf : ∀ a, a.Sound n → (f a).Sound m) (hnm : n ≤ m) (h : ∀ u ∈ units, u.Sound n) :
    ∀ u ∈ mapParagraphs first last f units, u.Sound m :=
  forall_mem_mapBetween (f := CodeUnit.mapAttributes f) (fun _ hu => hu.mapAttributes hf hnm)
    (fun _ hu => hu.mono hnm) h

/-! ## Places in a consistent document -/

theorem Consistent.codes_ne_nil (h : d.Consistent) : d.codes ≠ [] := by
  intro hnil
  have hends := h.ends
  rw [hnil] at hends
  cases hends

/-- Every position is followed by a terminator. -/
theorem Consistent.exists_terminator (h : d.Consistent) {position : Nat}
    (hp : position < d.units.length) : ∃ u ∈ d.units.drop position, u.isTerminator = true := by
  have hlast : d.units.getLast?.map (·.code) = some CodeUnit.lineFeed := by
    rw [← List.getLast?_map]
    exact h.ends
  obtain ⟨u, hu, hcode⟩ := Option.map_eq_some_iff.mp hlast
  refine ⟨u, ?_, by simpa [CodeUnit.isTerminator] using hcode⟩
  apply List.mem_of_getLast?
  rw [List.getLast?_drop, if_neg (by omega), hu]

/-! ## Requests keep consistency -/

theorem consistent_new (documentId title : String) : (LocalDocument.new documentId title).Consistent where
  ends := rfl
  sound := fun u hu => by
    rw [List.mem_singleton.mp hu]
    exact ⟨by simp [CodeUnit.terminator], fun a ha => by
      cases ha
      exact ParagraphAttributes.sound_default 0⟩
  wellFormed := rfl

/-- Consistency depends on the units and the number of lists only. -/
theorem Consistent.of_units (h : d.Consistent) (hunits : d'.units = d.units)
    (hlists : d'.listsCreated = d.listsCreated) : d'.Consistent where
  ends := by simpa [codes, hunits] using h.ends
  sound := by simpa [hunits, hlists] using h.sound
  wellFormed := by simpa [codes, hunits] using h.wellFormed

theorem Consistent.of_codes (h : d.Consistent) (hcodes : d'.codes = d.codes)
    (hsound : ∀ u ∈ d'.units, u.Sound d'.listsCreated) : d'.Consistent where
  ends := hcodes ▸ h.ends
  sound := hsound
  wellFormed := hcodes ▸ h.wellFormed

/-- What follows a place that is not inside a pair is well formed, and so is what precedes it. -/
theorem Consistent.wellFormed_cut (h : d.Consistent) {position : Nat}
    (hp : d.units[position]?.any (·.isLowHalf) = false) :
    Utf16.isWellFormed (d.codes.take position) = true
      ∧ Utf16.isWellFormed (d.codes.drop position) = true := by
  have hhead : (d.codes.drop position).head?.any Utf16.isLow = false := by
    rw [List.head?_drop, codes, List.getElem?_map, Option.any_map]
    exact hp
  have hwhole : Utf16.isWellFormed (d.codes.take position ++ d.codes.drop position) = true := by
    rw [List.take_append_drop]
    exact h.wellFormed
  have hleft := Utf16.isWellFormed_left_of_append hwhole hhead
  exact ⟨hleft, by rwa [Utf16.isWellFormed_append hleft] at hwhole⟩

theorem Consistent.insertText {text : String} {index : Nat} (h : d.Consistent)
    (hd : d.insertText text index = .ok d') : d'.Consistent := by
  obtain ⟨-, ⟨hpos, hend⟩, hlow, rfl⟩ := insertText_eq_ok_iff.mp hd
  have hlt : index - 1 < d.codes.length := by
    rw [codes, List.length_map]
    change index ≤ d.units.length at hend
    omega
  obtain ⟨hbefore, hafter⟩ := h.wellFormed_cut hlow
  refine ⟨?_, sound_insertedAt h.sound, ?_⟩
  · rw [codes, codes_insertedAt, List.getLast?_append, List.getLast?_drop]
    change (if d.codes.length ≤ index - 1 then none else d.codes.getLast?).or _ = _
    rw [if_neg (by omega), h.ends]
    rfl
  · rw [codes, codes_insertedAt]
    change Utf16.isWellFormed (d.codes.take _ ++ _ ++ d.codes.drop _) = true
    rw [List.append_assoc, Utf16.isWellFormed_append hbefore, Utf16.isWellFormed_encode_append]
    exact hafter

theorem Consistent.mapParagraphs {first last m : Nat}
    {f : ParagraphAttributes → ParagraphAttributes} (h : d.Consistent) (hfirst : first ≤ last)
    (hf : ∀ a, a.Sound d.listsCreated → (f a).Sound m) (hm : d.listsCreated ≤ m) :
    ({ d with units := mapParagraphs first last f d.units, listsCreated := m } :
      LocalDocument).Consistent :=
  h.of_codes (codes_mapParagraphs hfirst f d.units)
    (sound_mapParagraphs hf hm h.sound)

theorem Consistent.apply {r : Request} (h : d.Consistent) (hd : d.apply r = .ok d') :
    d'.Consistent := by
  cases r with
  | insertText text index => exact h.insertText hd
  | updateParagraphStyle style range fields =>
    obtain ⟨named, first, last, hnamed, hrange, rfl⟩ := updateParagraphStyle_eq_ok_iff.mp hd
    obtain ⟨hbounds, rfl, rfl⟩ := checkRange_eq_ok_iff.mp hrange
    exact h.mapParagraphs (by omega)
      (fun a ha => ha.withStyle (NamedStyle.isStandard_of_parse? hnamed)) (le_refl _)
  | createParagraphBullets preset range =>
    obtain ⟨-, first, last, hrange, rfl⟩ := createParagraphBullets_eq_ok_iff.mp hd
    obtain ⟨hbounds, rfl, rfl⟩ := checkRange_eq_ok_iff.mp hrange
    exact h.mapParagraphs (by omega) (fun a ha => ha.withNewBullet) (Nat.le_succ _)
  | updateTextStyle style range fields =>
    obtain ⟨first, last, hrange, rfl⟩ := updateTextStyle_eq_ok_iff.mp hd
    obtain ⟨hbounds, rfl, rfl⟩ := checkRange_eq_ok_iff.mp hrange
    split
    · have hcodes := codes_mapBetween (f := fun u => { u with link := style.link.map (·.url) })
        (fun _ => rfl) (show range.startIndex - 1 ≤ range.endIndex - 2 + 1 by omega) d.units
      exact h.of_codes hcodes
        (forall_mem_mapBetween (fun _ hu => hu.withLink _) (fun _ hu => hu) h.sound)
    · exact h

theorem Reachable.consistent (h : Reachable d) : d.Consistent :=
  h.keeps consistent_new (fun _ _ _ hd hr => hd.apply hr) fun _ _ hd => hd.of_units rfl rfl

/-- The text of a consistent document is all that there is to its codes. -/
theorem Consistent.encode_text (h : d.Consistent) : Utf16.encode d.text.toList = d.codes := by
  rw [text, String.toList_ofList, Utf16.encode_decode h.wellFormed]

end LocalDocument

end DocMark.Service
