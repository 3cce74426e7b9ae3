-- SUMMARY: Inserting a text in two pieces, and when that differs from inserting it at once.
import Mathlib
import DocMark.Proofs.Results
import DocMark.Proofs.Service.Attributes
import DocMark.Proofs.Service.Consistency

/-!
# Insertions in two pieces

An insertion in front of a unit puts the units of the text there and leaves all others as they are, but for
that unit: a terminator starts afresh if the text has a line feed. Two pieces of a text give the same codes
and links in one insertion or in two. Attributes may differ, since the second piece sees a terminator that
the first one may have reset.
-/
namespace DocMark.Service

open Text

/-! ## The unit behind an insertion -/

namespace CodeUnit

variable {text s₁ s₂ : String} {u : CodeUnit}

/-- What becomes of the unit in front of which a text is inserted. -/
def behind (text : String) (u : CodeUnit) : CodeUnit :=
  if u.isTerminator = true ∧ '\n' ∈ text.toList then { u with paragraph := some {} } else u

@[simp] theorem behind_code (text : String) (u : CodeUnit) : (u.behind text).code = u.code := by
  unfold behind
  split <;> rfl

@[simp] theorem behind_isTerminator (text : String) (u : CodeUnit) :
    (u.behind text).isTerminator = u.isTerminator := by
  rw [isTerminator, isTerminator, behind_code]

@[simp] theorem behind_isLowHalf (text : String) (u : CodeUnit) :
    (u.behind text).isLowHalf = u.isLowHalf := by
  rw [isLowHalf, isLowHalf, behind_code]

/-- A terminator that starts afresh does so only once. -/
theorem behind_behind (s₁ s₂ : String) (u : CodeUnit) :
    (u.behind s₁).behind s₂ = u.behind (s₁ ++ s₂) := by
  rw [behind, behind_isTerminator]
  simp only [behind, String.toList_append, List.mem_append]
  by_cases hterm : u.isTerminator = true
  · by_cases hline₁ : '\n' ∈ s₁.toList
    · simp [hterm, hline₁]
    · simp [hterm, hline₁]
  · simp [hterm]

end CodeUnit

namespace LocalDocument

variable {d d' d₁ d₂ : LocalDocument} {s₁ s₂ text : String} {index : Nat}
  {pre us : List CodeUnit} {u : CodeUnit} {a b : ParagraphAttributes}

/-- The paragraph behind an insertion is the old one, or it has started afresh. -/
theorem firstAttributes_behind (text : String) (u : CodeUnit) (us : List CodeUnit) :
    firstAttributes (u.behind text :: us) =
      if u.isTerminator = true ∧ '\n' ∈ text.toList then {} else firstAttributes (u :: us) := by
  unfold CodeUnit.behind
  split
  · rename_i hreset
    exact firstAttributes_of_isTerminator (t := { u with paragraph := some {} }) hreset.1 us
  · rfl

/-! ## Inserted units -/

/-- Only line feeds carry attributes. -/
theorem insertedUnits_eq_iff : insertedUnits text a = insertedUnits text b ↔ ('\n' ∈ text.toList → a = b) := by
  constructor
  · intro hsame hline
    obtain ⟨u, hu, hterm⟩ := exists_terminator_insertedUnits a hline
    have ha : u.paragraph = some a := paragraph_of_mem_insertedUnits hu hterm
    have hb : u.paragraph = some b := paragraph_of_mem_insertedUnits (hsame ▸ hu) hterm
    exact Option.some.inj (ha.symm.trans hb)
  · intro hsame
    by_cases hline : '\n' ∈ text.toList
    · rw [hsame hline]
    · rw [insertedUnits_eq_plain hline, insertedUnits_eq_plain hline]

theorem links_insertedUnits (text : String) (a b : ParagraphAttributes) :
    (insertedUnits text a).map (·.link) = (insertedUnits text b).map (·.link) := by
  simp [insertedUnits, Function.comp_def]

/-! ## An insertion in front of a unit -/

/-- The units after an insertion between `pre` and the unit `u`. -/
def splice (pre : List CodeUnit) (text : String) (u : CodeUnit) (us : List CodeUnit) : List CodeUnit :=
  pre ++ (insertedUnits text (firstAttributes (u :: us)) ++ u.behind text :: us)

theorem insertedAt_eq_splice (hterm : ∃ t ∈ u :: us, t.isTerminator = true) :
    insertedAt text pre.length (pre ++ u :: us) = splice pre text u us := by
  have hdrop : (pre ++ u :: us).drop pre.length = u :: us := List.drop_left
  have hattributes : attributesAt (pre ++ u :: us) pre.length = firstAttributes (u :: us) := by
    rw [attributesAt_eq_firstAttributes (hdrop.symm ▸ hterm), hdrop]
  have hat : (pre ++ u :: us)[pre.length]? = some u := by simp
  have hrest : (if u.isTerminator && text.toList.contains '\n' then resetFirst (u :: us) else u :: us) =
      u.behind text :: us := by
    simp only [CodeUnit.behind, Bool.and_eq_true, List.contains_iff_mem]
    split <;> rfl
  rw [insertedAt, hattributes, hat, hdrop, List.take_left, Option.any_some, hrest, splice,
    List.append_assoc]

/-- Acceptance is a matter of the text and of the unit at the index. -/
theorem insertText_eq_ok_iff_splice (hunits : d.units = pre ++ u :: us)
    (hterm : ∃ t ∈ u :: us, t.isTerminator = true) :
    d.apply (.insertText text (pre.length + 1)) = .ok d' ↔
      (text ≠ "" ∧ u.isLowHalf = false) ∧ d' = { d with units := splice pre text u us } := by
  have hat : d.units[pre.length]? = some u := by simp [hunits]
  have hend : pre.length + 1 ≤ d.endIndex := by simp [endIndex, hunits]
  refine insertText_eq_ok_iff.trans ?_
  rw [Nat.add_sub_cancel, hat, Option.any_some, hunits, insertedAt_eq_splice hterm]
  constructor
  · rintro ⟨htext, -, hlow, rfl⟩
    exact ⟨⟨htext, hlow⟩, rfl⟩
  · rintro ⟨⟨htext, hlow⟩, rfl⟩
    exact ⟨htext, ⟨by omega, hend⟩, hlow, rfl⟩

/-- An index within the document cuts the units in two, the second part of which ends in a terminator. -/
theorem Consistent.exists_cut (h : d.Consistent) (hindex : 1 ≤ index ∧ index ≤ d.endIndex) :
    ∃ pre u us, d.units = pre ++ u :: us ∧ index = pre.length + 1
      ∧ ∃ t ∈ u :: us, t.isTerminator = true := by
  have hlt : index - 1 < d.units.length := by
    unfold endIndex at hindex
    omega
  have hdrop : d.units.drop (index - 1) = d.units[index - 1] :: d.units.drop (index - 1 + 1) :=
    List.drop_eq_getElem_cons hlt
  refine ⟨d.units.take (index - 1), d.units[index - 1], d.units.drop (index - 1 + 1), ?_, ?_, ?_⟩
  · rw [← hdrop, List.take_append_drop]
  · rw [List.length_take]
    omega
  · rw [← hdrop]
    exact h.exists_terminator hlt

/-! ## Two insertions -/

/-- The request for the second piece, made of the document with the first one in it. -/
def insertBoth (d : LocalDocument) (s₁ s₂ : String) (index : Nat) : Except Refusal LocalDocument := do
  let next ← d.apply (.insertText s₁ index)
  next.apply (.insertText s₂ (index + Utf16.length s₁))

/-- Whether the index is that of a terminator with other attributes than the default ones. -/
def IsStyledEnd (d : LocalDocument) (index : Nat) : Prop :=
  ∃ t, d.units[index - 1]? = some t ∧ t.isTerminator = true ∧ t.paragraph.getD {} ≠ {}

theorem isStyledEnd_iff (hunits : d.units = pre ++ u :: us) :
    d.IsStyledEnd (pre.length + 1) ↔ u.isTerminator = true ∧ u.paragraph.getD {} ≠ {} := by
  have hat : d.units[pre.length + 1 - 1]? = some u := by simp [hunits]
  unfold IsStyledEnd
  rw [hat]
  simp

/-- The units after both insertions; the second one is made right in front of the same unit. -/
def spliceBoth (pre : List CodeUnit) (s₁ s₂ : String) (u : CodeUnit) (us : List CodeUnit) :
    List CodeUnit :=
  splice (pre ++ insertedUnits s₁ (firstAttributes (u :: us))) s₂ (u.behind s₁) us

theorem insertBoth_eq_ok_iff (hunits : d.units = pre ++ u :: us)
    (hterm : ∃ t ∈ u :: us, t.isTerminator = true) :
    d.insertBoth s₁ s₂ (pre.length + 1) = .ok d' ↔
      (s₁ ≠ "" ∧ s₂ ≠ "" ∧ u.isLowHalf = false)
        ∧ d' = { d with units := spliceBoth pre s₁ s₂ u us } := by
  have hfirst {e : LocalDocument} : d.apply (.insertText s₁ (pre.length + 1)) = .ok e ↔ _ :=
    insertText_eq_ok_iff_splice hunits hterm
  -- The document between the insertions, and its unit in front of which the second piece goes.
  let next : LocalDocument := { d with units := splice pre s₁ u us }
  have hnext : next.units =
      (pre ++ insertedUnits s₁ (firstAttributes (u :: us))) ++ u.behind s₁ :: us :=
    (List.append_assoc ..).symm
  have hindex : pre.length + 1 + Utf16.length s₁ =
      (pre ++ insertedUnits s₁ (firstAttributes (u :: us))).length + 1 := by
    rw [List.length_append, length_insertedUnits]
    omega
  have hterm' : ∃ t ∈ u.behind s₁ :: us, t.isTerminator = true := by
    simpa only [List.exists_mem_cons_iff, CodeUnit.behind_isTerminator] using hterm
  have hsecond : next.apply (.insertText s₂ (pre.length + 1 + Utf16.length s₁)) = .ok d' ↔ _ :=
    hindex ▸ insertText_eq_ok_iff_splice hnext hterm'
  rw [CodeUnit.behind_isLowHalf] at hsecond
  refine Results.bind_eq_ok_iff.trans ⟨?_, ?_⟩
  · rintro ⟨e, he, hd'⟩
    obtain ⟨⟨hs₁, hlow⟩, rfl⟩ := hfirst.mp he
    obtain ⟨⟨hs₂, -⟩, rfl⟩ := hsecond.mp hd'
    exact ⟨⟨hs₁, hs₂, hlow⟩, rfl⟩
  · rintro ⟨⟨hs₁, hs₂, hlow⟩, rfl⟩
    exact ⟨next, hfirst.mpr ⟨⟨hs₁, hlow⟩, rfl⟩, hsecond.mpr ⟨⟨hs₂, hlow⟩, rfl⟩⟩

/-! ## One insertion against two -/

/-- One insertion gives the line feeds of both pieces the attributes of the place. -/
theorem splice_append (pre : List CodeUnit) (s₁ s₂ : String) (u : CodeUnit) (us : List CodeUnit) :
    splice pre (s₁ ++ s₂) u us =
      (pre ++ insertedUnits s₁ (firstAttributes (u :: us)))
        ++ (insertedUnits s₂ (firstAttributes (u :: us)) ++ u.behind (s₁ ++ s₂) :: us) := by
  rw [splice, insertedUnits_append]
  simp only [List.append_assoc]

/-- Two insertions give those of the second piece the attributes that the first one leaves behind. -/
theorem spliceBoth_eq (pre : List CodeUnit) (s₁ s₂ : String) (u : CodeUnit) (us : List CodeUnit) :
    spliceBoth pre s₁ s₂ u us =
      (pre ++ insertedUnits s₁ (firstAttributes (u :: us)))
        ++ (insertedUnits s₂ (firstAttributes (u.behind s₁ :: us)) ++ u.behind (s₁ ++ s₂) :: us) := by
  rw [spliceBoth, splice, CodeUnit.behind_behind]

theorem codes_splice_append (pre : List CodeUnit) (s₁ s₂ : String) (u : CodeUnit) (us : List CodeUnit) :
    (splice pre (s₁ ++ s₂) u us).map (·.code) = (spliceBoth pre s₁ s₂ u us).map (·.code) := by
  rw [splice_append, spliceBoth_eq]
  simp only [List.map_append, codes_insertedUnits]

theorem links_splice_append (pre : List CodeUnit) (s₁ s₂ : String) (u : CodeUnit) (us : List CodeUnit) :
    (splice pre (s₁ ++ s₂) u us).map (·.link) = (spliceBoth pre s₁ s₂ u us).map (·.link) := by
  have hlinks := links_insertedUnits s₂ (firstAttributes (u :: us)) (firstAttributes (u.behind s₁ :: us))
  rw [splice_append, spliceBoth_eq]
  simp only [List.map_append, hlinks]

theorem splice_append_eq_iff (pre : List CodeUnit) (s₁ s₂ : String) (u : CodeUnit) (us : List CodeUnit) :
    splice pre (s₁ ++ s₂) u us = spliceBoth pre s₁ s₂ u us ↔
      ¬((u.isTerminator = true ∧ u.paragraph.getD {} ≠ {}) ∧ '\n' ∈ s₁.toList ∧ '\n' ∈ s₂.toList) := by
  rw [splice_append, spliceBoth_eq, List.append_cancel_left_eq, List.append_cancel_right_eq,
    insertedUnits_eq_iff, firstAttributes_behind]
  by_cases hreset : u.isTerminator = true ∧ '\n' ∈ s₁.toList
  · rw [if_pos hreset, firstAttributes_of_isTerminator hreset.1]
    simp [hreset.1, hreset.2, imp_not_comm]
  · rw [if_neg hreset]
    simp only [implies_true, true_iff]
    rintro ⟨⟨hu, -⟩, hline, -⟩
    exact hreset ⟨hu, hline⟩

/-- Inserting a text piece by piece is accepted just where inserting it at once is, and gives the same text
    and links. The attributes are the same too, unless a terminator with attributes of its own is reset by
    the first piece before the second one takes them over. -/
theorem insertText_append (h : Reachable d) (index : Nat) (hs₁ : s₁ ≠ "") (hs₂ : s₂ ≠ "") :
    ((∃ d₁, d.apply (.insertText (s₁ ++ s₂) index) = .ok d₁)
        ↔ ∃ d₂, d.insertBoth s₁ s₂ index = .ok d₂)
      ∧ ∀ d₁ d₂, d.apply (.insertText (s₁ ++ s₂) index) = .ok d₁ →
        d.insertBoth s₁ s₂ index = .ok d₂ →
        d₁.text = d₂.text ∧ d₁.units.map (·.link) = d₂.units.map (·.link)
          ∧ (d₁ = d₂ ↔ ¬(d.IsStyledEnd index ∧ '\n' ∈ s₁.toList ∧ '\n' ∈ s₂.toList)) := by
  by_cases hindex : 1 ≤ index ∧ index ≤ d.endIndex
  · obtain ⟨pre, u, us, hunits, rfl, hterm⟩ := h.consistent.exists_cut hindex
    have hwhole {e : LocalDocument} :
        d.apply (.insertText (s₁ ++ s₂) (pre.length + 1)) = .ok e ↔ _ :=
      insertText_eq_ok_iff_splice hunits hterm
    have hparts {e : LocalDocument} : d.insertBoth s₁ s₂ (pre.length + 1) = .ok e ↔ _ :=
      insertBoth_eq_ok_iff hunits hterm
    have hs : s₁ ++ s₂ ≠ "" := by simp [hs₁]
    constructor
    · constructor
      · rintro ⟨d₁, hd₁⟩
        exact ⟨_, hparts.mpr ⟨⟨hs₁, hs₂, (hwhole.mp hd₁).1.2⟩, rfl⟩⟩
      · rintro ⟨d₂, hd₂⟩
        exact ⟨_, hwhole.mpr ⟨⟨hs, (hparts.mp hd₂).1.2.2⟩, rfl⟩⟩
    · intro d₁ d₂ hd₁ hd₂
      obtain ⟨-, rfl⟩ := hwhole.mp hd₁
      obtain ⟨-, rfl⟩ := hparts.mp hd₂
      refine ⟨?_, links_splice_append pre s₁ s₂ u us, ?_⟩
      · rw [text, text, codes, codes, codes_splice_append]
      · rw [isStyledEnd_iff hunits, ← splice_append_eq_iff pre s₁ s₂ u us]
        simp
  · -- Outside of the document the first piece is refused like the whole text.
    have hrefused {s : String} {e : LocalDocument} : d.apply (.insertText s index) ≠ .ok e :=
      fun hok => hindex (insertText_eq_ok_iff.mp hok).2.1
    have hboth {e : LocalDocument} : d.insertBoth s₁ s₂ index ≠ .ok e := by
      intro hok
      obtain ⟨next, hnext, -⟩ := Results.bind_eq_ok_iff.mp hok
      exact hrefused hnext
    refine ⟨⟨?_, ?_⟩, ?_⟩
    · rintro ⟨d₁, hd₁⟩
      exact absurd hd₁ hrefused
    · rintro ⟨d₂, hd₂⟩
      exact absurd hd₂ hboth
    · intro d₁ d₂ hd₁
      exact absurd hd₁ hrefused

/-- Two paragraphs behind the end of a heading: the first one ends the heading, so that the second one is
    a heading only if both come at once. -/
theorem insertText_append_behindHeading :
    let d := (LocalDocument.new "doc" "T").perform (.update "doc"
      [.insertText "ab\ncd" 1, .updateParagraphStyle ⟨"HEADING_2"⟩ ⟨1, 2⟩ "namedStyleType"])
    let d₁ := d.perform (.apply (.insertText ("😀\n" ++ "x\n") 3))
    let d₂ := (d.perform (.apply (.insertText "😀\n" 3))).perform (.apply (.insertText "x\n" 6))
    (Reachable d ∧ "😀\n" ≠ "" ∧ "x\n" ≠ ""
        ∧ d.apply (.insertText ("😀\n" ++ "x\n") 3) = .ok d₁ ∧ d.insertBoth "😀\n" "x\n" 3 = .ok d₂)
      ∧ d₁.text = d₂.text ∧ d₁.units.map (·.link) = d₂.units.map (·.link) ∧ d₁ ≠ d₂ := by
  intro d d₁ d₂
  have hreachable : Reachable d := .perform _ (.new _ _)
  have hs₁ : "😀\n" ≠ "" := by decide
  have hs₂ : "x\n" ≠ "" := by decide
  have hwhole : d.apply (.insertText ("😀\n" ++ "x\n") 3) = .ok d₁ := by decide
  have hparts : d.insertBoth "😀\n" "x\n" 3 = .ok d₂ := by decide
  have hend : d.IsStyledEnd 3 := ⟨_, rfl, by decide, by decide⟩
  obtain ⟨htext, hlinks, hsame⟩ := (insertText_append hreachable 3 hs₁ hs₂).2 d₁ d₂ hwhole hparts
  refine ⟨⟨hreachable, hs₁, hs₂, hwhole, hparts⟩, htext, hlinks, fun heq => ?_⟩
  exact hsame.mp heq ⟨hend, by decide, by decide⟩

end LocalDocument

end DocMark.Service
