-- SUMMARY: Requests carried out without any fallback, and that a consistent document never needs one.
import Mathlib
import DocMark.Proofs.Service.Consistency

/-!
# Strict requests

`LocalDocument.apply` is total: a position outside the units, a paragraph without a terminator or a
terminator without attributes has a fallback. `applyStrict?` carries out the same requests but
gives nothing in each of these cases, nor where an index is too small to be made a position. On
consistent documents the two agree, so no fallback is ever taken.
-/
namespace DocMark.Service

open Document Edit Text

namespace Strict

/-- A difference of indices, if it is not negative. -/
def minus? (a b : Nat) : Option Nat := if b ≤ a then some (a - b) else none

/-- The first terminator at or after a position within the units. -/
def terminatorFrom? (units : List CodeUnit) (position : Nat) : Option Nat :=
  if position ≤ units.length then
    ((units.drop position).findIdx? (·.isTerminator)).map (position + ·)
  else none

def attributesAt? (units : List CodeUnit) (position : Nat) : Option ParagraphAttributes := do
  let terminator ← terminatorFrom? units position
  let u ← units[terminator]?
  u.paragraph

/-- Changes the units from position `first` to position `last`, which have to exist. -/
def mapBetween? (first last : Nat) (f : CodeUnit → Option CodeUnit) (units : List CodeUnit) :
    Option (List CodeUnit) :=
  if first ≤ last + 1 ∧ last < units.length then do
    let changed ← ((units.drop first).take (last + 1 - first)).mapM f
    some (units.take first ++ changed ++ units.drop (last + 1))
  else none

/-- A terminator, which has to have attributes, with these changed; any other unit as it is. -/
def mapAttributes? (f : ParagraphAttributes → ParagraphAttributes) (u : CodeUnit) :
    Option CodeUnit :=
  if u.isTerminator then u.paragraph.map fun a => { u with paragraph := some (f a) } else some u

def mapParagraphs? (first last : Nat) (f : ParagraphAttributes → ParagraphAttributes)
    (units : List CodeUnit) : Option (List CodeUnit) := do
  let start ← terminatorFrom? units first
  let stop ← terminatorFrom? units last
  mapBetween? start stop (mapAttributes? f) units

/-- Gives default attributes to the unit at a position. -/
def reset? (position : Nat) (units : List CodeUnit) : Option (List CodeUnit) := do
  let u ← units[position]?
  some (units.set position { u with paragraph := some {} })

end Strict

namespace LocalDocument

open Strict

def checkRangeStrict? (d : LocalDocument) (range : Range) :
    Option (Except Refusal (Nat × Nat)) :=
  if range.endIndex ≤ range.startIndex then
    some (.error (.emptyRange range.startIndex range.endIndex))
  else do
    let lastIndex ← minus? range.endIndex 1
    match d.checkIndex range.startIndex, d.checkIndex lastIndex with
    | .error refusal, _ => some (.error refusal)
    | .ok _, .error refusal => some (.error refusal)
    | .ok _, .ok _ => some (.ok (← minus? range.startIndex 1, ← minus? range.endIndex 2))

def insertTextStrict? (d : LocalDocument) (text : String) (index : Nat) :
    Option (Except Refusal LocalDocument) :=
  if text.isEmpty then some (.error .emptyText)
  else
    match d.checkIndex index with
    | .error refusal => some (.error refusal)
    | .ok _ => do
      let position ← minus? index 1
      let u ← d.units[position]?
      if u.isLowHalf then some (.error (.splitsPair index))
      else
        let inserted := insertedUnits text (← attributesAt? d.units position)
        let units := d.units.take position ++ inserted ++ d.units.drop position
        if u.isTerminator && text.toList.contains '\n' then
          some (.ok { d with units := ← reset? (position + inserted.length) units })
        else some (.ok { d with units })

/-- Carries out a style request whose range was checked. -/
def changeStrict? (checked : Option (Except Refusal (Nat × Nat)))
    (change : Nat → Nat → Option LocalDocument) : Option (Except Refusal LocalDocument) := do
  match ← checked with
  | .error refusal => some (.error refusal)
  | .ok (first, last) => some (.ok (← change first last))

def updateParagraphStyleStrict? (d : LocalDocument) (style : ParagraphStyle) (range : Range) :
    Option (Except Refusal LocalDocument) :=
  match NamedStyle.parse? style.namedStyleType with
  | none => some (.error (.unknownStyle style.namedStyleType))
  | some named => changeStrict? (d.checkRangeStrict? range) fun first last => do
    let units ← mapParagraphs? first last ({ · with style := named }) d.units
    some { d with units }

def createParagraphBulletsStrict? (d : LocalDocument) (preset : String) (range : Range) :
    Option (Except Refusal LocalDocument) :=
  if preset.isEmpty then some (.error .emptyPreset)
  else changeStrict? (d.checkRangeStrict? range) fun first last => do
    let bullet : Bullet := ⟨"list." ++ toString (d.listsCreated + 1), none⟩
    let units ← mapParagraphs? first last ({ · with bullet := some bullet }) d.units
    some { d with units, listsCreated := d.listsCreated + 1 }

def updateTextStyleStrict? (d : LocalDocument) (style : TextStyle) (range : Range)
    (fields : String) : Option (Except Refusal LocalDocument) :=
  changeStrict? (d.checkRangeStrict? range) fun first last => do
    if namesField fields "link" then
      let url := style.link.map (·.url)
      let units ← mapBetween? first last (fun u => some { u with link := url }) d.units
      some { d with units }
    else some d

/-- Carries out a request, or gives nothing where that would take a fallback. -/
def applyStrict? (d : LocalDocument) : Request → Option (Except Refusal LocalDocument)
  | .insertText text index => d.insertTextStrict? text index
  | .updateParagraphStyle style range _ => d.updateParagraphStyleStrict? style range
  | .createParagraphBullets preset range => d.createParagraphBulletsStrict? preset range
  | .updateTextStyle style range fields => d.updateTextStyleStrict? style range fields

end LocalDocument

/-! ## Positions -/

namespace Strict

theorem minus?_eq_some {a b : Nat} (h : b ≤ a) : minus? a b = some (a - b) := if_pos h

theorem mapM_eq_some_map {α β : Type} {f : α → Option β} {g : α → β} {xs : List α}
    (h : ∀ x ∈ xs, f x = some (g x)) : xs.mapM f = some (xs.map g) := by
  induction xs with
  | nil => rfl
  | cons x xs ih =>
    have hx := h x List.mem_cons_self
    have hxs := ih fun y hy => h y (List.mem_cons_of_mem _ hy)
    simp [hx, hxs]

variable {d : LocalDocument} {position first last : Nat}

theorem terminatorFrom?_eq_some (h : d.Consistent) (hp : position < d.units.length) :
    terminatorFrom? d.units position = some (LocalDocument.terminatorFrom d.units position) := by
  obtain ⟨offset, t, hfound, hfrom, -⟩ :=
    LocalDocument.terminatorFrom_spec (h.exists_terminator hp)
  rw [terminatorFrom?, if_pos hp.le, hfound, hfrom]
  rfl

theorem attributesAt?_eq_some (h : d.Consistent) (hp : position < d.units.length) :
    attributesAt? d.units position = some (LocalDocument.attributesAt d.units position) := by
  obtain ⟨offset, t, -, hfrom, hat, hterm⟩ :=
    LocalDocument.terminatorFrom_spec (h.exists_terminator hp)
  obtain ⟨a, ha⟩ := Option.isSome_iff_exists.mp
    ((h.sound t (List.mem_of_getElem? hat)).isTerminator_iff.mp hterm)
  simp [attributesAt?, terminatorFrom?_eq_some h hp, LocalDocument.attributesAt, hfrom, hat, ha]

theorem mapBetween?_eq_some {f : CodeUnit → Option CodeUnit} {g : CodeUnit → CodeUnit}
    {units : List CodeUnit} (hf : ∀ u ∈ units, f u = some (g u)) (hfirst : first ≤ last + 1)
    (hlast : last < units.length) :
    mapBetween? first last f units = some (LocalDocument.mapBetween first last g units) := by
  have hchanged : ((units.drop first).take (last + 1 - first)).mapM f =
      some (((units.drop first).take (last + 1 - first)).map g) :=
    mapM_eq_some_map fun u hu => hf u (List.mem_of_mem_drop (List.mem_of_mem_take hu))
  rw [mapBetween?, if_pos ⟨hfirst, hlast⟩, hchanged]
  rfl

theorem mapAttributes?_eq_some {n : Nat} {u : CodeUnit} (h : u.Sound n)
    (f : ParagraphAttributes → ParagraphAttributes) :
    mapAttributes? f u = some (u.mapAttributes f) := by
  cases hterm : u.isTerminator with
  | false => simp [mapAttributes?, CodeUnit.mapAttributes, hterm]
  | true =>
    obtain ⟨a, ha⟩ := Option.isSome_iff_exists.mp (h.isTerminator_iff.mp hterm)
    simp [mapAttributes?, CodeUnit.mapAttributes, hterm, ha]

theorem mapParagraphs?_eq_some (h : d.Consistent) (hfirst : first ≤ last)
    (hlast : last < d.units.length) (f : ParagraphAttributes → ParagraphAttributes) :
    mapParagraphs? first last f d.units =
      some (LocalDocument.mapParagraphs first last f d.units) := by
  obtain ⟨offset, t, -, hfrom, hat, -⟩ :=
    LocalDocument.terminatorFrom_spec (h.exists_terminator hlast)
  have hstop : LocalDocument.terminatorFrom d.units last < d.units.length := by
    rw [hfrom]
    exact (List.getElem?_eq_some_iff.mp hat).1
  rw [mapParagraphs?, terminatorFrom?_eq_some h (hfirst.trans_lt hlast),
    terminatorFrom?_eq_some h hlast]
  exact mapBetween?_eq_some (fun u hu => mapAttributes?_eq_some (h.sound u hu) f)
    ((LocalDocument.terminatorFrom_mono d.units hfirst).trans (Nat.le_succ _)) hstop

theorem reset?_eq_some (pre : List CodeUnit) {u : CodeUnit} {post : List CodeUnit} :
    reset? pre.length (pre ++ u :: post) = some (pre ++ LocalDocument.resetFirst (u :: post)) := by
  simp [reset?, LocalDocument.resetFirst]

end Strict

/-! ## Requests -/

namespace LocalDocument

open Strict

variable {d : LocalDocument}

/-- An index that passed the check is not zero, so its position exists. -/
theorem checkRangeStrict?_eq_some (d : LocalDocument) (range : Range) :
    d.checkRangeStrict? range = some (d.checkRange range) := by
  unfold checkRangeStrict? checkRange
  by_cases hempty : range.endIndex ≤ range.startIndex
  · simp only [hempty, if_true]
  · rw [if_neg hempty, if_neg hempty, minus?_eq_some (by omega)]
    by_cases hstart : 1 ≤ range.startIndex ∧ range.startIndex ≤ d.endIndex
    · rw [minus?_eq_some hstart.1, minus?_eq_some (by omega : 2 ≤ range.endIndex),
        checkIndex_eq_ok_iff.mpr hstart]
      cases hstop : d.checkIndex (range.endIndex - 1) with
      | ok _ => simp [hstop, bind, Except.bind]
      | error refusal => simp [hstop, bind, Except.bind]
    · rw [checkIndex_eq_error hstart]
      simp [bind, Except.bind]

/-- Checked style requests agree if the changes do wherever the check can lead. -/
theorem changeStrict?_eq_some {range : Range} {change : Nat → Nat → Option LocalDocument}
    (result : Nat → Nat → LocalDocument)
    (h : ∀ first last, first ≤ last → last < d.units.length →
      change first last = some (result first last)) :
    changeStrict? (d.checkRangeStrict? range) change =
      some ((d.checkRange range).map fun place => result place.1 place.2) := by
  rw [checkRangeStrict?_eq_some, changeStrict?]
  cases hrange : d.checkRange range with
  | error refusal => rfl
  | ok place =>
    obtain ⟨first, last⟩ := place
    obtain ⟨hbounds, hfirst, hlast⟩ := checkRange_eq_ok_iff.mp hrange
    unfold endIndex at hbounds
    simp [h first last (by omega) (by omega), Except.map]

theorem insertTextStrict?_eq_some (h : d.Consistent) (text : String) (index : Nat) :
    d.insertTextStrict? text index = some (d.insertText text index) := by
  unfold insertTextStrict? insertText
  by_cases htext : text.isEmpty = true
  · simp only [htext, if_true]
  · rw [if_neg htext, if_neg htext]
    by_cases hindex : 1 ≤ index ∧ index ≤ d.endIndex
    · have hp : index - 1 < d.units.length := by
        have hend : index ≤ d.units.length := hindex.2
        omega
      have hu : d.units[index - 1]? = some d.units[index - 1] := List.getElem?_eq_getElem hp
      have hdrop : d.units.drop (index - 1) = d.units[index - 1] :: d.units.drop (index - 1 + 1) :=
        List.drop_eq_getElem_cons hp
      have hlength (inserted : List CodeUnit) :
          index - 1 + inserted.length = (d.units.take (index - 1) ++ inserted).length := by
        rw [List.length_append, List.length_take, Nat.min_eq_left hp.le]
      rw [checkIndex_eq_ok_iff.mpr hindex, minus?_eq_some hindex.1]
      simp only [bind, Except.bind, Option.bind_some, hu, List.head?_drop, Option.any_some,
        attributesAt?_eq_some h hp]
      cases d.units[index - 1].isLowHalf with
      | true => rfl
      | false =>
        simp only [Bool.false_eq_true, if_false]
        split
        · rw [hlength, hdrop, reset?_eq_some]
          rfl
        · rfl
    · rw [checkIndex_eq_error hindex]
      simp [bind, Except.bind]

theorem updateParagraphStyleStrict?_eq_some (h : d.Consistent) (style : ParagraphStyle)
    (range : Range) :
    d.updateParagraphStyleStrict? style range = some (d.updateParagraphStyle style range) := by
  unfold updateParagraphStyleStrict? updateParagraphStyle
  cases NamedStyle.parse? style.namedStyleType with
  | none => rfl
  | some named =>
    dsimp only
    rw [changeStrict?_eq_some (fun first last =>
      { d with units := mapParagraphs first last ({ · with style := named }) d.units })]
    · cases d.checkRange range <;> rfl
    · intro first last hfirst hlast
      rw [mapParagraphs?_eq_some h hfirst hlast]
      rfl

theorem createParagraphBulletsStrict?_eq_some (h : d.Consistent) (preset : String)
    (range : Range) :
    d.createParagraphBulletsStrict? preset range = some (d.createParagraphBullets preset range) := by
  unfold createParagraphBulletsStrict? createParagraphBullets
  by_cases hpreset : preset.isEmpty = true
  · simp only [hpreset, if_true]
  · rw [if_neg hpreset, if_neg hpreset]
    let bullet : Bullet := ⟨"list." ++ toString (d.listsCreated + 1), none⟩
    rw [changeStrict?_eq_some (fun first last =>
      { d with
        units := mapParagraphs first last ({ · with bullet := some bullet }) d.units
        listsCreated := d.listsCreated + 1 })]
    · cases d.checkRange range <;> rfl
    · intro first last hfirst hlast
      dsimp only
      rw [mapParagraphs?_eq_some h hfirst hlast]
      rfl

theorem updateTextStyleStrict?_eq_some (d : LocalDocument) (style : TextStyle) (range : Range)
    (fields : String) :
    d.updateTextStyleStrict? style range fields = some (d.updateTextStyle style range fields) := by
  unfold updateTextStyleStrict? updateTextStyle
  rw [changeStrict?_eq_some (fun first last =>
    if namesField fields "link" then
      { d with units := mapBetween first last ({ · with link := style.link.map (·.url) }) d.units }
    else d)]
  · cases d.checkRange range with
    | error refusal => rfl
    | ok place =>
      simp only [bind, Except.bind, Except.map]
      split <;> rfl
  · intro first last hfirst hlast
    split
    · dsimp only
      rw [mapBetween?_eq_some (fun _ _ => rfl) (hfirst.trans (Nat.le_succ _)) hlast]
      rfl
    · rfl

/-- On a consistent document no request needs a fallback. -/
theorem applyStrict?_eq_some (h : d.Consistent) (r : Request) :
    d.applyStrict? r = some (d.apply r) := by
  cases r with
  | insertText text index => exact insertTextStrict?_eq_some h text index
  | updateParagraphStyle style range fields =>
    exact updateParagraphStyleStrict?_eq_some h style range
  | createParagraphBullets preset range =>
    exact createParagraphBulletsStrict?_eq_some h preset range
  | updateTextStyle style range fields => exact updateTextStyleStrict?_eq_some d style range fields

/-- Every document that a new one can become is consistent, and whatever is asked of it, each search
    for a terminator and for attributes finds one and each position lies within the units. -/
theorem representation_of_reachable (h : Reachable d) :
    d.Consistent ∧ Utf16.encode d.text.toList = d.codes
      ∧ (∀ position < d.endIndex,
        terminatorFrom? d.units position = some (terminatorFrom d.units position)
          ∧ attributesAt? d.units position = some (attributesAt d.units position))
      ∧ ∀ r, d.applyStrict? r = some (d.apply r) :=
  ⟨h.consistent, h.consistent.encode_text,
    fun _ hp => ⟨terminatorFrom?_eq_some h.consistent hp, attributesAt?_eq_some h.consistent hp⟩,
    applyStrict?_eq_some h.consistent⟩

/-- A document with a surrogate pair and a bullet, after an insertion into the pair was refused. -/
theorem representation_after_refusal :
    let d := ((LocalDocument.new "doc" "T").perform (.update "doc"
      [.insertText "a😀\n" 1, .createParagraphBullets "B" ⟨1, 3⟩])).perform
        (.apply (.insertText "x" 3))
    (Reachable d ∧ d.codes = [97, 0xD83D, 0xDE00, 10, 10] ∧ d.listsCreated = 1)
      ∧ d.Consistent ∧ Utf16.encode d.text.toList = d.codes
      ∧ (∀ position < d.endIndex,
        terminatorFrom? d.units position = some (terminatorFrom d.units position)
          ∧ attributesAt? d.units position = some (attributesAt d.units position))
      ∧ ∀ r, d.applyStrict? r = some (d.apply r) :=
  ⟨⟨.perform _ (.perform _ (.new _ _)), by decide, by decide⟩,
    representation_of_reachable (.perform _ (.perform _ (.new _ _)))⟩

end LocalDocument

end DocMark.Service
