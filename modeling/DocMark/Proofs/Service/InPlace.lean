-- SUMMARY: Requests carried out on a document in place: when they are accepted, and that refused ones change nothing.
import Mathlib
import DocMark.Proofs.Service.Strict

/-!
# Requests in place

`LocalDocument.apply` gives a new document or none. `InPlace.apply` carries out the same requests on a
document that it changes unit by unit: what was changed before it stops stays changed, and it stops where
an index is too small to be made a position or a position lies outside the units. On consistent documents
it never stops for such a reason, and where a request is refused it does so before the first change.
-/
namespace DocMark.Service

open Document Edit

/-- Why carrying out a request in place stops. -/
inductive Stop where
  | refused (refusal : Refusal)
  /-- Something is missing: a unit, a terminator or its attributes, or a difference of indices. -/
  | missing
deriving DecidableEq, Inhabited, Repr

/-- Steps that change a document in place, and that leave it as it then is when they stop. -/
abbrev InPlace (α : Type) : Type := EStateM Stop LocalDocument α

namespace InPlace

open Strict (minus? terminatorFrom? attributesAt? mapAttributes?)

/-- The value of a step that gives one only where nothing is missing. -/
def known {α : Type} : Option α → InPlace α
  | some a => pure a
  | none => throw .missing

def accept {α : Type} : Except Refusal α → InPlace α
  | .ok a => pure a
  | .error refusal => throw (.refused refusal)

/-- The positions of the first and the last unit of a range. -/
def checkRange (range : Range) : InPlace (Nat × Nat) := do
  accept (← known ((← get).checkRangeStrict? range))

/-- Changes the unit at a position, which has to exist. -/
def changeUnit (f : CodeUnit → Option CodeUnit) (position : Nat) : InPlace Unit := do
  let u ← known (← get).units[position]?
  let changed ← known (f u)
  modify fun d => { d with units := d.units.set position changed }

/-- Changes so many units from a position on, one after the other. -/
def changeEach (f : CodeUnit → Option CodeUnit) (position : Nat) : (count : Nat) → InPlace Unit
  | 0 => pure ()
  | count + 1 => do
    changeUnit f position
    changeEach f (position + 1) count

/-- Changes the units from position `first` to position `last`, once both are known to exist. -/
def changeBetween (f : CodeUnit → Option CodeUnit) (first last : Nat) : InPlace Unit := do
  if first ≤ last + 1 ∧ last < (← get).units.length then changeEach f first (last + 1 - first)
  else throw .missing

/-- Changes the attributes of the paragraphs that hold a unit from `first` to `last`. -/
def changeParagraphs (f : ParagraphAttributes → ParagraphAttributes) (first last : Nat) :
    InPlace Unit := do
  let start ← known (terminatorFrom? (← get).units first)
  let stop ← known (terminatorFrom? (← get).units last)
  changeBetween (mapAttributes? f) start stop

/-- Inserts before the unit `u`, and then resets it where it ends an empty paragraph. -/
def insertBefore (u : CodeUnit) (text : String) (position : Nat) : InPlace Unit := do
  let containing ← known (attributesAt? (← get).units position)
  let inserted := LocalDocument.insertedUnits text containing
  modify fun d => { d with units := d.units.take position ++ inserted ++ d.units.drop position }
  if u.isTerminator && text.toList.contains '\n' then
    changeUnit (fun u => some { u with paragraph := some {} }) (position + inserted.length)
  else pure ()

def insertText (text : String) (index : Nat) : InPlace Unit := do
  if text.isEmpty then throw (.refused .emptyText)
  else
    accept ((← get).checkIndex index)
    let position ← known (minus? index 1)
    let u ← known (← get).units[position]?
    if u.isLowHalf then throw (.refused (.splitsPair index))
    else insertBefore u text position

def updateParagraphStyle (style : ParagraphStyle) (range : Range) : InPlace Unit := do
  match NamedStyle.parse? style.namedStyleType with
  | none => throw (.refused (.unknownStyle style.namedStyleType))
  | some named =>
    let (first, last) ← checkRange range
    changeParagraphs ({ · with style := named }) first last

/-- Counts a new list, and then looks for the paragraphs that become its items. -/
def makeItems (first last : Nat) : InPlace Unit := do
  modify fun d => { d with listsCreated := d.listsCreated + 1 }
  let bullet : Bullet := ⟨"list." ++ toString (← get).listsCreated, none⟩
  changeParagraphs ({ · with bullet := some bullet }) first last

def createParagraphBullets (preset : String) (range : Range) : InPlace Unit := do
  if preset.isEmpty then throw (.refused .emptyPreset)
  else
    let (first, last) ← checkRange range
    makeItems first last

def updateTextStyle (style : TextStyle) (range : Range) (fields : String) : InPlace Unit := do
  let (first, last) ← checkRange range
  if LocalDocument.namesField fields "link" then
    changeBetween (fun u => some { u with link := style.link.map (·.url) }) first last
  else pure ()

def apply : Request → InPlace Unit
  | .insertText text index => insertText text index
  | .updateParagraphStyle style range _ => updateParagraphStyle style range
  | .createParagraphBullets preset range => createParagraphBullets preset range
  | .updateTextStyle style range fields => updateTextStyle style range fields

/-! ## Steps -/

section Steps

variable {α β : Type} {d d' : LocalDocument}

theorem run_bind_of_ok {x : InPlace α} {a : α} (h : x.run d = .ok a d') (f : α → InPlace β) :
    (x >>= f).run d = (f a).run d' := by
  rw [EStateM.run_bind, h]

theorem run_bind_of_error {x : InPlace α} {stop : Stop} (h : x.run d = .error stop d')
    (f : α → InPlace β) : (x >>= f).run d = .error stop d' := by
  rw [EStateM.run_bind, h]

theorem run_get_bind (f : LocalDocument → InPlace β) : (get >>= f).run d = (f d).run d := rfl

theorem run_modify_bind (g : LocalDocument → LocalDocument) (f : PUnit → InPlace β) :
    (modify g >>= f).run d = (f ⟨⟩).run (g d) := rfl

theorem run_known {o : Option α} {a : α} (h : o = some a) : (known o).run d = .ok a d := by
  rw [h]
  rfl

theorem run_changeUnit {f : CodeUnit → Option CodeUnit} {position : Nat} {u changed : CodeUnit}
    (hu : d.units[position]? = some u) (hf : f u = some changed) :
    (changeUnit f position).run d = .ok () { d with units := d.units.set position changed } := by
  rw [changeUnit, run_get_bind, run_bind_of_ok (run_known hu), run_bind_of_ok (run_known hf)]
  rfl

/-- The units of a stretch are changed, those around it stay. -/
theorem run_changeEach {f : CodeUnit → Option CodeUnit} {g : CodeUnit → CodeUnit}
    (pre mid post : List CodeUnit) (hunits : d.units = pre ++ (mid ++ post))
    (hf : ∀ u ∈ mid, f u = some (g u)) :
    (changeEach f pre.length mid.length).run d =
      .ok () { d with units := pre ++ (mid.map g ++ post) } := by
  induction mid generalizing d pre with
  | nil =>
    rw [List.map_nil, ← hunits]
    rfl
  | cons u mid ih =>
    rw [List.forall_mem_cons] at hf
    have hat : d.units[pre.length]? = some u := by simp [hunits]
    have hset : d.units.set pre.length (g u) = (pre ++ [g u]) ++ (mid ++ post) := by simp [hunits]
    have hlength : pre.length + 1 = (pre ++ [g u]).length := by simp
    rw [List.length_cons, changeEach, run_bind_of_ok (run_changeUnit hat hf.1), hlength,
      ih (pre ++ [g u]) hset hf.2]
    simp

theorem run_changeBetween {f : CodeUnit → Option CodeUnit} {g : CodeUnit → CodeUnit} {first last : Nat}
    (hfirst : first ≤ last + 1) (hlast : last < d.units.length) (hf : ∀ u ∈ d.units, f u = some (g u)) :
    (changeBetween f first last).run d =
      .ok () { d with units := LocalDocument.mapBetween first last g d.units } := by
  have hparts := (LocalDocument.take_append_take_drop_append hfirst d.units).symm
  have hmid : ∀ u ∈ (d.units.drop first).take (last + 1 - first), f u = some (g u) :=
    fun u hu => hf u (List.mem_of_mem_drop (List.mem_of_mem_take hu))
  have hrun := run_changeEach _ _ _ hparts hmid
  rw [List.length_take, Nat.min_eq_left (by omega), List.length_take, List.length_drop,
    Nat.min_eq_left (by omega)] at hrun
  rw [changeBetween, run_get_bind, if_pos ⟨hfirst, hlast⟩, hrun, LocalDocument.mapBetween, List.append_assoc]

theorem run_changeParagraphs (h : d.Consistent) {first last : Nat} (hfirst : first ≤ last)
    (hlast : last < d.units.length) (f : ParagraphAttributes → ParagraphAttributes) :
    (changeParagraphs f first last).run d =
      .ok () { d with units := LocalDocument.mapParagraphs first last f d.units } := by
  obtain ⟨offset, t, -, hfrom, hat, -⟩ := LocalDocument.terminatorFrom_spec (h.exists_terminator hlast)
  have hstop : LocalDocument.terminatorFrom d.units last < d.units.length := by
    rw [hfrom]
    exact (List.getElem?_eq_some_iff.mp hat).1
  have hordered := (LocalDocument.terminatorFrom_mono d.units hfirst).trans (Nat.le_succ _)
  have hattributes : ∀ u ∈ d.units, mapAttributes? f u = some (u.mapAttributes f) :=
    fun u hu => Strict.mapAttributes?_eq_some (h.sound u hu) f
  rw [changeParagraphs, run_get_bind,
    run_bind_of_ok (run_known (Strict.terminatorFrom?_eq_some h (hfirst.trans_lt hlast))), run_get_bind,
    run_bind_of_ok (run_known (Strict.terminatorFrom?_eq_some h hlast)),
    run_changeBetween hordered hstop hattributes]
  rfl

end Steps

/-! ## Requests -/

section Requests

variable {α : Type} {d : LocalDocument}

/-- What a request in place comes to where it is to agree with one that gives a new document. -/
def outcome (d : LocalDocument) : Except Refusal LocalDocument → EStateM.Result Stop LocalDocument Unit
  | .ok d' => .ok () d'
  | .error refusal => .error (.refused refusal) d

/-- A style request agrees if its change does wherever the check of the range can lead. -/
theorem run_checkRange_bind {range : Range} (change : Nat → Nat → InPlace Unit)
    (result : Nat → Nat → LocalDocument)
    (h : ∀ first last, first ≤ last → last < d.units.length →
      (change first last).run d = .ok () (result first last)) :
    (checkRange range >>= fun place => change place.1 place.2).run d =
      outcome d ((d.checkRange range).map fun place => result place.1 place.2) := by
  have hrun : (checkRange range).run d = (accept (d.checkRange range)).run d := by
    rw [checkRange, run_get_bind, run_bind_of_ok (run_known (d.checkRangeStrict?_eq_some range))]
  cases hrange : d.checkRange range with
  | error refusal =>
    rw [hrange] at hrun
    rw [run_bind_of_error hrun]
    rfl
  | ok place =>
    obtain ⟨first, last⟩ := place
    obtain ⟨⟨hpos, hordered, hend⟩, hfirst, hlast⟩ := LocalDocument.checkRange_eq_ok_iff.mp hrange
    rw [hrange] at hrun
    rw [LocalDocument.endIndex] at hend
    rw [run_bind_of_ok hrun, h first last (by omega) (by omega)]
    rfl

theorem run_insertBefore (h : d.Consistent) {u : CodeUnit} {position : Nat} (hu : d.units[position]? = some u)
    (text : String) :
    (insertBefore u text position).run d =
      .ok () { d with units := LocalDocument.insertedAt text position d.units } := by
  obtain ⟨hp, hat⟩ := List.getElem?_eq_some_iff.mp hu
  have hdrop : d.units.drop position = u :: d.units.drop (position + 1) := by
    rw [← hat]
    exact List.drop_eq_getElem_cons hp
  have hlength (inserted : List CodeUnit) :
      position + inserted.length = (d.units.take position ++ inserted).length := by
    rw [List.length_append, List.length_take, Nat.min_eq_left hp.le]
  rw [insertBefore, run_get_bind, run_bind_of_ok (run_known (Strict.attributesAt?_eq_some h hp)),
    LocalDocument.insertedAt, hu, Option.any_some]
  dsimp only
  rw [run_modify_bind]
  split
  · refine (run_changeUnit (f := fun u => some { u with paragraph := some {} }) (u := u) ?_ rfl).trans ?_
    · dsimp only
      rw [hlength, hdrop]
      simp
    · rw [hlength, hdrop]
      simp [LocalDocument.resetFirst]
  · rfl

theorem run_insertText (h : d.Consistent) (text : String) (index : Nat) :
    (insertText text index).run d = outcome d (d.insertText text index) := by
  by_cases htext : text.isEmpty = true
  · rw [insertText, LocalDocument.insertText, if_pos htext, if_pos htext]
    rfl
  · by_cases hindex : 1 ≤ index ∧ index ≤ d.endIndex
    · have hp : index - 1 < d.units.length := Nat.sub_one_lt_of_le hindex.1 hindex.2
      have hu : d.units[index - 1]? = some d.units[index - 1] := List.getElem?_eq_getElem hp
      have hcheck := LocalDocument.checkIndex_eq_ok_iff.mpr hindex
      have haccept : (accept (d.checkIndex index)).run d = .ok () d := by
        rw [hcheck]
        rfl
      rw [insertText, if_neg htext, run_get_bind, run_bind_of_ok haccept,
        run_bind_of_ok (run_known (Strict.minus?_eq_some hindex.1)), run_get_bind,
        run_bind_of_ok (run_known hu)]
      cases hlow : d.units[index - 1].isLowHalf with
      | true =>
        have hrefused : d.insertText text index = .error (.splitsPair index) := by
          simp [LocalDocument.insertText, htext, hcheck, bind, Except.bind, hu, hlow]
        rw [hrefused]
        rfl
      | false =>
        have hnone : d.units[index - 1]?.any (·.isLowHalf) = false := by rw [hu, Option.any_some, hlow]
        have hok := LocalDocument.insertText_eq_ok_iff.mpr ⟨by simpa using htext, hindex, hnone, rfl⟩
        rw [hok, if_neg Bool.false_ne_true, run_insertBefore h hu]
        rfl
    · have hcheck := LocalDocument.checkIndex_eq_error hindex
      have haccept : (accept (d.checkIndex index)).run d =
          .error (.refused (.indexOutside index d.endIndex)) d := by
        rw [hcheck]
        rfl
      rw [insertText, if_neg htext, run_get_bind, run_bind_of_error haccept, LocalDocument.insertText,
        if_neg htext, hcheck]
      rfl

theorem run_updateParagraphStyle (h : d.Consistent) (style : ParagraphStyle) (range : Range) :
    (updateParagraphStyle style range).run d = outcome d (d.updateParagraphStyle style range) := by
  unfold updateParagraphStyle LocalDocument.updateParagraphStyle
  cases NamedStyle.parse? style.namedStyleType with
  | none => rfl
  | some named =>
    refine (run_checkRange_bind _ _ fun first last hfirst hlast =>
      run_changeParagraphs h hfirst hlast ({ · with style := named })).trans ?_
    cases d.checkRange range <;> rfl

theorem run_makeItems (h : d.Consistent) {first last : Nat} (hfirst : first ≤ last)
    (hlast : last < d.units.length) :
    (makeItems first last).run d = .ok () { d with
      units := LocalDocument.mapParagraphs first last
        ({ · with bullet := some ⟨"list." ++ toString (d.listsCreated + 1), none⟩ }) d.units
      listsCreated := d.listsCreated + 1 } := by
  have hcounted : ({ d with listsCreated := d.listsCreated + 1 } : LocalDocument).Consistent :=
    ⟨h.ends, fun u hu => (h.sound u hu).mono (Nat.le_succ _), h.wellFormed⟩
  rw [makeItems, run_modify_bind, run_get_bind]
  exact run_changeParagraphs hcounted hfirst hlast _

theorem run_createParagraphBullets (h : d.Consistent) (preset : String) (range : Range) :
    (createParagraphBullets preset range).run d = outcome d (d.createParagraphBullets preset range) := by
  unfold createParagraphBullets LocalDocument.createParagraphBullets
  by_cases hpreset : preset.isEmpty = true
  · rw [if_pos hpreset, if_pos hpreset]
    rfl
  · rw [if_neg hpreset, if_neg hpreset]
    refine (run_checkRange_bind _ _ fun first last hfirst hlast => run_makeItems h hfirst hlast).trans ?_
    cases d.checkRange range <;> rfl

theorem run_updateTextStyle (d : LocalDocument) (style : TextStyle) (range : Range) (fields : String) :
    (updateTextStyle style range fields).run d = outcome d (d.updateTextStyle style range fields) := by
  unfold updateTextStyle LocalDocument.updateTextStyle
  by_cases hlink : LocalDocument.namesField fields "link" = true
  · simp only [hlink, if_true]
    refine (run_checkRange_bind _ _ fun first last hfirst hlast =>
      run_changeBetween (f := fun u => some { u with link := style.link.map (·.url) })
        (hfirst.trans (Nat.le_succ _)) hlast fun _ _ => rfl).trans ?_
    cases d.checkRange range <;> rfl
  · simp only [hlink]
    refine (run_checkRange_bind (fun _ _ => pure ()) (fun _ _ => d) fun _ _ _ _ => rfl).trans ?_
    cases d.checkRange range <;> rfl

/-- On a consistent document the two ways to carry out a request agree. -/
theorem run_apply (h : d.Consistent) (r : Request) : (apply r).run d = outcome d (d.apply r) := by
  cases r with
  | insertText text index => exact run_insertText h text index
  | updateParagraphStyle style range fields => exact run_updateParagraphStyle h style range
  | createParagraphBullets preset range => exact run_createParagraphBullets h preset range
  | updateTextStyle style range fields => exact run_updateTextStyle d style range fields

end Requests

end InPlace

/-! ## Acceptance -/

namespace LocalDocument

variable {d d' : LocalDocument}

/-- Whether a range is not empty and its indices are those of units. -/
def Spans (d : LocalDocument) (range : Range) : Prop :=
  1 ≤ range.startIndex ∧ range.startIndex < range.endIndex ∧ range.endIndex ≤ d.endIndex + 1

/-- What a request has to satisfy to be accepted. -/
def Admits (d : LocalDocument) : Request → Prop
  | .insertText text index =>
    text ≠ "" ∧ (1 ≤ index ∧ index ≤ d.endIndex)
      ∧ ∀ u ∈ d.units[index - 1]?, ¬(0xDC00 ≤ u.code.toNat ∧ u.code.toNat ≤ 0xDFFF)
  | .updateParagraphStyle style range _ =>
    (NamedStyle.parse? style.namedStyleType).isSome = true ∧ d.Spans range
  | .createParagraphBullets preset range => preset ≠ "" ∧ d.Spans range
  | .updateTextStyle _ range _ => d.Spans range

theorem exists_checkRange_eq_ok_iff {range : Range} :
    (∃ first last, d.checkRange range = .ok (first, last)) ↔ d.Spans range := by
  constructor
  · rintro ⟨first, last, hrange⟩
    exact (checkRange_eq_ok_iff.mp hrange).1
  · intro hspans
    exact ⟨_, _, checkRange_eq_ok_iff.mpr ⟨hspans, rfl, rfl⟩⟩

theorem exists_apply_eq_ok_iff {r : Request} : (∃ d', d.apply r = .ok d') ↔ d.Admits r := by
  cases r with
  | insertText text index =>
    have hlow : d.units[index - 1]?.any (·.isLowHalf) = false ↔
        ∀ u ∈ d.units[index - 1]?, ¬(0xDC00 ≤ u.code.toNat ∧ u.code.toNat ≤ 0xDFFF) := by
      cases d.units[index - 1]? with
      | none => simp
      | some u => simp [CodeUnit.isLowHalf, ← Text.Utf16.isLow_iff]
    constructor
    · rintro ⟨d', hok⟩
      obtain ⟨htext, hindex, hnone, -⟩ := insertText_eq_ok_iff.mp hok
      exact ⟨htext, hindex, hlow.mp hnone⟩
    · rintro ⟨htext, hindex, hnone⟩
      exact ⟨_, insertText_eq_ok_iff.mpr ⟨htext, hindex, hlow.mpr hnone, rfl⟩⟩
  | updateParagraphStyle style range fields =>
    constructor
    · rintro ⟨d', hok⟩
      obtain ⟨named, first, last, hnamed, hrange, -⟩ := updateParagraphStyle_eq_ok_iff.mp hok
      exact ⟨by rw [hnamed, Option.isSome_some], exists_checkRange_eq_ok_iff.mp ⟨first, last, hrange⟩⟩
    · rintro ⟨hstyle, hspans⟩
      obtain ⟨named, hnamed⟩ := Option.isSome_iff_exists.mp hstyle
      obtain ⟨first, last, hrange⟩ := exists_checkRange_eq_ok_iff.mpr hspans
      exact ⟨_, updateParagraphStyle_eq_ok_iff.mpr ⟨named, first, last, hnamed, hrange, rfl⟩⟩
  | createParagraphBullets preset range =>
    constructor
    · rintro ⟨d', hok⟩
      obtain ⟨hpreset, first, last, hrange, -⟩ := createParagraphBullets_eq_ok_iff.mp hok
      exact ⟨hpreset, exists_checkRange_eq_ok_iff.mp ⟨first, last, hrange⟩⟩
    · rintro ⟨hpreset, hspans⟩
      obtain ⟨first, last, hrange⟩ := exists_checkRange_eq_ok_iff.mpr hspans
      exact ⟨_, createParagraphBullets_eq_ok_iff.mpr ⟨hpreset, first, last, hrange, rfl⟩⟩
  | updateTextStyle style range fields =>
    constructor
    · rintro ⟨d', hok⟩
      obtain ⟨first, last, hrange, -⟩ := updateTextStyle_eq_ok_iff.mp hok
      exact exists_checkRange_eq_ok_iff.mp ⟨first, last, hrange⟩
    · intro hspans
      obtain ⟨first, last, hrange⟩ := exists_checkRange_eq_ok_iff.mpr hspans
      exact ⟨_, updateTextStyle_eq_ok_iff.mpr ⟨first, last, hrange, rfl⟩⟩

/-- A request in place is carried out just where it is to be accepted, with the result that `apply` gives.
    Otherwise it is refused, for the reason that `apply` gives, and the document is as it was. -/
theorem inPlace_of_reachable (h : Reachable d) (r : Request) :
    ((∃ d', d.apply r = .ok d') ↔ d.Admits r)
      ∧ (∀ d', (InPlace.apply r).run d = .ok () d' ↔ d.apply r = .ok d')
      ∧ ∀ stop d', (InPlace.apply r).run d = .error stop d' →
        d' = d ∧ ∃ refusal, stop = .refused refusal ∧ d.apply r = .error refusal := by
  have hrun := InPlace.run_apply h.consistent r
  refine ⟨exists_apply_eq_ok_iff, fun d' => ?_, fun stop d' hstop => ?_⟩
  · rw [hrun]
    cases d.apply r with
    | ok next => simp [InPlace.outcome]
    | error refusal => simp [InPlace.outcome]
  · rw [hrun] at hstop
    cases hresult : d.apply r with
    | ok next =>
      rw [hresult] at hstop
      cases hstop
    | error refusal =>
      rw [hresult] at hstop
      cases hstop
      exact ⟨rfl, refusal, rfl, rfl⟩

/-- The greatest index there is ends a range behind the last unit. -/
theorem inPlace_of_reachable_greatestIndex :
    let d := (LocalDocument.new "doc" "T").perform (.update "doc"
      [.insertText "a😀" 1, .createParagraphBullets "B" ⟨1, 2⟩])
    let r := Request.createParagraphBullets "B" ⟨4, 2 ^ 64 - 1⟩
    (Reachable d ∧ d.apply r = .error (.indexOutside (2 ^ 64 - 2) 4))
      ∧ ((∃ d', d.apply r = .ok d') ↔ d.Admits r)
      ∧ (∀ d', (InPlace.apply r).run d = .ok () d' ↔ d.apply r = .ok d')
      ∧ ∀ stop d', (InPlace.apply r).run d = .error stop d' →
        d' = d ∧ ∃ refusal, stop = .refused refusal ∧ d.apply r = .error refusal := by
  intro d r
  have hreachable : Reachable d := .perform _ (.new _ _)
  exact ⟨⟨hreachable, by decide⟩, inPlace_of_reachable hreachable r⟩

end LocalDocument

end DocMark.Service
