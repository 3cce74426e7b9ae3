-- SUMMARY: When the runs of an exported document give its whole text: no link ends inside a surrogate pair.
import Mathlib
import DocMark.Proofs.Service.StoredParagraphs

/-!
# The text of an export

The runs of an exported document are decoded one by one, so a pair whose halves lie in two runs is lost: both
halves are replaced. A run ends where a paragraph ends or where the link changes. No pair has the end of a
paragraph in it, and so the runs give the text of the document just if no pair has two links.
-/
namespace DocMark.Document

/-- The runs of a paragraph; other elements have none. -/
def StructuralElement.runs (e : StructuralElement) : List TextRun :=
  match e.block with
  | .paragraph p => p.runs
  | .table _ => []
  | .other => []

/-- The runs of all paragraphs of the body, in order. -/
def runs (d : Document) : List TextRun := d.body.content.flatMap (·.runs)

/-- The contents of all runs. -/
def runText (d : Document) : String := String.join (d.runs.map (·.content))

end DocMark.Document

namespace DocMark.Service

open Document Text

namespace CodeUnit

/-- Two units that follow each other have the same link if they are the halves of a surrogate pair. -/
def KeepsPair (u v : CodeUnit) : Prop :=
  Utf16.isHigh u.code = true → Utf16.isLow v.code = true → u.link = v.link

instance : DecidableRel KeepsPair := fun u v =>
  inferInstanceAs (Decidable
    (Utf16.isHigh u.code = true → Utf16.isLow v.code = true → u.link = v.link))

theorem keepsPair_of_not_isHigh {u : CodeUnit} (h : Utf16.isHigh u.code = false) (v : CodeUnit) :
    u.KeepsPair v := by
  intro hhigh
  rw [h] at hhigh
  cases hhigh

theorem isChain_keepsPair_cons {u : CodeUnit} (h : Utf16.isHigh u.code = false) {us : List CodeUnit} :
    (u :: us).IsChain KeepsPair ↔ us.IsChain KeepsPair := by
  rw [List.isChain_cons]
  exact and_iff_right fun v _ => keepsPair_of_not_isHigh h v

end CodeUnit

open CodeUnit (KeepsPair isChain_keepsPair_cons)

namespace LocalDocument

variable {d : LocalDocument} {u v : CodeUnit} {us : List CodeUnit}

/-! ## Stretches -/

/-- Whether the codes of all the stretches are well formed: no stretch ends inside a pair. -/
def AreWhole (ss : List (Option String × List CodeUnit)) : Prop :=
  ∀ s ∈ ss, Utf16.isWellFormed (s.2.map (·.code)) = true

theorem areWhole_cons {s : Option String × List CodeUnit} {ss : List (Option String × List CodeUnit)} :
    AreWhole (s :: ss) ↔ Utf16.isWellFormed (s.2.map (·.code)) = true ∧ AreWhole ss :=
  List.forall_mem_cons

/-- The first unit begins the first stretch, and goes on with the stretch behind it if there is one with its
    link. -/
theorem exists_stretches_cons (u : CodeUnit) (us : List CodeUnit) :
    ∃ stretch rest, stretches (u :: us) = (u.link, u :: stretch) :: rest
      ∧ (AreWhole (stretches us) ↔ Utf16.isWellFormed (stretch.map (·.code)) = true ∧ AreWhole rest) := by
  rw [stretches]
  cases stretches us with
  | nil => exact ⟨[], [], rfl, (and_iff_right rfl).symm⟩
  | cons s rest =>
    obtain ⟨link, stretch⟩ := s
    by_cases hlink : u.link = link
    · subst hlink
      exact ⟨stretch, rest, if_pos rfl, areWhole_cons⟩
    · exact ⟨[], (link, stretch) :: rest, if_neg hlink, (and_iff_right rfl).symm⟩

theorem areWhole_stretches_cons (hhigh : Utf16.isHigh u.code = false) (hlow : Utf16.isLow u.code = false)
    (us : List CodeUnit) : AreWhole (stretches (u :: us)) ↔ AreWhole (stretches us) := by
  obtain ⟨stretch, rest, hstretches, hwhole⟩ := exists_stretches_cons u us
  rw [hstretches, areWhole_cons, hwhole, List.map_cons, Utf16.isWellFormed_cons_of_whole hhigh hlow]

/-- A pair goes into one stretch if its halves have the same link, and is cut if they have not. -/
theorem areWhole_stretches_pair (hhigh : Utf16.isHigh u.code = true) (hlow : Utf16.isLow v.code = true)
    (us : List CodeUnit) :
    AreWhole (stretches (u :: v :: us)) ↔ u.link = v.link ∧ AreWhole (stretches us) := by
  obtain ⟨stretch, rest, hstretches, hwhole⟩ := exists_stretches_cons v us
  rw [stretches, hstretches]
  dsimp only
  by_cases hlink : u.link = v.link
  · rw [if_pos hlink, areWhole_cons, hwhole, and_iff_right hlink, List.map_cons, List.map_cons,
      Utf16.isWellFormed_pair hhigh hlow]
  · have hcut : Utf16.isWellFormed [u.code] = false := by simp [Utf16.isWellFormed, hhigh]
    rw [if_neg hlink, areWhole_cons]
    refine iff_of_false (fun h => ?_) (fun h => hlink h.1)
    exact Bool.false_ne_true (hcut.symm.trans h.1)

/-- Of well-formed units no stretch ends inside a pair if and only if every pair has one link. -/
theorem areWhole_stretches_iff (h : Utf16.isWellFormed (us.map (·.code)) = true) :
    AreWhole (stretches us) ↔ us.IsChain KeepsPair := by
  induction us using List.twoStepInduction with
  | nil => exact iff_of_true (List.forall_mem_nil _) .nil
  | singleton u => exact iff_of_true (List.forall_mem_singleton.mpr h) (.singleton u)
  | cons_cons u v us ih ihcons =>
    cases hhigh : Utf16.isHigh u.code with
    | true =>
      simp only [List.map_cons, Utf16.isWellFormed, hhigh, if_true, Bool.and_eq_true] at h
      obtain ⟨hlow, hrest⟩ := h
      have hpair : u.KeepsPair v ↔ u.link = v.link := ⟨fun hkeeps => hkeeps hhigh hlow, fun hlink _ _ => hlink⟩
      rw [areWhole_stretches_pair hhigh hlow, ih hrest, List.isChain_cons_cons, hpair,
        isChain_keepsPair_cons (Utf16.not_isHigh_of_isLow hlow)]
    | false =>
      simp only [List.map_cons, Utf16.isWellFormed, hhigh, Bool.false_eq_true, if_false, Bool.and_eq_true,
        Bool.not_eq_true'] at h
      obtain ⟨hlow, hrest⟩ := h
      rw [areWhole_stretches_cons hhigh hlow, ihcons v hrest, isChain_keepsPair_cons hhigh]

/-! ## Paragraphs -/

section Paragraphs

variable {p : StoredParagraph} {ps : List StoredParagraph}

/-- Well-formed units may be cut behind a paragraph. -/
theorem isWellFormed_units_append (h : Utf16.isWellFormed ((p.units ++ us).map (·.code)) = true) :
    Utf16.isWellFormed (p.units.map (·.code)) = true ∧ Utf16.isWellFormed (us.map (·.code)) = true := by
  have hwhole (codes : List UInt16) :
      Utf16.isWellFormed (CodeUnit.lineFeed :: codes) = Utf16.isWellFormed codes :=
    Utf16.isWellFormed_cons_of_whole rfl rfl codes
  rw [StoredParagraph.units, List.append_assoc, List.map_append] at h
  have hbody : Utf16.isWellFormed (p.body.map (·.code)) = true := Utf16.isWellFormed_left_of_append h rfl
  rw [Utf16.isWellFormed_append hbody] at h
  refine ⟨?_, (hwhole _).symm.trans h⟩
  rw [StoredParagraph.units, List.map_append, Utf16.isWellFormed_append hbody]
  exact hwhole []

/-- No pair lies on both sides of the end of a paragraph. -/
theorem isChain_units_append :
    (p.units ++ us).IsChain KeepsPair ↔ p.units.IsChain KeepsPair ∧ us.IsChain KeepsPair := by
  rw [List.isChain_append]
  refine and_congr_right fun _ => and_iff_left fun u hu v _ => ?_
  obtain rfl : p.terminator = u := by simpa [StoredParagraph.units] using hu
  exact CodeUnit.keepsPair_of_not_isHigh rfl v

/-- Of well-formed paragraphs no stretch ends inside a pair if and only if every pair has one link. -/
theorem areWhole_layout_iff
    (h : Utf16.isWellFormed ((StoredParagraph.layout ps).map (·.code)) = true) :
    (∀ p ∈ ps, AreWhole (stretches p.units)) ↔ (StoredParagraph.layout ps).IsChain KeepsPair := by
  induction ps with
  | nil => exact iff_of_true (List.forall_mem_nil _) .nil
  | cons p ps ih =>
    rw [StoredParagraph.layout_cons] at h ⊢
    obtain ⟨hp, hps⟩ := isWellFormed_units_append h
    rw [List.forall_mem_cons, isChain_units_append, areWhole_stretches_iff hp, ih hps]

end Paragraphs

/-! ## Runs -/

/-- The codes of each run of some paragraphs. -/
def runCodes (paragraphs : List (List CodeUnit)) : List (List UInt16) :=
  paragraphs.flatMap fun units => (stretches units).map fun s => s.2.map (·.code)

theorem runCodes_cons (units : List CodeUnit) (rest : List (List CodeUnit)) :
    runCodes (units :: rest) = (stretches units).map (fun s => s.2.map (·.code)) ++ runCodes rest :=
  List.flatMap_cons

theorem flatten_runCodes (paragraphs : List (List CodeUnit)) :
    (runCodes paragraphs).flatten = paragraphs.flatten.map (·.code) := by
  induction paragraphs with
  | nil => rfl
  | cons units rest ih =>
    have hunits : ((stretches units).map fun s => s.2.map (·.code)).flatten = units.map (·.code) := by
      rw [← List.flatMap_def, ← List.map_flatMap, flatMap_stretches]
    rw [runCodes_cons, List.flatten_append, hunits, ih, List.flatten_cons, List.map_append]

theorem contents_runElements (index : Nat) (ss : List (Option String × List CodeUnit))
    (style : ParagraphStyle) (bullet : Option Bullet) :
    (Paragraph.runs ⟨runElements index ss, style, bullet⟩).map (·.content) =
      ss.map fun s => String.ofList (Utf16.decode (s.2.map (·.code))) := by
  induction ss generalizing index with
  | nil => rfl
  | cons s ss ih =>
    obtain ⟨link, units⟩ := s
    exact congrArg (_ :: ·) (ih (index + units.length))

theorem contents_exportParagraphs (index : Nat) (paragraphs : List (List CodeUnit)) :
    ((exportParagraphs index paragraphs).flatMap (·.runs)).map (·.content) =
      (runCodes paragraphs).map fun codes => String.ofList (Utf16.decode codes) := by
  induction paragraphs generalizing index with
  | nil => rfl
  | cons units rest ih =>
    have hunits : (exportParagraph index units).runs.map (·.content) =
        (stretches units).map fun s => String.ofList (Utf16.decode (s.2.map (·.code))) :=
      contents_runElements ..
    rw [exportParagraphs, List.flatMap_cons, List.map_append, ih, hunits, runCodes_cons, List.map_append,
      List.map_map]
    rfl

/-- The runs have the text of their codes, each decoded apart. -/
theorem toList_runText_toDocument (d : LocalDocument) :
    d.toDocument.runText.toList = (runCodes d.paragraphs).flatMap Utf16.decode := by
  have hcontents : d.toDocument.runs.map (·.content) = _ := contents_exportParagraphs 1 d.paragraphs
  rw [runText, hcontents, String.toList_join, List.flatMap_map]
  exact congrArg (List.flatMap · _) (funext fun codes => String.toList_ofList)

/-- The runs of an exported document have its text if and only if the halves of every surrogate pair have the
    same link. -/
theorem runText_toDocument_eq_iff (h : Reachable d) :
    d.toDocument.runText = d.text ↔ d.units.IsChain KeepsPair := by
  obtain ⟨hunits, hlines⟩ := h.consistent.stores
  have hparagraphs : d.paragraphs = d.storedParagraphs.map (·.units) := by
    rw [paragraphs, hunits, StoredParagraph.paragraphsAfter_layout hlines]
  have hcodes : (runCodes d.paragraphs).flatten = d.codes := by
    rw [flatten_runCodes, hparagraphs, ← List.flatMap_def]
    exact congrArg (List.map (·.code)) hunits.symm
  have hwellFormed := h.consistent.wellFormed
  have hwhole : (∀ codes ∈ runCodes d.paragraphs, Utf16.isWellFormed codes = true) ↔
      ∀ p ∈ d.storedParagraphs, AreWhole (stretches p.units) := by
    rw [hparagraphs, runCodes, List.flatMap_map, List.forall_mem_flatMap]
    simp only [List.forall_mem_map, AreWhole]
  have hlayout : Utf16.isWellFormed ((StoredParagraph.layout d.storedParagraphs).map (·.code)) = true := by
    rw [← hunits]
    exact hwellFormed
  rw [← hcodes] at hwellFormed
  calc
    d.toDocument.runText = d.text ↔
        (runCodes d.paragraphs).flatMap Utf16.decode = Utf16.decode (runCodes d.paragraphs).flatten := by
      rw [← String.toList_inj, toList_runText_toDocument, text, String.toList_ofList, hcodes]
    _ ↔ ∀ p ∈ d.storedParagraphs, AreWhole (stretches p.units) :=
      (Utf16.flatMap_decode_eq_iff hwellFormed).trans hwhole
    _ ↔ d.units.IsChain KeepsPair := by rw [areWhole_layout_iff hlayout, ← hunits]

/-- A document in which a link ends inside a surrogate pair. -/
theorem runText_toDocument_ne_of_splitPair :
    let d := (LocalDocument.new "doc" "T").perform (.update "doc"
      [.insertText "a😀\nb" 1, .updateTextStyle (.ofLink "u") ⟨1, 3⟩ "link"])
    Reachable d ∧ (d.toDocument.runText = d.text ↔ d.units.IsChain KeepsPair)
      ∧ d.toDocument.runText ≠ d.text := by
  intro d
  have hreachable : Reachable d := .perform _ (.new _ _)
  have hiff := runText_toDocument_eq_iff hreachable
  have hsplit : ¬d.units.IsChain KeepsPair := by decide
  exact ⟨hreachable, hiff, mt hiff.mp hsplit⟩

end LocalDocument

end DocMark.Service
