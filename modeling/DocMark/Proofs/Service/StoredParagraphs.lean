-- SUMMARY: A document as the list of its paragraphs, and where an index lies among them.
import Mathlib
import DocMark.Proofs.Service.Consistency
import DocMark.Proofs.Service.Export

/-!
# Stored paragraphs

A document keeps its paragraphs as one sequence of units, with the attributes of each paragraph on the
unit that ends it. `storedParagraphs` takes the sequence apart and `layout` puts it together again: on
consistent documents neither loses anything. Every index up to the last one has a place: it lies in one
paragraph, before a unit of its body or before its terminator.
-/
namespace DocMark.Service

/-- Whether a unit neither ends a paragraph nor carries attributes of one. -/
structure CodeUnit.IsText (u : CodeUnit) : Prop where
  isTerminator : u.isTerminator = false
  paragraph : u.paragraph = none

/-- What a paragraph consists of: the units before its terminator, and what the terminator carries. -/
structure StoredParagraph where
  attributes : ParagraphAttributes := {}
  body : List CodeUnit := []
  /-- The link of the terminator. -/
  link : Option String := none
deriving DecidableEq, Inhabited, Repr

namespace StoredParagraph

/-- The paragraph whose units are given, its terminator last. -/
def ofUnits (us : List CodeUnit) : StoredParagraph where
  attributes := (us.getLast?.bind (·.paragraph)).getD {}
  body := us.dropLast
  link := us.getLast?.bind (·.link)

def terminator (p : StoredParagraph) : CodeUnit :=
  { CodeUnit.terminator p.attributes with link := p.link }

def units (p : StoredParagraph) : List CodeUnit := p.body ++ [p.terminator]

/-- The units of paragraphs, one after the other. -/
def layout (ps : List StoredParagraph) : List CodeUnit := ps.flatMap units

/-- Whether the body is text. -/
def IsLine (p : StoredParagraph) : Prop := ∀ u ∈ p.body, u.IsText

def mapAttributes (f : ParagraphAttributes → ParagraphAttributes) (p : StoredParagraph) :
    StoredParagraph :=
  { p with attributes := f p.attributes }

variable {p : StoredParagraph} {ps qs : List StoredParagraph}

@[simp] theorem isTerminator_terminator (p : StoredParagraph) : p.terminator.isTerminator = true := rfl

@[simp] theorem ofUnits_units (p : StoredParagraph) : ofUnits p.units = p := by
  simp [ofUnits, units, terminator, CodeUnit.terminator]

theorem length_units (p : StoredParagraph) : p.units.length = p.body.length + 1 := List.length_append

@[simp] theorem layout_nil : layout [] = [] := rfl

theorem layout_cons : layout (p :: ps) = p.units ++ layout ps := List.flatMap_cons

theorem layout_append : layout (ps ++ qs) = layout ps ++ layout qs := List.flatMap_append

theorem layout_singleton : layout [p] = p.units := List.flatMap_singleton ..

/-- The units of paragraphs, cut inside one of them. -/
theorem layout_around (before after : List StoredParagraph) (p : StoredParagraph) :
    layout (before ++ p :: after) = layout before ++ (p.body ++ p.terminator :: layout after) := by
  rw [layout_append, layout_cons, units, List.append_assoc, List.singleton_append]

theorem IsLine.isTerminator (h : p.IsLine) : ∀ u ∈ p.body, u.isTerminator = false :=
  fun u hu => (h u hu).isTerminator

/-- Paragraphs change as their terminators do. -/
theorem map_mapAttributes_layout (h : ∀ p ∈ ps, p.IsLine) (f : ParagraphAttributes → ParagraphAttributes) :
    (layout ps).map (.mapAttributes f) = layout (ps.map (mapAttributes f)) := by
  induction ps with
  | nil => rfl
  | cons p ps ih =>
    rw [List.forall_mem_cons] at h
    have hunits : p.units.map (.mapAttributes f) = (p.mapAttributes f).units := by
      rw [units, List.map_append, CodeUnit.map_mapAttributes_of_no_terminator h.1.isTerminator]
      rfl
    rw [layout_cons, List.map_append, hunits, ih h.2, List.map_cons, layout_cons]

/-- A position among the units of paragraphs lies in one of them. -/
theorem exists_around {i : Nat} (h : i < (layout ps).length) :
    ∃ before p after, ps = before ++ p :: after
      ∧ ∃ j ≤ p.body.length, i = (layout before).length + j := by
  induction ps generalizing i with
  | nil => cases h
  | cons p ps ih =>
    by_cases hfirst : i ≤ p.body.length
    · exact ⟨[], p, ps, rfl, i, hfirst, (Nat.zero_add i).symm⟩
    · rw [layout_cons, List.length_append, length_units] at h
      obtain ⟨before, q, after, rfl, j, hj, hi⟩ := ih (i := i - (p.body.length + 1)) (by omega)
      refine ⟨p :: before, q, after, rfl, j, hj, ?_⟩
      rw [layout_cons, List.length_append, length_units]
      omega

/-! ## Units taken apart -/

theorem paragraphsAfter_layout (h : ∀ p ∈ ps, p.IsLine) :
    LocalDocument.paragraphsAfter [] (layout ps) = ps.map units := by
  induction ps with
  | nil => rfl
  | cons p ps ih =>
    rw [List.forall_mem_cons] at h
    rw [layout_cons, units,
      LocalDocument.paragraphsAfter_body h.1.isTerminator p.isTerminator_terminator, ih h.2]
    rfl

/-- Sound units are those of some paragraphs if the last of them ends one. -/
theorem exists_layout {n : Nat} {us : List CodeUnit} (hsound : ∀ u ∈ us, u.Sound n)
    (hlast : ∀ u ∈ us.getLast?, u.isTerminator = true) :
    ∃ ps, us = layout ps ∧ ∀ p ∈ ps, p.IsLine := by
  induction us with
  | nil => exact ⟨[], rfl, List.forall_mem_nil _⟩
  | cons u us ih =>
    rw [List.forall_mem_cons] at hsound
    have hrest : ∀ v ∈ us.getLast?, v.isTerminator = true := fun v hv =>
      hlast v (List.mem_getLast?_cons hv)
    obtain ⟨ps, rfl, hlines⟩ := ih hsound.2 hrest
    cases hterm : u.isTerminator with
    | true =>
      obtain ⟨a, ha⟩ := Option.isSome_iff_exists.mp (hsound.1.isTerminator_iff.mp hterm)
      refine ⟨⟨a, [], u.link⟩ :: ps, ?_, List.forall_mem_cons.mpr ⟨List.forall_mem_nil _, hlines⟩⟩
      obtain ⟨code, link, paragraph⟩ := u
      obtain rfl : code = CodeUnit.lineFeed := beq_iff_eq.mp hterm
      obtain rfl : paragraph = some a := ha
      rfl
    | false =>
      -- The unit belongs to the next paragraph, and there is one: the last unit is a terminator.
      have hnone : u.paragraph = none := by
        have hcarries := mt hsound.1.isTerminator_iff.mpr (by simp [hterm])
        simpa using hcarries
      cases ps with
      | nil => simp [hterm] at hlast
      | cons p ps =>
        rw [List.forall_mem_cons] at hlines
        exact ⟨{ p with body := u :: p.body } :: ps, rfl,
          List.forall_mem_cons.mpr ⟨List.forall_mem_cons.mpr ⟨⟨hterm, hnone⟩, hlines.1⟩, hlines.2⟩⟩

end StoredParagraph

namespace LocalDocument

open StoredParagraph (layout)

variable {d : LocalDocument} {ps : List StoredParagraph}

/-- The paragraphs of a document, in order. -/
def storedParagraphs (d : LocalDocument) : List StoredParagraph := d.paragraphs.map .ofUnits

/-- The document consists of these paragraphs and of nothing else. -/
structure Stores (d : LocalDocument) (ps : List StoredParagraph) : Prop where
  units : d.units = layout ps
  lines : ∀ p ∈ ps, p.IsLine

/-- There is one way only to see a document as paragraphs. -/
theorem Stores.storedParagraphs_eq (h : d.Stores ps) : d.storedParagraphs = ps := by
  rw [storedParagraphs, paragraphs, h.units, StoredParagraph.paragraphsAfter_layout h.lines, List.map_map]
  exact (List.map_congr_left fun p _ => p.ofUnits_units).trans (List.map_id ps)

theorem Consistent.stores (h : d.Consistent) : d.Stores d.storedParagraphs := by
  have hlast : ∀ u ∈ d.units.getLast?, u.isTerminator = true := by
    intro u hu
    have hends := h.ends
    rw [codes, List.getLast?_map, Option.mem_def.mp hu, Option.map_some, Option.some.injEq] at hends
    exact beq_iff_eq.mpr hends
  obtain ⟨ps, hunits, hlines⟩ := StoredParagraph.exists_layout h.sound hlast
  have hstores : d.Stores ps := ⟨hunits, hlines⟩
  rwa [hstores.storedParagraphs_eq]

/-! ## Places -/

/-- Where an index lies: in a paragraph, between the units `pre` and `post` of its body. With nothing in
    `post` it is the index of the terminator. -/
structure Place (d : LocalDocument) (index : Nat) where
  before : List StoredParagraph
  paragraph : StoredParagraph
  after : List StoredParagraph
  pre : List CodeUnit
  post : List CodeUnit
  paragraphs_eq : d.storedParagraphs = before ++ paragraph :: after
  body_eq : paragraph.body = pre ++ post
  index_eq : index = (layout before).length + pre.length + 1

theorem Stores.exists_around (h : d.Stores ps) {index : Nat} (hpos : 1 ≤ index) (hend : index ≤ d.endIndex) :
    ∃ before p after, ps = before ++ p :: after
      ∧ ∃ j ≤ p.body.length, index = (layout before).length + j + 1 := by
  have hlength : index - 1 < (layout ps).length := by
    rw [← h.units]
    exact Nat.sub_one_lt_of_le hpos hend
  obtain ⟨before, p, after, hps, j, hj, hi⟩ := StoredParagraph.exists_around hlength
  exact ⟨before, p, after, hps, j, hj, by omega⟩

theorem Consistent.nonempty_place (h : d.Consistent) {index : Nat} (hpos : 1 ≤ index)
    (hend : index ≤ d.endIndex) : Nonempty (d.Place index) := by
  obtain ⟨before, p, after, hps, j, hj, rfl⟩ := h.stores.exists_around hpos hend
  refine ⟨⟨before, p, after, p.body.take j, p.body.drop j, hps, (List.take_append_drop j p.body).symm, ?_⟩⟩
  rw [List.length_take, Nat.min_eq_left hj]

end LocalDocument

end DocMark.Service
