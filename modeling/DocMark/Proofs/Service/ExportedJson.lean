-- SUMMARY: A local document that is exported is read back from its JSON, if 64 bits hold its last index.
import Mathlib
import DocMark.Proofs.Document.Json
import DocMark.Proofs.Service.Consistency
import DocMark.Proofs.Service.Export

/-!
# Exported documents in JSON

All indices in an exported document are positions of its units, and requests never make bullets with a
nesting level. An exported document has no tables, so its JSON is not deep. Hence it is read back from
every text that spells its JSON.
-/
namespace DocMark.Service

open Document Edit

-- ---------------------------------------------------------------------------
-- Bullets without levels
-- ---------------------------------------------------------------------------

def ParagraphAttributes.Unlevelled (a : ParagraphAttributes) : Prop := ∀ b ∈ a.bullet, b.nestingLevel = none

def CodeUnit.Unlevelled (u : CodeUnit) : Prop := ∀ a ∈ u.paragraph, a.Unlevelled

theorem ParagraphAttributes.unlevelled_default : Unlevelled {} := by
  rintro b ⟨⟩

namespace CodeUnit

variable {u : CodeUnit}

theorem Unlevelled.getD_paragraph (h : u.Unlevelled) : (u.paragraph.getD {}).Unlevelled := by
  cases hp : u.paragraph with
  | none => exact ParagraphAttributes.unlevelled_default
  | some a => exact h a hp

theorem Unlevelled.mapAttributes {f : ParagraphAttributes → ParagraphAttributes}
    (hf : ∀ a, a.Unlevelled → (f a).Unlevelled) (h : u.Unlevelled) : (u.mapAttributes f).Unlevelled := by
  unfold CodeUnit.mapAttributes
  split
  · rintro a ⟨⟩
    exact hf _ h.getD_paragraph
  · exact h

end CodeUnit

namespace LocalDocument

variable {d d' : LocalDocument} {units : List CodeUnit}

/-- No unit carries a bullet with a nesting level. -/
def Unlevelled (d : LocalDocument) : Prop := ∀ u ∈ d.units, u.Unlevelled

theorem unlevelled_attributesAt (h : ∀ u ∈ units, u.Unlevelled) (position : Nat) :
    (attributesAt units position).Unlevelled :=
  attributesAt_of_forall ParagraphAttributes.unlevelled_default (fun u hu => (h u hu).getD_paragraph) position

theorem unlevelled_insertedUnits {text : String} {a : ParagraphAttributes} (ha : a.Unlevelled)
    {u : CodeUnit} (hu : u ∈ insertedUnits text a) : u.Unlevelled := by
  obtain ⟨code, -, rfl⟩ := List.mem_map.mp hu
  intro b hb
  dsimp only at hb
  split_ifs at hb
  · cases hb
    exact ha
  · cases hb

theorem unlevelled_insertedAt {text : String} {position : Nat} (h : ∀ u ∈ units, u.Unlevelled) :
    ∀ u ∈ insertedAt text position units, u.Unlevelled := by
  refine forall_mem_insertedAt (fun u hu => ?_) ?_ h
  · exact unlevelled_insertedUnits (unlevelled_attributesAt h position) hu
  · rintro u - - a ⟨⟩
    exact ParagraphAttributes.unlevelled_default

theorem unlevelled_mapParagraphs {first last : Nat} {f : ParagraphAttributes → ParagraphAttributes}
    (hf : ∀ a, a.Unlevelled → (f a).Unlevelled) (h : ∀ u ∈ units, u.Unlevelled) :
    ∀ u ∈ mapParagraphs first last f units, u.Unlevelled :=
  forall_mem_mapBetween (f := CodeUnit.mapAttributes f) (fun _ hu => hu.mapAttributes hf) (fun _ hu => hu) h

theorem Unlevelled.apply {r : Request} (h : d.Unlevelled) (hd : d.apply r = .ok d') : d'.Unlevelled := by
  cases r with
  | insertText text index =>
    obtain ⟨-, -, -, rfl⟩ := insertText_eq_ok_iff.mp hd
    exact unlevelled_insertedAt h
  | updateParagraphStyle style range fields =>
    obtain ⟨named, first, last, -, -, rfl⟩ := updateParagraphStyle_eq_ok_iff.mp hd
    have hf (a : ParagraphAttributes) (ha : a.Unlevelled) :
        ParagraphAttributes.Unlevelled { a with style := named } := ha
    exact unlevelled_mapParagraphs hf h
  | createParagraphBullets preset range =>
    obtain ⟨-, first, last, -, rfl⟩ := createParagraphBullets_eq_ok_iff.mp hd
    have hf (a : ParagraphAttributes) (_ : a.Unlevelled) : ParagraphAttributes.Unlevelled
        { a with bullet := some ⟨"list." ++ toString (d.listsCreated + 1), none⟩ } := by
      rintro b ⟨⟩
      rfl
    exact unlevelled_mapParagraphs hf h
  | updateTextStyle style range fields =>
    obtain ⟨first, last, -, rfl⟩ := updateTextStyle_eq_ok_iff.mp hd
    split
    · exact forall_mem_mapBetween (fun _ hu => hu) (fun _ hu => hu) h
    · exact h

theorem Reachable.unlevelled (h : Reachable d) : d.Unlevelled := by
  refine h.keeps (fun documentId title u hu => ?_) (fun _ _ _ hd hr => hd.apply hr) fun _ _ hd => hd
  rw [List.mem_singleton.mp hu]
  rintro a ⟨⟩
  exact ParagraphAttributes.unlevelled_default

-- ---------------------------------------------------------------------------
-- Indices
-- ---------------------------------------------------------------------------

/-- Every unit of a paragraph is a unit of the document. -/
theorem mem_of_mem_paragraphsAfter {current us p : List CodeUnit} (hp : p ∈ paragraphsAfter current us)
    {u : CodeUnit} (hu : u ∈ p) : u ∈ current ++ us := by
  induction us generalizing current with
  | nil => cases hp
  | cons v us ih =>
    rw [paragraphsAfter] at hp
    rw [List.append_cons]
    split_ifs at hp
    · rcases List.mem_cons.mp hp with rfl | hp
      · exact List.mem_append_left _ hu
      · exact List.mem_append_right _ (ih hp)
    · exact ih hp

theorem length_flatten_paragraphsAfter (current us : List CodeUnit) :
    (paragraphsAfter current us).flatten.length ≤ current.length + us.length := by
  induction us generalizing current with
  | nil => simp [paragraphsAfter]
  | cons u us ih =>
    rw [paragraphsAfter]
    split_ifs
    · have hrest := ih []
      simp only [List.flatten_cons, List.length_append, List.length_cons, List.length_nil] at hrest ⊢
      omega
    · have hrest := ih (current ++ [u])
      simp only [List.length_append, List.length_cons, List.length_nil] at hrest ⊢
      omega

theorem length_stretches (us : List CodeUnit) :
    ((stretches us).map fun s => s.2.length).sum = us.length := by
  rw [← List.length_flatMap, flatMap_stretches]

theorem index_le_of_mem_runElements {index : Nat} {ss : List (Option String × List CodeUnit)} :
    ∀ n ∈ (runElements index ss).flatMap ParagraphElement.indices,
      n ≤ index + (ss.map fun s => s.2.length).sum := by
  induction ss generalizing index with
  | nil => simp [runElements]
  | cons s ss ih =>
    obtain ⟨link, units⟩ := s
    intro n hn
    simp only [runElements, List.flatMap_cons] at hn
    simp only [List.map_cons, List.sum_cons]
    rcases List.mem_append.mp hn with hn | hn
    · have hends : n = index ∨ n = index + units.length := by
        simpa [ParagraphElement.indices] using hn
      omega
    · have hlater := ih n hn
      omega

theorem index_le_of_mem_exportParagraph {index : Nat} {units : List CodeUnit}
    (h : ∀ u ∈ units, u.Unlevelled) :
    ∀ n ∈ (exportParagraph index units).indices, n ≤ index + units.length := by
  have hbullet : ∀ b ∈ ((units.getLast?.bind (·.paragraph)).getD {}).bullet, b.nestingLevel = none := by
    cases hlast : units.getLast? with
    | none => exact ParagraphAttributes.unlevelled_default
    | some u => exact (h u (List.mem_of_getLast? hlast)).getD_paragraph
  intro n hn
  rw [exportParagraph, StructuralElement.indices] at hn
  rcases List.mem_append.mp hn with hn | hn
  · have hends : n = index ∨ n = index + units.length := by simpa using hn
    omega
  · rw [Option.toList_some, List.flatMap_singleton, Paragraph.indices] at hn
    rcases List.mem_append.mp hn with hn | hn
    · rw [← length_stretches units]
      exact index_le_of_mem_runElements n hn
    · obtain ⟨b, hb, hn⟩ := List.mem_flatMap.mp hn
      rw [Bullet.indices, hbullet b (Option.mem_toList.mp hb)] at hn
      cases hn

theorem index_le_of_mem_exportParagraphs {index : Nat} {ps : List (List CodeUnit)}
    (h : ∀ p ∈ ps, ∀ u ∈ p, u.Unlevelled) :
    ∀ n ∈ contentIndices (exportParagraphs index ps), n ≤ index + ps.flatten.length := by
  induction ps generalizing index with
  | nil => simp [exportParagraphs, contentIndices]
  | cons p ps ih =>
    rw [List.forall_mem_cons] at h
    intro n hn
    rw [exportParagraphs, contentIndices] at hn
    rw [List.flatten_cons, List.length_append]
    rcases List.mem_append.mp hn with hn | hn
    · have hown := index_le_of_mem_exportParagraph h.1 n hn
      omega
    · have hlater := ih h.2 n hn
      omega

/-- The indices of an exported document are positions of its units, or the one behind the last unit. -/
theorem Unlevelled.index_le (h : d.Unlevelled) : ∀ n ∈ d.toDocument.indices, n ≤ d.endIndex + 1 := by
  intro n hn
  have hlength := length_flatten_paragraphsAfter [] d.units
  have hparagraphs : ∀ p ∈ d.paragraphs, ∀ u ∈ p, u.Unlevelled :=
    fun p hp u hu => h u (mem_of_mem_paragraphsAfter hp hu)
  have hbound := index_le_of_mem_exportParagraphs hparagraphs n hn
  rw [List.length_nil, Nat.zero_add] at hlength
  exact hbound.trans (by rw [Nat.add_comm]; exact Nat.succ_le_succ hlength)

-- ---------------------------------------------------------------------------
-- Texts
-- ---------------------------------------------------------------------------

theorem table_of_mem_exportParagraphs {index : Nat} {ps : List (List CodeUnit)} :
    ∀ e ∈ exportParagraphs index ps, e.table = none := by
  induction ps generalizing index with
  | nil => simp [exportParagraphs]
  | cons p ps ih =>
    rw [exportParagraphs, List.forall_mem_cons]
    exact ⟨rfl, ih⟩

/-- The document that is exported is read from every text that spells its JSON. -/
theorem Reachable.fromJson?_toDocument (h : Reachable d) (hend : d.endIndex < 2 ^ 64 - 1) {text : String}
    (htext : Json.SpelledIn d.toDocument.toJson text) : Document.fromJson? text = .ok d.toDocument := by
  have hindices : InBounds d.toDocument.indices := by
    intro n hn
    have hle := h.unlevelled.index_le n hn
    omega
  have hdepth : d.toDocument.toJson.depth ≤ Json.maxDepth :=
    (depth_toJson_le table_of_mem_exportParagraphs).trans (by decide)
  exact fromJson?_of_spelledIn hindices hdepth htext

end LocalDocument

end DocMark.Service
