-- SUMMARY: A rendered document holds its rendered runs, each once and in order, and nothing else but layout.
import Mathlib
import DocMark.Proofs.Document.Tables
import DocMark.Proofs.Text.Spaced

/-!
# Rendered documents

Behind its title a rendered document consists of its rendered runs and of layout: the starts of lines, the bars
and rules of tables, and what joins lines. The runs follow each other as they do in the document. A rendered
run never ends with white space, so none of it is lost where the line of a cell is trimmed.
-/
namespace DocMark.Document

open Text

/-- The characters that rendering puts around the runs of a document. -/
def IsLayout (c : Char) : Prop := c ∈ "#*|- \n".toList

/-- Texts that are layout only. -/
theorem isLayout_of_mem {s : String} (h : s.toList ⊆ "#*|- \n".toList) : ∀ c ∈ s.toList, IsLayout c :=
  fun _ hc => h hc

variable {pieces : List String} {lines : List String}

/-! ## Lines with pieces -/

/-- The pieces stand in the lines in their order, and all other characters are layout. -/
def SpacedLines (pieces lines : List String) : Prop :=
  ∃ ownPieces, ownPieces.flatten = pieces ∧ List.Forall₂ (Spaced IsLayout) ownPieces lines

namespace SpacedLines

theorem nil : SpacedLines [] [] := ⟨[], rfl, .nil⟩

theorem single {line : String} (h : Spaced IsLayout pieces line) : SpacedLines pieces [line] :=
  ⟨[pieces], List.flatten_singleton, .cons h .nil⟩

theorem append {more : List String} {rest : List String} (h : SpacedLines pieces lines)
    (hrest : SpacedLines more rest) : SpacedLines (pieces ++ more) (lines ++ rest) := by
  obtain ⟨own, rfl, hown⟩ := h
  obtain ⟨others, rfl, hothers⟩ := hrest
  exact ⟨own ++ others, List.flatten_append, List.rel_append hown hothers⟩

theorem flatMap {α : Type} {f g : α → List String} {xs : List α}
    (h : ∀ x ∈ xs, SpacedLines (f x) (g x)) : SpacedLines (xs.flatMap f) (xs.flatMap g) := by
  induction xs with
  | nil => exact nil
  | cons x xs ih =>
    obtain ⟨hx, hxs⟩ := List.forall_mem_cons.mp h
    rw [List.flatMap_cons, List.flatMap_cons]
    exact hx.append (ih hxs)

theorem map {α : Type} {f : α → List String} {g : α → String} {xs : List α}
    (h : ∀ x ∈ xs, Spaced IsLayout (f x) (g x)) : SpacedLines (xs.flatMap f) (xs.map g) := by
  rw [List.map_eq_flatMap]
  exact flatMap fun x hx => single (h x hx)

/-- Lines may be joined by layout. -/
theorem intercalate {sep : String} (hsep : ∀ c ∈ sep.toList, IsLayout c) (h : SpacedLines pieces lines) :
    Spaced IsLayout pieces (sep.intercalate lines) := by
  obtain ⟨own, rfl, hown⟩ := h
  exact .intercalate hsep hown

end SpacedLines

/-! ## Paragraphs -/

theorem spaced_line (p : Paragraph) (run : TextRun) :
    Spaced IsLayout [renderRun run] (p.lineStart run ++ renderRun run) := by
  have hlayout : "#* ".toList ⊆ "#*|- \n".toList := by decide
  exact (Spaced.single _).gap_append fun c hc => hlayout (mem_lineStart hc)

theorem spacedLines_renderParagraph (p : Paragraph) :
    SpacedLines (p.runs.map renderRun) (renderParagraph p) := by
  have hlines : SpacedLines (p.runs.map renderRun) (p.runs.map fun run => p.lineStart run ++ renderRun run) := by
    rw [List.map_eq_flatMap]
    exact .map fun run _ => spaced_line p run
  rw [renderParagraph_eq]
  split
  · rwa [List.append_nil]
  · have hend : Spaced IsLayout [] "\n" := .nil (isLayout_of_mem (by decide))
    simpa using hlines.append (.single hend)

/-! ## Tables -/

theorem spaced_onOneLine (p : Paragraph) : Spaced IsLayout (p.runs.map renderRun) p.onOneLine := by
  refine ((spacedLines_renderParagraph p).intercalate (isLayout_of_mem (by decide))).trimEnd ?_
  exact List.forall_mem_map.mpr fun run _ => not_isWhiteSpace_getLast_renderRun run

theorem spaced_renderCell (cell : TableCell) :
    Spaced IsLayout (cell.runs.map renderRun) (renderCell cell) := by
  rw [renderCell_eq, TableCell.runs, List.map_flatMap]
  exact SpacedLines.intercalate (isLayout_of_mem (by decide)) (.map fun p _ => spaced_onOneLine p)

theorem spaced_renderRow (row : TableRow) : Spaced IsLayout (row.runs.map renderRun) (renderRow row) := by
  have hcells : Spaced IsLayout (row.runs.map renderRun) (" | ".intercalate (row.tableCells.map renderCell)) := by
    rw [TableRow.runs, List.map_flatMap]
    exact SpacedLines.intercalate (isLayout_of_mem (by decide)) (.map fun cell _ => spaced_renderCell cell)
  have hend : Spaced IsLayout [] " |" := .nil (isLayout_of_mem (by decide))
  have hrow := (hcells.gap_append (isLayout_of_mem (s := "| ") (by decide))).append hend
  rwa [List.append_nil] at hrow

theorem spaced_tableRule (columns : Nat) : Spaced IsLayout [] (tableRule columns) := by
  have hlayout : "|- ".toList ⊆ "#*|- \n".toList := by decide
  exact .nil (isLayout_of_mem (List.Subset.trans (tableRule_subset columns) hlayout))

theorem spacedLines_renderTable (t : Table) : SpacedLines (t.runs.map renderRun) (renderTable t) := by
  have hend : Spaced IsLayout [] "\n" := .nil (isLayout_of_mem (by decide))
  obtain ⟨rows⟩ := t
  cases rows with
  | nil => exact .single hend
  | cons first rest =>
    have hrest : SpacedLines (rest.flatMap fun row => row.runs.map renderRun) (rest.map renderRow) :=
      .map fun row _ => spaced_renderRow row
    have hlines := (SpacedLines.single (spaced_renderRow first)).append
      ((SpacedLines.single (spaced_tableRule first.tableCells.length)).append (hrest.append (.single hend)))
    rw [Table.runs, List.map_flatMap, List.flatMap_cons]
    simpa [renderTable] using hlines

/-! ## Documents -/

/-- The runs that are seen of an element: those of a paragraph, or those of the paragraphs in the cells of a
    table. -/
def StructuralElement.seenRuns (e : StructuralElement) : List TextRun :=
  match e.block with
  | .paragraph p => p.runs
  | .table t => t.runs
  | .other => []

/-- The runs that are seen of a document, in their order. -/
def seenRuns (d : Document) : List TextRun := d.body.content.flatMap (·.seenRuns)

theorem spacedLines_renderElement (e : StructuralElement) :
    SpacedLines (e.seenRuns.map renderRun) (renderElement e) := by
  unfold renderElement StructuralElement.seenRuns
  cases e.block with
  | paragraph p => exact spacedLines_renderParagraph p
  | table t => exact spacedLines_renderTable t
  | other => exact .nil

/-- Behind the title every run that is seen of the document is rendered once, in the order of the document, and
    there is nothing else but layout. -/
theorem render_spaced (d : Document) :
    ∃ text, render d = "# " ++ d.title ++ text ∧ Spaced IsLayout (d.seenRuns.map renderRun) text := by
  have hlines : SpacedLines (d.seenRuns.map renderRun) (d.body.content.flatMap renderElement) := by
    rw [seenRuns, List.map_flatMap]
    exact .flatMap fun e _ => spacedLines_renderElement e
  have hjoined := hlines.intercalate (isLayout_of_mem (s := "\n") (by decide))
  rw [render]
  cases hcontent : d.body.content.flatMap renderElement with
  | nil =>
    rw [hcontent] at hjoined
    exact ⟨"", by simp, by simpa using hjoined⟩
  | cons first rest =>
    rw [hcontent] at hjoined
    refine ⟨"\n" ++ "\n".intercalate (first :: rest), ?_, hjoined.gap_append (isLayout_of_mem (by decide))⟩
    rw [String.intercalate_cons_cons, String.append_assoc]

end DocMark.Document
