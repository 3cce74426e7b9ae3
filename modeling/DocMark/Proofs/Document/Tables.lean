-- SUMMARY: A rendered table has one line for each row, unless a line feed stands between marks.
import Mathlib
import DocMark.Proofs.Document.Runs
import DocMark.Proofs.Text.Joining

/-!
# Rendered tables

A cell is rendered as its paragraphs on one line. No run adds a bar, so the bars of a row are those between
and around its cells. A line feed at the end of a run is trimmed, as it is at the end of every line. Between
marks it is not, and then it breaks the row.
-/
namespace DocMark.Document

open Text

variable {c : Char}

/-! ## Lines of a paragraph -/

/-- The start of the line of a run. -/
def Paragraph.lineStart (p : Paragraph) (run : TextRun) : String :=
  markdownMarker p.paragraphStyle.namedStyleType
    ++ if p.isListItem && !(renderRun run).isEmpty then bulletMarker else ""

theorem renderParagraph_eq (p : Paragraph) : renderParagraph p =
    p.runs.map (fun run => p.lineStart run ++ renderRun run) ++ if p.isListItem then [] else ["\n"] := by
  have hline (run : TextRun) : (if p.isListItem && !(renderRun run).isEmpty then
      markdownMarker p.paragraphStyle.namedStyleType ++ bulletMarker ++ renderRun run
        else markdownMarker p.paragraphStyle.namedStyleType ++ renderRun run) =
      p.lineStart run ++ renderRun run := by
    unfold Paragraph.lineStart
    split <;> simp
  unfold renderParagraph
  simp only [hline]
  split <;> simp

theorem mem_markdownMarker {name : String} (h : c ∈ (markdownMarker name).toList) : c ∈ "# ".toList := by
  have htable : ∀ entry ∈ markdownMarkers, entry.2.toList ⊆ "# ".toList := by decide
  unfold markdownMarker at h
  cases hfound : markdownMarkers.lookup name with
  | none => simp [hfound] at h
  | some marker =>
    obtain ⟨before, after, hsplit, -⟩ := List.lookup_eq_some_iff.mp hfound
    have hmem : (name, marker) ∈ markdownMarkers := by simp [hsplit]
    rw [hfound] at h
    exact htable _ hmem h

theorem mem_lineStart {p : Paragraph} {run : TextRun} (h : c ∈ (p.lineStart run).toList) :
    c ∈ "#* ".toList := by
  have hmarker : "# ".toList ⊆ "#* ".toList := by decide
  have hbullet : bulletMarker.toList ⊆ "#* ".toList := by decide
  rw [Paragraph.lineStart, String.toList_append, List.mem_append] at h
  rcases h with h | h
  · exact hmarker (mem_markdownMarker h)
  · split at h
    · exact hbullet h
    · cases h

/-! ## Cells -/

/-- The paragraph on one line. -/
def Paragraph.onOneLine (p : Paragraph) : String :=
  String.ofList (trimEnd (" ".intercalate (renderParagraph p)).toList)

/-- The paragraphs of a cell, other blocks left out. -/
def TableCell.paragraphs (cell : TableCell) : List Paragraph :=
  cell.content.filterMap fun e =>
    match e.block with
    | .paragraph p => some p
    | _ => none

def TableCell.runs (cell : TableCell) : List TextRun := cell.paragraphs.flatMap (·.runs)

def TableRow.runs (row : TableRow) : List TextRun := row.tableCells.flatMap (·.runs)

theorem renderCell_eq (cell : TableCell) :
    renderCell cell = " ".intercalate (cell.paragraphs.map (·.onOneLine)) := by
  rw [renderCell, TableCell.paragraphs, List.map_filterMap]
  refine congrArg _ (List.filterMap_congr fun e _ => ?_)
  cases e.block <;> rfl

/-- What ends the lines of a paragraph is trimmed. -/
theorem toList_onOneLine (p : Paragraph) : p.onOneLine.toList =
    trimEnd (" ".toList.intercalate (p.runs.map fun run => (p.lineStart run ++ renderRun run).toList)) := by
  rw [Paragraph.onOneLine, String.toList_ofList, renderParagraph_eq, String.toList_intercalate,
    List.map_append, List.map_map]
  split
  · rw [List.map_nil, List.append_nil]
    rfl
  · rcases eq_or_ne p.runs [] with hnone | hsome
    · rw [hnone]
      rfl
    · have hne : p.runs.map (String.toList ∘ fun run => p.lineStart run ++ renderRun run) ≠ [] := by
        simpa using hsome
      have hend : ["\n"].map String.toList = ["\n".toList] := rfl
      have hblank : ∀ x ∈ " ".toList ++ "\n".toList, isWhiteSpace x = true := by
        simp [isWhiteSpace]
      rw [hend, intercalate_concat _ hne, trimEnd_append_of_isWhiteSpace hblank]
      rfl

theorem mem_onOneLine_iff {p : Paragraph} (hc : c ∉ "#* ".toList) :
    c ∈ p.onOneLine.toList ↔ ∃ run ∈ p.runs, c ∈ (renderRun run).toList := by
  have hblank : c ∉ " ".toList := fun h => hc (List.mem_of_mem_drop (i := 2) h)
  rw [toList_onOneLine]
  constructor
  · intro h
    obtain ⟨line, hline, hmem⟩ := (mem_intercalate_iff hblank).mp (mem_of_mem_trimEnd h)
    obtain ⟨run, hrun, rfl⟩ := List.mem_map.mp hline
    rw [String.toList_append, List.mem_append] at hmem
    exact ⟨run, hrun, hmem.resolve_left fun hstart => hc (mem_lineStart hstart)⟩
  · rintro ⟨run, hrun, hmem⟩
    have hlast : ∀ x ∈ (p.lineStart run ++ renderRun run).toList.getLast?, isWhiteSpace x = false := by
      rw [String.toList_append, List.getLast?_append_of_ne_nil _ (List.ne_nil_of_mem hmem)]
      exact not_isWhiteSpace_getLast_renderRun run
    refine subset_trimEnd_intercalate _ (List.mem_map_of_mem hrun) hlast ?_
    rw [String.toList_append]
    exact List.mem_append_right _ hmem

theorem mem_renderCell_iff {cell : TableCell} (hc : c ∉ "#* ".toList) :
    c ∈ (renderCell cell).toList ↔ ∃ run ∈ cell.runs, c ∈ (renderRun run).toList := by
  have hblank : c ∉ " ".toList := fun h => hc (List.mem_of_mem_drop (i := 2) h)
  rw [renderCell_eq, String.toList_intercalate, List.map_map, mem_intercalate_map_iff hblank, TableCell.runs,
    exists_mem_flatMap_iff]
  exact exists_congr fun p => and_congr_right fun _ => mem_onOneLine_iff hc

/-! ## Rows -/

theorem toList_renderRow (row : TableRow) : (renderRow row).toList =
    "| ".toList ++ " | ".toList.intercalate (row.tableCells.map fun cell => (renderCell cell).toList)
      ++ " |".toList := by
  rw [renderRow, String.toList_append, String.toList_append, String.toList_intercalate, List.map_map]
  rfl

theorem mem_renderRow_iff {row : TableRow} (hc : c ∉ "#* |".toList) :
    c ∈ (renderRow row).toList ↔ ∃ run ∈ row.runs, c ∈ (renderRun run).toList := by
  have hcell : c ∉ "#* ".toList := fun h => hc (List.mem_append_left "|".toList h)
  have hbetween : " | ".toList ⊆ "#* |".toList := by decide
  have hfirst : c ∉ "| ".toList := fun h => hc (hbetween (List.mem_of_mem_drop (i := 1) h))
  have hlast : c ∉ " |".toList := fun h => hc (hbetween (List.mem_of_mem_take (i := 2) h))
  rw [toList_renderRow, List.mem_append, List.mem_append, or_iff_left hlast, or_iff_right hfirst,
    mem_intercalate_map_iff fun h => hc (hbetween h), TableRow.runs, exists_mem_flatMap_iff]
  exact exists_congr fun cell => and_congr_right fun _ => mem_renderCell_iff hcell

/-- One bar before each cell and one at the end. -/
theorem count_bar_renderRow {row : TableRow} (hne : row.tableCells ≠ [])
    (hruns : ∀ run ∈ row.runs, '|' ∉ (renderRun run).toList) :
    (renderRow row).toList.count '|' = row.tableCells.length + 1 := by
  have hcells : ((row.tableCells.map fun cell => (renderCell cell).toList).map (·.count '|')).sum = 0 := by
    rw [List.map_map]
    refine List.sum_eq_zero (List.forall_mem_map.mpr fun cell hcell => List.count_eq_zero.mpr fun hbar => ?_)
    obtain ⟨run, hrun, hmem⟩ := (mem_renderCell_iff (by decide)).mp hbar
    exact hruns run (List.mem_flatMap.mpr ⟨cell, hcell, hrun⟩) hmem
  have hpos := List.length_pos_of_ne_nil hne
  have hfirst : "| ".toList.count '|' = 1 := by decide
  have hbetween : " | ".toList.count '|' = 1 := by decide
  have hlast : " |".toList.count '|' = 1 := by decide
  rw [toList_renderRow, List.count_append, List.count_append, count_intercalate, hcells, hfirst, hbetween,
    hlast, List.length_map]
  omega

/-! ## Tables -/

namespace TextRun

/-- What a run may have in a cell: no bar, and a line feed only at the end of its content. -/
structure FitsCell (run : TextRun) : Prop where
  bar : '|' ∉ run.content.toList
  lineFeed : '\n' ∉ run.content.toList.dropLast
  url : ∀ link ∈ run.textStyle.link, '|' ∉ link.url.toList ∧ '\n' ∉ link.url.toList

/-- Whether the content has a line feed that stands between marks. -/
def MarksLineFeed (run : TextRun) : Prop := run.textStyle.isMarked = true ∧ '\n' ∈ run.content.toList

instance (run : TextRun) : Decidable run.FitsCell :=
  decidable_of_iff ('|' ∉ run.content.toList ∧ '\n' ∉ run.content.toList.dropLast
      ∧ ∀ link ∈ run.textStyle.link, '|' ∉ link.url.toList ∧ '\n' ∉ link.url.toList)
    ⟨fun ⟨bar, lineFeed, url⟩ => ⟨bar, lineFeed, url⟩, fun h => ⟨h.bar, h.lineFeed, h.url⟩⟩

instance (run : TextRun) : Decidable run.MarksLineFeed :=
  inferInstanceAs (Decidable (run.textStyle.isMarked = true ∧ '\n' ∈ run.content.toList))

variable {run : TextRun}

theorem FitsCell.bar_notMem (h : run.FitsCell) : '|' ∉ (renderRun run).toList := by
  intro hbar
  rcases mem_of_mem_renderRun hbar (by decide) with hcontent | ⟨link, hlink, hurl⟩
  · exact h.bar hcontent
  · exact (h.url link hlink).1 hurl

/-- Trimming takes a line feed at the end away, unless a mark stands behind it. -/
theorem FitsCell.lineFeed_mem_iff (h : run.FitsCell) :
    '\n' ∈ (renderRun run).toList ↔ run.MarksLineFeed := by
  constructor
  · intro hmem
    cases hmarked : run.textStyle.isMarked with
    | true =>
      rcases mem_of_mem_renderRun hmem (by decide) with hcontent | ⟨link, hlink, hurl⟩
      · exact ⟨hmarked, hcontent⟩
      · exact absurd hurl (h.url link hlink).2
    | false =>
      rw [renderRun_of_not_isMarked hmarked, String.toList_ofList] at hmem
      exact absurd hmem (lineFeed_notMem_trim h.lineFeed)
  · rintro ⟨hmarked, hcontent⟩
    rw [renderRun_of_isMarked hmarked]
    exact mem_enclose_iff.mpr (Or.inl hcontent)

end TextRun

def Table.runs (t : Table) : List TextRun := t.tableRows.flatMap (·.runs)

/-- What the line of a row is like: it has one bar before each cell and one at the end, and is broken just if
    a run has a line feed between marks. -/
structure IsRowLine (row : TableRow) (line : String) : Prop where
  bars : line.toList.count '|' = row.tableCells.length + 1
  lineFeed : '\n' ∈ line.toList ↔ ∃ run ∈ row.runs, run.MarksLineFeed

theorem isRowLine_renderRow {row : TableRow} (hne : row.tableCells ≠ [])
    (hruns : ∀ run ∈ row.runs, run.FitsCell) : IsRowLine row (renderRow row) where
  bars := count_bar_renderRow hne fun run hrun => (hruns run hrun).bar_notMem
  lineFeed := by
    rw [mem_renderRow_iff (by decide)]
    exact exists_congr fun run => and_congr_right fun hrun => (hruns run hrun).lineFeed_mem_iff

theorem tableRule_subset (columns : Nat) : (tableRule columns).toList ⊆ "|- ".toList := by
  have hstart : "|".toList ⊆ "|- ".toList := by decide
  have hcell : " --- |".toList ⊆ "|- ".toList := by decide
  rw [tableRule, String.toList_append, String.toList_join]
  refine List.append_subset.mpr ⟨hstart, fun c hc => ?_⟩
  obtain ⟨cell, hmem, hc⟩ := List.mem_flatMap.mp hc
  rw [List.eq_of_mem_replicate hmem] at hc
  exact hcell hc

theorem lineFeed_notMem_tableRule (columns : Nat) : '\n' ∉ (tableRule columns).toList := by
  have hnone : '\n' ∉ "|- ".toList := by decide
  exact fun h => hnone (tableRule_subset columns h)

/-- A table is rendered as a line for each row, the rule under the first one, and what ends a table. The lines
    before the end are all unbroken just if no run has a line feed between marks. -/
theorem renderTable_lines {t : Table} {first : TableRow} {rest : List TableRow}
    (hrows : t.tableRows = first :: rest) (hcells : ∀ row ∈ t.tableRows, row.tableCells ≠ [])
    (hruns : ∀ run ∈ t.runs, run.FitsCell) :
    ∃ firstLine restLines,
      renderTable t = firstLine ::
          ("|" ++ String.join (List.replicate first.tableCells.length " --- |")) :: (restLines ++ ["\n"])
        ∧ List.Forall₂ IsRowLine (first :: rest) (firstLine :: restLines)
        ∧ ((∀ line ∈ (renderTable t).dropLast, '\n' ∉ line.toList) ↔
          ∀ run ∈ t.runs, ¬run.MarksLineFeed) := by
  have hlines : ∀ row ∈ t.tableRows, IsRowLine row (renderRow row) := fun row hrow =>
    isRowLine_renderRow (hcells row hrow) fun run hrun => hruns run (List.mem_flatMap.mpr ⟨row, hrow, hrun⟩)
  have htable : renderTable t = renderRow first :: tableRule first.tableCells.length ::
      (rest.map renderRow ++ ["\n"]) := by
    rw [renderTable, hrows]
  refine ⟨renderRow first, rest.map renderRow, htable, ?_, ?_⟩
  · rw [← hrows, ← List.map_cons, ← hrows, List.forall₂_map_right_iff, List.forall₂_same]
    exact hlines
  · have hrule := lineFeed_notMem_tableRule first.tableCells.length
    have hdropLast : (renderTable t).dropLast =
        renderRow first :: tableRule first.tableCells.length :: rest.map renderRow := by
      rw [htable, ← List.cons_append, ← List.cons_append, List.dropLast_concat]
    have hbroken : (∀ line ∈ (renderTable t).dropLast, '\n' ∉ line.toList) ↔
        ∀ row ∈ t.tableRows, '\n' ∉ (renderRow row).toList := by
      rw [hdropLast, hrows]
      simp [hrule]
    rw [hbroken]
    constructor
    · intro hrow run hrun hkept
      obtain ⟨row, hmem, hrun⟩ := List.mem_flatMap.mp hrun
      exact hrow row hmem ((hlines row hmem).lineFeed.mpr ⟨run, hrun, hkept⟩)
    · intro hrun row hrow hmem
      obtain ⟨run, hin, hkept⟩ := (hlines row hrow).lineFeed.mp hmem
      exact hrun run (List.mem_flatMap.mpr ⟨row, hrow, hin⟩) hkept

/-- A cell with a heading and an item, where the item holds a link, and a second row that is longer. -/
theorem renderTable_lines_twoParagraphs :
    let heading := Paragraph.ofRuns "HEADING_2" [⟨"a ", {}⟩, ⟨"b\n", {}⟩]
    let item := (Paragraph.ofRuns "NORMAL_TEXT" [⟨" c ", { TextStyle.ofLink "u" with italic := true }⟩,
      ⟨"\n", {}⟩]).withBullet ⟨"list.1", none⟩
    let first : TableRow := ⟨[⟨[.ofParagraph heading, .ofParagraph item]⟩]⟩
    let second : TableRow := ⟨[⟨[]⟩, ⟨[.ofParagraph heading]⟩]⟩
    let t : Table := ⟨[first, second]⟩
    (t.tableRows = first :: [second] ∧ (∀ row ∈ t.tableRows, row.tableCells ≠ [])
        ∧ ∀ run ∈ t.runs, run.FitsCell)
      ∧ ∃ firstLine restLines,
        renderTable t = firstLine :: ("|" ++ String.join (List.replicate 1 " --- |")) :: (restLines ++ ["\n"])
          ∧ List.Forall₂ IsRowLine [first, second] (firstLine :: restLines)
          ∧ ((∀ line ∈ (renderTable t).dropLast, '\n' ∉ line.toList) ↔
            ∀ run ∈ t.runs, ¬run.MarksLineFeed) := by
  intro heading item first second t
  have hcells : ∀ row ∈ t.tableRows, row.tableCells ≠ [] := by simp [t, first, second]
  have hruns : ∀ run ∈ t.runs, run.FitsCell := by decide
  have hrows : t.tableRows = first :: [second] := rfl
  exact ⟨⟨hrows, hcells, hruns⟩, renderTable_lines hrows hcells hruns⟩

/-- A bold run that ends with the line feed of its paragraph breaks its row in two. -/
theorem renderTable_broken :
    let t : Table := ⟨[⟨[⟨[.ofParagraph (.ofRuns "NORMAL_TEXT" [⟨"a\n", { bold := true }⟩])]⟩]⟩]⟩
    (∀ run ∈ t.runs, run.FitsCell) ∧ renderTable t = ["| **a\n** |", "| --- |", "\n"] :=
  ⟨by decide, by decide⟩

end DocMark.Document
