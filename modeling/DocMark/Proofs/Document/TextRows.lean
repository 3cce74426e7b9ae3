-- SUMMARY: The texts of a table's cells can be read back from the lines that the table is rendered as.
import Mathlib
import DocMark.Proofs.Document.Tables

/-!
# Tables of texts

The line of a row has a bar before each cell and one at its end, and so has the rule under the first row. Texts
without bars are what one finds between the bars, apart from the white space around them.
-/
namespace DocMark.Document

open Text

/-! ## Texts between bars -/

/-- A text without the white space around it. -/
def trimmed (text : String) : String := String.ofList (trim text.toList)

/-- The texts between the bars of a line that begins and ends with one, without the white space around them. -/
def barTexts (line : String) : List String :=
  (line.toList.splitOn '|').tail.dropLast.map fun cs => String.ofList (trim cs)

section Bars

variable {cells : List (List Char)} {line : String}

theorem splitOn_flatMap_bar (h : ∀ cs ∈ cells, '|' ∉ cs) :
    (cells.flatMap (· ++ ['|'])).splitOn '|' = cells ++ [[]] := by
  induction cells with
  | nil => rfl
  | cons cs cells ih =>
    obtain ⟨hcs, hcells⟩ := List.forall_mem_cons.mp h
    rw [List.flatMap_cons, List.append_assoc, List.singleton_append, List.splitOn_append_cons_self,
      List.splitOn_eq_singleton hcs, ih hcells]
    rfl

theorem barTexts_eq (h : ∀ cs ∈ cells, '|' ∉ cs) (hline : line.toList = '|' :: cells.flatMap (· ++ ['|'])) :
    barTexts line = cells.map fun cs => String.ofList (trim cs) := by
  have hsplit : line.toList.splitOn '|' = [] :: (cells ++ [[]]) := by
    rw [hline, ← List.nil_append ('|' :: _), List.splitOn_append_cons_self, splitOn_flatMap_bar h]
    rfl
  rw [barTexts, hsplit, List.tail_cons, List.dropLast_concat]

/-- Cells with a blank on each side, where a bar follows every cell. -/
theorem append_intercalate_bar (h : cells ≠ []) :
    "| ".toList ++ " | ".toList.intercalate cells ++ " |".toList =
      '|' :: (cells.map fun cs => ' ' :: (cs ++ [' '])).flatMap (· ++ ['|']) := by
  induction cells with
  | nil => exact absurd rfl h
  | cons cs cells ih =>
    cases cells with
    | nil => simp
    | cons next cells =>
      have hrest := ih (List.cons_ne_nil next cells)
      rw [List.intercalate_cons_cons, List.map_cons, List.flatMap_cons]
      simp only [String.reduceToList, List.cons_append, List.nil_append, List.append_assoc,
        List.cons.injEq, true_and] at hrest ⊢
      rw [← hrest]

end Bars

/-! ## Cells and rules -/

theorem trim_spaced (cs : List Char) : trim (' ' :: (cs ++ [' '])) = trim cs := by
  have hblank : isWhiteSpace ' ' = true := rfl
  rw [← List.cons_append, trim_concat_of_isWhiteSpace hblank, trim, trimStart,
    List.dropWhile_cons_of_pos hblank]
  rfl

theorem trim_trim (cs : List Char) : trim (trim cs) = trim cs :=
  trim_eq_self not_isWhiteSpace_head_trim not_isWhiteSpace_getLast_trim

/-- The cell of a table of texts. -/
def TableCell.ofText (text : String) : TableCell :=
  ⟨[.ofParagraph (.ofRuns "NORMAL_TEXT" [⟨text ++ "\n", {}⟩])]⟩

def TableRow.ofTexts (texts : List String) : TableRow := ⟨texts.map .ofText⟩

theorem renderCell_ofText (text : String) : renderCell (.ofText text) = trimmed text := by
  have hrun : renderRun ⟨text ++ "\n", {}⟩ = trimmed text := by
    rw [renderRun_of_not_isMarked rfl, String.toList_append]
    exact congrArg String.ofList (trim_concat_of_isWhiteSpace rfl)
  have hline : (Paragraph.ofRuns "NORMAL_TEXT" [⟨text ++ "\n", {}⟩]).onOneLine = trimmed text := by
    rw [← String.toList_inj, toList_onOneLine]
    have hstart : (Paragraph.ofRuns "NORMAL_TEXT" [⟨text ++ "\n", {}⟩]).lineStart ⟨text ++ "\n", {}⟩ = "" := rfl
    have hruns : (Paragraph.ofRuns "NORMAL_TEXT" [⟨text ++ "\n", {}⟩]).runs = [⟨text ++ "\n", {}⟩] := rfl
    rw [hruns, List.map_singleton, hstart, hrun, List.intercalate_singleton, String.empty_append, trimmed,
      String.toList_ofList]
    exact trimEnd_eq_self not_isWhiteSpace_getLast_trim
  rw [renderCell_eq]
  exact hline

theorem barTexts_renderRow {texts : List String} (hne : texts ≠ []) (hbar : ∀ text ∈ texts, '|' ∉ text.toList) :
    barTexts (renderRow (.ofTexts texts)) = texts.map trimmed := by
  have hcells : (texts.map TableCell.ofText).map (fun cell => (renderCell cell).toList) =
      texts.map fun text => trim text.toList := by
    simp [renderCell_ofText, trimmed]
  have hline := toList_renderRow (.ofTexts texts)
  rw [TableRow.ofTexts, hcells, append_intercalate_bar (by simpa using hne), List.map_map] at hline
  rw [TableRow.ofTexts, barTexts_eq _ hline, List.map_map]
  · refine List.map_congr_left fun text _ => congrArg String.ofList ?_
    exact (trim_spaced _).trans (trim_trim _)
  · refine List.forall_mem_map.mpr fun text htext hmem => hbar text htext ?_
    exact mem_of_mem_trim (by simpa using hmem)

theorem barTexts_tableRule (columns : Nat) : barTexts (tableRule columns) = List.replicate columns "---" := by
  have hline : (tableRule columns).toList =
      '|' :: (List.replicate columns " --- ".toList).flatMap (· ++ ['|']) := by
    rw [tableRule, String.toList_append, String.toList_join, List.flatMap_replicate, List.flatMap_replicate]
    rfl
  have hbar : ∀ cs ∈ List.replicate columns " --- ".toList, '|' ∉ cs := by
    intro cs hcs
    rw [List.eq_of_mem_replicate hcs]
    decide
  rw [barTexts_eq hbar hline, List.map_replicate]
  rfl

/-! ## Tables -/

/-- A table of texts without bars is rendered as a line for each row, a rule with as many cells as the first row
    has, and what ends a table. Between the bars of each line are the texts of its row, without the white space
    around them. -/
theorem renderTable_ofTextRows {first : List String} {rest : List (List String)}
    (hrows : ∀ row ∈ first :: rest, row ≠ [])
    (hbar : ∀ row ∈ first :: rest, ∀ text ∈ row, '|' ∉ text.toList) :
    ∃ firstLine rule restLines,
      renderTable (.ofTextRows (first :: rest)) = firstLine :: rule :: (restLines ++ ["\n"])
        ∧ rule = "|" ++ String.join (List.replicate first.length " --- |")
        ∧ barTexts rule = List.replicate first.length "---"
        ∧ List.Forall₂ (fun row line => barTexts line = row.map trimmed) (first :: rest)
          (firstLine :: restLines) := by
  have htable : Table.ofTextRows (first :: rest) = ⟨(first :: rest).map .ofTexts⟩ := rfl
  refine ⟨renderRow (.ofTexts first), tableRule first.length, (rest.map .ofTexts).map renderRow, ?_, rfl,
    barTexts_tableRule _, ?_⟩
  · rw [htable, renderTable, List.map_cons]
    simp [TableRow.ofTexts]
  · rw [← List.map_cons, ← List.map_cons, List.map_map, List.forall₂_map_right_iff, List.forall₂_same]
    exact fun row hrow => barTexts_renderRow (hrows row hrow) (hbar row hrow)

/-- Rows of different lengths, with an empty text, white space around a text and a mark in it. -/
theorem renderTable_ofTextRows_uneven :
    let first := [" a\t", ""]
    let second := ["　**b c** "]
    ((∀ row ∈ [first, second], row ≠ []) ∧ ∀ row ∈ [first, second], ∀ text ∈ row, '|' ∉ text.toList)
      ∧ ∃ firstLine rule restLines,
        renderTable (.ofTextRows [first, second]) = firstLine :: rule :: (restLines ++ ["\n"])
          ∧ rule = "|" ++ String.join (List.replicate 2 " --- |")
          ∧ barTexts rule = List.replicate 2 "---"
          ∧ List.Forall₂ (fun row line => barTexts line = row.map trimmed) [first, second]
            (firstLine :: restLines) := by
  intro first second
  have hrows : ∀ row ∈ [first, second], row ≠ [] := by decide
  have hbar : ∀ row ∈ [first, second], ∀ text ∈ row, '|' ∉ text.toList := by decide
  exact ⟨⟨hrows, hbar⟩, renderTable_ofTextRows hrows hbar⟩

end DocMark.Document
