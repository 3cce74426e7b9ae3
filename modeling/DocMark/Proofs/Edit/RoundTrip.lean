-- SUMMARY: Markdown of plain blocks comes back from a new document as it was, but for blank lines.
import Mathlib
import DocMark.Proofs.Edit.Drawing
import DocMark.Proofs.Markdown.PlainSource

/-!
# Round trips

Headings, paragraphs and bullet lists of phrases are read, compiled, submitted to a new document and
shown as Markdown again. What is shown is the title, as a heading of level one, and then the source.
-/
namespace DocMark.Edit
open DocMark.Markdown DocMark.Service DocMark.Text DocMark.Document

/-- A plain source that is read, compiled and submitted under any title is shown behind that title. Lists
    side by side are read as one list, which is shown alike. -/
theorem visibleLines_submit_plainSource (blocks : List PlainBlock) (documentId title : String)
    {token : Cancellation} (ht : token.NeverCancelled) (policy : Policy) :
    ∃ report s, (LocalDocument.new documentId title).submit documentId
        (build (parse (plainSource blocks))).operations policy token = (.ok report, s)
      ∧ visibleLines (render s.document.toDocument) =
        visibleLines ("# " ++ title ++ "\n\n" ++ plainSource blocks) := by
  obtain ⟨nodes, hparse, hblocks, houtline⟩ := parse_plainSource blocks
  obtain ⟨report, s, hsubmit, hlines⟩ := submit_blocks hblocks documentId title ht policy
  rw [hparse]
  refine ⟨report, s, hsubmit, ?_⟩
  have hsource : visibleLines ("# " ++ title ++ "\n\n" ++ plainSource blocks) =
      visibleLines ("# " ++ title) ++ visibleLines (plainSource blocks) := by
    have hbreak : "\n\n" = "\n" ++ "" ++ "\n" := by decide
    rw [hbreak, ← String.append_assoc, ← String.append_assoc, visibleLines_append_lineFeed,
      visibleLines_append_lineFeed, visibleLines_empty, List.append_nil]
  rw [hlines, houtline, hsource, visibleLines_plainSource]

/-- Two lists between a heading and a paragraph. -/
theorem visibleLines_submit_adjacentLists :
    let a : Phrase := .ofWords [['a'], ['b', 'c']] rfl (by decide)
    let d : Phrase := .ofWords [['d']] rfl (by decide)
    let blocks : List PlainBlock :=
      [.heading 6 (by decide) (by decide) a, .bullets a [d], .bullets d [], .paragraph a]
    ∃ report s, (LocalDocument.new "doc" "T").submit "doc"
        (build (parse (plainSource blocks))).operations .atomic {} = (.ok report, s)
      ∧ visibleLines (render s.document.toDocument) =
        ["# T", "###### a bc", "* a bc", "* d", "* d", "a bc"] := by
  intro a d blocks
  have hlines : visibleLines ("# " ++ "T" ++ "\n\n" ++ plainSource blocks) =
      ["# T", "###### a bc", "* a bc", "* d", "* d", "a bc"] := by decide
  rw [← hlines]
  exact visibleLines_submit_plainSource blocks "doc" "T" Cancellation.neverCancelled_default .atomic

end DocMark.Edit
