-- SUMMARY: The shapes of the open blocks while lines of phrases are read, and how these blocks close.
import Mathlib
import DocMark.Proofs.Markdown.PlainTrees

/-!
# Open blocks of phrases

While lines of phrases are read, the open blocks have one of five shapes. Between blocks only the
document is open, or also an item whose paragraph has ended and that the next line may follow
with another item of its list. Otherwise the last line was a heading, a paragraph or an item. The
finished blocks together with the open ones show the lines read so far.
-/
namespace DocMark.Markdown

/-! ## Finishing -/

section Finish

variable (p : Phrase) {blank refused : Bool} {line : Nat}

theorem definitions_phrase : definitions (p.chars ++ ['\n']) = ([], p.chars ++ ['\n']) := by
  obtain ⟨c, cs, hchars, hc⟩ := p.exists_chars_eq_cons
  have hbracket : c ≠ '[' := by
    rintro rfl
    exact absurd hc (by decide)
  have hnone : definition? (p.chars ++ ['\n']) = none := by
    have hlabel : label? (p.chars ++ ['\n']) = none := by
      rw [hchars, List.cons_append, label?]
      rintro inner ⟨⟩
      exact hbracket rfl
    simp [definition?, hlabel]
  have hlength : (p.chars ++ ['\n']).length = p.chars.length + 1 := by simp
  rw [definitions, hlength, definitionsFrom, hnone]

theorem isBlankLine_phrase : isBlankLine (p.chars ++ ['\n']) = false := by
  obtain ⟨c, cs, hchars, hc⟩ := p.exists_chars_eq_cons
  have hline : c ≠ '\n' := by
    rintro rfl
    exact absurd hc (by decide)
  rw [isBlankLine, hchars, List.cons_append,
    List.dropWhile_cons_of_neg (by simp [not_isBlank_of_isLowerLetter hc])]
  simpa using hline

theorem withoutClosingMarks_phrase : withoutClosingMarks p.chars = p.chars := by
  obtain ⟨c, hlast, hc⟩ := p.exists_getLast?_chars
  have hmark : c ≠ '#' := by
    rintro rfl
    exact absurd hc (by decide)
  have hkept : (p.chars.reverse.dropWhile (· == '#')).reverse = p.chars := by
    change p.chars.rdropWhile (· == '#') = p.chars
    rw [List.rdropWhile_eq_self_iff]
    intro hne
    rw [List.getLast?_eq_some_getLast hne, Option.some.injEq] at hlast
    simpa [hlast] using hmark
  simp [withoutClosingMarks, p.trimSpaceEnd_chars, hkept]

end Finish

/-! ## Open blocks -/

/-- An open document whose finished blocks show the lines. -/
structure Frame.IsDocument (f : Frame) (ls : List String) : Prop where
  kind : f.kind = .document
  reads : Reads f.children.reverse ls

/-- An open list whose finished items show the lines. -/
structure Frame.IsList (f : Frame) (ls : List String) : Prop where
  kind : ∃ tight, f.kind = .list (.bullet '*') tight
  reads : ReadsItems f.children.reverse ls

/-- A block that holds one line of text. -/
structure Frame.IsLine (f : Frame) (kind : BlockKind) (p : Phrase) : Prop where
  kind : f.kind = kind
  text : f.text = p.chars ++ ['\n']
  children : f.children = []

/-- An item with its text finished. -/
structure Frame.IsItem (f : Frame) (p : Phrase) : Prop where
  kind : f.kind = .item 2
  children : ∃ blank, f.children = [.mk .paragraph (p.chars ++ ['\n']) blank []]

section Blank

variable {f : Frame} {ls : List String} {p : Phrase} (blank : Bool)

theorem Frame.IsDocument.noteBlank (h : f.IsDocument ls) :
    Frame.IsDocument { f with blankEnd := blank } ls := ⟨h.kind, h.reads⟩

theorem Frame.IsList.noteBlank (h : f.IsList ls) : Frame.IsList { f with blankEnd := blank } ls :=
  ⟨h.kind, h.reads⟩

theorem Frame.IsLine.noteBlank {kind : BlockKind} (h : f.IsLine kind p) :
    Frame.IsLine { f with blankEnd := blank } kind p := ⟨h.kind, h.text, h.children⟩

end Blank

/-- Where a line leaves the reader. -/
inductive Place where
  | between
  | inText
  | inItem
deriving DecidableEq, Repr

/-- The open blocks after lines of phrases, and the lines that all blocks so far show. -/
inductive Stage : Place → Spine → List String → Prop where
  | document {document ls} : Frame.IsDocument document ls → Stage .between [document] ls
  | afterItem {item list document p ls ms} :
      Frame.IsItem item p → Frame.IsList list ms → Frame.IsDocument document ls →
      Stage .between [item, list, document] (ls ++ (ms ++ [String.ofList (itemLine p)]))
  | heading {level heading document p ls} :
      1 ≤ level → level ≤ 6 → Frame.IsLine heading (.heading level false) p →
      Frame.IsDocument document ls →
      Stage .inText [heading, document] (ls ++ [String.ofList (headingLine level p)])
  | paragraph {paragraph document p ls} :
      Frame.IsLine paragraph .paragraph p → Frame.IsDocument document ls →
      Stage .inText [paragraph, document] (ls ++ [Phrase.text p])
  | item {paragraph item list document p ls ms} :
      Frame.IsLine paragraph .paragraph p → item.kind = .item 2 → item.children = [] →
      Frame.IsList list ms → Frame.IsDocument document ls →
      Stage .inItem [paragraph, item, list, document]
        (ls ++ (ms ++ [String.ofList (itemLine p)]))

/-! ## Closing -/

section Closing

variable {paragraph heading item list document : Frame} {p : Phrase} {ls ms : List String}

theorem Frame.IsDocument.add (h : document.IsDocument ls) {block : Block} (hblock : Reads [block] ms) :
    Frame.IsDocument { document with children := block :: document.children } (ls ++ ms) := by
  refine ⟨h.kind, ?_⟩
  rw [List.reverse_cons]
  exact h.reads.append hblock

theorem closeOne_heading {level : Nat} (hlow : 1 ≤ level) (hhigh : level ≤ 6)
    (hheading : heading.IsLine (.heading level false) p) (hdocument : document.IsDocument ls) :
    ∃ closed, closeOne [heading, document] [] = ([closed], [])
      ∧ closed.IsDocument (ls ++ [String.ofList (headingLine level p)]) := by
  have hfinish : heading.finish =
      (some (.mk (.heading level false) (p.chars ++ ['\n']) heading.blankEnd []), []) := by
    simp [Frame.finish, hheading.kind, hheading.text, hheading.children]
  rw [closeOne, hfinish]
  exact ⟨_, rfl, hdocument.add (reads_heading p hlow hhigh false)⟩

theorem finish_paragraph (h : paragraph.IsLine .paragraph p) : paragraph.finish =
    (some (.mk .paragraph (p.chars ++ ['\n']) paragraph.blankEnd []), []) := by
  simp [Frame.finish, h.kind, h.text, h.children, definitions_phrase, isBlankLine_phrase]

theorem closeOne_paragraph (hparagraph : paragraph.IsLine .paragraph p)
    (hdocument : document.IsDocument ls) :
    ∃ closed, closeOne [paragraph, document] [] = ([closed], [])
      ∧ closed.IsDocument (ls ++ [p.text]) := by
  rw [closeOne, finish_paragraph hparagraph]
  exact ⟨_, rfl, hdocument.add (reads_paragraph p)⟩

theorem closeOne_itemParagraph (hparagraph : paragraph.IsLine .paragraph p)
    (hkind : item.kind = .item 2) (hchildren : item.children = []) (above : Spine) :
    ∃ closed, closeOne (paragraph :: item :: above) [] = (closed :: above, [])
      ∧ closed.IsItem p := by
  rw [closeOne, finish_paragraph hparagraph]
  refine ⟨_, rfl, hkind, paragraph.blankEnd, ?_⟩
  dsimp only
  rw [hchildren]
  rfl

theorem closeOne_item (hitem : item.IsItem p) (hlist : list.IsList ms) (above : Spine) :
    ∃ closed, closeOne (item :: list :: above) [] = (closed :: above, [])
      ∧ closed.IsList (ms ++ [String.ofList (itemLine p)]) := by
  obtain ⟨blank, hchildren⟩ := hitem.children
  have hfinish : item.finish = (some (.mk (.item 2) item.text item.blankEnd
      [.mk .paragraph (p.chars ++ ['\n']) blank []]), []) := by
    simp [Frame.finish, hitem.kind, hchildren]
  rw [closeOne, hfinish]
  refine ⟨_, rfl, hlist.kind, ?_⟩
  dsimp only
  rw [Option.toList_some, List.singleton_append, List.reverse_cons]
  exact hlist.reads.append (readsItems_item p 2)

theorem closeOne_list (hlist : list.IsList ms) (hne : ms ≠ []) (hdocument : document.IsDocument ls) :
    ∃ closed, closeOne [list, document] [] = ([closed], []) ∧ closed.IsDocument (ls ++ ms) := by
  obtain ⟨tight, hkind⟩ := hlist.kind
  have hsome : list.children.reverse ≠ [] := by
    intro hnil
    have hlines := (hlist.reads true []).2
    rw [hnil] at hlines
    exact hne hlines.symm
  have hfinish : list.finish = (some (.mk (.list (.bullet '*')
      (!Block.hasBlankBetween list.children.reverse)) [] list.blankEnd list.children.reverse), []) := by
    simp [Frame.finish, hkind]
  rw [closeOne, hfinish]
  exact ⟨_, rfl, hdocument.add (hlist.reads.list hsome '*')⟩

/-- When all is closed, only the document is left. -/
theorem Stage.close {place : Place} {spine : Spine} (h : Stage place spine ls) :
    ∃ document, closeMany spine.length spine [] = ([document], []) ∧ document.IsDocument ls := by
  cases h with
  | document hdocument => exact ⟨_, rfl, hdocument⟩
  | @afterItem _ _ document _ _ _ hitem hlist hdocument =>
    obtain ⟨list', hcloseItem, hlist'⟩ := closeOne_item hitem hlist [document]
    obtain ⟨document', hcloseList, hdocument'⟩ := closeOne_list hlist' (by simp) hdocument
    refine ⟨document', ?_, hdocument'⟩
    simp only [List.length_cons, closeMany, hcloseItem, hcloseList]
    rfl
  | heading hlow hhigh hheading hdocument =>
    obtain ⟨document', hclose, hdocument'⟩ := closeOne_heading hlow hhigh hheading hdocument
    refine ⟨document', ?_, hdocument'⟩
    simp only [List.length_cons, closeMany, hclose]
    rfl
  | paragraph hparagraph hdocument =>
    obtain ⟨document', hclose, hdocument'⟩ := closeOne_paragraph hparagraph hdocument
    refine ⟨document', ?_, hdocument'⟩
    simp only [List.length_cons, closeMany, hclose]
    rfl
  | @item _ _ list document _ _ _ hparagraph hkind hchildren hlist hdocument =>
    obtain ⟨item', hcloseText, hitem'⟩ :=
      closeOne_itemParagraph hparagraph hkind hchildren [list, document]
    obtain ⟨list', hcloseItem, hlist'⟩ := closeOne_item hitem' hlist [document]
    obtain ⟨document', hcloseList, hdocument'⟩ := closeOne_list hlist' (by simp) hdocument
    refine ⟨document', ?_, hdocument'⟩
    simp only [List.length_cons, closeMany, hcloseText, hcloseItem, hcloseList]
    rfl

end Closing

end DocMark.Markdown
