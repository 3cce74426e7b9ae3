-- SUMMARY: Reading lines of phrases: what every line makes of the open blocks.
import Mathlib
import DocMark.Proofs.Markdown.PlainFrames

/-!
# Reading plain lines

A blank line ends a heading or a paragraph, and what an item holds. Between blocks a line of a phrase
begins a block that shows it, and the line of an item goes on with a list. The blocks of all lines
show the lines that are not blank.
-/
namespace DocMark.Markdown

/-! ## Between blocks -/

section Between

variable {s : LineState} {ls ms : List String} {p : Phrase}

/-- At the start of a line between blocks. An item that the line does not go on with is not closed
    yet. -/
inductive LineState.Between : LineState → List String → Prop where
  | document {document ls cursor line opened} : Frame.IsDocument document ls →
      LineState.Between ⟨[document], [], [], cursor, line, opened, false⟩ ls
  | afterItem {item list document p ls ms cursor line opened} :
      Frame.IsItem item p → Frame.IsList list ms → Frame.IsDocument document ls →
      LineState.Between ⟨[list, document], [item], [], cursor, line, opened, false⟩
        (ls ++ (ms ++ [String.ofList (itemLine p)]))

theorem LineState.Between.holdsBlocks (h : s.Between ls) : s.container.holdsBlocks = true := by
  cases h with
  | document hdocument =>
    simp [container, hdocument.kind, BlockKind.holdsBlocks]
  | afterItem _ hlist _ =>
    obtain ⟨tight, hkind⟩ := hlist.kind
    simp [container, hkind, BlockKind.holdsBlocks]

/-- A heading or a paragraph closes a list before it. -/
theorem LineState.Between.openBlock (h : s.Between ls) (kind : BlockKind)
    (hdocument : BlockKind.accepts .document kind = true)
    (hlist : ∀ marker tight, BlockKind.accepts (.list marker tight) kind = false) :
    ∃ document, document.IsDocument ls ∧ s.openBlock kind =
      ⟨[{ kind, line := s.line }, document], [], [], s.cursor, s.line, true, false⟩ := by
  cases h with
  | @document document _ _ _ _ hdocument' =>
    refine ⟨document, hdocument', ?_⟩
    simp [LineState.openBlock, closeUnmatched, makeRoom, closeMany, hdocument'.kind, hdocument]
  | @afterItem _ _ document _ _ _ _ _ _ hitem hlist' hdocument' =>
    obtain ⟨list', hcloseItem, hitems⟩ := closeOne_item hitem hlist' [document]
    obtain ⟨document', hcloseList, hlines⟩ := closeOne_list hitems (by simp) hdocument'
    obtain ⟨tight, hkind⟩ := hitems.kind
    refine ⟨document', hlines, ?_⟩
    simp [LineState.openBlock, closeUnmatched, makeRoom, closeMany, hcloseItem, hkind, hcloseList,
      hlist, hdocument'.kind, hdocument]

theorem closeUnmatched_item {item list : Frame} (hitem : item.IsItem p) (hlist : list.IsList ms)
    (above : Spine) (cursor : Cursor) (line : Nat) (opened : Bool) :
    ∃ list', list'.IsList (ms ++ [String.ofList (itemLine p)]) ∧
      LineState.closeUnmatched ⟨list :: above, [item], [], cursor, line, opened, false⟩ =
        ⟨list' :: above, [], [], cursor, line, opened, false⟩ := by
  obtain ⟨list', hclose, hlist'⟩ := closeOne_item hitem hlist above
  refine ⟨list', hlist', ?_⟩
  simp [LineState.closeUnmatched, closeMany, hclose]

theorem LineState.Between.noteBlanks (h : s.Between ls) (hblank : s.cursor.isBlank = false) :
    s.noteBlanks.Between ls ∧ s.noteBlanks.cursor = s.cursor := by
  cases h with
  | document hdocument =>
    simp only [LineState.noteBlanks, hblank, noteBlankWithin, List.map_nil]
    exact ⟨.document (hdocument.noteBlank _), rfl⟩
  | afterItem hitem hlist hdocument =>
    simp only [LineState.noteBlanks, hblank, noteBlankWithin, List.map_nil, List.map_cons]
    exact ⟨.afterItem hitem (hlist.noteBlank _) (hdocument.noteBlank _), rfl⟩

theorem finishText_of_holdsBlocks (hcontainer : s.container.holdsBlocks = true)
    (hblank : s.cursor.isBlank = false) : placeText.finishText s =
      (s.openBlock .paragraph).mapContainer (·.addLine s.cursor.content) := by
  unfold placeText.finishText
  cases hkind : s.container <;> simp_all [BlockKind.holdsBlocks]

/-- A phrase between blocks opens a paragraph in the document. -/
theorem LineState.Between.placeText (h : s.Between ls) (hcontent : s.cursor.content = p.chars) :
    ∃ paragraph document line, paragraph.IsLine .paragraph p ∧ document.IsDocument ls ∧
      DocMark.Markdown.placeText s =
        ⟨[paragraph, document], [], [], s.cursor, line, true, false⟩ := by
  have hblank : s.cursor.isBlank = false := by simp [Cursor.isBlank, hcontent, p.chars_ne_nil]
  obtain ⟨hnoted, hcursor⟩ := h.noteBlanks hblank
  rw [← hcursor] at hblank hcontent
  have hplace : DocMark.Markdown.placeText s =
      (s.noteBlanks.openBlock .paragraph).mapContainer (·.addLine s.noteBlanks.cursor.content) := by
    rw [DocMark.Markdown.placeText]
    generalize s.noteBlanks = noted at *
    cases hnoted with
    | document hdocument =>
      exact finishText_of_holdsBlocks (LineState.Between.document hdocument).holdsBlocks hblank
    | @afterItem item list document _ _ _ cursor line opened hitem hlist hdocument =>
      obtain ⟨list', hlist', hclosed⟩ :=
        closeUnmatched_item hitem hlist [document] cursor line opened
      have hcontainer : (closeUnmatched
          ⟨[list, document], [item], [], cursor, line, opened, false⟩).container.holdsBlocks = true := by
        obtain ⟨tight, hkind⟩ := hlist'.kind
        simp [hclosed, container, hkind, BlockKind.holdsBlocks]
      -- The item is no paragraph that the line could go on with, so it is closed first.
      simp only [hitem.kind, BlockKind.isParagraph, Bool.false_and, Bool.false_eq_true, if_false]
      exact finishText_of_holdsBlocks hcontainer hblank
  obtain ⟨document, hdocument, hopened⟩ := hnoted.openBlock .paragraph rfl fun _ _ => rfl
  rw [hplace, hopened, hcontent, hcursor]
  refine ⟨_, document, _, ?_, hdocument, rfl⟩
  exact ⟨rfl, rfl, rfl⟩

end Between

/-! ## Lines -/

/-- The open blocks after a line. -/
def LineState.finished (s : LineState) (line : Nat) : BlockState :=
  ⟨s.unmatched ++ s.spine, s.references, line⟩

theorem readLine_eq {inner : List Frame} {cs : List Char} {count : Nat} {cursor : Cursor}
    (document : Frame) (references : List Reference) (line : Nat)
    (hmatch : matchFrames inner ⟨cs, 0, false⟩ = ⟨count, cursor, false⟩) :
    ∃ lazy, readLine ⟨(document :: inner).reverse, references, line⟩ cs =
      (placeText (openAll (cs.length + 2) 1 lazy ⟨(document :: inner.take count).reverse,
        (inner.drop count).reverse, references, cursor, line + 1, false, false⟩)).finished (line + 1) := by
  rw [readLine]
  simp only [List.reverse_reverse, hmatch]
  exact ⟨_, if_neg Bool.false_ne_true⟩

theorem matchFrames_nil (cs : List Char) :
    matchFrames [] ⟨cs, 0, false⟩ = ⟨0, ⟨cs, 0, false⟩, false⟩ := rfl

/-- What the reader knows after some lines, and what its blocks show. -/
structure Follows (place : Place) (ls : List String) (state : BlockState) : Prop where
  stage : Stage place state.spine ls
  references : state.references = []

section Lines

variable {state : BlockState} {place : Place} {ls : List String} {cs : List Char}

/-- A line of text between blocks goes on with no item. -/
theorem Follows.start (h : Follows .between ls state) (hindent : (Cursor.mk cs 0 false).indent = 0)
    (hblank : (Cursor.mk cs 0 false).isBlank = false) :
    ∃ lazy s, s.Between ls ∧ s.cursor = ⟨cs, 0, false⟩ ∧ readLine state cs =
      (placeText (openAll (cs.length + 2) 1 lazy s)).finished (state.line + 1) := by
  obtain ⟨spine, references, line⟩ := state
  obtain ⟨hstage, hreferences⟩ := h
  cases hreferences
  dsimp only at hstage
  cases hstage with
  | @document document _ hdocument =>
    obtain ⟨lazy, hread⟩ := readLine_eq document [] line (matchFrames_nil cs)
    exact ⟨lazy, _, .document hdocument, rfl, hread⟩
  | @afterItem item list document p ls ms hitem hlist hdocument =>
    obtain ⟨tight, hkind⟩ := hlist.kind
    have hmatch : matchFrames [list, item] ⟨cs, 0, false⟩ = ⟨1, ⟨cs, 0, false⟩, false⟩ := by
      simp [matchFrames, meet, hkind, hitem.kind, hindent, hblank]
    obtain ⟨lazy, hread⟩ := readLine_eq document [] line hmatch
    exact ⟨lazy, _, .afterItem hitem hlist hdocument, rfl, hread⟩

theorem Follows.phrase (h : Follows .between ls state) (p : Phrase) :
    Follows .inText (ls ++ [p.text]) (readLine state p.chars) := by
  obtain ⟨lazy, s, hbetween, hcursor, hread⟩ := h.start (indent_phrase p ..) (isBlank_phrase p ..)
  have hcontent : s.cursor.content = p.chars := by simp [hcursor]
  have hopen : openAll (p.chars.length + 2) 1 lazy s = s :=
    openAll_phrase 1 lazy p _ hcontent (by simp [hcursor]) hbetween.holdsBlocks
  obtain ⟨paragraph, document, line, hparagraph, hdocument, hplaced⟩ :=
    hbetween.placeText hcontent
  rw [hread, hopen, hplaced]
  exact ⟨.paragraph hparagraph hdocument, rfl⟩

theorem placeText_heading {document : Frame} (hdocument : document.IsDocument ls) (p : Phrase)
    (level column line : Nat) : ∃ heading document', heading.IsLine (.heading level false) p ∧
      document'.IsDocument ls ∧
      placeText ⟨[{ kind := .heading level false, line }, document], [], [],
          ⟨' ' :: p.chars, column, false⟩, line, true, false⟩ =
        ⟨[heading, document'], [], [], ⟨' ' :: p.chars, column, false⟩, line, true, false⟩ := by
  refine ⟨{ kind := .heading level false, text := p.chars ++ ['\n'], line }, _, ⟨rfl, rfl, rfl⟩,
    hdocument.noteBlank false, ?_⟩
  simp [placeText, LineState.noteBlanks, LineState.noteBlankWithin, placeText.finishText,
    LineState.container, LineState.mapContainer, Frame.addLine, withoutClosingMarks_phrase]

theorem Follows.heading (h : Follows .between ls state) (p : Phrase) {level : Nat} (hlow : 1 ≤ level)
    (hhigh : level ≤ 6) : Follows .inText (ls ++ [String.ofList (headingLine level p)])
      (readLine state (headingLine level p)) := by
  have hat := contentAt_headingLine p hlow
  have hindent : (Cursor.mk (headingLine level p) 0 false).indent = 0 := by
    simp [Cursor.indent, hat]
  have hblank : (Cursor.mk (headingLine level p) 0 false).isBlank = false := by
    rw [Cursor.isBlank, Cursor.content, hat]
    simp [headingLine]
  obtain ⟨lazy, s, hbetween, hcursor, hread⟩ := h.start hindent hblank
  obtain ⟨document, hdocument, hopened⟩ := hbetween.openBlock (.heading level false) rfl
    fun _ _ => rfl
  obtain ⟨heading, document', hheading, hdocument', hplaced⟩ :=
    placeText_heading hdocument p level level s.line
  rw [hread, openAll_heading 1 lazy p _ hlow hhigh hcursor hbetween.holdsBlocks, hopened, hplaced]
  exact ⟨.heading hlow hhigh hheading hdocument', rfl⟩

theorem placeText_item {list document : Frame} {ms : List String} (hlist : list.IsList ms)
    (hdocument : document.IsDocument ls) (p : Phrase) (column line : Nat) :
    ∃ paragraph item list' document', paragraph.IsLine .paragraph p ∧ item.kind = .item 2 ∧
      item.children = [] ∧ list'.IsList ms ∧ document'.IsDocument ls ∧
      placeText ⟨[{ kind := .item 2, line }, list, document], [], [], ⟨p.chars, column, false⟩, line,
          true, false⟩ =
        ⟨[paragraph, item, list', document'], [], [], ⟨p.chars, column, false⟩, line, true, false⟩ := by
  refine ⟨{ kind := .paragraph, text := p.chars ++ ['\n'], line }, { kind := .item 2, line }, _, _,
    ⟨rfl, rfl, rfl⟩, rfl, rfl, hlist.noteBlank false, hdocument.noteBlank false, ?_⟩
  simp [placeText, LineState.noteBlanks, LineState.noteBlankWithin, placeText.finishText,
    LineState.container, LineState.openBlock, LineState.closeUnmatched, makeRoom, closeMany,
    BlockKind.accepts, LineState.mapContainer, Frame.addLine]

/-- At a line that an item of a list may begin. The list holds what has been read of it. -/
def LineState.BeginsItem (s : LineState) (ls : List String) : Prop :=
  ∃ list document cursor line opened ls' ms,
    s.MakesList ⟨[list, document], [], [], cursor, line, opened, false⟩ ∧
      Frame.IsList list ms ∧ Frame.IsDocument document ls' ∧ ls = ls' ++ ms

theorem LineState.Between.beginsItem {s : LineState} (h : s.Between ls) : s.BeginsItem ls := by
  cases h with
  | @document document _ cursor line opened hdocument =>
    have hbetween : LineState.Between ⟨[document], [], [], cursor, line, opened, false⟩ ls :=
      .document hdocument
    obtain ⟨document', hdocument', hopened⟩ := hbetween.openBlock (.list (.bullet '*') true)
      rfl fun _ _ => rfl
    have hmake := LineState.MakesList.new
      (s := ⟨[document], [], [], cursor, line, opened, false⟩) hdocument.kind
    rw [hopened] at hmake
    exact ⟨_, document', _, _, _, ls, [], hmake, ⟨⟨true, rfl⟩, readsItems_nil⟩, hdocument',
      (List.append_nil ls).symm⟩
  | @afterItem item list document q ls' ms cursor line opened hitem hlist hdocument =>
    obtain ⟨tight, hkind⟩ := hlist.kind
    obtain ⟨list', hlist', hclosed⟩ :=
      closeUnmatched_item hitem hlist [document] cursor line opened
    have hmake := LineState.MakesList.same
      (s := ⟨[list, document], [item], [], cursor, line, opened, false⟩) tight hkind
    rw [hclosed] at hmake
    exact ⟨list', document, _, _, _, ls', _, hmake, hlist', hdocument, rfl⟩

/-- A line of text at the margin ends an item. -/
theorem Follows.startInItem (h : Follows .inItem ls state)
    (hindent : (Cursor.mk cs 0 false).indent = 0) (hblank : (Cursor.mk cs 0 false).isBlank = false) :
    ∃ lazy s, s.BeginsItem ls ∧ s.cursor = ⟨cs, 0, false⟩ ∧ readLine state cs =
      (placeText (openAll (cs.length + 2) 1 lazy s)).finished (state.line + 1) := by
  obtain ⟨spine, references, line⟩ := state
  obtain ⟨hstage, hreferences⟩ := h
  cases hreferences
  dsimp only at hstage
  cases hstage with
  | @item paragraph item list document q ls' ms hparagraph hkind hchildren hlist hdocument =>
    obtain ⟨tight, hlistKind⟩ := hlist.kind
    have hmatch : matchFrames [list, item, paragraph] ⟨cs, 0, false⟩ = ⟨1, ⟨cs, 0, false⟩, false⟩ := by
      simp [matchFrames, meet, hlistKind, hkind, hindent, hblank]
    obtain ⟨lazy, hread⟩ := readLine_eq document [] line hmatch
    obtain ⟨item', hcloseText, hitem'⟩ :=
      closeOne_itemParagraph hparagraph hkind hchildren [list, document]
    obtain ⟨list', hcloseItem, hlist'⟩ := closeOne_item hitem' hlist [document]
    have hclosed : LineState.closeUnmatched ⟨[list, document], [paragraph, item], [],
          ⟨cs, 0, false⟩, line + 1, false, false⟩ =
        ⟨[list', document], [], [], ⟨cs, 0, false⟩, line + 1, false, false⟩ := by
      simp [LineState.closeUnmatched, closeMany, hcloseText, hcloseItem]
    have hmake := LineState.MakesList.same (s := ⟨[list, document], [paragraph, item], [],
      ⟨cs, 0, false⟩, line + 1, false, false⟩) tight hlistKind
    rw [hclosed] at hmake
    exact ⟨lazy, _, ⟨list', document, _, _, _, ls', _, hmake, hlist', hdocument, rfl⟩, rfl, hread⟩

theorem Follows.item (h : Follows place ls state) (hplace : place ≠ .inText) (p : Phrase) :
    Follows .inItem (ls ++ [String.ofList (itemLine p)]) (readLine state (itemLine p)) := by
  have hat : Cursor.contentAt 0 (itemLine p) = (0, itemLine p) := contentAt_cons (by decide) _ _
  have hindent : (Cursor.mk (itemLine p) 0 false).indent = 0 := by
    simp [Cursor.indent, hat]
  have hblank : (Cursor.mk (itemLine p) 0 false).isBlank = false := by
    rw [Cursor.isBlank, Cursor.content, hat]
    rfl
  have hstart : ∃ lazy s, s.BeginsItem ls ∧ s.cursor = ⟨itemLine p, 0, false⟩ ∧
      readLine state (itemLine p) =
        (placeText (openAll ((itemLine p).length + 2) 1 lazy s)).finished (state.line + 1) := by
    cases place with
    | inText => exact absurd rfl hplace
    | between =>
      obtain ⟨lazy, s, hbetween, hcursor, hread⟩ := h.start hindent hblank
      exact ⟨lazy, s, hbetween.beginsItem, hcursor, hread⟩
    | inItem => exact h.startInItem hindent hblank
  obtain ⟨lazy, s, ⟨list, document, cursor, line, opened, ls', ms, hmake, hlist, hdocument, rfl⟩,
    hcursor, hread⟩ := hstart
  obtain ⟨tight, hkind⟩ := hlist.kind
  have hitem : LineState.openBlock ⟨[list, document], [], [], cursor, line, opened, false⟩ (.item 2) =
      ⟨[{ kind := .item 2, line }, list, document], [], [], cursor, line, true, false⟩ := by
    simp [LineState.openBlock, LineState.closeUnmatched, makeRoom, closeMany, hkind,
      BlockKind.accepts]
  obtain ⟨paragraph, item, list', document', hparagraph, hitemKind, hchildren, hlist', hdocument',
    hplaced⟩ := placeText_item hlist hdocument p 2 line
  rw [hread, openAll_item 1 lazy p _ (by decide) hcursor hmake, hitem, hplaced, List.append_assoc]
  exact ⟨.item hparagraph hitemKind hchildren hlist' hdocument', rfl⟩

theorem finishText_blank {s : LineState} (hcontainer : s.container.holdsBlocks = true)
    (hblank : s.cursor.isBlank = true) : placeText.finishText s = s := by
  unfold placeText.finishText
  cases hkind : s.container <;> simp_all [BlockKind.holdsBlocks]

/-- At a blank line the block that ends is closed, and nothing begins. -/
theorem placeText_blank (tip : Frame) {parent : Frame} (above : Spine) (line : Nat)
    (hcontainer : parent.kind.holdsBlocks = true) (lazy : Bool) : ∃ blank,
      placeText (openAll 2 1 lazy
          ⟨parent :: above, [tip], [], ⟨[], 0, false⟩, line, false, false⟩) =
        LineState.closeUnmatched ⟨{ parent with blankEnd := blank } ::
          above.map ({ · with blankEnd := false }), [{ tip with blankEnd := true }], [],
          ⟨[], 0, false⟩, line, false, false⟩ := by
  have hblank : (Cursor.mk [] 0 false).isBlank = true := rfl
  refine ⟨keepsBlank parent true line, ?_⟩
  have hopen : openAll 2 1 lazy ⟨parent :: above, [tip], [], ⟨[], 0, false⟩, line, false, false⟩ =
      ⟨parent :: above, [tip], [], ⟨[], 0, false⟩, line, false, false⟩ :=
    openAll_blank 1 lazy 2 rfl rfl hcontainer
  rw [hopen]
  simp only [placeText, LineState.noteBlanks, LineState.noteBlankBefore, LineState.noteBlankWithin,
    hblank, List.reverse_singleton, Bool.false_eq_true, if_false, if_true, List.isEmpty_cons,
    Bool.not_false, Bool.or_true, Bool.true_and, Bool.not_true, Bool.and_false]
  exact finishText_blank hcontainer rfl

theorem follows_blank {document tip parent : Frame} {inner above : List Frame} {count : Nat}
    (line : Nat) (hmatch : matchFrames inner ⟨[], 0, false⟩ = ⟨count, ⟨[], 0, false⟩, false⟩)
    (hmatched : (document :: inner.take count).reverse = parent :: above)
    (hended : (inner.drop count).reverse = [tip]) (hcontainer : parent.kind.holdsBlocks = true)
    (hclose : ∀ blank, ∃ spine, closeOne ({ tip with blankEnd := true } ::
        { parent with blankEnd := blank } :: above.map ({ · with blankEnd := false })) [] = (spine, [])
      ∧ Stage .between spine ls) :
    Follows .between ls (readLine ⟨(document :: inner).reverse, [], line⟩ []) := by
  obtain ⟨lazy, hread⟩ := readLine_eq document [] line hmatch
  obtain ⟨blank, hplaced⟩ := placeText_blank tip above (line + 1) hcontainer lazy
  obtain ⟨spine, hspine, hstage⟩ := hclose blank
  rw [hread, hmatched, hended, List.length_nil, hplaced]
  simp only [LineState.closeUnmatched, List.length_singleton, closeMany, List.singleton_append,
    hspine, LineState.finished, List.nil_append]
  exact ⟨hstage, rfl⟩

theorem Follows.blank (h : Follows place ls state) (hplace : place ≠ .between) :
    Follows .between ls (readLine state []) := by
  obtain ⟨spine, references, line⟩ := state
  obtain ⟨hstage, hreferences⟩ := h
  cases hreferences
  dsimp only at hstage
  have hblank : (Cursor.mk [] 0 false).isBlank = true := rfl
  cases hstage with
  | document => exact absurd rfl hplace
  | afterItem => exact absurd rfl hplace
  | @heading level heading document p _ hlow hhigh hheading hdocument =>
    have hmatch : matchFrames [heading] ⟨[], 0, false⟩ = ⟨0, ⟨[], 0, false⟩, false⟩ := by
      simp [matchFrames, meet, hheading.kind]
    refine follows_blank line hmatch rfl rfl (by rw [hdocument.kind]; rfl) fun blank => ?_
    obtain ⟨document', hclose, hdocument'⟩ :=
      closeOne_heading hlow hhigh (hheading.noteBlank true) (hdocument.noteBlank blank)
    exact ⟨_, hclose, .document hdocument'⟩
  | @paragraph paragraph document p _ hparagraph hdocument =>
    have hmatch : matchFrames [paragraph] ⟨[], 0, false⟩ = ⟨0, ⟨[], 0, false⟩, false⟩ := by
      simp [matchFrames, meet, hparagraph.kind, hblank]
    refine follows_blank line hmatch rfl rfl (by rw [hdocument.kind]; rfl) fun blank => ?_
    obtain ⟨document', hclose, hdocument'⟩ :=
      closeOne_paragraph (hparagraph.noteBlank true) (hdocument.noteBlank blank)
    exact ⟨_, hclose, .document hdocument'⟩
  | @item paragraph item list document p _ _ hparagraph hkind hchildren hlist hdocument =>
    obtain ⟨tight, hlistKind⟩ := hlist.kind
    have hindent : (Cursor.mk [] 0 false).indent = 0 := rfl
    have hcontent : (Cursor.mk [] 0 false).toContent = ⟨[], 0, false⟩ := rfl
    have hmatch : matchFrames [list, item, paragraph] ⟨[], 0, false⟩ =
        ⟨2, ⟨[], 0, false⟩, false⟩ := by
      simp [matchFrames, meet, hlistKind, hkind, hparagraph.kind, hblank, hindent, hcontent]
    refine follows_blank line hmatch rfl rfl (by rw [hkind]; rfl) fun blank => ?_
    have hkind' : ({ item with blankEnd := blank } : Frame).kind = .item 2 := hkind
    obtain ⟨item', hclose, hitem'⟩ := closeOne_itemParagraph (hparagraph.noteBlank true) hkind'
      hchildren ([list, document].map ({ · with blankEnd := false }))
    exact ⟨_, hclose, .afterItem hitem' (hlist.noteBlank false) (hdocument.noteBlank false)⟩

end Lines

end DocMark.Markdown
