-- SUMMARY: Reading blocks line by line: which open blocks a line continues, which it opens, and where its text goes.
import DocMark.Markdown.Block
import DocMark.Markdown.Html
import DocMark.Markdown.TableRow

/-!
# Reading blocks

The state is the spine of open blocks, innermost first, and the link references found so far.
Each line takes three steps: from the document down, it is matched against the open blocks;
then it may open new ones; what is left of it is text. A line of text after a paragraph that it
does not continue by itself still belongs to that paragraph.
-/
namespace DocMark.Markdown

/-- The open blocks, innermost first. -/
abbrev Spine := List Frame

structure BlockState where
  spine : Spine
  references : List Reference := []
  line : Nat := 0
deriving Inhabited, Repr

/-! ## Closing and opening -/

/-- Closes the innermost block. The document stays open. -/
def closeOne : Spine → List Reference → Spine × List Reference
  | f :: parent :: rest, references =>
    let (block, found) := f.finish
    ({ parent with children := block.toList ++ parent.children } :: rest, references ++ found)
  | spine, references => (spine, references)

/-- Closes the `n` innermost blocks. -/
def closeMany : Nat → Spine → List Reference → Spine × List Reference
  | 0, spine, references => (spine, references)
  | n + 1, spine, references =>
    let (spine, references) := closeOne spine references
    closeMany n spine references

/-- Closes blocks until a block of the given kind fits. -/
def makeRoom (kind : BlockKind) (spine : Spine) (references : List Reference) :
    Spine × List Reference :=
  closeMany (spine.takeWhile fun f => !f.kind.accepts kind).length spine references

/-! ## Matching the open blocks -/

/-- How a line meets an open block. -/
inductive Meeting where
  /-- The block goes on, the line from the cursor is its content. -/
  | continues (cursor : Cursor)
  | ends
  /-- The line is the closing fence of a code block. -/
  | closes

/-- The length of a run of `mark` that nothing but blanks follows. -/
def closingRun (mark : Char) (cs : List Char) : Nat :=
  if (cs.dropWhile (· == mark)).all isBlank then (cs.takeWhile (· == mark)).length else 0

/-- Passes over one `>` and a blank after it. -/
def quoteMark? (c : Cursor) : Option Cursor :=
  if c.indent ≤ 3 ∧ c.content.head? = some '>' then
    some ((c.toContent.skipChars 1).skipBlankColumn)
  else none

/-- Passes over up to `n` blanks. -/
def skipFenceIndent : Nat → Cursor → Cursor
  | 0, c => c
  | n + 1, c => if c.atBlank then skipFenceIndent n (c.skipColumns 1) else c

def meet (f : Frame) (hasChildren : Bool) (c : Cursor) : Meeting :=
  match f.kind with
  | .quote =>
    match quoteMark? c with
    | some c => .continues c
    | none => .ends
  | .item indent =>
    if indent ≤ c.indent then .continues (c.skipColumns indent)
    else if c.isBlank && hasChildren then .continues c.toContent
    else .ends
  | .fenced mark length indent =>
    if c.indent ≤ 3 ∧ length ≤ closingRun mark c.content then .closes
    else .continues (skipFenceIndent indent c)
  | .indentedCode =>
    if 4 ≤ c.indent then .continues (c.skipColumns 4)
    else if c.isBlank then .continues c.toContent
    else .ends
  | .html kind => if 6 ≤ kind ∧ c.isBlank then .ends else .continues c
  | .paragraph => if c.isBlank then .ends else .continues c
  | .table _ _ => if (tableRow? c.content).isSome then .continues c else .ends
  | .heading _ _ => .ends
  | _ => .continues c

/-- What matching a line leaves: how many of the blocks it continues, the place after their marks,
    and whether it is the closing fence of the next one. -/
structure Matched where
  count : Nat
  cursor : Cursor
  closesNext : Bool

/-- Matches a line against open blocks, outermost first. -/
def matchFrames : List Frame → Cursor → Matched
  | [], c => ⟨0, c, false⟩
  | f :: inner, c =>
    match meet f (!inner.isEmpty || !f.children.isEmpty) c with
    | .continues c =>
      let m := matchFrames inner c
      { m with count := m.count + 1 }
    | .ends => ⟨0, c, false⟩
    | .closes => ⟨0, c, true⟩

/-! ## Opening blocks -/

/-- A line being read: the spine down to the innermost matched or new block, and the blocks below
    it that were not matched and are still open. -/
structure LineState where
  spine : Spine
  unmatched : Spine
  references : List Reference
  cursor : Cursor
  line : Nat
  /-- Whether the line opened a block or turned a paragraph into another one. -/
  opened : Bool := false
  /-- Whether the line is a row of a table. -/
  isRow : Bool := false
deriving Inhabited, Repr

namespace LineState

/-- The innermost block of the spine. -/
def container (s : LineState) : BlockKind := (s.spine.head?.map (·.kind)).getD .document

/-- Closes what the line did not match. -/
def closeUnmatched (s : LineState) : LineState :=
  let (spine, references) := closeMany s.unmatched.length (s.unmatched ++ s.spine) s.references
  { s with spine, references, unmatched := [] }

/-- Opens a block in the innermost one that accepts it. -/
def openBlock (s : LineState) (kind : BlockKind) : LineState :=
  let s := s.closeUnmatched
  let (spine, references) := makeRoom kind s.spine s.references
  { s with spine := { kind, line := s.line } :: spine, references, opened := true }

/-- Changes the innermost block. -/
def mapContainer (s : LineState) (f : Frame → Frame) : LineState :=
  match s.spine with
  | [] => s
  | frame :: rest => { s with spine := f frame :: rest }

def isIndented (s : LineState) : Bool := 4 ≤ s.cursor.indent

end LineState

/-- The level of a heading whose marks begin the content, and the number of marks. -/
def atxLevel? (cs : List Char) : Option Nat :=
  let level := (cs.takeWhile (· == '#')).length
  let rest := cs.dropWhile (· == '#')
  if 1 ≤ level ∧ level ≤ 6 ∧ (rest.isEmpty ∨ rest.head?.any isBlank) then some level else none

/-- The mark and the length of an opening fence. The line after backticks has no backtick. -/
def openingFence? (cs : List Char) : Option (Char × Nat) :=
  match cs with
  | '\x60' :: _ =>
    let length := (cs.takeWhile (· == '\x60')).length
    if 3 ≤ length ∧ !(cs.dropWhile (· == '\x60')).contains '\x60' then some ('\x60', length) else none
  | '~' :: _ =>
    let length := (cs.takeWhile (· == '~')).length
    if 3 ≤ length then some ('~', length) else none
  | _ => none

/-- The level of the heading that a line of marks makes of the paragraph before it. -/
def underlineLevel? (cs : List Char) : Option Nat :=
  match cs with
  | '=' :: _ => if 0 < closingRun '=' cs then some 1 else none
  | '-' :: _ => if 0 < closingRun '-' cs then some 2 else none
  | _ => none

def isThematicBreak (cs : List Char) : Bool :=
  match cs with
  | [] => false
  | c :: _ =>
    (c == '*' || c == '-' || c == '_') && cs.all (fun d => d == c || isBlank d)
      && 3 ≤ (cs.filter (· == c)).length

/-- The greatest number of digits of an item's number. -/
def maxItemDigits : Nat := 9

/-- The marker that begins the content, with its length and what follows it. An item that
    interrupts a paragraph is not empty, and if it is numbered its number is one. -/
def listMarker? (inParagraph : Bool) (cs : List Char) : Option (ListMarker × Nat × List Char) := do
  let (marker, length, number, rest) ← match cs with
    | [] => none
    | c :: rest =>
      if c = '*' ∨ c = '-' ∨ c = '+' then some (ListMarker.bullet c, 1, 1, rest)
      else
        let digits := (cs.takeWhile isDigit).take maxItemDigits
        match digits, cs.drop digits.length with
        | [], _ => none
        | _ :: _, d :: rest =>
          if d = '.' ∨ d = ')' then
            some (ListMarker.ordered d, digits.length + 1, numberOf 10 digits, rest)
          else none
        | _ :: _, [] => none
  if rest.head?.any fun c => !isSpace c then none
  else if inParagraph && (number != 1 || rest.all isBlank) then none
  else some (marker, length, rest)

/-- The place where the content of a new item begins, and the columns from its marker to there.
    More than four columns of blanks, or no content, leave one column after the marker. -/
def itemContent (markerLength : Nat) (c : Cursor) : Cursor × Nat :=
  let start := c.skipChars markerLength
  let blanks := min start.indent 5
  if 1 ≤ blanks ∧ blanks ≤ 4 ∧ !start.isBlank then (start.skipColumns blanks, markerLength + blanks)
  else (start.skipBlankColumn, markerLength + 1)

/-- How many blocks a line may open before it opens no more lists. -/
def maxOpenings : Nat := 100

/-- The greatest number of cells that are filled in for short rows. -/
def maxFilledCells : Nat := 500000

/-- One row of a table. -/
def rowBlock (cells : List (List Char)) : Block :=
  .mk .tableRow [] false (cells.map fun cell => .mk .tableCell cell false [])

/-- A text cut before its last line. The text ends with a line end. -/
def splitLastLine (text : List Char) : List Char × List Char :=
  let body := text.dropLast
  let last := (body.reverse.takeWhile (· != '\n')).reverse
  (body.take (body.length - last.length), last)

/-- What an attempt to begin a table does to the line. -/
inductive TableStep where
  | none
  | refused
  | opened (state : LineState)

/-- Makes a table of the paragraph's last line if this line is its delimiter row; earlier lines stay
    a paragraph. -/
def openTable (s : LineState) (paragraph : Frame) (rest : Spine) : TableStep :=
  if paragraph.tableRefused || !isDelimiterRow s.cursor.content then .none
  else
    let (before, last) := splitLastLine paragraph.text
    match tableRow? s.cursor.content, tableRow? last with
    | some delimiters, some header =>
      if header.length ≠ delimiters.length then .refused
      else
        let before := trimSpace (unescapePipes before)
        let preface := if before.isEmpty then [] else [Block.mk .paragraph before false []]
        let table : Frame :=
          { kind := .table header.length 0, children := [rowBlock header], line := paragraph.line }
        let rest := match rest with
          | parent :: above => { parent with children := preface ++ parent.children } :: above
          | [] => []
        .opened { s with spine := table :: rest, cursor := s.cursor.toEnd, opened := true }
    | _, _ => .refused

/-- Adds a row to a table, brought to the table's number of columns. -/
def addRow (s : LineState) (columns filled : Nat) : Option LineState :=
  if s.cursor.isBlank || maxFilledCells < filled then none
  else
    (tableRow? s.cursor.content).map fun cells =>
      let given := cells.take columns
      let missing := columns - given.length
      let row := rowBlock (given ++ List.replicate missing [])
      let s := s.closeUnmatched.mapContainer fun f =>
        { f with kind := .table columns (filled + missing), children := row :: f.children }
      { s with cursor := s.cursor.toEnd, opened := true, isRow := true }

/-- One attempt to open a block. -/
inductive Opening where
  | opened (state : LineState)
  /-- No block begins here. -/
  | none (state : LineState)

/-- Opens the block that begins at the cursor, if one does. `depth` counts the blocks that the line
    has opened; `lazy` tells that the line may continue a paragraph that it did not match. -/
def openNext (depth : Nat) (lazy : Bool) (s : LineState) : Opening :=
  let indented := s.isIndented
  let content := s.cursor.content
  let inParagraph := s.container.isParagraph
  let quote := if indented then none else quoteMark? s.cursor
  match quote with
  | some cursor => .opened { s.openBlock .quote with cursor }
  | none =>
  match if indented then none else atxLevel? content with
  | some level =>
    .opened { s.openBlock (.heading level false) with cursor := s.cursor.toContent.skipChars level }
  | none =>
  match if indented then none else openingFence? content with
  | some (mark, length) =>
    .opened { s.openBlock (.fenced mark length s.cursor.indent) with
      cursor := s.cursor.toContent.skipChars length }
  | none =>
  match if indented then none else Html.blockStart? inParagraph content with
  | some kind => .opened (s.openBlock (.html kind))
  | none =>
  match if indented || !inParagraph then none else underlineLevel? content with
  | some level =>
    let text := (s.spine.head?.map (·.text)).getD []
    let (found, text) := definitions text
    let s := { s with references := s.references ++ found, opened := true }
    if isBlankLine text then .opened (s.mapContainer ({ · with text }))
    else
      .opened { s.mapContainer ({ · with kind := .heading level true, text }) with
        cursor := s.cursor.toEnd }
  | none =>
  if !indented && isThematicBreak content then
    .opened { s.openBlock .thematicBreak with cursor := s.cursor.toEnd }
  else
  match if indented || maxOpenings ≤ depth then none else listMarker? inParagraph content with
  | some (marker, length, _) =>
    let (cursor, width) := itemContent length s.cursor.toContent
    let indent := s.cursor.indent + width
    let s := match s.container with
      | .list m _ => if m = marker then s.closeUnmatched else s.openBlock (.list marker true)
      | _ => s.openBlock (.list marker true)
    .opened { s.openBlock (.item indent) with cursor }
  | none =>
  if indented && !lazy && !s.cursor.isBlank then
    .opened { s.openBlock .indentedCode with cursor := s.cursor.skipColumns 4 }
  else if indented then .none s
  else
    match s.spine, s.container with
    | paragraph :: rest, .paragraph =>
      match openTable s paragraph rest with
      | .none => .none s
      | .refused => .none (s.mapContainer ({ · with tableRefused := true }))
      | .opened s => .opened s
    | _, .table columns filled =>
      match addRow s columns filled with
      | some s => .opened s
      | none => .none s
    | _, _ => .none s

/-- Opens all blocks that begin on a line, outermost first; `fuel` bounds their number. -/
def openAll : Nat → Nat → Bool → LineState → LineState
  | 0, _, _, s => s
  | fuel + 1, depth, lazy, s =>
    if s.container.isVerbatim then s
    else
      match openNext depth lazy s with
      | .none s => s
      | .opened s =>
        if s.container.takesLines then s else openAll fuel (depth + 1) false s

/-! ## Text -/

/-- A line's text without the marks that close a heading. -/
def withoutClosingMarks (cs : List Char) : List Char :=
  let trimmed := trimSpaceEnd cs
  let kept := (trimmed.reverse.dropWhile (· == '#')).reverse
  if kept.length = trimmed.length then trimmed
  else match kept.getLast? with
    | none => []
    | some c => if isBlank c then trimSpaceEnd kept else trimmed

def Frame.addLine (f : Frame) (cs : List Char) : Frame := { f with text := f.text ++ cs ++ ['\n'] }

/-- Whether a blank line after this place counts as the block's own. -/
def keepsBlank (f : Frame) (hasChildren : Bool) (line : Nat) : Bool :=
  match f.kind with
  | .quote => false
  | .heading _ _ => false
  | .thematicBreak => false
  | .fenced _ _ _ => false
  | .item _ => hasChildren || f.line != line
  | _ => true

def Block.setBlankEnd : Block → Block
  | .mk kind text _ children => .mk kind text true children

/-- Notes a blank line on the block before the place that the line has reached. -/
def LineState.noteBlankBefore (s : LineState) : LineState :=
  match s.unmatched.reverse with
  | first :: below => { s with unmatched := ({ first with blankEnd := true } :: below).reverse }
  | [] => s.mapContainer fun f =>
    match f.children with
    | last :: others => { f with children := last.setBlankEnd :: others }
    | [] => f

/-- Notes on the innermost block whether it has reached a blank line, and on those around it that
    they have not. -/
def LineState.noteBlankWithin (s : LineState) : LineState :=
  match s.spine with
  | [] => s
  | f :: above =>
    let hasChildren := !f.children.isEmpty || !s.unmatched.isEmpty
    let f := { f with blankEnd := s.cursor.isBlank && keepsBlank f hasChildren s.line }
    { s with spine := f :: above.map ({ · with blankEnd := false }) }

/-- Notes blank lines. A table's row is no blank line, though all of it has been read. -/
def LineState.noteBlanks (s : LineState) : LineState :=
  if s.isRow then { s with spine := s.spine.map ({ · with blankEnd := false }) }
  else if s.cursor.isBlank then s.noteBlankBefore.noteBlankWithin
  else s.noteBlankWithin

/-- Puts the rest of a line where it belongs. -/
def placeText (s : LineState) : LineState :=
  let s := s.noteBlanks
  match s.unmatched with
  | tip :: below =>
    if tip.kind.isParagraph && !s.opened && !s.cursor.isBlank then
      { s with unmatched := tip.addLine s.cursor.text :: below }
    else finishText s.closeUnmatched
  | [] => finishText s
where
  /-- The text of a line that continues no unmatched paragraph. -/
  finishText (s : LineState) : LineState :=
    match s.container with
    | .fenced _ _ _ => s.mapContainer (·.addLine s.cursor.text)
    | .indentedCode => s.mapContainer (·.addLine s.cursor.text)
    | .html kind =>
      let s := s.mapContainer (·.addLine s.cursor.text)
      if Html.endsBlock kind s.cursor.content then
        let (spine, references) := closeOne s.spine s.references
        { s with spine, references }
      else s
    | .paragraph =>
      if s.cursor.isBlank then s else s.mapContainer (·.addLine s.cursor.content)
    | .heading _ _ =>
      if s.cursor.isBlank then s
      else s.mapContainer (·.addLine (withoutClosingMarks s.cursor.content))
    | _ =>
      if s.cursor.isBlank then s
      else
        let cursor := s.cursor
        (s.openBlock .paragraph).mapContainer (·.addLine cursor.content)

/-! ## Lines and texts -/

/-- Reads one line. -/
def readLine (state : BlockState) (cs : List Char) : BlockState :=
  let line := state.line + 1
  match state.spine.reverse with
  | [] => state
  | document :: inner =>
    let m := matchFrames inner ⟨cs, 0, false⟩
    if m.closesNext then
      let (spine, references) :=
        closeMany (inner.length - m.count) state.spine state.references
      ⟨spine, references, line⟩
    else
      let spine := (document :: inner.take m.count).reverse
      let unmatched := (inner.drop m.count).reverse
      let lazy := (state.spine.head?.map (·.kind.isParagraph)).getD false
      let s : LineState :=
        { spine, unmatched, references := state.references, cursor := m.cursor, line }
      let s := openAll (cs.length + 2) 1 lazy s
      let s := placeText s
      ⟨s.unmatched ++ s.spine, s.references, line⟩

/-- The blocks of a text and its link references. -/
def readBlocks (source : List Char) : Block × List Reference :=
  let start : BlockState := { spine := [{ kind := .document, line := 0 }] }
  let state := (splitLines source).foldl readLine start
  let (spine, references) := closeMany state.spine.length state.spine state.references
  match spine with
  | document :: _ =>
    match document.finish with
    | (some block, _) => (block, references)
    | (none, _) => (.mk .document [] false [], references)
  | [] => (.mk .document [] false [], references)

end DocMark.Markdown
