-- SUMMARY: Pipe table rows: cutting a line into cells, and recognising the delimiter row.
import DocMark.Markdown.Chars

/-!
# Table rows

A line is cut at its pipes; one at either end belongs to the frame. A pipe right after a backslash
is part of its cell, where the backslash is dropped. A delimiter row consists of hyphens with
optional colons at their ends.
-/
namespace DocMark.Markdown

/-- The blanks that may surround a pipe. -/
def isTableBlank (c : Char) : Bool :=
  c == ' ' || c == '\t' || c == '\x0b' || c == '\x0c'

/-- Every backslash before a pipe dropped. -/
def unescapePipes : List Char → List Char
  | '\\' :: '|' :: cs => '|' :: unescapePipes cs
  | c :: cs => c :: unescapePipes cs
  | [] => []

/-- The greatest number of cells in a row. -/
def maxCells : Nat := 65535

/-- Cells of a line, where `cell` is the one in progress, reversed, and `afterPipe` tells that only
    blanks have come since the last pipe. The last cell counts only if it holds something. -/
def cellsFrom (afterPipe : Bool) (cell : List Char) : List Char → List (List Char)
  | [] => if cell.isEmpty then [] else [cell.reverse]
  | c :: cs =>
    if c = '|' then
      if cell.head? == some '\\' then cellsFrom false (c :: cell) cs
      else cell.reverse :: cellsFrom true [] cs
    else if afterPipe && isTableBlank c then cellsFrom true [] cs
    else cellsFrom false (c :: cell) cs

/-- The cells of a line, or nothing if it has none. -/
def tableRow? (line : List Char) : Option (List (List Char)) :=
  let cells := match line with
    | '|' :: cs => cellsFrom true [] cs
    | _ => cellsFrom false [] line
  let cells := cells.map fun cell => trimSpace (unescapePipes cell)
  if cells.isEmpty || maxCells < cells.length then none else some cells

/-- One cell of a delimiter row and the blanks around it. -/
def afterDelimiter? (cs : List Char) : Option (List Char) :=
  let cs := cs.dropWhile isTableBlank
  let cs := if cs.head? == some ':' then cs.drop 1 else cs
  if cs.head? == some '-' then
    let cs := cs.dropWhile (· == '-')
    let cs := if cs.head? == some ':' then cs.drop 1 else cs
    some (cs.dropWhile isTableBlank)
  else none

/-- Whether cells of a delimiter row follow up to the end; `fuel` bounds their number. -/
def endsInDelimiters : Nat → List Char → Bool
  | 0, _ => false
  | fuel + 1, cs =>
    match afterDelimiter? cs with
    | none => false
    | some [] => true
    | some ('|' :: rest) => (rest.all isTableBlank) || endsInDelimiters fuel rest
    | some _ => false

/-- Whether a line is a delimiter row. -/
def isDelimiterRow (line : List Char) : Bool :=
  let inner := match line with
    | '|' :: cs => cs
    | _ => line
  endsInDelimiters (inner.length + 1) inner

end DocMark.Markdown
