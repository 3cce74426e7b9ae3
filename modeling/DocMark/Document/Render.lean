-- SUMMARY: Structured documents as Markdown: text runs, paragraphs, pipe tables and whole documents.
import DocMark.Document.Model
import DocMark.Log
import DocMark.Text.Blank

/-!
# Rendering

A document becomes a list of lines: its title, then for each paragraph one line per text run,
and for each table one line per row with a rule under the first. A paragraph outside lists and
a table are followed by an extra line end.
-/
namespace DocMark.Document

/-- A run with its style as Markdown marks: bold innermost, then italic, strikethrough,
    underline and link. Only a run without a link is underlined. White space around the finished
    text is dropped. -/
def renderRun (run : TextRun) : String :=
  let style := run.textStyle
  let text := run.content
  let text := if style.bold then "**" ++ text ++ "**" else text
  let text := if style.italic then "*" ++ text ++ "*" else text
  let text := if style.strikethrough then "~~" ++ text ++ "~~" else text
  let text := if style.underline && style.link.isNone then "<u>" ++ text ++ "</u>" else text
  let text := match style.link with
    | some link => "[" ++ text ++ "](" ++ link.url ++ ")"
    | none => text
  String.ofList (Text.trim text.toList)

def renderRuns (runs : List TextRun) : String := String.join (runs.map renderRun)

def bulletMarker : String := "* "

def renderParagraph (p : Paragraph) : List String :=
  let marker := markdownMarker p.paragraphStyle.namedStyleType
  let lines := p.runs.map fun run =>
    let text := renderRun run
    if p.isListItem && !text.isEmpty then marker ++ bulletMarker ++ text else marker ++ text
  if p.isListItem then lines else lines ++ ["\n"]

/-- The paragraphs of a cell on one line; other blocks are left out. -/
def renderCell (cell : TableCell) : String :=
  " ".intercalate (cell.content.filterMap fun e =>
    match e.block with
    | .paragraph p => some (String.ofList (Text.trimEnd (" ".intercalate (renderParagraph p)).toList))
    | _ => none)

def renderRow (row : TableRow) : String :=
  "| " ++ " | ".intercalate (row.tableCells.map renderCell) ++ " |"

/-- The line under the first row. -/
def tableRule (columns : Nat) : String := "|" ++ String.join (List.replicate columns " --- |")

def renderTable (t : Table) : List String :=
  match t.tableRows with
  | [] => ["\n"]
  | first :: rest =>
    renderRow first :: tableRule first.tableCells.length :: (rest.map renderRow ++ ["\n"])

def renderElement (e : StructuralElement) : List String :=
  match e.block with
  | .paragraph p => renderParagraph p
  | .table t => renderTable t
  | .other => []

def render (d : Document) : String :=
  "\n".intercalate (("# " ++ d.title) :: d.body.content.flatMap renderElement)

/-- The log of rendering: one event per element that is neither paragraph nor table. -/
def renderLog (d : Document) : List Log.Event :=
  d.body.content.filterMap fun e =>
    match e.block with
    | .other => some ⟨.trace, "skipping non-paragraph, non-table block", []⟩
    | _ => none

end DocMark.Document
