-- SUMMARY: The structured document: paragraphs of text runs, tables of cells, and what else a body holds.
import DocMark.Document.NamedStyle

/-!
# Structured documents

A document has a title and a body of structural elements. An element is a paragraph, a table
or something else, and a table's cells hold elements again. `StructuralElement.block` and
`ParagraphElement.inline` give the closed view of an element; a paragraph wins over a table.
-/
namespace DocMark.Document

structure Link where
  url : String := ""
deriving DecidableEq, Inhabited, Repr

structure TextStyle where
  bold : Bool := false
  italic : Bool := false
  strikethrough : Bool := false
  underline : Bool := false
  link : Option Link := none
deriving DecidableEq, Inhabited, Repr

/-- The style of text that carries a link and nothing else. -/
def TextStyle.ofLink (url : String) : TextStyle := { link := some ⟨url⟩ }

structure TextRun where
  content : String := ""
  textStyle : TextStyle := {}
deriving DecidableEq, Inhabited, Repr

structure ParagraphElement where
  startIndex : Option Nat := none
  endIndex : Option Nat := none
  textRun : Option TextRun := none
deriving DecidableEq, Inhabited, Repr

def ParagraphElement.ofRun (run : TextRun) : ParagraphElement := { textRun := some run }

inductive Inline where
  | textRun (run : TextRun)
  | other
deriving DecidableEq, Inhabited, Repr

def ParagraphElement.inline (e : ParagraphElement) : Inline :=
  match e.textRun with
  | some run => .textRun run
  | none => .other

structure ParagraphStyle where
  namedStyleType : String := ""
deriving DecidableEq, Inhabited, Repr

structure Bullet where
  listId : String := ""
  nestingLevel : Option Nat := none
deriving DecidableEq, Inhabited, Repr

structure Paragraph where
  elements : List ParagraphElement := []
  paragraphStyle : ParagraphStyle := {}
  bullet : Option Bullet := none
deriving DecidableEq, Inhabited, Repr

namespace Paragraph

/-- A paragraph with one element per run. -/
def ofRuns (styleName : String) (runs : List TextRun) : Paragraph :=
  { elements := runs.map .ofRun, paragraphStyle := ⟨styleName⟩ }

def withBullet (p : Paragraph) (bullet : Bullet) : Paragraph := { p with bullet := some bullet }

def isListItem (p : Paragraph) : Bool := p.bullet.isSome

/-- The text runs of a paragraph as `inline` shows them, other elements left out. -/
def runs (p : Paragraph) : List TextRun :=
  p.elements.filterMap fun e =>
    match e.inline with
    | .textRun run => some run
    | .other => none

end Paragraph

mutual

structure Table where
  tableRows : List TableRow

structure TableRow where
  tableCells : List TableCell

structure TableCell where
  content : List StructuralElement

structure StructuralElement where
  startIndex : Option Nat := none
  endIndex : Option Nat := none
  paragraph : Option Paragraph := none
  table : Option Table := none

end

instance : Inhabited StructuralElement := ⟨⟨none, none, none, none⟩⟩

instance : Inhabited TableCell := ⟨⟨[]⟩⟩

instance : Inhabited TableRow := ⟨⟨[]⟩⟩

instance : Inhabited Table := ⟨⟨[]⟩⟩

inductive Block where
  | paragraph (paragraph : Paragraph)
  | table (table : Table)
  | other

namespace StructuralElement

def ofParagraph (p : Paragraph) : StructuralElement := ⟨none, none, some p, none⟩

def ofTable (t : Table) : StructuralElement := ⟨none, none, none, some t⟩

def block (e : StructuralElement) : Block :=
  match e.paragraph, e.table with
  | some p, _ => .paragraph p
  | none, some t => .table t
  | none, none => .other

end StructuralElement

/-- A table in which every cell holds one paragraph of normal text. -/
def Table.ofTextRows (rows : List (List String)) : Table :=
  ⟨rows.map fun cells => ⟨cells.map fun text =>
    ⟨[.ofParagraph (.ofRuns "NORMAL_TEXT" [⟨text ++ "\n", {}⟩])]⟩⟩⟩

structure Body where
  content : List StructuralElement := []
deriving Inhabited

end DocMark.Document

namespace DocMark

structure Document where
  documentId : String := ""
  title : String := ""
  body : Document.Body := {}
deriving Inhabited

/-- A document without an id. -/
def Document.ofContent (title : String) (content : List Document.StructuralElement) : Document :=
  { title := title, body := ⟨content⟩ }

end DocMark
