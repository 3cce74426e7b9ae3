-- SUMMARY: How the structured document looks in JSON, as a schema, and documents as its contents.
import DocMark.Document.Model
import DocMark.Json.Schema

/-!
# Documents in JSON

Every member of the document model may be missing and then has a default. Optional members,
style flags that are not set and an empty document id are not written.
-/
namespace DocMark.Document

open Json

/-- The parts of the model that are JSON objects. -/
inductive Record where
  | document
  | body
  | structuralElement
  | paragraph
  | paragraphStyle
  | bullet
  | paragraphElement
  | textRun
  | textStyle
  | link
  | table
  | tableRow
  | tableCell
deriving DecidableEq, Inhabited, Repr

/-- The defaults of the records that are members of others. -/
def emptyList : Datum := .list []

def emptyBody : Datum := .record [emptyList]

def emptyParagraphStyle : Datum := .record [.text ""]

def emptyTextStyle : Datum := .record [.flag false, .flag false, .flag false, .flag false, .absent]

def layout : Schema Record
  | .document => .record "Document"
    [⟨"documentId", .text, false, some (.text ""), .empty⟩,
     .defaulted "title" .text (.text ""),
     .defaulted "body" (.one .body) emptyBody]
  | .body => .record "Body" [.defaulted "content" (.many .structuralElement) emptyList]
  | .structuralElement => .record "StructuralElement"
    [.optional "startIndex" .index, .optional "endIndex" .index,
     .optional "paragraph" (.one .paragraph), .optional "table" (.one .table)]
  | .paragraph => .record "Paragraph"
    [.defaulted "elements" (.many .paragraphElement) emptyList,
     .defaulted "paragraphStyle" (.one .paragraphStyle) emptyParagraphStyle,
     .optional "bullet" (.one .bullet)]
  | .paragraphStyle => .record "ParagraphStyle"
    [.defaulted "namedStyleType" .text (.text "")]
  | .bullet => .record "Bullet"
    [.defaulted "listId" .text (.text ""), .optional "nestingLevel" .index]
  | .paragraphElement => .record "ParagraphElement"
    [.optional "startIndex" .index, .optional "endIndex" .index,
     .optional "textRun" (.one .textRun)]
  | .textRun => .record "TextRun"
    [.defaulted "content" .text (.text ""),
     .defaulted "textStyle" (.one .textStyle) emptyTextStyle]
  | .textStyle => .record "TextStyle"
    [.setFlag "bold", .setFlag "italic", .setFlag "strikethrough", .setFlag "underline",
     .optional "link" (.one .link)]
  | .link => .record "Link" [.defaulted "url" .text (.text "")]
  | .table => .record "Table" [.defaulted "tableRows" (.many .tableRow) emptyList]
  | .tableRow => .record "TableRow" [.defaulted "tableCells" (.many .tableCell) emptyList]
  | .tableCell => .record "TableCell" [.defaulted "content" (.many .structuralElement) emptyList]

/-! ## Contents of the parts -/

def optionalDatum {α : Type} (f : α → Datum) : Option α → Datum
  | none => .absent
  | some a => f a

def optionalOf {α : Type} (f : Datum → α) : Datum → Option α
  | .absent => none
  | d => some (f d)

def textOf : Datum → String
  | .text s => s
  | _ => ""

def flagOf : Datum → Bool
  | .flag b => b
  | _ => false

def indexOf : Datum → Nat
  | .index n => n
  | _ => 0

def elementsOf : Datum → List Datum
  | .list ds => ds
  | _ => []

def Link.toDatum (l : Link) : Datum := .record [.text l.url]

def Link.ofDatum : Datum → Link
  | .record [url] => ⟨textOf url⟩
  | _ => {}

def TextStyle.toDatum (s : TextStyle) : Datum :=
  .record [.flag s.bold, .flag s.italic, .flag s.strikethrough, .flag s.underline,
    optionalDatum Link.toDatum s.link]

def TextStyle.ofDatum : Datum → TextStyle
  | .record [bold, italic, strikethrough, underline, link] =>
    ⟨flagOf bold, flagOf italic, flagOf strikethrough, flagOf underline,
      optionalOf Link.ofDatum link⟩
  | _ => {}

def TextRun.toDatum (r : TextRun) : Datum := .record [.text r.content, r.textStyle.toDatum]

def TextRun.ofDatum : Datum → TextRun
  | .record [content, style] => ⟨textOf content, .ofDatum style⟩
  | _ => {}

def ParagraphElement.toDatum (e : ParagraphElement) : Datum :=
  .record [optionalDatum .index e.startIndex, optionalDatum .index e.endIndex,
    optionalDatum TextRun.toDatum e.textRun]

def ParagraphElement.ofDatum : Datum → ParagraphElement
  | .record [start, stop, run] =>
    ⟨optionalOf indexOf start, optionalOf indexOf stop, optionalOf TextRun.ofDatum run⟩
  | _ => {}

def ParagraphStyle.toDatum (s : ParagraphStyle) : Datum := .record [.text s.namedStyleType]

def ParagraphStyle.ofDatum : Datum → ParagraphStyle
  | .record [name] => ⟨textOf name⟩
  | _ => {}

def Bullet.toDatum (b : Bullet) : Datum :=
  .record [.text b.listId, optionalDatum .index b.nestingLevel]

def Bullet.ofDatum : Datum → Bullet
  | .record [id, level] => ⟨textOf id, optionalOf indexOf level⟩
  | _ => {}

def Paragraph.toDatum (p : Paragraph) : Datum :=
  .record [.list (p.elements.map ParagraphElement.toDatum), p.paragraphStyle.toDatum,
    optionalDatum Bullet.toDatum p.bullet]

def Paragraph.ofDatum : Datum → Paragraph
  | .record [elements, style, bullet] =>
    ⟨(elementsOf elements).map ParagraphElement.ofDatum, .ofDatum style,
      optionalOf Bullet.ofDatum bullet⟩
  | _ => {}

mutual

def StructuralElement.toDatum : StructuralElement → Datum
  | ⟨start, stop, paragraph, none⟩ =>
    .record [optionalDatum .index start, optionalDatum .index stop,
      optionalDatum Paragraph.toDatum paragraph, .absent]
  | ⟨start, stop, paragraph, some table⟩ =>
    .record [optionalDatum .index start, optionalDatum .index stop,
      optionalDatum Paragraph.toDatum paragraph, table.toDatum]

def Table.toDatum : Table → Datum
  | ⟨rows⟩ => .record [.list (rowsToData rows)]

def rowsToData : List TableRow → List Datum
  | [] => []
  | ⟨cells⟩ :: rows => .record [.list (cellsToData cells)] :: rowsToData rows

def cellsToData : List TableCell → List Datum
  | [] => []
  | ⟨content⟩ :: cells => .record [.list (contentToData content)] :: cellsToData cells

def contentToData : List StructuralElement → List Datum
  | [] => []
  | e :: es => e.toDatum :: contentToData es

end

mutual

def StructuralElement.ofDatum : Datum → StructuralElement
  | .record [start, stop, paragraph, table] =>
    ⟨optionalOf indexOf start, optionalOf indexOf stop, optionalOf Paragraph.ofDatum paragraph,
      tableOfMember table⟩
  | _ => default

/-- The table of a member that may be absent. -/
def tableOfMember : Datum → Option Table
  | .absent => none
  | .record [.list rows] => some ⟨rowsOfData rows⟩
  | _ => some default

def rowsOfData : List Datum → List TableRow
  | [] => []
  | .record [.list cells] :: rows => ⟨cellsOfData cells⟩ :: rowsOfData rows
  | _ :: rows => default :: rowsOfData rows

def cellsOfData : List Datum → List TableCell
  | [] => []
  | .record [.list content] :: cells => ⟨contentOfData content⟩ :: cellsOfData cells
  | _ :: cells => default :: cellsOfData cells

def contentOfData : List Datum → List StructuralElement
  | [] => []
  | d :: ds => StructuralElement.ofDatum d :: contentOfData ds

end

def Table.ofDatum (d : Datum) : Table := (tableOfMember d).getD default

def toDatum (d : Document) : Datum :=
  .record [.text d.documentId, .text d.title, .record [.list (contentToData d.body.content)]]

def ofDatum : Datum → Document
  | .record [id, title, .record [.list content]] =>
    ⟨textOf id, textOf title, ⟨contentOfData content⟩⟩
  | _ => {}

/-! ## Texts -/

def toJson (d : Document) : Value := layout.write .document d.toDatum

/-- The document that a text holds. -/
def fromJson? (text : String) : Except ReadError Document := do
  .ok (ofDatum (← layout.read .document text))

/-- Why a text holds no document. -/
def refusalMessage (e : ReadError) : String := "Document error: " ++ e.message

end DocMark.Document
