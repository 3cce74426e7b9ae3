-- SUMMARY: A document kept in memory as a sequence of code units, and the requests it accepts.
import DocMark.Edit.Request
import DocMark.Log
import DocMark.Text.Blank
import DocMark.Text.Utf16

/-!
# Local documents

A local document is a sequence of UTF-16 code units, indexed from `1`. Every paragraph ends with
a line feed, its terminator, which carries the paragraph's style and bullet; every unit may carry
a link. A new document is a single empty paragraph.

`apply` carries out one request or says why not. `update` carries out a list of requests as one
change: all of them, or none.
-/
namespace DocMark.Service

open Document Edit

structure ParagraphAttributes where
  style : NamedStyle := .normalText
  bullet : Option Bullet := none
deriving DecidableEq, Inhabited, Repr

structure CodeUnit where
  code : UInt16
  link : Option String := none
  /-- The attributes of the paragraph that the unit ends. -/
  paragraph : Option ParagraphAttributes := none
deriving DecidableEq, Inhabited, Repr

namespace CodeUnit

def lineFeed : UInt16 := 10

def terminator (attributes : ParagraphAttributes) : CodeUnit :=
  { code := lineFeed, paragraph := some attributes }

def isTerminator (u : CodeUnit) : Bool := u.code == lineFeed

def isLowHalf (u : CodeUnit) : Bool := Text.Utf16.isLow u.code

end CodeUnit

/-- Why a request is refused. -/
inductive Refusal where
  | emptyText
  | indexOutside (index endIndex : Nat)
  | splitsPair (index : Nat)
  | unknownStyle (name : String)
  | emptyPreset
  | emptyRange (startIndex endIndex : Nat)
deriving DecidableEq, Inhabited, Repr

def Refusal.message : Refusal → String
  | .emptyText => "Insert text requests must specify text to insert."
  | .indexOutside index endIndex =>
    "Index " ++ toString index ++ " must be between 1 and the end index of the segment, "
      ++ toString endIndex ++ "."
  | .splitsPair index =>
    "The insertion index " ++ toString index ++ " cannot split a surrogate pair."
  | .unknownStyle name => "Unknown named style type: " ++ name
  | .emptyPreset => "A bullet preset must be specified."
  | .emptyRange startIndex endIndex =>
    "Invalid range: start index " ++ toString startIndex ++ " must be less than end index "
      ++ toString endIndex ++ "."

/-- Why a list of requests is refused. -/
inductive Rejection where
  | unknownDocument (id : String)
  /-- The request at `position`, counted from zero, is refused. -/
  | request (position : Nat) (kind : String) (refusal : Refusal)
deriving DecidableEq, Inhabited, Repr

def Rejection.message : Rejection → String
  | .unknownDocument id => "Requested entity was not found: " ++ id
  | .request position kind refusal =>
    "Invalid requests[" ++ toString position ++ "]." ++ kind ++ ": " ++ refusal.message

structure LocalDocument where
  documentId : String
  title : String
  units : List CodeUnit
  listsCreated : Nat
  revision : Nat
deriving DecidableEq, Inhabited, Repr

namespace LocalDocument

/-- A document with one empty paragraph. -/
def new (documentId title : String) : LocalDocument :=
  ⟨documentId, title, [.terminator {}], 0, 0⟩

/-- The index of the last unit, which is the terminator of the last paragraph. -/
def endIndex (d : LocalDocument) : Nat := d.units.length

def codes (d : LocalDocument) : List UInt16 := d.units.map (·.code)

def text (d : LocalDocument) : String := String.ofList (Text.Utf16.decode d.codes)

/-! ## Positions -/

/-- The position of the first terminator at or after `position`; the last unit if there is none. -/
def terminatorFrom (units : List CodeUnit) (position : Nat) : Nat :=
  match (units.drop position).findIdx? (·.isTerminator) with
  | some offset => position + offset
  | none => units.length - 1

/-- The attributes of the paragraph that holds `position`. -/
def attributesAt (units : List CodeUnit) (position : Nat) : ParagraphAttributes :=
  ((units[terminatorFrom units position]?).bind (·.paragraph)).getD {}

def checkIndex (d : LocalDocument) (index : Nat) : Except Refusal Unit :=
  if index < 1 ∨ d.endIndex < index then .error (.indexOutside index d.endIndex) else .ok ()

/-- The positions of the first and the last unit of a range. -/
def checkRange (d : LocalDocument) (range : Range) : Except Refusal (Nat × Nat) := do
  if range.endIndex ≤ range.startIndex then
    .error (.emptyRange range.startIndex range.endIndex)
  else
    d.checkIndex range.startIndex
    d.checkIndex (range.endIndex - 1)
    .ok (range.startIndex - 1, range.endIndex - 2)

/-- Changes the units from position `first` to position `last`. -/
def mapBetween (first last : Nat) (f : CodeUnit → CodeUnit) (units : List CodeUnit) :
    List CodeUnit :=
  units.take first ++ ((units.drop first).take (last + 1 - first)).map f ++ units.drop (last + 1)

/-- Changes the attributes of the paragraphs that hold a unit from `first` to `last`. -/
def mapParagraphs (first last : Nat) (f : ParagraphAttributes → ParagraphAttributes)
    (units : List CodeUnit) : List CodeUnit :=
  mapBetween (terminatorFrom units first) (terminatorFrom units last)
    (fun u => if u.isTerminator then { u with paragraph := some (f (u.paragraph.getD {})) } else u)
    units

/-! ## Requests -/

/-- The units of an inserted text; its line feeds end paragraphs like the one it goes into. -/
def insertedUnits (text : String) (containing : ParagraphAttributes) : List CodeUnit :=
  (Text.Utf16.encode text.toList).map fun code =>
    { code, paragraph := if code == CodeUnit.lineFeed then some containing else none }

/-- Gives default attributes to the first of the units. -/
def resetFirst : List CodeUnit → List CodeUnit
  | [] => []
  | u :: us => { u with paragraph := some {} } :: us

/-- Inserts before the unit at `index`. A line feed inserted right before a terminator leaves that
    terminator the end of an empty paragraph, which starts afresh. -/
def insertText (d : LocalDocument) (text : String) (index : Nat) :
    Except Refusal LocalDocument := do
  if text.isEmpty then .error .emptyText
  else
    d.checkIndex index
    let position := index - 1
    let before := d.units.take position
    let after := d.units.drop position
    if after.head?.any (·.isLowHalf) then .error (.splitsPair index)
    else
      let splitsAtEnd := after.head?.any (·.isTerminator) && text.toList.contains '\n'
      let inserted := insertedUnits text (attributesAt d.units position)
      let after := if splitsAtEnd then resetFirst after else after
      .ok { d with units := before ++ inserted ++ after }

/-- Sets the style of all paragraphs that the range touches. -/
def updateParagraphStyle (d : LocalDocument) (style : ParagraphStyle) (range : Range) :
    Except Refusal LocalDocument := do
  match NamedStyle.parse? style.namedStyleType with
  | none => .error (.unknownStyle style.namedStyleType)
  | some named =>
    let (first, last) ← d.checkRange range
    .ok { d with units := mapParagraphs first last ({ · with style := named }) d.units }

/-- Makes all paragraphs that the range touches items of one new list. -/
def createParagraphBullets (d : LocalDocument) (preset : String) (range : Range) :
    Except Refusal LocalDocument := do
  if preset.isEmpty then .error .emptyPreset
  else
    let (first, last) ← d.checkRange range
    let bullet : Bullet := ⟨"list." ++ toString (d.listsCreated + 1), none⟩
    .ok { d with
      units := mapParagraphs first last ({ · with bullet := some bullet }) d.units
      listsCreated := d.listsCreated + 1 }

/-- Whether a comma-separated list of field names has the given one. -/
def namesField (fields name : String) : Bool :=
  (fields.toList.splitOn ',').any fun field => Text.trim field == name.toList

/-- Sets or removes the link of the units in the range, if the fields name it. -/
def updateTextStyle (d : LocalDocument) (style : TextStyle) (range : Range) (fields : String) :
    Except Refusal LocalDocument := do
  let (first, last) ← d.checkRange range
  if namesField fields "link" then
    let url := style.link.map (·.url)
    .ok { d with units := mapBetween first last ({ · with link := url }) d.units }
  else .ok d

def apply (d : LocalDocument) : Request → Except Refusal LocalDocument
  | .insertText text index => d.insertText text index
  | .updateParagraphStyle style range _ => d.updateParagraphStyle style range
  | .createParagraphBullets preset range => d.createParagraphBullets preset range
  | .updateTextStyle style range fields => d.updateTextStyle style range fields

/-- Carries out requests in order; `position` counts those before. -/
def applyFrom (position : Nat) : List Request → LocalDocument → Except Rejection LocalDocument
  | [], d => .ok d
  | r :: rs, d =>
    match d.apply r with
    | .ok d => applyFrom (position + 1) rs d
    | .error refusal => .error (.request position r.kind refusal)

/-- Carries out all requests as one revision of the document with the given id. -/
def update (d : LocalDocument) (documentId : String) (requests : List Request) :
    Except Rejection LocalDocument :=
  if documentId ≠ d.documentId then .error (.unknownDocument documentId)
  else do
    let d ← applyFrom 0 requests d
    .ok { d with revision := d.revision + 1 }

/-- What is logged about a list of requests that was carried out. -/
def updateEvent (d : LocalDocument) (documentId : String) (requests : List Request) : Log.Event :=
  ⟨.debug, "applied batch to local document",
    [("document_id", .text documentId), ("requests", .number requests.length),
     ("end_index", .number d.endIndex)]⟩

/-! ## Export -/

/-- The units cut after each terminator; what follows the last terminator is dropped. -/
def paragraphsAfter (current : List CodeUnit) : List CodeUnit → List (List CodeUnit)
  | [] => []
  | u :: us =>
    if u.isTerminator then (current ++ [u]) :: paragraphsAfter [] us
    else paragraphsAfter (current ++ [u]) us

/-- The paragraphs as lists of units, terminators included. -/
def paragraphs (d : LocalDocument) : List (List CodeUnit) := paragraphsAfter [] d.units

/-- The longest stretches of units with one link. -/
def stretches : List CodeUnit → List (Option String × List CodeUnit)
  | [] => []
  | u :: us =>
    match stretches us with
    | [] => [(u.link, [u])]
    | (link, stretch) :: rest =>
      if u.link = link then (link, u :: stretch) :: rest else (u.link, [u]) :: (link, stretch) :: rest

/-- Text runs for stretches of units, the first of which stands at `index`. -/
def runElements (index : Nat) : List (Option String × List CodeUnit) → List ParagraphElement
  | [] => []
  | (link, units) :: rest =>
    let content := String.ofList (Text.Utf16.decode (units.map (·.code)))
    let style : TextStyle := match link with
      | some url => .ofLink url
      | none => {}
    ⟨some index, some (index + units.length), some ⟨content, style⟩⟩
      :: runElements (index + units.length) rest

/-- The paragraph of units that start at `index`. -/
def exportParagraph (index : Nat) (units : List CodeUnit) : StructuralElement :=
  let attributes := (units.getLast?.bind (·.paragraph)).getD {}
  ⟨some index, some (index + units.length),
    some ⟨runElements index (stretches units), ⟨attributes.style.name⟩, attributes.bullet⟩, none⟩

def exportParagraphs (index : Nat) : List (List CodeUnit) → List StructuralElement
  | [] => []
  | units :: rest => exportParagraph index units :: exportParagraphs (index + units.length) rest

/-- The document as a structured document. -/
def toDocument (d : LocalDocument) : Document :=
  { Document.ofContent d.title (exportParagraphs 1 d.paragraphs) with documentId := d.documentId }

end LocalDocument

end DocMark.Service
