-- SUMMARY: Edit requests as a document service takes them, and their JSON form.
import DocMark.Document.Layout
import DocMark.Edit.Operation

/-!
# Requests

An operation becomes one request; ranges become half-open. In JSON a request is an object with
one member named after its kind, and a batch is an object with the list of its requests. All
members of a request are required.
-/
namespace DocMark.Edit

open Document Json

/-- The indices from `startIndex` up to, not including, `endIndex`. -/
structure Range where
  startIndex : Nat
  endIndex : Nat
deriving DecidableEq, Inhabited, Repr

def StyleRange.toRange (r : StyleRange) : Range := ⟨r.start, r.stop⟩

inductive Request where
  | insertText (text : String) (index : Nat)
  | updateParagraphStyle (style : ParagraphStyle) (range : Range) (fields : String)
  | createParagraphBullets (preset : String) (range : Range)
  | updateTextStyle (style : TextStyle) (range : Range) (fields : String)
deriving DecidableEq, Inhabited, Repr

namespace Request

def kind : Request → String
  | .insertText _ _ => "insertText"
  | .updateParagraphStyle _ _ _ => "updateParagraphStyle"
  | .createParagraphBullets _ _ => "createParagraphBullets"
  | .updateTextStyle _ _ _ => "updateTextStyle"

def ofOperation : Operation → Request
  | .insertText text index => .insertText text index
  | .setParagraphStyle range name => .updateParagraphStyle ⟨name⟩ range.toRange "namedStyleType"
  | .setBulletList range preset => .createParagraphBullets preset range.toRange
  | .setLink range url => .updateTextStyle (.ofLink url) range.toRange "link"

end Request

structure Batch where
  requests : List Request
deriving DecidableEq, Inhabited, Repr

def Batch.ofOperations (operations : List Operation) : Batch :=
  ⟨operations.map Request.ofOperation⟩

/-! ## Layout -/

/-- The parts of a batch that are JSON objects. -/
inductive RequestRecord where
  | batch
  | request
  | insertText
  | updateParagraphStyle
  | createParagraphBullets
  | updateTextStyle
  | location
  | range
  | model (part : Record)
deriving DecidableEq, Inhabited, Repr

def requestLayout : Schema RequestRecord
  | .batch => .record "BatchUpdateRequest" [.required "requests" (.many .request)]
  | .request => .choice
    [("insertText", .insertText), ("updateParagraphStyle", .updateParagraphStyle),
     ("createParagraphBullets", .createParagraphBullets), ("updateTextStyle", .updateTextStyle)]
  | .insertText => .record "InsertTextRequest"
    [.required "text" .text, .required "location" (.one .location)]
  | .updateParagraphStyle => .record "UpdateParagraphStyleRequest"
    [.required "paragraphStyle" (.one (.model .paragraphStyle)),
     .required "range" (.one .range), .required "fields" .text]
  | .createParagraphBullets => .record "CreateParagraphBulletsRequest"
    [.required "bulletPreset" .text, .required "range" (.one .range)]
  | .updateTextStyle => .record "UpdateTextStyleRequest"
    [.required "textStyle" (.one (.model .textStyle)),
     .required "range" (.one .range), .required "fields" .text]
  | .location => .record "Location" [.required "index" .index]
  | .range => .record "Range" [.required "startIndex" .index, .required "endIndex" .index]
  | .model part => (layout part).map .model

/-! ## Contents -/

def Range.toDatum (r : Range) : Datum := .record [.index r.startIndex, .index r.endIndex]

def Range.ofDatum : Datum → Range
  | .record [start, stop] => ⟨indexOf start, indexOf stop⟩
  | _ => default

def Request.toDatum : Request → Datum
  | .insertText text index => .choice 0 (.record [.text text, .record [.index index]])
  | .updateParagraphStyle style range fields =>
    .choice 1 (.record [style.toDatum, range.toDatum, .text fields])
  | .createParagraphBullets preset range => .choice 2 (.record [.text preset, range.toDatum])
  | .updateTextStyle style range fields =>
    .choice 3 (.record [style.toDatum, range.toDatum, .text fields])

def Request.ofDatum : Datum → Request
  | .choice 0 (.record [text, .record [index]]) => .insertText (textOf text) (indexOf index)
  | .choice 1 (.record [style, range, fields]) =>
    .updateParagraphStyle (.ofDatum style) (.ofDatum range) (textOf fields)
  | .choice 2 (.record [preset, range]) => .createParagraphBullets (textOf preset) (.ofDatum range)
  | .choice 3 (.record [style, range, fields]) =>
    .updateTextStyle (.ofDatum style) (.ofDatum range) (textOf fields)
  | _ => default

def Batch.toDatum (b : Batch) : Datum := .record [.list (b.requests.map Request.toDatum)]

def Batch.ofDatum : Datum → Batch
  | .record [requests] => ⟨(elementsOf requests).map Request.ofDatum⟩
  | _ => ⟨[]⟩

/-! ## Texts -/

def Request.toJson (r : Request) : Value := requestLayout.write .request r.toDatum

def Request.fromJson? (text : String) : Except ReadError Request := do
  .ok (.ofDatum (← requestLayout.read .request text))

/-- The request that a value holds. -/
def Request.ofValue? (v : Value) : Except ReadError Request := do
  .ok (.ofDatum (← requestLayout.ofValue .request v))

def Batch.toJson (b : Batch) : Value := requestLayout.write .batch b.toDatum

def Batch.fromJson? (text : String) : Except ReadError Batch := do
  .ok (.ofDatum (← requestLayout.read .batch text))

end DocMark.Edit
