-- SUMMARY: Edit operations: text insertions and range styles, addressed by document index.

/-!
# Edit operations

Indices count UTF-16 code units from `1`. An operation's indices refer to the document as it
stands after all earlier insertions, so a list of operations has a meaning only in order.
-/
namespace DocMark.Edit

/-- The indices from `start` to `last`, both included. -/
structure StyleRange where
  start : Nat
  last : Nat
deriving DecidableEq, Inhabited, Repr

namespace StyleRange

/-- The index just after the range. -/
def stop (r : StyleRange) : Nat := r.last + 1

def isWellFormed (r : StyleRange) : Bool := 1 ≤ r.start && r.start ≤ r.last

def display (r : StyleRange) : String := toString r.start ++ "..=" ++ toString r.last

end StyleRange

inductive Operation where
  | insertText (text : String) (index : Nat)
  | setParagraphStyle (range : StyleRange) (styleName : String)
  | setBulletList (range : StyleRange) (preset : String)
  | setLink (range : StyleRange) (url : String)
deriving DecidableEq, Inhabited, Repr

namespace Operation

/-- The range of a style operation; an insertion has none. -/
def range? : Operation → Option StyleRange
  | .insertText _ _ => none
  | .setParagraphStyle r _ => some r
  | .setBulletList r _ => some r
  | .setLink r _ => some r

def name : Operation → String
  | .insertText _ _ => "insert_text"
  | .setParagraphStyle _ _ => "set_paragraph_style"
  | .setBulletList _ _ => "set_bullet_list"
  | .setLink _ _ => "set_link"

end Operation

end DocMark.Edit
