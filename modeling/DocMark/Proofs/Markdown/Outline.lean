-- SUMMARY: Trees of headings, paragraphs and lists, and the lines that one sees of them.
import Mathlib
import DocMark.Markdown.Node
import DocMark.Proofs.Text.Lines

/-!
# Outlines

The block trees are those of headings, paragraphs and lists, where a list has items, an item has
blocks, and every heading, paragraph and tight item text holds one line that is not blank. The
outline of such a tree has one line for each of these texts.
-/
namespace DocMark.Markdown.Node

open Text

/-! ## Block trees -/

mutual

/-- Text, or text that something without a meaning of its own encloses. -/
def isPlainInline : Node → Bool
  | .text _ => true
  | .other _ cs => arePlainInline cs
  | _ => false

def arePlainInline : List Node → Bool
  | [] => true
  | n :: ns => n.isPlainInline && arePlainInline ns

end

/-- Whether nodes hold plain text that makes one line and is not blank. -/
def holdLine (cs : List Node) : Bool :=
  arePlainInline cs && !(plainTextAll cs).toList.contains '\n'
    && !(trim (plainTextAll cs).toList).isEmpty

theorem holdLine_iff {cs : List Node} :
    holdLine cs = true ↔ arePlainInline cs = true ∧ '\n' ∉ (plainTextAll cs).toList
      ∧ trim (plainTextAll cs).toList ≠ [] := by
  simp [holdLine, and_assoc]

/-- The text of a tight item, which may only come first in it. -/
def isItemText : Node → Bool
  | .textBlock cs => holdLine cs
  | _ => false

mutual

def isBlock : Node → Bool
  | .heading _ _ cs => holdLine cs
  | .paragraph cs => holdLine cs
  | .list _ _ items => !items.isEmpty && areItems items
  | _ => false

def areBlocks : List Node → Bool
  | [] => true
  | n :: ns => n.isBlock && areBlocks ns

def isItem : Node → Bool
  | .listItem cs => holdItem cs
  | _ => false

def areItems : List Node → Bool
  | [] => true
  | n :: ns => n.isItem && areItems ns

/-- Whether nodes are one or more blocks, of which the first may be text. -/
def holdItem : List Node → Bool
  | [] => false
  | n :: ns => (n.isItemText || n.isBlock) && areBlocks ns

end

/-! ## Outlines -/

/-- The start of a heading's line. -/
def headingStart (level : Nat) : String :=
  String.ofList (List.replicate (min (max level 1) 6) '#' ++ [' '])

/-- The line of a text behind the start of its block. -/
def outlineLine (inList : Bool) (start : String) (cs : List Node) : String :=
  start ++ (if inList then "* " else "") ++ String.ofList (trim (plainTextAll cs).toList)

mutual

/-- One line for every heading, paragraph and item text, in document order. -/
def outline (inList : Bool) : Node → List String
  | .document cs => outlineAll inList cs
  | .heading level _ cs => [outlineLine inList (headingStart level) cs]
  | .paragraph cs => [outlineLine inList "" cs]
  | .textBlock cs => [outlineLine inList "" cs]
  | .text _ => []
  | .list _ _ items => outlineAll true items
  | .listItem cs => outlineAll inList cs
  | .link _ _ => []
  | .other _ _ => []

def outlineAll (inList : Bool) : List Node → List String
  | [] => []
  | n :: ns => n.outline inList ++ outlineAll inList ns

end

theorem outlineAll_append (inList : Bool) (ms ns : List Node) :
    outlineAll inList (ms ++ ns) = outlineAll inList ms ++ outlineAll inList ns := by
  induction ms with
  | nil => rfl
  | cons m ms ih => rw [List.cons_append, outlineAll, ih, outlineAll, List.append_assoc]

end DocMark.Markdown.Node
