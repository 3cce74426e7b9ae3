-- SUMMARY: Blocks of a Markdown text: finished ones as a tree, and the open ones that a line may continue.
import DocMark.Markdown.Line
import DocMark.Markdown.Reference

/-!
# Blocks

A `Block` is finished. A `Frame` is still open: later lines may add text or children to it. The
open blocks form a spine from the document down to the block that took the last line; `finish`
turns a frame into a block.
-/
namespace DocMark.Markdown

/-- What makes an item belong to a list. -/
inductive ListMarker where
  | bullet (mark : Char)
  | ordered (delimiter : Char)
deriving DecidableEq, Inhabited, Repr

def ListMarker.isOrdered : ListMarker → Bool
  | .bullet _ => false
  | .ordered _ => true

inductive BlockKind where
  | document
  | quote
  | list (marker : ListMarker) (tight : Bool)
  /-- An item, with the indent that continues it. -/
  | item (indent : Nat)
  | paragraph
  /-- A heading; one that ends in an underline has no closing marks. -/
  | heading (level : Nat) (underlined : Bool)
  /-- A block between fences of `length` marks, the first one indented. -/
  | fenced (mark : Char) (length indent : Nat)
  | indentedCode
  /-- An HTML block with the kind that says how it ends. -/
  | html (kind : Nat)
  | thematicBreak
  /-- A table with so many columns, `filled` cells of which were missing in their rows. -/
  | table (columns filled : Nat)
  | tableRow
  | tableCell
deriving DecidableEq, Inhabited, Repr

namespace BlockKind

/-- Whether a block of kind `child` may stand directly in one of kind `parent`. -/
def accepts (parent child : BlockKind) : Bool :=
  match parent, child with
  | .list _ _, .item _ => true
  | .list _ _, _ => false
  | .document, .item _ => false
  | .quote, .item _ => false
  | .item _, .item _ => false
  | .document, _ => true
  | .quote, _ => true
  | .item _, _ => true
  | _, _ => false

/-- Whether lines of text go into the block itself. -/
def takesLines : BlockKind → Bool
  | .paragraph => true
  | .heading _ _ => true
  | .fenced _ _ _ => true
  | .indentedCode => true
  | _ => false

def isParagraph : BlockKind → Bool
  | .paragraph => true
  | _ => false

def isList : BlockKind → Bool
  | .list _ _ => true
  | _ => false

/-- Whether everything up to the block's end is its text. -/
def isVerbatim : BlockKind → Bool
  | .fenced _ _ _ => true
  | .indentedCode => true
  | .html _ => true
  | _ => false

end BlockKind

/-- A finished block with its text, its children and whether a blank line ended it. -/
inductive Block where
  | mk (kind : BlockKind) (text : List Char) (blankEnd : Bool) (children : List Block)
deriving Inhabited, Repr

namespace Block

def kind : Block → BlockKind
  | .mk k _ _ _ => k

def blankEnd : Block → Bool
  | .mk _ _ b _ => b

def children : Block → List Block
  | .mk _ _ _ cs => cs

mutual

/-- Whether a blank line ended the block or, for a list or an item, the last block in it. -/
def endsBlank : Block → Bool
  | .mk kind _ blank cs =>
    blank || match kind with
      | .list _ _ => lastEndsBlank cs
      | .item _ => lastEndsBlank cs
      | _ => false

def lastEndsBlank : List Block → Bool
  | [] => false
  | [b] => b.endsBlank
  | _ :: b :: bs => lastEndsBlank (b :: bs)

end

/-- Whether a blank line separates blocks of an item that has others after it (`more`). -/
def separatesBlocks (more : Bool) : List Block → Bool
  | [] => false
  | [b] => more && b.endsBlank
  | b :: c :: bs => b.endsBlank || separatesBlocks more (c :: bs)

/-- Whether a blank line separates items, or blocks in an item. -/
def hasBlankBetween : List Block → Bool
  | [] => false
  | [item] => separatesBlocks false item.children
  | item :: next :: rest =>
    item.blankEnd || separatesBlocks true item.children || hasBlankBetween (next :: rest)

end Block

structure Frame where
  kind : BlockKind
  text : List Char := []
  /-- The finished children, the last one first. -/
  children : List Block := []
  blankEnd : Bool := false
  /-- The number of the line on which the block was opened. -/
  line : Nat
  /-- Whether a table was looked for in the paragraph and not found. -/
  tableRefused : Bool := false
deriving Inhabited, Repr

namespace Frame

/-- Blank lines at the end of a text cut off. -/
def dropBlankLines (text : List Char) : List Char :=
  let kept := (text.reverse.dropWhile fun c => isBlank c || c == '\n').reverse
  if kept.isEmpty then [] else kept ++ (text.drop kept.length).takeWhile (· != '\n')

/-- The text after its first line. -/
def afterFirstLine (text : List Char) : List Char := (text.dropWhile (· != '\n')).drop 1

/-- The finished block, if anything is left of it, and the link references found in it. -/
def finish (f : Frame) : Option Block × List Reference :=
  let children := f.children.reverse
  match f.kind with
  | .paragraph =>
    let (references, text) := definitions f.text
    (if isBlankLine text then none else some (.mk f.kind text f.blankEnd children), references)
  | .list marker _ =>
    (some (.mk (.list marker (!Block.hasBlankBetween children)) [] f.blankEnd children), [])
  | .indentedCode =>
    (some (.mk f.kind (dropBlankLines f.text ++ ['\n']) f.blankEnd children), [])
  | .fenced _ _ _ => (some (.mk f.kind (afterFirstLine f.text) f.blankEnd children), [])
  | _ => (some (.mk f.kind f.text f.blankEnd children), [])

end Frame

end DocMark.Markdown
