-- SUMMARY: Runs of emphasis marks, whether they may open or close emphasis, and pairing them.
import DocMark.Markdown.Ast
import DocMark.Markdown.Chars
import DocMark.Text.Blank
import DocMark.Text.Punctuation

/-!
# Emphasis

A run of `*`, `_` or `~` may open emphasis, close it, both or neither; that depends on the
characters on either side. `pairRuns` goes through the runs from left to right, pairs each one
that may close with the nearest fitting opener to its left, and wraps what lies between.
-/
namespace DocMark.Markdown

/-- A run of marks. `count` of its `length` marks have not been used yet. -/
structure Run where
  mark : Char
  length : Nat
  count : Nat
  canOpen : Bool
  canClose : Bool
deriving DecidableEq, Inhabited, Repr

/-- What a text has been read into: a finished node, or marks that are not decided yet. -/
inductive Piece where
  | node (ast : Ast)
  | run (run : Run)
deriving Inhabited

def Piece.ofText (cs : List Char) : Piece := .node (.text cs)

namespace Run

/-- The nearest character that is not a tilde; the edge of the text counts as a line end. -/
def neighbour (cs : List Char) : Char := ((cs.dropWhile (· == '~')).head?).getD '\n'

/-- A run between a text before it, in reverse, and a text after it. A run next to white space does
    not open or close on that side; one next to punctuation does only if the other side is white
    space or punctuation. Underscores inside a word do neither. -/
def ofMarks (mark : Char) (length : Nat) (before after : List Char) : Run :=
  let previous := neighbour before
  let next := neighbour after
  let spaceBefore := Text.isWhiteSpace previous
  let spaceAfter := Text.isWhiteSpace next
  let markBefore := Text.isPunctuation previous
  let markAfter := Text.isPunctuation next
  let left := !spaceAfter && !(markAfter && !spaceBefore && !markBefore)
  let right := !spaceBefore && !(markBefore && !spaceAfter && !markAfter)
  if mark == '_' then
    ⟨mark, length, length, left && (!right || markBefore), right && (!left || markAfter)⟩
  else ⟨mark, length, length, left, right⟩

def text (r : Run) : List Char := List.replicate r.count r.mark

/-- Whether `opener` may be paired with `closer`. If one of them may both open and close, their
    lengths must not add up to a multiple of three, unless both are multiples of three. -/
def fits (opener closer : Run) : Bool :=
  opener.canOpen && opener.mark == closer.mark
    && !((closer.canOpen || opener.canClose) && (opener.length + closer.length) % 3 == 0
      && !(opener.length % 3 == 0 && closer.length % 3 == 0))

/-- How many marks of each run a pair uses. -/
def used (opener closer : Run) : Nat := if 2 ≤ opener.count ∧ 2 ≤ closer.count then 2 else 1

def use (r : Run) (n : Nat) : Run := { r with count := r.count - n }

/-- What a pair of runs makes of the text between them. -/
def element (mark : Char) (used : Nat) : Element :=
  if mark = '~' then .strikethrough else if used = 1 then .emphasis else .strong

end Run

namespace Piece

/-- Marks that were not paired are text. -/
def settle : Piece → Ast
  | .node ast => ast
  | .run r => .text r.text

/-- The run, unless all its marks are used. -/
def ofRun (r : Run) : List Piece := if r.count = 0 then [] else [.run r]

def weight : Piece → Nat
  | .node _ => 1
  | .run r => r.count + 1

end Piece

/-- The nearest opener in pieces that come in reverse, with the pieces after and before it. -/
def findOpener? (closer : Run) : List Piece → Option (List Piece × Run × List Piece)
  | [] => none
  | .run r :: before =>
    if r.fits closer then some ([], r, before)
    else (findOpener? closer before).map fun (inner, opener, outer) =>
      (.run r :: inner, opener, outer)
  | .node a :: before =>
    (findOpener? closer before).map fun (inner, opener, outer) => (.node a :: inner, opener, outer)

/-- Pairs runs, where `done` holds the pieces to the left in reverse. Tildes that differ in number, or
    more than two of them, end the pairing. `fuel` bounds the number of pieces and marks. -/
def pairFrom : Nat → List Piece → List Piece → List Ast
  | 0, done, pieces => (done.reverse ++ pieces).map Piece.settle
  | _ + 1, done, [] => done.reverse.map Piece.settle
  | fuel + 1, done, .node a :: pieces => pairFrom fuel (.node a :: done) pieces
  | fuel + 1, done, .run r :: pieces =>
    if !r.canClose then pairFrom fuel (.run r :: done) pieces
    else
      match findOpener? r done with
      | none =>
        if r.canOpen then pairFrom fuel (.run r :: done) pieces
        else pairFrom fuel (Piece.ofText r.text :: done) pieces
      | some (inner, opener, outer) =>
        let used := opener.used r
        if r.mark = '~' ∧ (opener.count ≠ r.count ∨ used < r.count) then
          (done.reverse ++ .run r :: pieces).map Piece.settle
        else
          let node := Ast.node (Run.element r.mark used) (inner.reverse.map Piece.settle)
          pairFrom fuel (.node node :: Piece.ofRun (opener.use used) ++ outer)
            (Piece.ofRun (r.use used) ++ pieces)

/-- The nodes of pieces, with all emphasis in place. -/
def pairRuns (pieces : List Piece) : List Ast :=
  pairFrom (pieces.foldr (fun p n => p.weight + n) 1) [] pieces

end DocMark.Markdown
