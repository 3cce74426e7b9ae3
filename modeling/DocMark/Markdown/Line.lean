-- SUMMARY: Lines of a Markdown text, and a place within a line with its column.

/-!
# Lines

A text is cut at line feeds, carriage returns and pairs of both; NUL characters become U+FFFD
and a byte order mark at the very start is dropped. A `Cursor` is a place in a line. Tabs reach
to the next column that is a multiple of four, and a block may begin inside a tab.
-/
namespace DocMark.Markdown

/-- The line in progress, reversed, and the lines after it. -/
def linesFrom (current : List Char) : List Char → List (List Char)
  | [] => if current.isEmpty then [] else [current.reverse]
  | '\r' :: '\n' :: cs => current.reverse :: linesFrom [] cs
  | '\r' :: cs => current.reverse :: linesFrom [] cs
  | '\n' :: cs => current.reverse :: linesFrom [] cs
  | c :: cs => linesFrom ((if c.toNat = 0 then Char.ofNat 0xFFFD else c) :: current) cs

/-- The text without a byte order mark at its start. -/
def withoutMark : List Char → List Char
  | [] => []
  | c :: cs => if c.toNat = 0xFEFF then cs else c :: cs

/-- The lines of a text without their ends. -/
def splitLines (cs : List Char) : List (List Char) :=
  match linesFrom [] cs with
  | [] => []
  | first :: rest => withoutMark first :: rest

def tabStop : Nat := 4

structure Cursor where
  rest : List Char
  column : Nat := 0
  /-- Whether some columns of the tab at the front have been passed. -/
  inTab : Bool := false
deriving DecidableEq, Inhabited, Repr

namespace Cursor

/-- How many columns are left to the next tab stop. -/
def toTabStop (column : Nat) : Nat := tabStop - column % tabStop

/-- The column of the first character that is no blank, and the text from there. -/
def contentAt (column : Nat) : List Char → Nat × List Char
  | ' ' :: cs => contentAt (column + 1) cs
  | '\t' :: cs => contentAt (column + toTabStop column) cs
  | cs => (column, cs)

/-- The columns of blanks before the content. -/
def indent (c : Cursor) : Nat := (contentAt c.column c.rest).1 - c.column

/-- The text from the first character that is no blank. -/
def content (c : Cursor) : List Char := (contentAt c.column c.rest).2

def isBlank (c : Cursor) : Bool := c.content.isEmpty

/-- The cursor at the content. -/
def toContent (c : Cursor) : Cursor :=
  let (column, rest) := contentAt c.column c.rest
  ⟨rest, column, false⟩

/-- Passes over characters. -/
def skipChars : Nat → Cursor → Cursor
  | 0, c => c
  | n + 1, c =>
    match c.rest with
    | [] => c
    | '\t' :: cs => skipChars n ⟨cs, c.column + toTabStop c.column, false⟩
    | _ :: cs => skipChars n ⟨cs, c.column + 1, false⟩

/-- Passes over columns, possibly into a tab. -/
def skipColumns : Nat → Cursor → Cursor
  | 0, c => c
  | n + 1, c =>
    match c.rest with
    | [] => c
    | '\t' :: cs =>
      if toTabStop c.column = 1 then skipColumns n ⟨cs, c.column + 1, false⟩
      else skipColumns n ⟨'\t' :: cs, c.column + 1, true⟩
    | _ :: cs => skipColumns n ⟨cs, c.column + 1, false⟩

/-- Whether a blank comes next. -/
def atBlank (c : Cursor) : Bool :=
  match c.rest with
  | ' ' :: _ => true
  | '\t' :: _ => true
  | _ => false

/-- Passes over one column if a blank comes next. -/
def skipBlankColumn (c : Cursor) : Cursor := if c.atBlank then c.skipColumns 1 else c

def toEnd (c : Cursor) : Cursor := { c with rest := [], inTab := false }

/-- The text from here on; the rest of a tab counts as spaces. -/
def text (c : Cursor) : List Char :=
  if c.inTab then List.replicate (toTabStop c.column) ' ' ++ c.rest.drop 1 else c.rest

end Cursor

end DocMark.Markdown
