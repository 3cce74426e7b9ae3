-- SUMMARY: Named paragraph styles: their identifiers and the Markdown line starts that stand for them.
import DocMark.Text.Decimal

/-!
# Named styles

A paragraph names its style by an identifier such as `HEADING_2`. `parse?` reads the
identifiers a document service accepts, `name` writes them, and `markdownMarker` looks up
the line start that a style has in Markdown.
-/
namespace DocMark.Document

inductive NamedStyle where
  | normalText
  | title
  | subtitle
  | heading (level : Nat)
deriving DecidableEq, Inhabited, Repr

namespace NamedStyle

def maxLevel : Nat := 6

/-- The heading style for a level, brought into `1` to `maxLevel`. -/
def ofLevel (level : Nat) : NamedStyle := .heading (min (max level 1) maxLevel)

def name : NamedStyle → String
  | .normalText => "NORMAL_TEXT"
  | .title => "TITLE"
  | .subtitle => "SUBTITLE"
  | .heading level => "HEADING_" ++ toString level

/-- What follows `start` in `cs`, if `cs` begins with it. -/
def afterStart? : List Char → List Char → Option (List Char)
  | [], cs => some cs
  | _ :: _, [] => none
  | s :: start, c :: cs => if s = c then afterStart? start cs else none

/-- The style with the given identifier. A heading's level is any unsigned numeral up to `255`,
    with or without `+` and leading zeros, whose value is a level. -/
def parse? (name : String) : Option NamedStyle :=
  if name = "NORMAL_TEXT" then some .normalText
  else if name = "TITLE" then some .title
  else if name = "SUBTITLE" then some .subtitle
  else do
    let level ← Text.Decimal.readUnsigned? 255 (← afterStart? "HEADING_".toList name.toList)
    if 1 ≤ level ∧ level ≤ maxLevel then some (.heading level) else none

end NamedStyle

/-- The Markdown line start of each style identifier. -/
def markdownMarkers : List (String × String) :=
  [("NORMAL_TEXT", ""), ("TITLE", "# "), ("SUBTITLE", "## "),
   ("HEADING_1", "# "), ("HEADING_2", "## "), ("HEADING_3", "### "),
   ("HEADING_4", "#### "), ("HEADING_5", "##### "), ("HEADING_6", "###### ")]

/-- The line start for a style identifier; an unknown one has none. -/
def markdownMarker (styleName : String) : String := (markdownMarkers.lookup styleName).getD ""

end DocMark.Document
