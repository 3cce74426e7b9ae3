-- SUMMARY: Link reference definitions at the start of a paragraph, and looking them up.
import DocMark.Markdown.LinkParts
import DocMark.Text.Blank
import DocMark.Text.CaseFold

/-!
# Link references

A definition gives a label a destination and perhaps a title. Labels are compared after trimming,
with every stretch of white space as one space, and without regard to case; the first
definition of a label counts.
-/
namespace DocMark.Markdown

structure Reference where
  /-- The label in the form that is compared. -/
  label : List Char
  url : List Char
  title : List Char
deriving DecidableEq, Inhabited, Repr

/-- Stretches of white space as single spaces. -/
def collapseSpace : List Char → List Char
  | [] => []
  | [c] => [if Text.isWhiteSpace c then ' ' else c]
  | c :: d :: cs =>
    if Text.isWhiteSpace c then
      if Text.isWhiteSpace d then collapseSpace (d :: cs) else ' ' :: collapseSpace (d :: cs)
    else c :: collapseSpace (d :: cs)

def normalizeLabel (label : List Char) : List Char :=
  Text.caseFold (collapseSpace (trimSpace label))

/-- The first definition of a label. -/
def findReference? (references : List Reference) (label : List Char) : Option Reference :=
  references.find? (·.label == normalizeLabel label)

/-- The text after a line end that may be preceded by blanks; the end of the text counts. -/
def afterLineEnd? (cs : List Char) : Option (List Char) :=
  match cs.dropWhile isBlank with
  | [] => some []
  | '\n' :: rest => some rest
  | _ => none

/-- The text after blanks with at most one line end among them. -/
def afterBlanks (cs : List Char) : List Char :=
  match cs.dropWhile isBlank with
  | '\n' :: rest => rest.dropWhile isBlank
  | rest => rest

/-- A definition at the front of a paragraph's text, and the text after it. A title that does not
    end its line is no title, and then the destination must end its own. -/
def definition? (cs : List Char) : Option (Reference × List Char) := do
  let (label, rest) ← label? cs
  if label.isEmpty then none
  else
    let rest ← after? [':'] rest
    let (url, afterUrl) ← destination? (afterBlanks rest)
    let atTitle := afterBlanks afterUrl
    let titled := if atTitle.length < afterUrl.length then title? atTitle else none
    let (title, rest) ← match titled with
      | some (title, rest) =>
        match afterLineEnd? rest with
        | some rest => some (title, rest)
        | none => (afterLineEnd? afterUrl).map fun rest => ([], rest)
      | none => (afterLineEnd? afterUrl).map fun rest => ([], rest)
    some (⟨normalizeLabel label, cleanUrl url, cleanTitle title⟩, rest)

/-- The definitions at the front of a paragraph's text, and what is left of it; `fuel` bounds their
    number. -/
def definitionsFrom : Nat → List Char → List Reference × List Char
  | 0, cs => ([], cs)
  | fuel + 1, cs =>
    match definition? cs with
    | some (r, rest) =>
      let (rs, rest) := definitionsFrom fuel rest
      (r :: rs, rest)
    | none => ([], cs)

def definitions (cs : List Char) : List Reference × List Char := definitionsFrom cs.length cs

/-- Whether the first line of a text is blank. -/
def isBlankLine (cs : List Char) : Bool :=
  match cs.dropWhile isBlank with
  | [] => true
  | c :: _ => c == '\n'

end DocMark.Markdown
