-- SUMMARY: Heading anchors: the slug of a heading's text, made unique by a number.
import DocMark.Text.LowerCase
import DocMark.Text.WordChar

/-!
# Anchors

A heading is addressed by its slug: its text in lower case, without anything but word characters,
spaces and hyphens, and with hyphens for spaces. A slug that an earlier heading has taken
gets the first number that makes it new.
-/
namespace DocMark.Markdown

/-- The characters that a slug keeps. -/
def isSlugChar (c : Char) : Bool := Text.isWordChar c || c == ' ' || c == '-'

def slug (text : String) : String :=
  String.ofList (((Text.lowerCase text.toList).filter isSlugChar).map fun c =>
    if c = ' ' then '-' else c)

/-- The slug with a number, where `0` means none. -/
def numberedSlug (slug : String) (n : Nat) : String :=
  if n = 0 then slug else slug ++ "-" ++ toString n

/-- The first numbered slug that is not among the `used` ones. Among one more candidates than there
    are used anchors one is always new. -/
def freshAnchor (used : List String) (slug : String) : String :=
  (((List.range (used.length + 1)).map (numberedSlug slug)).find? fun a => !used.contains a).getD slug

end DocMark.Markdown
