-- SUMMARY: The ASCII character classes of Markdown's grammar.

/-!
# Character classes

Markdown's grammar speaks of ASCII characters: blanks within a line, white space, punctuation
that a backslash may escape, letters and digits. Other characters are in none of these classes.
-/
namespace DocMark.Markdown

/-- A space or a tab. -/
def isBlank (c : Char) : Bool := c == ' ' || c == '\t'

/-- A space, a tab or a line end; what is trimmed. -/
def isSpace (c : Char) : Bool := c == ' ' || c == '\t' || c == '\n' || c == '\r'

/-- A space, a tab, a line end, a vertical tab or a form feed; what may stand between the parts of a
    tag or a link. -/
def isSeparator (c : Char) : Bool := c == ' ' || (9 ≤ c.toNat && c.toNat ≤ 13)

def isLetter (c : Char) : Bool := ('a' ≤ c && c ≤ 'z') || ('A' ≤ c && c ≤ 'Z')

def isDigit (c : Char) : Bool := '0' ≤ c && c ≤ '9'

def isAlphanumeric (c : Char) : Bool := isLetter c || isDigit c

/-- The characters that a backslash escapes. -/
def isEscapable (c : Char) : Bool :=
  ('!' ≤ c && c ≤ '/') || (':' ≤ c && c ≤ '@') || ('[' ≤ c && c ≤ '\x60') || ('\x7b' ≤ c && c ≤ '~')

/-- A letter in lower case. -/
def toLower (c : Char) : Char := if 'A' ≤ c && c ≤ 'Z' then Char.ofNat (c.toNat + 32) else c

def trimSpaceStart (cs : List Char) : List Char := cs.dropWhile isSpace

def trimSpaceEnd (cs : List Char) : List Char := (cs.reverse.dropWhile isSpace).reverse

def trimSpace (cs : List Char) : List Char := trimSpaceEnd (trimSpaceStart cs)

/-- What follows `start` in `cs`, if `cs` begins with it. -/
def after? : List Char → List Char → Option (List Char)
  | [], cs => some cs
  | _ :: _, [] => none
  | s :: start, c :: cs => if s = c then after? start cs else none

/-- What follows `start` in `cs`, letters being compared in lower case. -/
def afterCaseless? : List Char → List Char → Option (List Char)
  | [], cs => some cs
  | _ :: _, [] => none
  | s :: start, c :: cs => if toLower s = toLower c then afterCaseless? start cs else none

def startsWith (start cs : List Char) : Bool := (after? start cs).isSome

/-- Whether `part` stands somewhere in `cs`. -/
def containsPart (part : List Char) : List Char → Bool
  | [] => part.isEmpty
  | c :: cs => startsWith part (c :: cs) || containsPart part cs

/-- The number of bytes that a text takes in UTF-8. -/
def byteLength (cs : List Char) : Nat := cs.foldr (fun c n => c.utf8Size + n) 0

end DocMark.Markdown
