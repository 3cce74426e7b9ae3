-- SUMMARY: The character classes of TOML, and blanks, comments and line ends.

/-!
# Characters and line ends

A line ends with a line feed, perhaps after a carriage return. Control characters other than the
tab stand nowhere in a TOML text.
-/
namespace DocMark.Toml

def isBlank (c : Char) : Bool := c == ' ' || c == '\t'

def isDigit (c : Char) : Bool := '0' ≤ c && c ≤ '9'

def isLetter (c : Char) : Bool := ('a' ≤ c && c ≤ 'z') || ('A' ≤ c && c ≤ 'Z')

def isHexDigit (c : Char) : Bool :=
  isDigit c || ('a' ≤ c && c ≤ 'f') || ('A' ≤ c && c ≤ 'F')

/-- The value of a digit of any base up to sixteen. -/
def digitValue (c : Char) : Nat :=
  if isDigit c then c.toNat - 48 else if 'a' ≤ c then c.toNat - 87 else c.toNat - 55

def isNonAscii (c : Char) : Bool := 0x80 ≤ c.toNat

/-- The characters of comments and strings, apart from the marks that end them. -/
def isTextChar (c : Char) : Bool :=
  c == '\t' || (0x20 ≤ c.toNat && c.toNat ≤ 0x7E) || isNonAscii c

def isBareKeyChar (c : Char) : Bool := isLetter c || isDigit c || c == '_' || c == '-'

def skipBlank (cs : List Char) : List Char := cs.dropWhile isBlank

/-- What follows a line end. -/
def afterNewline? : List Char → Option (List Char)
  | '\n' :: rest => some rest
  | '\r' :: '\n' :: rest => some rest
  | _ => none

/-- What follows a comment, if one begins here. -/
def skipComment : List Char → List Char
  | '#' :: rest => rest.dropWhile isTextChar
  | cs => cs

/-- The rest of a line on which nothing more but a comment may stand. -/
def afterLine? (cs : List Char) : Option (List Char) :=
  match skipComment (skipBlank cs) with
  | [] => some []
  | rest => afterNewline? rest

/-- Skips blanks, comments and line ends; `fuel` bounds the number of lines. A comment must end with
    its line. -/
def skipLines : Nat → List Char → List Char
  | 0, cs => cs
  | fuel + 1, cs =>
    let cs := skipBlank cs
    match afterNewline? (skipComment cs) with
    | some rest => skipLines fuel rest
    | none => cs

end DocMark.Toml
