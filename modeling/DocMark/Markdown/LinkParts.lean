-- SUMMARY: The parts of links: labels, destinations, titles, and what follows the text of an inline link.
import DocMark.Markdown.Entity

/-!
# Parts of links

Each function reads one part from the front of the text and returns it with the rest.
-/
namespace DocMark.Markdown

/-- The greatest length of a label in bytes. -/
def maxLabelLength : Nat := 1000

/-- A label up to its closing bracket. Brackets inside it must be escaped. -/
def labelChars? : List Char → Option (List Char × List Char)
  | [] => none
  | '[' :: _ => none
  | ']' :: rest => some ([], rest)
  | '\\' :: c :: cs =>
    if isEscapable c then (labelChars? cs).map fun (label, rest) => ('\\' :: c :: label, rest)
    else (labelChars? (c :: cs)).map fun (label, rest) => ('\\' :: label, rest)
  | c :: cs => (labelChars? cs).map fun (label, rest) => (c :: label, rest)

/-- A label in brackets, without the blanks around it. -/
def label? (cs : List Char) : Option (List Char × List Char) :=
  match cs with
  | '[' :: inner =>
    match labelChars? inner with
    | some (label, rest) =>
      if byteLength label ≤ maxLabelLength then some (trimSpace label, rest) else none
    | none => none
  | _ => none

/-- A destination up to its closing angle bracket. -/
def angleDestination? : List Char → Option (List Char × List Char)
  | [] => none
  | '>' :: rest => some ([], rest)
  | '<' :: _ => none
  | '\n' :: _ => none
  | '\\' :: c :: cs => (angleDestination? cs).map fun (url, rest) => ('\\' :: c :: url, rest)
  | c :: cs => (angleDestination? cs).map fun (url, rest) => (c :: url, rest)

/-- How deep parentheses may nest in a destination. -/
def maxParentheses : Nat := 32

/-- A destination without angle brackets, inside `depth` parentheses. It ends at a space, a control
    character or a closing parenthesis of its surroundings. -/
def bareDestination? (depth : Nat) : List Char → Option (List Char × List Char)
  | [] => none
  | '\\' :: c :: cs =>
    if isEscapable c then
      (bareDestination? depth cs).map fun (url, rest) => ('\\' :: c :: url, rest)
    else (bareDestination? depth (c :: cs)).map fun (url, rest) => ('\\' :: url, rest)
  | c :: cs =>
    if c = '(' then
      if maxParentheses ≤ depth then none
      else (bareDestination? (depth + 1) cs).map fun (url, rest) => (c :: url, rest)
    else if c = ')' then
      match depth with
      | 0 => some ([], c :: cs)
      | depth + 1 => (bareDestination? depth cs).map fun (url, rest) => (c :: url, rest)
    else if isSpace c || c.toNat < 32 || c.toNat = 127 then
      if depth = 0 then some ([], c :: cs) else none
    else (bareDestination? depth cs).map fun (url, rest) => (c :: url, rest)

/-- A destination, as written. Something must follow it. -/
def destination? (cs : List Char) : Option (List Char × List Char) :=
  match cs with
  | '<' :: inner => (angleDestination? inner).filter fun (_, rest) => !rest.isEmpty
  | _ => bareDestination? 0 cs

/-- The longest stretch up to a closing mark. A mark after a backslash may be the end or may stand
    for itself; any other one is the end, and a forbidden character must follow a backslash. -/
def titleChars? (close : Char) (forbidden : Char → Bool) (escaped : Bool) :
    List Char → Option (List Char × List Char)
  | [] => none
  | c :: cs =>
    if c = close then
      if escaped then
        match titleChars? close forbidden false cs with
        | some (title, rest) => some (c :: title, rest)
        | none => some ([], cs)
      else some ([], cs)
    else if forbidden c && !escaped then none
    else
      (titleChars? close forbidden (c == '\\') cs).map fun (title, rest) => (c :: title, rest)

/-- A title, as written between its marks. -/
def title? : List Char → Option (List Char × List Char)
  | '"' :: cs => titleChars? '"' (fun _ => false) false cs
  | '\'' :: cs => titleChars? '\'' (fun _ => false) false cs
  | '(' :: cs => titleChars? ')' (· == '(') false cs
  | _ => none

/-- A destination with references and escapes resolved. -/
def cleanUrl (cs : List Char) : List Char := dropEscapes (resolveEntities (trimSpace cs))

/-- A title with references and escapes resolved. -/
def cleanTitle (cs : List Char) : List Char := dropEscapes (resolveEntities cs)

/-- What follows the text of an inline link after its opening parenthesis: a destination and
    perhaps a title, as written. -/
def inlineTarget? (cs : List Char) : Option (List Char × List Char × List Char) := do
  let (url, rest) ← destination? (cs.dropWhile isSeparator)
  let afterUrl := rest.dropWhile isSeparator
  let (title, rest) :=
    if rest.head?.any isSeparator then (title? afterUrl).getD ([], afterUrl) else ([], afterUrl)
  match rest.dropWhile isSeparator with
  | ')' :: rest => some (url, title, rest)
  | _ => none

end DocMark.Markdown
