-- SUMMARY: Character references and backslash escapes, and texts with both resolved.
import DocMark.Markdown.Chars
import DocMark.Markdown.EntityTable

/-!
# Character references

`entity?` reads a reference after its ampersand: a number with at most seven decimal or six
hexadecimal digits, or one of the names of the table. A number that is no character, or zero,
stands for U+FFFD.
-/
namespace DocMark.Markdown

def hexValue? (c : Char) : Option Nat :=
  if isDigit c then some (c.toNat - 48)
  else if 'a' ≤ c && c ≤ 'f' then some (c.toNat - 87)
  else if 'A' ≤ c && c ≤ 'F' then some (c.toNat - 55)
  else none

/-- The character with a number, or the replacement character. -/
def characterOf (n : Nat) : Char :=
  if n = 0 ∨ 0x110000 ≤ n ∨ (0xD800 ≤ n ∧ n ≤ 0xDFFF) then Char.ofNat 0xFFFD else Char.ofNat n

def numberOf (base : Nat) (digits : List Char) : Nat :=
  digits.foldl (fun n c => base * n + (hexValue? c).getD 0) 0

/-- A numeral of at most `limit` digits and its semicolon. -/
def numeral? (base limit : Nat) (isBaseDigit : Char → Bool) (cs : List Char) :
    Option (List Char × List Char) :=
  let digits := cs.takeWhile isBaseDigit
  if digits.isEmpty || limit < digits.length then none
  else match cs.dropWhile isBaseDigit with
    | ';' :: rest => some ([characterOf (numberOf base digits)], rest)
    | _ => none

/-- The characters before the first semicolon among the first `limit`, if no space comes before. -/
def nameBefore? : Nat → List Char → Option (List Char × List Char)
  | 0, _ => none
  | _ + 1, [] => none
  | limit + 1, c :: cs =>
    if c = ';' then some ([], cs)
    else if c = ' ' then none
    else (nameBefore? limit cs).map fun (name, rest) => (c :: name, rest)

/-- The longest name and its semicolon. -/
def maxEntityLength : Nat := 32

def namedEntity? (cs : List Char) : Option (List Char × List Char) := do
  let (name, rest) ← nameBefore? maxEntityLength cs
  let first ← name.head?
  let points ← (entityTable first).lookup (String.ofList name)
  some (points.map Char.ofNat, rest)

/-- The text of the reference after an ampersand, and what follows it. -/
def entity? (cs : List Char) : Option (List Char × List Char) :=
  match cs with
  | '#' :: 'x' :: rest => numeral? 16 6 (fun c => (hexValue? c).isSome) rest
  | '#' :: 'X' :: rest => numeral? 16 6 (fun c => (hexValue? c).isSome) rest
  | '#' :: rest => numeral? 10 7 isDigit rest
  | _ => namedEntity? cs

/-- Every reference replaced by its text; `fuel` bounds the length. -/
def resolveEntitiesFrom : Nat → List Char → List Char
  | 0, cs => cs
  | _ + 1, [] => []
  | fuel + 1, c :: cs =>
    if c = '&' then
      match entity? cs with
      | some (text, rest) => text ++ resolveEntitiesFrom fuel rest
      | none => c :: resolveEntitiesFrom fuel cs
    else c :: resolveEntitiesFrom fuel cs

def resolveEntities (cs : List Char) : List Char := resolveEntitiesFrom cs.length cs

/-- Every backslash before an escapable character dropped. -/
def dropEscapes : List Char → List Char
  | '\\' :: c :: cs => if isEscapable c then c :: dropEscapes cs else '\\' :: dropEscapes (c :: cs)
  | c :: cs => c :: dropEscapes cs
  | [] => []

end DocMark.Markdown
