-- SUMMARY: Reading a TOML text: values, key-value pairs, headers and whole texts.
import DocMark.Toml.Scalar
import DocMark.Toml.Text
import DocMark.Toml.Tree

/-!
# Reading TOML

A text is a sequence of lines, each of them blank, a pair or a header. A pair belongs to the last
header before it. There is no account of what is wrong with a malformed text.
-/
namespace DocMark.Toml

/-- How many arrays and inline tables may be open at once, and one more than the parts of a key. -/
def maxDepth : Nat := 79

/-- A key as the path to its last part and that part. -/
def splitKey? (parts : List String) : Option (List String × String) :=
  if maxDepth < parts.length then none else parts.getLast?.map fun key => (parts.dropLast, key)

/-- A pair after any blanks, with a reader for its value. -/
def readPair? (readValue : List Char → Option (Value × List Char)) (cs : List Char) :
    Option (Pair × List Char) := do
  let (parts, rest) ← readKey? cs.length cs
  let (path, key) ← splitKey? parts
  match rest with
  | '=' :: rest =>
    let (value, rest) ← readValue (skipBlank rest)
    some (⟨path, key, value⟩, rest)
  | _ => none

/-- The elements of an array after its bracket; `fuel` bounds their number. Line ends and comments may
    stand between them, and a comma after the last one. -/
def readElements? (readValue : List Char → Option (Value × List Char)) :
    Nat → List Char → Option (List Value × List Char)
  | 0, _ => none
  | fuel + 1, cs =>
    match skipLines cs.length cs with
    | ']' :: rest => some ([], rest)
    | cs => do
      let (v, rest) ← readValue cs
      match skipLines rest.length rest with
      | ',' :: rest =>
        let (vs, rest) ← readElements? readValue fuel rest
        some (v :: vs, rest)
      | ']' :: rest => some ([v], rest)
      | _ => none

/-- The pairs of an inline table, at least one; `fuel` bounds their number. -/
def readPairs? (readValue : List Char → Option (Value × List Char)) :
    Nat → List Char → Option (List Pair × List Char)
  | 0, _ => none
  | fuel + 1, cs => do
    let (pair, rest) ← readPair? readValue cs
    match skipBlank rest with
    | ',' :: rest =>
      let (pairs, rest) ← readPairs? readValue fuel rest
      some (pair :: pairs, rest)
    | '}' :: rest => some ([pair], rest)
    | _ => none

/-- Reads a value; `depth` arrays and inline tables may still be opened. -/
def readValue? : Nat → List Char → Option (Value × List Char)
  | depth, cs =>
    match cs with
    | [] => none
    | '"' :: _ => (readString? cs).map fun (s, rest) => (.string (String.ofList s), rest)
    | '\'' :: _ => (readString? cs).map fun (s, rest) => (.string (String.ofList s), rest)
    | '[' :: rest =>
      match depth with
      | 0 => none
      | depth + 1 =>
        (readElements? (readValue? depth) (rest.length + 1) rest).map fun (vs, rest) => (.array vs, rest)
    | '{' :: rest =>
      match depth with
      | 0 => none
      | depth + 1 =>
        match skipBlank rest with
        | '}' :: rest => some (.table [], rest)
        | _ => do
          let (pairs, rest) ← readPairs? (readValue? depth) rest.length rest
          some (← inlineTable? pairs, rest)
    | 't' :: 'r' :: 'u' :: 'e' :: rest => some (.boolean true, rest)
    | 'f' :: 'a' :: 'l' :: 's' :: 'e' :: rest => some (.boolean false, rest)
    | 'i' :: _ => readNumber? cs
    | 'n' :: _ => readNumber? cs
    | c :: _ =>
      if isDigit c then (readDateTime? cs).orElse fun _ => readNumber? cs
      else if c = '+' ∨ c = '-' then readNumber? cs
      else none

/-- A header after its first bracket. -/
def readHeader? (cs : List Char) : Option (Section × List Char) := do
  let isArray := cs.head? == some '['
  let inner := if isArray then cs.drop 1 else cs
  let (parts, rest) ← readKey? inner.length inner
  let (path, key) ← splitKey? parts
  match isArray, rest with
  | false, ']' :: rest => some (⟨false, path, key, []⟩, rest)
  | true, ']' :: ']' :: rest => some (⟨true, path, key, []⟩, rest)
  | _, _ => none

/-- The pairs that come first and the sections after them; `fuel` bounds the number of lines. -/
def readSections? : Nat → List Char → Option (List Pair × List Section)
  | 0, _ => none
  | fuel + 1, cs =>
    match skipLines cs.length cs with
    | [] => some ([], [])
    | '#' :: rest => if (rest.dropWhile isTextChar).isEmpty then some ([], []) else none
    | '[' :: rest => do
      let (header, rest) ← readHeader? rest
      let (pairs, sections) ← readSections? fuel (← afterLine? rest)
      some ([], { header with pairs } :: sections)
    | cs => do
      let (pair, rest) ← readPair? (readValue? maxDepth) cs
      let (pairs, sections) ← readSections? fuel (← afterLine? rest)
      some (pair :: pairs, sections)

/-- The table that a text holds. -/
def parse? (text : String) : Option Entries := do
  let cs := match text.toList with
    | [] => []
    | c :: cs => if c.toNat = 0xFEFF then cs else c :: cs
  let (pairs, sections) ← readSections? (cs.length + 1) cs
  buildTable? pairs sections

end DocMark.Toml
