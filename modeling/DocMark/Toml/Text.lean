-- SUMMARY: TOML strings: basic and literal ones, on one line or several.
import DocMark.Toml.Chars

/-!
# Strings

A basic string knows escapes, a literal one does not. Strings in triple quotes may go over
several lines; their first line end is dropped, and up to two quotes may stand right before the closing
three. Readers give the text and what follows it.
-/
namespace DocMark.Toml

/-- The character with a number, if it is one. -/
def character? (n : Nat) : Option Char :=
  if n < 0xD800 ∨ (0xE000 ≤ n ∧ n < 0x110000) then some (Char.ofNat n) else none

/-- A character given by `count` hexadecimal digits. -/
def readCodePoint? (count : Nat) (cs : List Char) : Option (Char × List Char) :=
  let digits := cs.take count
  if digits.length = count ∧ digits.all isHexDigit then
    (character? (digits.foldl (fun n c => 16 * n + digitValue c) 0)).map (·, cs.drop count)
  else none

/-- The character of an escape after its backslash. -/
def readEscape? : List Char → Option (Char × List Char)
  | 'b' :: rest => some ('\x08', rest)
  | 't' :: rest => some ('\t', rest)
  | 'n' :: rest => some ('\n', rest)
  | 'f' :: rest => some ('\x0c', rest)
  | 'r' :: rest => some ('\r', rest)
  | '"' :: rest => some ('"', rest)
  | '\\' :: rest => some ('\\', rest)
  | 'u' :: rest => readCodePoint? 4 rest
  | 'U' :: rest => readCodePoint? 8 rest
  | _ => none

/-- A basic string after its quote; `fuel` bounds its length. -/
def readBasic? : Nat → List Char → Option (List Char × List Char)
  | 0, _ => none
  | fuel + 1, cs =>
    match cs with
    | [] => none
    | '"' :: rest => some ([], rest)
    | '\\' :: rest => do
      let (c, rest) ← readEscape? rest
      let (text, rest) ← readBasic? fuel rest
      some (c :: text, rest)
    | c :: rest =>
      if isTextChar c then (readBasic? fuel rest).map fun (text, rest) => (c :: text, rest)
      else none

/-- A literal string after its quote. -/
def readLiteral? : List Char → Option (List Char × List Char)
  | [] => none
  | c :: rest =>
    if c = '\'' then some ([], rest)
    else if isTextChar c then (readLiteral? rest).map fun (text, rest) => (c :: text, rest)
    else none

/-- After a backslash at the end of a line: everything up to the next character that is neither
    blank nor line end. -/
def afterContinuation? (cs : List Char) : Option (List Char) :=
  (afterNewline? (skipBlank cs)).map fun rest =>
    rest.dropWhile fun c => isBlank c || c == '\n' || c == '\r'

/-- A run of quotes: what it adds to the text, and whether it ends the string. -/
def readQuotes (quote : Char) (cs : List Char) : Nat × Bool × List Char :=
  let run := (cs.takeWhile (· == quote)).length
  if run < 3 then (run, false, cs.drop run)
  else
    let used := min run 5
    (used - 3, true, cs.drop used)

/-- A string of several lines after its opening quotes and first line end; `fuel` bounds its
    length. -/
def readLines? (quote : Char) (escapes : Bool) : Nat → List Char → Option (List Char × List Char)
  | 0, _ => none
  | fuel + 1, cs =>
    match cs with
    | [] => none
    | c :: rest =>
      if c = quote then
        let (count, done, rest) := readQuotes quote cs
        let quotes := List.replicate count quote
        if done then some (quotes, rest)
        else (readLines? quote escapes fuel rest).map fun (text, rest) => (quotes ++ text, rest)
      else if escapes && c = '\\' then
        match afterContinuation? rest with
        | some rest => readLines? quote escapes fuel rest
        | none => do
          let (c, rest) ← readEscape? rest
          let (text, rest) ← readLines? quote escapes fuel rest
          some (c :: text, rest)
      else
        match afterNewline? cs with
        | some rest => (readLines? quote escapes fuel rest).map fun (text, rest) => ('\n' :: text, rest)
        | none =>
          if isTextChar c then
            (readLines? quote escapes fuel rest).map fun (text, rest) => (c :: text, rest)
          else none

/-- The text without a line end at its start. -/
def dropFirstNewline (cs : List Char) : List Char := (afterNewline? cs).getD cs

/-- A string on one line, as a key may be. -/
def readLineString? : List Char → Option (List Char × List Char)
  | '"' :: rest => readBasic? (rest.length + 1) rest
  | '\'' :: rest => readLiteral? rest
  | _ => none

/-- Any string. -/
def readString? (cs : List Char) : Option (List Char × List Char) :=
  match cs with
  | '"' :: '"' :: '"' :: rest => readLines? '"' true (rest.length + 1) (dropFirstNewline rest)
  | '\'' :: '\'' :: '\'' :: rest => readLines? '\'' false (rest.length + 1) (dropFirstNewline rest)
  | _ => readLineString? cs

/-- One part of a key: a bare word or a string on one line. -/
def readKeyPart? (cs : List Char) : Option (String × List Char) :=
  match cs with
  | '"' :: _ => (readLineString? cs).map fun (text, rest) => (String.ofList text, rest)
  | '\'' :: _ => (readLineString? cs).map fun (text, rest) => (String.ofList text, rest)
  | _ =>
    let word := cs.takeWhile isBareKeyChar
    if word.isEmpty then none else some (String.ofList word, cs.dropWhile isBareKeyChar)

/-- A key of parts joined by dots, with blanks around each; `fuel` bounds the number of parts. -/
def readKey? : Nat → List Char → Option (List String × List Char)
  | 0, _ => none
  | fuel + 1, cs => do
    let (part, rest) ← readKeyPart? (skipBlank cs)
    match skipBlank rest with
    | '.' :: rest =>
      let (parts, rest) ← readKey? fuel rest
      some (part :: parts, rest)
    | rest => some ([part], rest)

end DocMark.Toml
