-- SUMMARY: Reading a whole JSON text as a value.
import DocMark.Json.Lexeme

/-!
# Reading values

`Value.parse` reads a text that holds one value and nothing else. Arrays and objects nest up to
`maxDepth`; an object keeps all its members in order.
-/
namespace DocMark.Json

/-- How many arrays and objects may be open at once. -/
def maxDepth : Nat := 127

/-- What a text continues with after an element: another one, or the closing bracket. -/
inductive Continuation where
  | next (rest : List Char)
  | done (rest : List Char)

/-- After an element of an array. A comma must be followed by an element. -/
def afterElement (cs : List Char) : Except Fault Continuation :=
  match skipBlank cs with
  | [] => .error .endInList
  | ']' :: rest => .ok (.done rest)
  | ',' :: rest =>
    match skipBlank rest with
    | [] => .error .endInValue
    | ']' :: _ => .error .trailingComma
    | rest => .ok (.next rest)
  | _ => .error .expectedCommaOrBracket

/-- After a member of an object. A comma must be followed by a key. -/
def afterMember (cs : List Char) : Except Fault Continuation :=
  match skipBlank cs with
  | [] => .error .endInObject
  | '}' :: rest => .ok (.done rest)
  | ',' :: rest =>
    match skipBlank rest with
    | [] => .error .endInValue
    | '}' :: _ => .error .trailingComma
    | '"' :: rest => .ok (.next rest)
    | _ => .error .keyNotString
  | _ => .error .expectedCommaOrBrace

/-- The start of an array's content after its bracket. -/
def firstElement (cs : List Char) : Except Fault Continuation :=
  match skipBlank cs with
  | [] => .error .endInList
  | ']' :: rest => .ok (.done rest)
  | rest => .ok (.next rest)

/-- The start of an object's content after its brace; a key's opening quote is consumed. -/
def firstMember (cs : List Char) : Except Fault Continuation :=
  match skipBlank cs with
  | [] => .error .endInObject
  | '}' :: rest => .ok (.done rest)
  | '"' :: rest => .ok (.next rest)
  | _ => .error .keyNotString

/-- The colon after a key. -/
def readColon (cs : List Char) : Except Fault (List Char) :=
  match skipBlank cs with
  | [] => .error .endInObject
  | ':' :: rest => .ok rest
  | _ => .error .expectedColon

namespace Value

def readElements (read : List Char → Except Fault (Value × List Char)) :
    Nat → Continuation → Except Fault (List Value × List Char)
  | _, .done rest => .ok ([], rest)
  | 0, .next _ => .error .endInList
  | fuel + 1, .next cs => do
    let (v, rest) ← read cs
    let (vs, rest) ← readElements read fuel (← afterElement rest)
    .ok (v :: vs, rest)

def readMembers (read : List Char → Except Fault (Value × List Char)) :
    Nat → Continuation → Except Fault (List (String × Value) × List Char)
  | _, .done rest => .ok ([], rest)
  | 0, .next _ => .error .endInObject
  | fuel + 1, .next cs => do
    let (key, rest) ← readString cs
    let (v, rest) ← read (← readColon rest)
    let (ms, rest) ← readMembers read fuel (← afterMember rest)
    .ok ((key, v) :: ms, rest)

/-- Reads one value; `depth` arrays and objects may still be opened. -/
def read : Nat → List Char → Except Fault (Value × List Char)
  | depth, cs =>
    match skipBlank cs with
    | [] => .error .endInValue
    | 'n' :: rest => do .ok (.null, ← readWord "ull".toList rest)
    | 't' :: rest => do .ok (.bool true, ← readWord "rue".toList rest)
    | 'f' :: rest => do .ok (.bool false, ← readWord "alse".toList rest)
    | '"' :: rest => do
      let (s, rest) ← readString rest
      .ok (.string s, rest)
    | '-' :: rest => do
      let (n, rest) ← readUnsignedNumber true rest
      .ok (.number n, rest)
    | '[' :: rest =>
      match depth with
      | 0 => .error .tooDeep
      | depth + 1 => do
        let (vs, rest) ← readElements (read depth) rest.length (← firstElement rest)
        .ok (.array vs, rest)
    | '{' :: rest =>
      match depth with
      | 0 => .error .tooDeep
      | depth + 1 => do
        let (ms, rest) ← readMembers (read depth) rest.length (← firstMember rest)
        .ok (.object ms, rest)
    | c :: rest =>
      if c.isDigit then do
        let (n, rest) ← readUnsignedNumber false (c :: rest)
        .ok (.number n, rest)
      else .error .expectedValue

/-- The value of a text that holds nothing else. -/
def parse (text : String) : Except Fault Value := do
  let (v, rest) ← read maxDepth text.toList
  if (skipBlank rest).isEmpty then .ok v else .error .trailingCharacters

end Value

end DocMark.Json
