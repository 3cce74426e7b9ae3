-- SUMMARY: JSON values and their two written forms, compact and indented.
import DocMark.Number.Shortest

/-!
# JSON values

Objects keep their members in the order given. `compact` writes a value without blanks and
`pretty` with two blanks per level; both escape a string the same way.
-/
namespace DocMark.Json

inductive Number where
  | natural (n : Nat)
  /-- The integer `-n`, for a positive `n`. -/
  | negative (n : Nat)
  | float (x : Number.Binary64)
deriving DecidableEq, Inhabited, Repr

inductive Value where
  | null
  | bool (b : Bool)
  | number (n : Number)
  | string (s : String)
  | array (elements : List Value)
  | object (members : List (String × Value))
deriving Inhabited, Repr

/-- Floating-point numbers always have a point or an exponent, the exponent a sign. -/
def floatLayout : Number.Layout := ⟨some (-5, 15), true, 2, false⟩

def Number.text : Number → List Char
  | .natural n => (toString n).toList
  | .negative n => '-' :: (toString n).toList
  | .float x => (floatLayout.render x).toList

def hexDigit (n : Nat) : Char := Char.ofNat (if n < 10 then 48 + n else 87 + n)

/-- One character of a string as it stands between the quotes. -/
def escapeChar (c : Char) : List Char :=
  if c = '"' then ['\\', '"']
  else if c = '\\' then ['\\', '\\']
  else if c = '\n' then ['\\', 'n']
  else if c = '\r' then ['\\', 'r']
  else if c = '\t' then ['\\', 't']
  else if c = '\x08' then ['\\', 'b']
  else if c = '\x0c' then ['\\', 'f']
  else if c.toNat < 32 then
    ['\\', 'u', '0', '0', hexDigit (c.toNat / 16), hexDigit (c.toNat % 16)]
  else [c]

def quote (s : String) : List Char := '"' :: (s.toList.flatMap escapeChar ++ ['"'])

namespace Value

mutual

def compact : Value → List Char
  | .null => "null".toList
  | .bool b => if b then "true".toList else "false".toList
  | .number n => n.text
  | .string s => quote s
  | .array elements => '[' :: (compactElements elements ++ [']'])
  | .object members => '{' :: (compactMembers members ++ ['}'])

def compactElements : List Value → List Char
  | [] => []
  | [v] => v.compact
  | v :: w :: rest => v.compact ++ ',' :: compactElements (w :: rest)

def compactMembers : List (String × Value) → List Char
  | [] => []
  | [(k, v)] => quote k ++ ':' :: v.compact
  | (k, v) :: m :: rest => quote k ++ ':' :: (v.compact ++ ',' :: compactMembers (m :: rest))

end

/-- A line end and the blanks of a nesting level. -/
def newLine (level : Nat) : List Char := '\n' :: List.replicate (2 * level) ' '

mutual

/-- The indented form of a value that stands at the given nesting level. -/
def prettyAt (level : Nat) : Value → List Char
  | .null => "null".toList
  | .bool b => if b then "true".toList else "false".toList
  | .number n => n.text
  | .string s => quote s
  | .array [] => ['[', ']']
  | .array (v :: rest) =>
    '[' :: (prettyElements (level + 1) (v :: rest) ++ newLine level ++ [']'])
  | .object [] => ['{', '}']
  | .object (m :: rest) =>
    '{' :: (prettyMembers (level + 1) (m :: rest) ++ newLine level ++ ['}'])

def prettyElements (level : Nat) : List Value → List Char
  | [] => []
  | [v] => newLine level ++ v.prettyAt level
  | v :: w :: rest => newLine level ++ v.prettyAt level ++ ',' :: prettyElements level (w :: rest)

def prettyMembers (level : Nat) : List (String × Value) → List Char
  | [] => []
  | [(k, v)] => newLine level ++ quote k ++ ':' :: ' ' :: v.prettyAt level
  | (k, v) :: m :: rest =>
    newLine level ++ quote k ++ ':' :: ' ' :: (v.prettyAt level ++ ',' :: prettyMembers level (m :: rest))

end

def compactText (v : Value) : String := String.ofList v.compact

def prettyText (v : Value) : String := String.ofList (v.prettyAt 0)

end Value

end DocMark.Json
