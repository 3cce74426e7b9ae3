-- SUMMARY: The pieces of a JSON text: blanks, words, strings and numbers, and skipping a whole value.
import DocMark.Json.Fault
import DocMark.Text.Decimal

/-!
# Pieces of JSON texts

Each function reads one piece from the front of the characters and returns it with the rest,
or the first fault. Strings and numbers are read exactly; `skipValue` passes over a value
whose content nobody asked for, and checks no more of it than its form.
-/
namespace DocMark.Json

def isBlank (c : Char) : Bool := c == ' ' || c == '\n' || c == '\t' || c == '\r'

def skipBlank (cs : List Char) : List Char := cs.dropWhile isBlank

/-- The rest of a word whose letters are given. -/
def readWord : List Char → List Char → Except Fault (List Char)
  | [], cs => .ok cs
  | _ :: _, [] => .error .endInValue
  | l :: letters, c :: cs => if l = c then readWord letters cs else .error .expectedWord

/-! ## Strings -/

def hexValue? (c : Char) : Option Nat :=
  if c.isDigit then some (c.toNat - 48)
  else if 'a' ≤ c ∧ c ≤ 'f' then some (c.toNat - 87)
  else if 'A' ≤ c ∧ c ≤ 'F' then some (c.toNat - 55)
  else none

/-- Whether fewer than `n` bytes are left. -/
def fewerBytes (n : Nat) : List Char → Bool
  | [] => 0 < n
  | c :: cs => if c.utf8Size < n then fewerBytes (n - c.utf8Size) cs else false

/-- The four digits of a `\u` escape. -/
def readHex : List Char → Except Fault (Nat × List Char)
  | a :: b :: c :: d :: rest =>
    match hexValue? a, hexValue? b, hexValue? c, hexValue? d with
    | some x, some y, some z, some w => .ok (((x * 16 + y) * 16 + z) * 16 + w, rest)
    | _, _, _, _ => .error .invalidEscape
  | cs => if fewerBytes 4 cs then .error .endInString else .error .invalidEscape

/-- The character of an escape with a single letter. -/
def escapeLetter? (c : Char) : Option Char :=
  if c = '"' then some '"'
  else if c = '\\' then some '\\'
  else if c = '/' then some '/'
  else if c = 'b' then some '\x08'
  else if c = 'f' then some '\x0c'
  else if c = 'n' then some '\n'
  else if c = 'r' then some '\r'
  else if c = 't' then some '\t'
  else none

def isHighHalf (n : Nat) : Bool := 0xD800 ≤ n && n ≤ 0xDBFF

def isLowHalf (n : Nat) : Bool := 0xDC00 ≤ n && n ≤ 0xDFFF

/-- The low half that must follow a high one. -/
def readLowHalf : List Char → Except Fault (Nat × List Char)
  | [] => .error .endInString
  | c :: cs =>
    if c ≠ '\\' then .error .unfinishedSurrogate
    else match cs with
      | [] => .error .endInString
      | d :: ds =>
        if d ≠ 'u' then .error .unfinishedSurrogate
        else do
          let (low, rest) ← readHex ds
          if isLowHalf low then .ok (low, rest) else .error .loneSurrogate

/-- The character of a `\u` escape, which may take a second escape for its low half. -/
def readUnicodeEscape (cs : List Char) : Except Fault (Char × List Char) := do
  let (n, rest) ← readHex cs
  if isLowHalf n then .error .loneSurrogate
  else if isHighHalf n then do
    let (low, rest) ← readLowHalf rest
    .ok (Char.ofNat (0x10000 + (n - 0xD800) * 0x400 + (low - 0xDC00)), rest)
  else .ok (Char.ofNat n, rest)

/-- The characters up to the closing quote; `fuel` bounds the number of characters. -/
def readChars : Nat → List Char → Except Fault (List Char × List Char)
  | 0, _ => .error .endInString
  | _ + 1, [] => .error .endInString
  | fuel + 1, c :: cs =>
    if c = '"' then .ok ([], cs)
    else if c = '\\' then
      match cs with
      | [] => .error .endInString
      | e :: rest =>
        if e = 'u' then do
          let (x, rest) ← readUnicodeEscape rest
          let (xs, rest) ← readChars fuel rest
          .ok (x :: xs, rest)
        else match escapeLetter? e with
          | none => .error .invalidEscape
          | some x => do
            let (xs, rest) ← readChars fuel rest
            .ok (x :: xs, rest)
    else if c.toNat < 32 then .error .controlCharacter
    else do
      let (xs, rest) ← readChars fuel cs
      .ok (c :: xs, rest)

/-- A string whose opening quote has been read. -/
def readString (cs : List Char) : Except Fault (String × List Char) := do
  let (xs, rest) ← readChars (cs.length + 1) cs
  .ok (String.ofList xs, rest)

/-- Passes over a string whose opening quote has been read; halves of surrogate pairs need not
    match. -/
def skipChars : Nat → List Char → Except Fault (List Char)
  | 0, _ => .error .endInString
  | _ + 1, [] => .error .endInString
  | fuel + 1, c :: cs =>
    if c = '"' then .ok cs
    else if c = '\\' then
      match cs with
      | [] => .error .endInString
      | e :: rest =>
        if e = 'u' then do
          let (_, rest) ← readHex rest
          skipChars fuel rest
        else if (escapeLetter? e).isSome then skipChars fuel rest
        else .error .invalidEscape
    else if c.toNat < 32 then .error .controlCharacter
    else skipChars fuel cs

def skipString (cs : List Char) : Except Fault (List Char) := skipChars (cs.length + 1) cs

/-! ## Numbers -/

/-- The greatest integer that is read exactly. -/
def maxNatural : Nat := 18446744073709551615

/-- Digits after a significand: as many as keep it within `maxNatural` are added to it. The
    result is the significand, how many digits were added and how many were not. -/
def addDigits (significand : Nat) : List Char → Nat × Nat × Nat
  | [] => (significand, 0, 0)
  | c :: cs =>
    let next := significand * 10 + (c.toNat - 48)
    if maxNatural < next then (significand, 0, cs.length + 1)
    else
      let (s, added, left) := addDigits next cs
      (s, added + 1, left)

/-- The power of ten that scales a significand in one step. -/
def maxScale : Nat := 308

def powerOfTen (n : Nat) : Number.Binary64 := .ofNat (Nat.pow 10 n)

/-- A non-negative number scaled by a power of ten, a rounding at each step. -/
def scaleFloat : Nat → Number.Binary64 → Int → Except Fault Number.Binary64
  | 0, x, _ => .ok x
  | fuel + 1, x, e =>
    if e.natAbs ≤ maxScale then
      if 0 ≤ e then
        let y := x.mulMagnitude (powerOfTen e.natAbs)
        if y.isInfinite then .error .numberOutOfRange else .ok y
      else .ok (x.divMagnitude (powerOfTen e.natAbs))
    else if x.isZero then .ok x
    else if 0 ≤ e then .error .numberOutOfRange
    else scaleFloat fuel (x.divMagnitude (powerOfTen maxScale)) (e + (maxScale : Int))

/-- The floating-point number `± significand * 10 ^ e`; three steps bring any significand to
    zero. -/
def makeFloat (negative : Bool) (significand : Nat) (e : Int) : Except Fault Number := do
  let x ← scaleFloat 5 (.ofNat significand) e
  .ok (.float (if negative then x.neg else x))

/-- The greatest exponent that is computed with. -/
def maxExponent : Nat := 2147483647

/-- An exponent whose mark has been read. -/
def readExponent (negative : Bool) (significand : Nat) (start : Int) (cs : List Char) :
    Except Fault (Number × List Char) := do
  let (down, cs) := match cs with
    | '+' :: rest => (false, rest)
    | '-' :: rest => (true, rest)
    | _ => (false, cs)
  let digits := cs.takeWhile Char.isDigit
  let rest := cs.dropWhile Char.isDigit
  if digits.isEmpty then .error (if rest.isEmpty then .endInValue else .invalidNumber)
  else
    let e := (Text.Decimal.readDigits? digits).getD 0
    if maxExponent < e then
      if significand ≠ 0 ∧ ¬ down then .error .numberOutOfRange
      else .ok (.float (.zero negative), rest)
    else do
      let x ← makeFloat negative significand (if down then start - (e : Int) else start + (e : Int))
      .ok (x, rest)

/-- What follows the digits of a significand, apart from a fraction. -/
def readScale (negative : Bool) (significand : Nat) (start : Int) (cs : List Char) :
    Except Fault (Number × List Char) :=
  match cs with
  | 'e' :: rest => readExponent negative significand start rest
  | 'E' :: rest => readExponent negative significand start rest
  | _ => do
    let x ← makeFloat negative significand start
    .ok (x, cs)

/-- A fraction whose point has been read. -/
def readFraction (negative : Bool) (significand : Nat) (start : Int) (cs : List Char) :
    Except Fault (Number × List Char) :=
  let digits := cs.takeWhile Char.isDigit
  let rest := cs.dropWhile Char.isDigit
  if digits.isEmpty then .error (if rest.isEmpty then .endInValue else .invalidNumber)
  else
    let (s, added, _) := addDigits significand digits
    readScale negative s (start - (added : Int)) rest

/-- An integer within bounds is exact; a negative zero is floating-point. -/
def makeInteger (negative : Bool) (n : Nat) : Number :=
  if ¬ negative then .natural n
  else if 0 < n ∧ n ≤ 9223372036854775808 then .negative n
  else .float (Number.Binary64.ofNat n).neg

def readDigits (negative : Bool) (cs : List Char) : Except Fault (Number × List Char) :=
  let digits := cs.takeWhile Char.isDigit
  let rest := cs.dropWhile Char.isDigit
  let (s, _, left) := addDigits 0 digits
  match rest with
  | '.' :: fraction => readFraction negative s (left : Int) fraction
  | 'e' :: e => readExponent negative s (left : Int) e
  | 'E' :: e => readExponent negative s (left : Int) e
  | _ =>
    if left = 0 then .ok (makeInteger negative s, rest)
    else do
      let x ← makeFloat negative s (left : Int)
      .ok (x, rest)

/-- A number whose sign has been read. A zero stands alone before the point. -/
def readUnsignedNumber (negative : Bool) : List Char → Except Fault (Number × List Char)
  | [] => .error .endInValue
  | c :: cs =>
    if ¬ c.isDigit then .error .invalidNumber
    else if c = '0' ∧ (cs.head?.any Char.isDigit) then .error .invalidNumber
    else readDigits negative (c :: cs)

/-- Passes over an exponent whose mark has been read. -/
def skipExponent (cs : List Char) : Except Fault (List Char) :=
  let cs := match cs with
    | '+' :: rest => rest
    | '-' :: rest => rest
    | _ => cs
  if cs.head?.any Char.isDigit then .ok (cs.dropWhile Char.isDigit) else .error .invalidNumber

def skipScale (cs : List Char) : Except Fault (List Char) :=
  match cs with
  | 'e' :: rest => skipExponent rest
  | 'E' :: rest => skipExponent rest
  | _ => .ok cs

/-- Passes over a number whose sign has been read. -/
def skipUnsignedNumber : List Char → Except Fault (List Char)
  | [] => .error .invalidNumber
  | c :: cs =>
    if ¬ c.isDigit then .error .invalidNumber
    else if c = '0' ∧ (cs.head?.any Char.isDigit) then .error .invalidNumber
    else match cs.dropWhile Char.isDigit with
      | '.' :: fraction =>
        if fraction.head?.any Char.isDigit then skipScale (fraction.dropWhile Char.isDigit)
        else .error .invalidNumber
      | rest => skipScale rest

/-! ## Values nobody asked for -/

/-- Passes over one element after another up to the closing bracket, the first one being due. -/
def skipElements (skip : List Char → Except Fault (List Char)) :
    Nat → List Char → Except Fault (List Char)
  | 0, _ => .error .endInValue
  | fuel + 1, cs => do
    let rest ← skip cs
    match skipBlank rest with
    | [] => .error .endInList
    | ',' :: rest => skipElements skip fuel rest
    | ']' :: rest => .ok rest
    | _ => .error .expectedCommaOrBracket

/-- Passes over one member after another up to the closing brace, the first one being due. -/
def skipMembers (skip : List Char → Except Fault (List Char)) :
    Nat → List Char → Except Fault (List Char)
  | 0, _ => .error .endInValue
  | fuel + 1, cs =>
    match skipBlank cs with
    | [] => .error .endInObject
    | '"' :: rest => do
      let rest ← skipString rest
      match skipBlank rest with
      | [] => .error .endInObject
      | ':' :: rest => do
        let rest ← skip rest
        match skipBlank rest with
        | [] => .error .endInObject
        | ',' :: rest => skipMembers skip fuel rest
        | '}' :: rest => .ok rest
        | _ => .error .expectedCommaOrBrace
      | _ => .error .expectedColon
    | _ => .error .keyNotString

/-- Passes over one value; `fuel` bounds its nesting. -/
def skipNested : Nat → List Char → Except Fault (List Char)
  | 0, _ => .error .endInValue
  | fuel + 1, cs =>
    match skipBlank cs with
    | [] => .error .endInValue
    | 'n' :: rest => readWord "ull".toList rest
    | 't' :: rest => readWord "rue".toList rest
    | 'f' :: rest => readWord "alse".toList rest
    | '"' :: rest => skipString rest
    | '-' :: rest => skipUnsignedNumber rest
    | '[' :: rest =>
      match skipBlank rest with
      | [] => .error .endInList
      | ']' :: rest => .ok rest
      | inner => skipElements (skipNested fuel) (inner.length + 1) inner
    | '{' :: rest =>
      match skipBlank rest with
      | [] => .error .endInObject
      | '}' :: rest => .ok rest
      | inner => skipMembers (skipNested fuel) (inner.length + 1) inner
    | c :: rest => if c.isDigit then skipUnsignedNumber (c :: rest) else .error .expectedValue

/-- Passes over one value, however deep. -/
def skipValue (cs : List Char) : Except Fault (List Char) := skipNested (cs.length + 1) cs

end DocMark.Json
