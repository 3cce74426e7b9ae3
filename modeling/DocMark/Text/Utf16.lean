-- SUMMARY: UTF-16 code units: lengths, encoding, and decoding with replacement of lone surrogate halves.

/-!
# UTF-16 code units

Positions in a structured document count UTF-16 code units. A character below
`0x10000` is one unit; any other is a pair, a high half followed by a low half.
`decode` reads units back, and a half without its partner becomes U+FFFD.
-/
namespace DocMark.Text.Utf16

/-- The number of code units of a character. -/
def width (c : Char) : Nat := if c.toNat < 0x10000 then 1 else 2

/-- The number of code units of a text. -/
def length (s : String) : Nat := s.toList.foldr (fun c n => width c + n) 0

/-- The high half of the pair for the character with number `n`. -/
def highHalf (n : Nat) : UInt16 := UInt16.ofNat (0xD800 + (n - 0x10000) / 0x400)

/-- The low half of the pair for the character with number `n`. -/
def lowHalf (n : Nat) : UInt16 := UInt16.ofNat (0xDC00 + (n - 0x10000) % 0x400)

def encodeChar (c : Char) : List UInt16 :=
  if c.toNat < 0x10000 then [UInt16.ofNat c.toNat] else [highHalf c.toNat, lowHalf c.toNat]

def encode (cs : List Char) : List UInt16 := cs.flatMap encodeChar

def isHigh (u : UInt16) : Bool := 0xD800 ≤ u.toNat && u.toNat ≤ 0xDBFF

def isLow (u : UInt16) : Bool := 0xDC00 ≤ u.toNat && u.toNat ≤ 0xDFFF

/-- The character of a pair of halves. -/
def joinHalves (high low : UInt16) : Char :=
  Char.ofNat (0x10000 + (high.toNat - 0xD800) * 0x400 + (low.toNat - 0xDC00))

/-- What stands in for a half without its partner. -/
def replacement : Char := Char.ofNat 0xFFFD

def decode : List UInt16 → List Char
  | [] => []
  | [u] => [if isHigh u || isLow u then replacement else Char.ofNat u.toNat]
  | u :: v :: rest =>
    if isHigh u then
      if isLow v then joinHalves u v :: decode rest else replacement :: decode (v :: rest)
    else if isLow u then replacement :: decode (v :: rest)
    else Char.ofNat u.toNat :: decode (v :: rest)

end DocMark.Text.Utf16
