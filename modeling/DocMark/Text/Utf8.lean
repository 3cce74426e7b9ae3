-- SUMMARY: UTF-8: encoding, and strict decoding that says where and how a sequence is malformed.

/-!
# UTF-8

A character is one to four bytes: a leading byte that says how many follow, and that many
continuation bytes. The byte after the first one is restricted further where shorter sequences, surrogates or
numbers above U+10FFFF would otherwise be written. `decode` reads the whole text or gives
the first malformed sequence.
-/
namespace DocMark.Text.Utf8

/-- A malformed sequence at the byte with the given index. -/
inductive Fault where
  /-- The first `length` bytes of the sequence cannot be continued by what follows. -/
  | invalid (index length : Nat)
  /-- The text ends inside the sequence. -/
  | incomplete (index : Nat)
deriving DecidableEq, Repr

def Fault.message : Fault → String
  | .invalid index length => s!"invalid utf-8 sequence of {length} bytes from index {index}"
  | .incomplete index => s!"incomplete utf-8 byte sequence from index {index}"

/-- The inclusive range of a continuation byte. -/
abbrev ByteRange := Nat × Nat

def continuation : ByteRange := (0x80, 0xBF)

/-- The bits that a leading byte gives, and the ranges of the bytes that must follow it. -/
def leading? (b : Nat) : Option (Nat × List ByteRange) :=
  if b < 0x80 then some (b, [])
  else if 0xC2 ≤ b ∧ b ≤ 0xDF then some (b - 0xC0, [continuation])
  else if 0xE0 ≤ b ∧ b ≤ 0xEF then
    let second := if b = 0xE0 then (0xA0, 0xBF) else if b = 0xED then (0x80, 0x9F) else continuation
    some (b - 0xE0, [second, continuation])
  else if 0xF0 ≤ b ∧ b ≤ 0xF4 then
    let second := if b = 0xF0 then (0x90, 0xBF) else if b = 0xF4 then (0x80, 0x8F) else continuation
    some (b - 0xF0, [second, continuation, continuation])
  else none

/-- Reads bytes, where the character in progress began at `start`, has the number `value` so far and
    still needs bytes in the ranges `needed`; `index` is the place of the next byte. -/
def decodeFrom (start value : Nat) (needed : List ByteRange) (index : Nat) :
    List UInt8 → Except Fault (List Char)
  | [] => if needed.isEmpty then .ok [] else .error (.incomplete start)
  | b :: bs =>
    let b := b.toNat
    match needed with
    | [] =>
      match leading? b with
      | none => .error (.invalid index 1)
      | some (value, []) => (Char.ofNat value :: ·) <$> decodeFrom index 0 [] (index + 1) bs
      | some (value, needed) => decodeFrom index value needed (index + 1) bs
    | range :: needed =>
      if range.1 ≤ b ∧ b ≤ range.2 then
        let value := 0x40 * value + (b - 0x80)
        match needed with
        | [] => (Char.ofNat value :: ·) <$> decodeFrom index 0 [] (index + 1) bs
        | _ :: _ => decodeFrom start value needed (index + 1) bs
      else .error (.invalid start (index - start))

def decode (bs : List UInt8) : Except Fault (List Char) := decodeFrom 0 0 [] 0 bs

def encodeChar (c : Char) : List UInt8 :=
  let n := c.toNat
  if n < 0x80 then [UInt8.ofNat n]
  else if n < 0x800 then [UInt8.ofNat (0xC0 + n / 0x40), UInt8.ofNat (0x80 + n % 0x40)]
  else if n < 0x10000 then
    [UInt8.ofNat (0xE0 + n / 0x1000), UInt8.ofNat (0x80 + n / 0x40 % 0x40),
      UInt8.ofNat (0x80 + n % 0x40)]
  else
    [UInt8.ofNat (0xF0 + n / 0x40000), UInt8.ofNat (0x80 + n / 0x1000 % 0x40),
      UInt8.ofNat (0x80 + n / 0x40 % 0x40), UInt8.ofNat (0x80 + n % 0x40)]

def encode (cs : List Char) : List UInt8 := cs.flatMap encodeChar

end DocMark.Text.Utf8
