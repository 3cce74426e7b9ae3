-- SUMMARY: Reading natural numbers written in decimal digits.

/-!
# Decimal numerals

`readDigits?` reads a non-empty run of ASCII digits. `readUnsigned?` also takes one leading
`+` and refuses a number above a bound; leading zeros are allowed by both.
-/
namespace DocMark.Text.Decimal

/-- The value of an ASCII digit. -/
def digit? (c : Char) : Option Nat := if c.isDigit then some (c.toNat - '0'.toNat) else none

/-- The number written by `cs` after digits worth `acc`. -/
def readAfter? (acc : Nat) : List Char → Option Nat
  | [] => some acc
  | c :: cs => (digit? c).bind fun d => readAfter? (10 * acc + d) cs

def readDigits? (cs : List Char) : Option Nat := if cs.isEmpty then none else readAfter? 0 cs

def readUnsigned? (bound : Nat) (cs : List Char) : Option Nat :=
  let digits := match cs with
    | '+' :: rest => rest
    | _ => cs
  (readDigits? digits).filter (· ≤ bound)

end DocMark.Text.Decimal
