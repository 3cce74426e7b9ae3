-- SUMMARY: The decimal with the fewest digits that reads back as a given binary number, and its layouts.
import DocMark.Number.Binary64

/-!
# Shortest decimals

`shortest` chooses, among the decimals that round to a number, one with the fewest digits and
of those the nearest. `Layout` says how such a decimal is written: which exponents are
positional, whether an integer gets a fraction, and how an exponent looks.
-/
namespace DocMark.Number

/-- The value `digits * 10 ^ exponent`. -/
structure Decimal where
  digits : Nat
  exponent : Int
deriving DecidableEq, Inhabited, Repr

namespace Decimal

/-- Whether `a * 10 ^ i` is below, at or above `n * 2 ^ j`. -/
def compareScaled (a : Nat) (i : Int) (n : Nat) (j : Int) : Ordering :=
  compare (a * Nat.pow 10 i.toNat * Nat.pow 2 (-j).toNat)
    (n * Nat.pow 2 j.toNat * Nat.pow 10 (-i).toNat)

/-- Whether `d` lies among the reals that round to `m * 2 ^ e`. Below a power of two the
    neighbour is half as far away as above it. -/
def readsBack (m : Nat) (e : Int) (d : Decimal) : Bool :=
  let narrow := m == Nat.pow 2 (Binary64.precision - 1) && Binary64.minExponent < e
  let low := compareScaled d.digits d.exponent (if narrow then 4 * m - 1 else 4 * m - 2) (e - 2)
  let high := compareScaled d.digits d.exponent (4 * m + 2) (e - 2)
  let ends := m % 2 == 0
  (low == .gt || (ends && low == .eq)) && (high == .lt || (ends && high == .eq))

/-- The least `k` with `m * 2 ^ e < 10 ^ k`, searched upwards from `start`. -/
def scaleFrom (m : Nat) (e : Int) : Nat → Int → Int
  | 0, k => k
  | fuel + 1, k => if compareScaled 1 k m e == .gt then k else scaleFrom m e fuel (k + 1)

/-- The least `k` with `m * 2 ^ e < 10 ^ k`, for a positive `m`. -/
def scale (m : Nat) (e : Int) : Int :=
  scaleFrom m e 8 ((((m.log2 : Int) + e) * 30103).fdiv 100000 - 2)

/-- The decimal of at most `n` digits that reads back and is nearest, if there is one; an exact
    tie goes up when `tieUp` holds and else to the even digit. -/
def candidate? (tieUp : Bool) (m : Nat) (e k : Int) (n : Nat) : Option Decimal :=
  let unit := k - (n : Int)
  let num := m * Nat.pow 2 e.toNat * Nat.pow 10 (-unit).toNat
  let den := Nat.pow 2 (-e).toNat * Nat.pow 10 unit.toNat
  let low : Decimal := ⟨num / den, unit⟩
  let high : Decimal := ⟨num / den + 1, unit⟩
  match readsBack m e low, readsBack m e high with
  | false, false => none
  | true, false => some low
  | false, true => some high
  | true, true =>
    let twice := 2 * (num % den)
    if twice < den then some low
    else if den < twice then some high
    else if tieUp || low.digits % 2 == 1 then some high else some low

/-- The decimal without trailing zero digits; `fuel` bounds their number. -/
def strip : Nat → Decimal → Decimal
  | 0, d => d
  | fuel + 1, d =>
    if d.digits % 10 = 0 ∧ d.digits ≠ 0 then strip fuel ⟨d.digits / 10, d.exponent + 1⟩ else d

/-- The shortest decimal that reads back as `m * 2 ^ e`. Seventeen digits are always enough. -/
def shortest (tieUp : Bool) (m : Nat) (e : Int) : Decimal :=
  if m = 0 then ⟨0, 0⟩ else
    let k := scale m e
    let found := (List.range 17).findSome? fun n => candidate? tieUp m e k (n + 1)
    strip 20 (found.getD ⟨m * Nat.pow 2 e.toNat * Nat.pow 5 (-e).toNat, -(-e).toNat⟩)

end Decimal

/-- How a number is written. -/
structure Layout where
  /-- Numbers whose first digit stands at a power of ten from `least` to `greatest` are written
      without an exponent; none means all are. -/
  positional : Option (Int × Int)
  /-- Whether a positional integer ends in `.0`. -/
  keepsFraction : Bool
  /-- The least number of digits of an exponent. -/
  exponentWidth : Nat
  /-- Whether an exact tie between two shortest decimals goes up. -/
  tieUp : Bool

namespace Layout

def digitsOf (n : Nat) : List Char := (toString n).toList

/-- Digits with the point after the first `point` of them; a point outside the digits is
    reached over zeros. -/
def placePoint (digits : List Char) (point : Int) (keepsFraction : Bool) : List Char :=
  if point ≤ 0 then
    '0' :: '.' :: (List.replicate (-point).toNat '0' ++ digits)
  else if digits.length ≤ point.toNat then
    digits ++ List.replicate (point.toNat - digits.length) '0'
      ++ (if keepsFraction then ['.', '0'] else [])
  else digits.take point.toNat ++ '.' :: digits.drop point.toNat

def exponentText (width : Nat) (e : Int) : List Char :=
  let ds := digitsOf e.natAbs
  'e' :: (if e < 0 then '-' else '+') :: (List.replicate (width - ds.length) '0' ++ ds)

def renderMagnitude (layout : Layout) (m : Nat) (e : Int) : List Char :=
  let d := Decimal.shortest layout.tieUp m e
  let digits := digitsOf d.digits
  if m = 0 then placePoint ['0'] 1 layout.keepsFraction
  else
    let point := d.exponent + (digits.length : Int)
    let inside := match layout.positional with
      | none => true
      | some (least, greatest) => decide (least ≤ point - 1 ∧ point - 1 ≤ greatest)
    if inside then placePoint digits point layout.keepsFraction
    else
      let fraction := digits.drop 1
      digits.take 1 ++ (if fraction.isEmpty then [] else '.' :: fraction)
        ++ exponentText layout.exponentWidth (point - 1)

def render (layout : Layout) : Binary64 → String
  | .nan => "NaN"
  | .infinity negative => if negative then "-inf" else "inf"
  | .finite negative m e =>
    String.ofList ((if negative then ['-'] else []) ++ layout.renderMagnitude m e)

end Layout

end DocMark.Number
