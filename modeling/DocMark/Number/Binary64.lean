-- SUMMARY: Binary floating-point numbers of 64 bits as exact values, with rounding to nearest.

/-!
# Binary floating point

A finite number is `significand * 2 ^ exponent` with a sign. `roundQuotient` gives the number
nearest to a quotient of naturals, ties to the even significand; every other operation is an
exact computation followed by that rounding.
-/
namespace DocMark.Number

inductive Binary64 where
  | nan
  | infinity (negative : Bool)
  | finite (negative : Bool) (significand : Nat) (exponent : Int)
deriving DecidableEq, Inhabited, Repr

namespace Binary64

/-- The number of bits of a full significand. -/
def precision : Nat := 53

/-- The exponent of the smallest numbers. -/
def minExponent : Int := -1074

/-- The exponent of the greatest numbers. -/
def maxExponent : Int := 971

def zero (negative : Bool) : Binary64 := .finite negative 0 minExponent

/-- `num / den` in units of `2 ^ e`, as a numerator and a denominator. -/
def inUnits (num den : Nat) (e : Int) : Nat × Nat :=
  (num * Nat.pow 2 (-e).toNat, den * Nat.pow 2 e.toNat)

/-- The quotient rounded to nearest, ties to even. -/
def divNearest (num den : Nat) : Nat :=
  let q := num / den
  let twice := 2 * (num % den)
  if twice < den then q
  else if den < twice then q + 1
  else if q % 2 = 0 then q else q + 1

/-- The unit in which `num / den` has a full significand, or the smallest unit. -/
def unitExponent (num den : Nat) : Int :=
  let guess : Int := (num.log2 : Int) - (den.log2 : Int) - (precision : Int)
  let scaled := inUnits num den guess
  let e := if scaled.1 / scaled.2 < Nat.pow 2 precision then guess else guess + 1
  max e minExponent

/-- The number nearest to `num / den`, for a positive `den`. -/
def roundQuotient (negative : Bool) (num den : Nat) : Binary64 :=
  if num = 0 then zero negative else
    let e := unitExponent num den
    let scaled := inUnits num den e
    let m := divNearest scaled.1 scaled.2
    let (m, e) := if m < Nat.pow 2 precision then (m, e) else (m / 2, e + 1)
    if e ≤ maxExponent then .finite negative m e else .infinity negative

def ofNat (n : Nat) : Binary64 := roundQuotient false n 1

/-- The number nearest to `digits * 10 ^ exponent`. -/
def ofDecimal (negative : Bool) (digits : Nat) (exponent : Int) : Binary64 :=
  roundQuotient negative (digits * Nat.pow 10 exponent.toNat) (Nat.pow 10 (-exponent).toNat)

def neg : Binary64 → Binary64
  | .nan => .nan
  | .infinity s => .infinity (!s)
  | .finite s m e => .finite (!s) m e

def isInfinite : Binary64 → Bool
  | .infinity _ => true
  | _ => false

def isZero : Binary64 → Bool
  | .finite _ m _ => m == 0
  | _ => false

/-- A magnitude as a quotient of naturals. -/
def quotient (m : Nat) (e : Int) : Nat × Nat := (m * Nat.pow 2 e.toNat, Nat.pow 2 (-e).toNat)

/-- The product of two non-negative numbers. -/
def mulMagnitude : Binary64 → Binary64 → Binary64
  | .finite _ m e, .finite _ n f =>
    let a := quotient m e
    let b := quotient n f
    roundQuotient false (a.1 * b.1) (a.2 * b.2)
  | _, _ => .infinity false

/-- The quotient of two positive numbers. -/
def divMagnitude : Binary64 → Binary64 → Binary64
  | .finite _ m e, .finite _ n f =>
    let a := quotient m e
    let b := quotient n f
    roundQuotient false (a.1 * b.2) (a.2 * b.1)
  | _, _ => zero false

/-- The nearest natural number, halves away from zero; negative numbers give `0`, and so does
    what is not a number, and `bound` is the greatest answer. -/
def toNatBounded (bound : Nat) : Binary64 → Nat
  | .nan => 0
  | .infinity negative => if negative then 0 else bound
  | .finite negative m e =>
    if negative then 0
    else
      let q := quotient m e
      min bound ((2 * q.1 + q.2) / (2 * q.2))

end Binary64

end DocMark.Number
