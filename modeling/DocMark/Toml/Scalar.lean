-- SUMMARY: TOML numbers, dates and times.
import DocMark.Toml.Chars
import DocMark.Toml.Value

/-!
# Numbers, dates and times

Underscores may stand between digits. Integers have 64 bits; a float is rounded to nearest and
must not be too large. Dates and times are checked for existence and written in normal form:
with a `T` between them, `Z` for no offset, and no zeros at the end of a fraction.
-/
namespace DocMark.Toml

open Number (Binary64)

/-! ## Digits -/

/-- Digits of a base after the first one, with single underscores between them. -/
def readMoreDigits? (isBaseDigit : Char → Bool) : List Char → Option (List Char × List Char)
  | '_' :: c :: rest =>
    if isBaseDigit c then
      (readMoreDigits? isBaseDigit rest).map fun (digits, rest) => (c :: digits, rest)
    else none
  | '_' :: [] => none
  | c :: rest =>
    if isBaseDigit c then
      (readMoreDigits? isBaseDigit rest).map fun (digits, rest) => (c :: digits, rest)
    else some ([], c :: rest)
  | [] => some ([], [])

def readDigits? (isBaseDigit : Char → Bool) : List Char → Option (List Char × List Char)
  | [] => none
  | c :: rest =>
    if isBaseDigit c then
      (readMoreDigits? isBaseDigit rest).map fun (digits, rest) => (c :: digits, rest)
    else none

def valueOf (base : Nat) (digits : List Char) : Nat :=
  digits.foldl (fun n c => base * n + digitValue c) 0

/-- A decimal integer without a needless zero in front. -/
def readDecimal? : List Char → Option (List Char × List Char)
  | '0' :: rest => some (['0'], rest)
  | cs => readDigits? isDigit cs

/-! ## Numbers -/

def minInteger : Int := -9223372036854775808

def maxInteger : Int := 9223372036854775807

/-- The integer, if it has 64 bits. -/
def integer? (n : Int) : Option Value :=
  if minInteger ≤ n ∧ n ≤ maxInteger then some (.integer n) else none

def readBased? (base : Nat) (isBaseDigit : Char → Bool) (cs : List Char) :
    Option (Value × List Char) := do
  let (digits, rest) ← readDigits? isBaseDigit cs
  some (← integer? (valueOf base digits), rest)

/-- The exponents that matter; a greater one, or a smaller one, decides the number by itself. -/
def exponentBound : Int := 100000

/-- The float with the given digits before and after the point. -/
def float? (negative : Bool) (whole fraction : List Char) (exponent : Int) : Option Value :=
  let digits := valueOf 10 (whole ++ fraction)
  let exponent := max (-exponentBound) (min exponentBound exponent) - (fraction.length : Int)
  let x := if digits = 0 then Binary64.zero negative else Binary64.ofDecimal negative digits exponent
  if x = .infinity false then none else some (.float x)

def readSign : List Char → Bool × List Char
  | '-' :: rest => (true, rest)
  | '+' :: rest => (false, rest)
  | cs => (false, cs)

/-- The exponent after its mark. -/
def readExponent? (cs : List Char) : Option (Int × List Char) := do
  let (negative, rest) := readSign cs
  let (digits, rest) ← readDigits? isDigit rest
  let n : Int := valueOf 10 digits
  some (if negative then -n else n, rest)

def startsExponent : List Char → Bool
  | 'e' :: _ => true
  | 'E' :: _ => true
  | _ => false

/-- A decimal number after its sign. -/
def readPlain? (negative : Bool) (cs : List Char) : Option (Value × List Char) := do
  let (whole, rest) ← readDecimal? cs
  match rest with
  | '.' :: rest =>
    let (fraction, rest) ← readDigits? isDigit rest
    let (exponent, rest) ← if startsExponent rest then readExponent? (rest.drop 1) else some (0, rest)
    some (← float? negative whole fraction exponent, rest)
  | rest =>
    if startsExponent rest then
      let (exponent, rest) ← readExponent? (rest.drop 1)
      some (← float? negative whole [] exponent, rest)
    else
      let n : Int := valueOf 10 whole
      some (← integer? (if negative then -n else n), rest)

def readNumber? (cs : List Char) : Option (Value × List Char) :=
  match cs with
  | '0' :: 'x' :: rest => readBased? 16 isHexDigit rest
  | '0' :: 'o' :: rest => readBased? 8 (fun c => '0' ≤ c && c ≤ '7') rest
  | '0' :: 'b' :: rest => readBased? 2 (fun c => c == '0' || c == '1') rest
  | _ =>
    let (negative, rest) := readSign cs
    match rest with
    | 'i' :: 'n' :: 'f' :: rest => some (.float (.infinity negative), rest)
    | 'n' :: 'a' :: 'n' :: rest => some (.float .nan, rest)
    | _ => readPlain? negative rest

/-! ## Dates and times -/

/-- A number of exactly `count` digits. -/
def readFixed? (count : Nat) (cs : List Char) : Option (Nat × List Char) :=
  let digits := cs.take count
  if digits.length = count ∧ digits.all isDigit then some (valueOf 10 digits, cs.drop count) else none

def readMark? (mark : Char) : List Char → Option (List Char)
  | [] => none
  | c :: rest => if c = mark then some rest else none

/-- A number in at least `width` digits. -/
def padded (width n : Nat) : List Char :=
  let digits := (toString n).toList
  List.replicate (width - digits.length) '0' ++ digits

def isLeapYear (year : Nat) : Bool := year % 4 == 0 && (year % 100 != 0 || year % 400 == 0)

def daysIn (year month : Nat) : Nat :=
  if month = 2 then (if isLeapYear year then 29 else 28)
  else if month = 4 ∨ month = 6 ∨ month = 9 ∨ month = 11 then 30
  else 31

/-- A date in normal form. -/
def readDate? (cs : List Char) : Option (List Char × List Char) := do
  let (year, rest) ← readFixed? 4 cs
  let (month, rest) ← readFixed? 2 (← readMark? '-' rest)
  let (day, rest) ← readFixed? 2 (← readMark? '-' rest)
  if 1 ≤ month ∧ month ≤ 12 ∧ 1 ≤ day ∧ day ≤ daysIn year month then
    some (padded 4 year ++ '-' :: padded 2 month ++ '-' :: padded 2 day, rest)
  else none

/-- How many digits of a second's fraction count. -/
def fractionDigits : Nat := 9

/-- The fraction of a second in normal form, which is empty for none. -/
def readFraction? : List Char → Option (List Char × List Char)
  | '.' :: rest =>
    let digits := rest.takeWhile isDigit
    if digits.isEmpty then none
    else
      let kept := ((digits.take fractionDigits).reverse.dropWhile (· == '0')).reverse
      some (if kept.isEmpty then [] else '.' :: kept, rest.dropWhile isDigit)
  | cs => some ([], cs)

/-- A time of day in normal form; a leap second may be the sixtieth. -/
def readTime? (cs : List Char) : Option (List Char × List Char) := do
  let (hour, rest) ← readFixed? 2 cs
  let (minute, rest) ← readFixed? 2 (← readMark? ':' rest)
  let (second, rest) ← readFixed? 2 (← readMark? ':' rest)
  let (fraction, rest) ← readFraction? rest
  if hour ≤ 23 ∧ minute ≤ 59 ∧ second ≤ 60 then
    some (padded 2 hour ++ ':' :: padded 2 minute ++ ':' :: padded 2 second ++ fraction, rest)
  else none

/-- An offset from universal time in normal form, which is empty for none. -/
def readOffset? (cs : List Char) : Option (List Char × List Char) :=
  let signed (negative : Bool) (rest : List Char) : Option (List Char × List Char) := do
    let (hour, rest) ← readFixed? 2 rest
    let (minute, rest) ← readFixed? 2 (← readMark? ':' rest)
    if hour ≤ 23 ∧ minute ≤ 59 then
      let sign := if negative && (hour != 0 || minute != 0) then '-' else '+'
      some (sign :: padded 2 hour ++ ':' :: padded 2 minute, rest)
    else none
  match cs with
  | 'Z' :: rest => some (['Z'], rest)
  | 'z' :: rest => some (['Z'], rest)
  | '+' :: rest => signed false rest
  | '-' :: rest => signed true rest
  | _ => some ([], cs)

/-- A time after a date and the mark between them. -/
def readTimeAfter? (cs : List Char) : Option (List Char × List Char) :=
  match cs with
  | [] => none
  | c :: rest =>
    if c = 'T' ∨ c = 't' ∨ c = ' ' then do
      let (time, rest) ← readTime? rest
      let (offset, rest) ← readOffset? rest
      some ('T' :: time ++ offset, rest)
    else none

/-- A date, a time or both. -/
def readDateTime? (cs : List Char) : Option (Value × List Char) :=
  match readDate? cs with
  | some (date, rest) =>
    let (time, rest) := (readTimeAfter? rest).getD ([], rest)
    some (.dateTime (String.ofList (date ++ time)), rest)
  | none => (readTime? cs).map fun (time, rest) => (.dateTime (String.ofList time), rest)

end DocMark.Toml
