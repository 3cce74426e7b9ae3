-- SUMMARY: Configuration values with the file they come from, and merging tables into tables.
import DocMark.Number.Shortest
import DocMark.Text.LowerCase
import DocMark.Toml.Value

/-!
# Configuration values

Values remember the file that gave them. Keys are in lower case. When a table is merged into
another place, its entries are put there one by one: a scalar or a list replaces what it meets, a
table goes on merging, and an empty table changes nothing.
-/
namespace DocMark.Config

open Number (Binary64)

inductive Scalar where
  | null
  | boolean (b : Bool)
  | integer (n : Int)
  | float (x : Binary64)
  | string (s : String)
deriving DecidableEq, Inhabited, Repr

inductive Value where
  | scalar (origin : Option String) (s : Scalar)
  | array (origin : Option String) (elements : List Value)
  | table (origin : Option String) (entries : List (String × Value))
deriving Inhabited, Repr

abbrev Entries := List (String × Value)

def lowerKey (key : String) : String := String.ofList (Text.lowerCase key.toList)

/-- Numbers are written without an exponent, and integers among them without a point. -/
def floatLayout : Number.Layout := ⟨none, false, 1, true⟩

/-- Puts an entry in the place of the one with its key, or at the end. -/
def put (key : String) (v : Value) : Entries → Entries
  | [] => [(key, v)]
  | (k, w) :: rest => if k = key then (k, v) :: rest else (k, w) :: put key v rest

namespace Value

def origin : Value → Option String
  | .scalar o _ => o
  | .array o _ => o
  | .table o _ => o

/-- A table without entries that comes from no file. -/
def empty : Value := .table none []

/-- The origin and the entries of a table; any other value gives way to an empty one. -/
def asTable : Value → Option String × Entries
  | .table o entries => (o, entries)
  | _ => (none, [])

/-- The origin and the elements of a list; any other value gives way to an empty one. -/
def asArray : Value → Option String × List Value
  | .array o elements => (o, elements)
  | _ => (none, [])

/-- The entry of a table. -/
def get? (v : Value) (key : String) : Option Value := v.asTable.2.lookup key

/-- Changes the entry of a table under a key, given what is there. -/
def mapEntry (v : Value) (key : String) (f : Option Value → Value) : Value :=
  let (o, entries) := v.asTable
  .table o (put key (f (entries.lookup key)) entries)

mutual

/-- What stands in a place after a value is put over what was there. -/
def overlay : Value → Option Value → Value
  | .table _ entries, target => overlayAll entries (target.getD empty)
  | v, _ => v

/-- Puts entries over a value one by one. -/
def overlayAll : List (String × Value) → Value → Value
  | [], target => target
  | (key, v) :: rest, target => overlayAll rest (target.mapEntry (lowerKey key) v.overlay)

end

mutual

/-- The value of a TOML value from a file. -/
def ofToml (origin : Option String) : Toml.Value → Value
  | .string s => .scalar origin (.string s)
  | .integer n => .scalar origin (.integer n)
  | .float x => .scalar origin (.float x)
  | .boolean b => .scalar origin (.boolean b)
  | .dateTime text => .scalar origin (.string text)
  | .array elements => .array origin (ofTomlAll origin elements)
  | .table entries => .table origin (ofTomlEntries origin entries)

def ofTomlAll (origin : Option String) : List Toml.Value → List Value
  | [] => []
  | v :: vs => ofToml origin v :: ofTomlAll origin vs

def ofTomlEntries (origin : Option String) : List (String × Toml.Value) → Entries
  | [] => []
  | (key, v) :: rest => (lowerKey key, ofToml origin v) :: ofTomlEntries origin rest

end

end Value

end DocMark.Config
