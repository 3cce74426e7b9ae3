-- SUMMARY: Building the tables of a TOML text from its headers and key-value pairs.
import DocMark.Toml.Value

/-!
# Building tables

While a text is read, a table remembers how it came to be, since that decides what may still be
added to it: a header may complete a table that only longer headers have named, and dotted keys may
only extend tables that dotted keys have made. No key is given twice.
-/
namespace DocMark.Toml

/-- How a table came to be. -/
inductive TableOrigin where
  | header
  /-- Named only as a part of longer headers. -/
  | implied
  | dotted
deriving DecidableEq, Inhabited, Repr

/-- An entry of a table that may still grow. -/
inductive Item where
  | value (v : Value)
  | table (origin : TableOrigin) (entries : List (String × Item))
  /-- An array of tables. -/
  | tables (elements : List Item)
deriving Inhabited, Repr

abbrev Items := List (String × Item)

/-- Puts an entry in the place of the one with its key, or at the end. -/
def putEntry {α : Type} (key : String) (a : α) : List (String × α) → List (String × α)
  | [] => [(key, a)]
  | (k, b) :: rest => if k = key then (k, a) :: rest else (k, b) :: putEntry key a rest

/-- A table that can be added to, with its origin. -/
def Item.open? : Item → Option (TableOrigin × Items)
  | .table origin entries => some (origin, entries)
  | _ => none

/-- Changes the table at the end of a path, and makes the tables that are missing on the way. An array
    of tables stands for its last element. Dotted keys do not enter a table that has a header. -/
def atPath? (isDotted : Bool) (change : TableOrigin → Items → Option Items) :
    List String → TableOrigin → Items → Option Items
  | [], origin, entries => change origin entries
  | key :: path, _, entries =>
    match entries.lookup key with
    | none => do
      let origin := if isDotted then TableOrigin.dotted else .implied
      let below ← atPath? isDotted change path origin []
      some (putEntry key (.table origin below) entries)
    | some (.value _) => none
    | some (.table origin below) =>
      if isDotted && origin == .header then none
      else do
        let below ← atPath? isDotted change path origin below
        some (putEntry key (.table origin below) entries)
    | some (.tables elements) => do
      let (origin, below) ← (← elements.getLast?).open?
      let below ← atPath? isDotted change path origin below
      some (putEntry key (.tables (elements.dropLast ++ [.table origin below])) entries)

/-- A pair of a key, split at its dots, and a value. -/
structure Pair where
  path : List String
  key : String
  value : Value
deriving Inhabited

/-- Adds a pair. A dotted key ends in a table that dotted keys have made. -/
def addPair? (entries : Items) (pair : Pair) : Option Items :=
  let change (origin : TableOrigin) (below : Items) : Option Items :=
    if (below.lookup pair.key).isSome || (origin == .dotted) == pair.path.isEmpty then none
    else some (putEntry pair.key (.value pair.value) below)
  atPath? true change pair.path .header entries

def addPairs? (entries : Items) (pairs : List Pair) : Option Items := pairs.foldlM addPair? entries

/-- A header with the pairs below it; the path is where it stands, the key its last part. -/
structure Section where
  isArray : Bool
  path : List String
  key : String
  pairs : List Pair
deriving Inhabited

/-- Adds a section. A plain header names a new table or an implied one, a doubled one adds an element to
    an array of tables. -/
def addSection? (root : Items) (s : Section) : Option Items :=
  let change (_ : TableOrigin) (entries : Items) : Option Items :=
    match s.isArray, entries.lookup s.key with
    | false, none => do
      some (putEntry s.key (.table .header (← addPairs? [] s.pairs)) entries)
    | false, some (.table .implied below) => do
      some (putEntry s.key (.table .header (← addPairs? below s.pairs)) entries)
    | true, none => do
      some (putEntry s.key (.tables [.table .header (← addPairs? [] s.pairs)]) entries)
    | true, some (.tables elements) => do
      let element := Item.table .header (← addPairs? [] s.pairs)
      some (putEntry s.key (.tables (elements ++ [element])) entries)
    | _, _ => none
  atPath? false change s.path .header root

mutual

/-- The finished value. -/
def Item.toValue : Item → Value
  | .value v => v
  | .table _ entries => .table (entriesOf entries)
  | .tables elements => .array (valuesOf elements)

def entriesOf : List (String × Item) → Entries
  | [] => []
  | (key, item) :: rest => (key, item.toValue) :: entriesOf rest

def valuesOf : List Item → List Value
  | [] => []
  | item :: rest => item.toValue :: valuesOf rest

end

/-- The table of pairs that stand before all headers, and of sections. -/
def buildTable? (pairs : List Pair) (sections : List Section) : Option Entries := do
  some (entriesOf (← sections.foldlM addSection? (← addPairs? [] pairs)))

/-- The table of the pairs in braces. -/
def inlineTable? (pairs : List Pair) : Option Value :=
  (addPairs? [] pairs).map fun entries => .table (entriesOf entries)

end DocMark.Toml
