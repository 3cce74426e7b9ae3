-- SUMMARY: TOML values, with dates and times as their normal text.
import DocMark.Number.Binary64

/-!
# TOML values

A TOML text is a table. Its keys keep their case and the order in which they were first given.
-/
namespace DocMark.Toml

inductive Value where
  | string (s : String)
  | integer (n : Int)
  | float (x : Number.Binary64)
  | boolean (b : Bool)
  /-- A date, a time or both, in normal form. -/
  | dateTime (text : String)
  | array (elements : List Value)
  | table (entries : List (String × Value))
deriving Inhabited, Repr

/-- The entries of a table. -/
abbrev Entries := List (String × Value)

end DocMark.Toml
