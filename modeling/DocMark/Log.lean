-- SUMMARY: Log events: what the library reports about its work, as data.

/-!
# Log events

Functions that report on their work return the events as a list, in order, and leave it to
the caller to show them.
-/
namespace DocMark.Log

inductive Level where
  | trace | debug | info | warn | error
deriving DecidableEq, Inhabited, Repr

def Level.name : Level → String
  | .trace => "TRACE"
  | .debug => "DEBUG"
  | .info => "INFO"
  | .warn => "WARN"
  | .error => "ERROR"

inductive Field where
  | number (value : Nat)
  | text (value : String)
deriving DecidableEq, Inhabited, Repr

structure Event where
  level : Level
  message : String
  fields : List (String × Field) := []
deriving DecidableEq, Inhabited, Repr

end DocMark.Log
