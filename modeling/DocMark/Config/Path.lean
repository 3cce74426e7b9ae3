-- SUMMARY: Paths to configuration values, such as `a.b[0]`: reading them and setting the value they lead to.
import DocMark.Config.Value

/-!
# Paths

A path is a name followed by names after dots and by places in brackets. Setting a value makes
the tables and lists that are missing on the way, in place of whatever else stands there; a list is
filled with nulls up to the place. A negative place counts from the end of the list.
-/
namespace DocMark.Config

inductive Step where
  | child (name : String)
  | index (place : Int)
deriving DecidableEq, Inhabited, Repr

structure Path where
  first : String
  steps : List Step
deriving DecidableEq, Inhabited, Repr

namespace Path

/-! ## Reading -/

/-- What a path lacks where it cannot be read on. -/
inductive Fault where
  | name
  | mark
  | digits
  | smallerNumber
deriving DecidableEq, Inhabited, Repr

def Fault.message : Fault → String
  | .name => "IsA"
  | .mark => "Char"
  | .digits => "Digit"
  | .smallerNumber => "Map on Result"

def isNameChar (c : Char) : Bool :=
  ('a' ≤ c && c ≤ 'z') || ('A' ≤ c && c ≤ 'Z') || ('0' ≤ c && c ≤ '9') || c == '_' || c == '-'
    || c == ' '

def readName (cs : List Char) : Except Fault (String × List Char) :=
  let name := cs.takeWhile isNameChar
  if name.isEmpty then .error .name
  else .ok (String.ofList name, cs.dropWhile isNameChar)

def isBlank (c : Char) : Bool := c == ' ' || c == '\t'

/-- The places that a list may have. -/
def maxPlace : Int := 9223372036854775807

/-- A number with blanks around it. -/
def readPlace (cs : List Char) : Except Fault (Int × List Char) :=
  let cs := cs.dropWhile isBlank
  let negative := cs.head? == some '-'
  let cs := if negative then cs.drop 1 else cs
  let digits := cs.takeWhile Char.isDigit
  let n : Int := digits.foldl (fun n c => 10 * n + (c.toNat - 48)) 0
  let n := if negative then -n else n
  if digits.isEmpty then .error .digits
  else if n < -maxPlace - 1 ∨ maxPlace < n then .error .smallerNumber
  else .ok (n, (cs.dropWhile Char.isDigit).dropWhile isBlank)

/-- One step. Where a dot is not followed by a name, a bracket is missed. -/
def readStep (cs : List Char) : Except Fault (Step × List Char) :=
  match cs with
  | '.' :: rest =>
    match readName rest with
    | .ok (name, rest) => .ok (.child name, rest)
    | .error _ => .error .mark
  | '[' :: rest => do
    let (n, rest) ← readPlace rest
    match rest with
    | ']' :: rest => .ok (.index n, rest)
    | _ => .error .mark
  | _ => .error .mark

/-- Steps up to the end; `fuel` bounds their number. -/
def readSteps : Nat → List Char → Except Fault (List Step)
  | _, [] => .ok []
  | 0, _ :: _ => .error .mark
  | fuel + 1, cs => do
    let (step, rest) ← readStep cs
    .ok (step :: (← readSteps fuel rest))

def parse (text : String) : Except Fault Path := do
  let (first, rest) ← readName text.toList
  .ok ⟨first, ← readSteps rest.length rest⟩

/-! ## Setting -/

/-- The place that a number stands for in a list of the given length. -/
def placeIn (length : Nat) (n : Int) : Nat := if 0 ≤ n then n.toNat else length - n.natAbs

/-- A list with `v` at a place, filled up with nulls. -/
def setPlace (n : Nat) (v : Value) (elements : List Value) : List Value :=
  (elements ++ List.replicate (n + 1 - elements.length) (Value.scalar none .null)).set n v

/-- What stands at the start of the steps after `v` is set at their end. At a name it is put over what
    is there, at a place it replaces that. -/
def setAt (v : Value) : List Step → Option Value → Value
  | [], there => v.overlay there
  | .child name :: steps, there => (there.getD .empty).mapEntry (lowerKey name) (setAt v steps)
  | .index n :: steps, there =>
    let (origin, elements) := (there.getD .empty).asArray
    let place := placeIn elements.length n
    let element := match steps with
      | [] => v
      | _ :: _ => setAt v steps elements[place]?
    .array origin (setPlace place element elements)

/-- Sets the value that a path leads to from `root`. -/
def set (path : Path) (v : Value) (root : Value) : Value :=
  root.mapEntry (lowerKey path.first) (setAt v path.steps)

end Path

end DocMark.Config
