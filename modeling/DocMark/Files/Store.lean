-- SUMMARY: Files by name: reading and writing them, and what can go wrong.
import DocMark.Text.Utf8

/-!
# Files

A store holds files under their names. A name is a path from the working directory, its parts
joined by slashes. A directory is there if it is listed or a file is in it. Reading and writing
find a file by any path that leads to it.
-/
namespace DocMark.Files

structure Store where
  files : List (String × List UInt8) := []
  directories : List String := []
deriving DecidableEq, Inhabited, Repr

inductive Fault where
  | notFound
  | notDirectory
  | isDirectory
  | notText
deriving DecidableEq, Inhabited, Repr

def Fault.message : Fault → String
  | .notFound => "No such file or directory (os error 2)"
  | .notDirectory => "Not a directory (os error 20)"
  | .isDirectory => "Is a directory (os error 21)"
  | .notText => "stream did not contain valid UTF-8"

/-- The parts of a path, as they stand between slashes. -/
def splitParts (path : String) : List String := (path.toList.splitOn '/').map String.ofList

/-- The parts of a path that are not empty and do not stand for the place itself. -/
def partsOf (path : String) : List String :=
  (splitParts path).filter fun p => p != "" && p != "."

/-- The parts of a path without the empty ones that slashes at its end leave. -/
def innerParts (path : String) : List String := ((splitParts path).reverse.dropWhile (· == "")).reverse

namespace Store

/-- A place in the store: the names of the directories down to it, and its own. The first part of an
    absolute place is empty; the places above the working directory begin with `..`. -/
abbrev Place := List String

def root : Place := [""]

/-- Whether a place is the working directory or above it. -/
def isAbove (place : Place) : Bool := place.all (· == "..")

def parentOf (place : Place) : Place :=
  if place = root then root else if isAbove place then place ++ [".."] else place.dropLast

/-- The place that one part of a path leads to. -/
def enter (place : Place) (part : String) : Place :=
  if part = "" ∨ part = "." then place
  else if part = ".." then parentOf place
  else place ++ [part]

def startOf (path : String) : Place := if path.toList.head? = some '/' then root else []

/-- The place that a path names, whatever is there. -/
def placeOf (path : String) : Place := (splitParts path).foldl enter (startOf path)

def file? (s : Store) (place : Place) : Option (List UInt8) :=
  (s.files.find? fun f => placeOf f.1 == place).map (·.2)

def hasDirectory (s : Store) (place : Place) : Bool :=
  place == root || isAbove place || s.directories.any (fun d => placeOf d == place)
    || s.files.any fun f =>
      let inner := placeOf f.1
      place.length < inner.length && inner.take place.length == place

/-- The place that the parts of a path lead to from `start`. All parts but the last must lead to
    directories. -/
def follow (s : Store) (start : Place) : List String → Except Fault Place
  | [] => .ok start
  | part :: rest =>
    let next := enter start part
    if rest.isEmpty || s.hasDirectory next then s.follow next rest
    else .error (if (s.file? next).isSome then .notDirectory else .notFound)

def locate (s : Store) (path : String) : Except Fault Place :=
  if path = "" then .error .notFound else s.follow (startOf path) (splitParts path)

/-- Whether a path leads to a file. -/
def isFile (s : Store) (path : String) : Bool :=
  match s.locate path with
  | .ok place => (s.file? place).isSome
  | .error _ => false

def read (s : Store) (path : String) : Except Fault (List UInt8) := do
  let place ← s.locate path
  match s.file? place with
  | some bytes => .ok bytes
  | none => .error (if s.hasDirectory place then .isDirectory else .notFound)

/-- The text of a file in UTF-8. -/
def readText (s : Store) (path : String) : Except Fault String := do
  let bytes ← s.read path
  match Text.Utf8.decode bytes with
  | .ok cs => .ok (String.ofList cs)
  | .error _ => .error .notText

/-- The content of the file at a place replaced, or a file added under `path`. -/
def put (s : Store) (path : String) (place : Place) (bytes : List UInt8) : Store :=
  if (s.file? place).isSome then
    { s with files := s.files.map fun f => if placeOf f.1 == place then (f.1, bytes) else f }
  else { s with files := s.files ++ [(path, bytes)] }

/-- Writes a whole file. Its directory must be there, and no slash may follow its name. -/
def write (s : Store) (path : String) (bytes : List UInt8) : Except Fault Store :=
  if path = "" then .error .notFound
  else do
    let place ← s.follow (startOf path) (innerParts path)
    if s.hasDirectory place || innerParts path != splitParts path then .error .isDirectory
    else .ok (s.put ("/".intercalate place) place bytes)

end Store

end DocMark.Files
