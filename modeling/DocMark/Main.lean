-- SUMMARY: The program: it reads the files that its arguments name, runs over them and writes what changed.
import DocMark.Cli.Run

/-!
# The program

Everything but reading and writing files is done by `Cli.run`.
-/
namespace DocMark.Cli

open Files (Store)

/-- The system's number for the error of reading a directory as a file. -/
def directoryCode : UInt32 := 21

/-- Adds what is found at a path: a file, a directory or nothing. -/
def probe (store : Store) (path : String) : IO Store := do
  try
    let bytes ← IO.FS.readBinFile path
    return { store with files := store.files ++ [(path, bytes.toList)] }
  catch
    | .inappropriateType _ code _ =>
      if code = directoryCode then
        return { store with directories := store.directories ++ [path] }
      else return store
    | _ => return store

/-- The directories on the way to a path. -/
def directoriesTo (path : String) : List String :=
  let parts := Files.splitParts path
  ((List.range parts.length).map fun n => "/".intercalate (parts.take n)).filter (· ≠ "")

/-- What is found at paths and on the way to them. -/
def probeAll (paths : List String) : IO Store :=
  (paths.flatMap fun path => directoriesTo path ++ [path]).eraseDups.foldlM probe {}

/-- Writes the files that differ from those before. -/
def writeChanged (before after : Store) : IO Unit := do
  for (path, bytes) in after.files do
    unless before.files.contains (path, bytes) do
      IO.FS.writeBinFile path ⟨bytes.toArray⟩

def execute (arguments : List String) : IO UInt32 := do
  let store ← probeAll (pathsOf arguments)
  let outcome := run arguments store
  writeChanged store outcome.files
  IO.print outcome.output
  unless outcome.complaint.isEmpty do
    IO.eprintln outcome.complaint
  return outcome.status.toUInt32

end DocMark.Cli

def main (arguments : List String) : IO UInt32 := DocMark.Cli.execute arguments
