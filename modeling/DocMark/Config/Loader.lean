-- SUMMARY: Loading settings from layers: the defaults, files, and values set by hand.
import DocMark.Config.Settings
import DocMark.Files.Store
import DocMark.Toml.Parse

/-!
# Layers

The defaults come first, then the files in order, then the values set by hand in order; a later layer
goes over the earlier ones. A file is found by its name or by that name with `.toml` at its end.
-/
namespace DocMark.Config

open Files (Store)

/-- The configuration before any layer. -/
def defaults : Value :=
  let text (s : String) := Value.scalar none (.string s)
  .table none
    [("convert", .table none
      [("bullet_preset", text "BULLET_DISC_CIRCLE_SQUARE"),
       ("numbered_preset", text "NUMBERED_DECIMAL_ALPHA_ROMAN"),
       ("default_title", text "Untitled")]),
     ("submit", .table none
      [("policy", text "atomic"), ("delay_ms", .scalar none (.integer 0))])]

structure FileLayer where
  name : String
  /-- Whether the file must be there. -/
  isRequired : Bool
deriving DecidableEq, Inhabited, Repr

structure Loader where
  files : List FileLayer := []
  overrides : List (Path × Scalar) := []
deriving DecidableEq, Inhabited, Repr

namespace Loader

def withFile (l : Loader) (name : String) : Loader := { l with files := l.files ++ [⟨name, true⟩] }

def withOptionalFile (l : Loader) (name : String) : Loader :=
  { l with files := l.files ++ [⟨name, false⟩] }

/-- Sets the value under a path; only the last value set under it counts. -/
def withOverride (l : Loader) (key : String) (s : Scalar) : Except Error Loader :=
  match Path.parse key with
  | .ok path => .ok { l with overrides := l.overrides.filter (fun o => o.1 ≠ path) ++ [(path, s)] }
  | .error fault => .error (.badPath fault)

end Loader

/-- A path without parts that say nothing. -/
def plainName (name : String) : String :=
  (if name.startsWith "/" then "/" else "") ++ "/".intercalate (Files.partsOf name)

/-- The name under which the file of a layer is found. -/
def findFile? (store : Store) (name : String) : Option String :=
  let extended := plainName name ++ ".toml"
  if store.isFile name then some (plainName name)
  else if store.isFile extended then some extended
  else none

/-- Puts the entries of a table over a configuration. A key that reads as a path is one. -/
def overTop (root : Value) (origin : Option String) (entries : Toml.Entries) : Value :=
  entries.foldl (fun root (key, v) =>
    let path := match Path.parse key with
      | .ok path => path
      | .error _ => ⟨key, []⟩
    path.set (Value.ofToml origin v) root) root

/-- Puts a TOML text over a configuration. -/
def overText (root : Value) (origin : Option String) (text : String) : Option Value :=
  (Toml.parse? text).map (overTop root origin)

/-- Puts a file over a configuration. An optional file that cannot be read is passed over. -/
def overFile (store : Store) (root : Value) (layer : FileLayer) : Except Error Value :=
  match findFile? store layer.name with
  | none => if layer.isRequired then .error (.missingFile layer.name) else .ok root
  | some name =>
    match store.readText name with
    | .error fault => if layer.isRequired then .error (.unreadableFile fault.message) else .ok root
    | .ok text =>
      match overText root (some name) text with
      | some root => .ok root
      | none => .error (.malformedFile name)

namespace Loader

/-- The configuration of all layers. -/
def tree (l : Loader) (store : Store) : Except Error Value := do
  let root ← l.files.foldlM (overFile store) defaults
  .ok (l.overrides.foldl (fun root (path, s) => path.set (.scalar none s) root) root)

def load (l : Loader) (store : Store) : Except Error Settings := do
  settingsOf (← l.tree store)

end Loader

end DocMark.Config
