-- SUMMARY: The settings of the program, taken from a configuration value, and why they cannot be.
import DocMark.Config.Path
import DocMark.Edit.Builder
import DocMark.Service.Policy
import DocMark.Text.Decimal
import DocMark.Text.Quoted

/-!
# Settings

Settings are read from the sections `convert` and `submit`. Texts may be given as any scalar, the
delay also as a truth value or a text, the policy as its name or as a table with that one key. A
section may be a list with its members in order.
-/
namespace DocMark.Config

open Service (Policy)

inductive PolicyKind where
  | atomic
  | sequential
deriving DecidableEq, Inhabited, Repr

def PolicyKind.name : PolicyKind → String
  | .atomic => "atomic"
  | .sequential => "sequential"

structure ConvertSettings where
  bulletPreset : String
  numberedPreset : String
  defaultTitle : String
deriving DecidableEq, Inhabited, Repr

structure SubmitSettings where
  policy : PolicyKind
  delayMs : Nat
deriving DecidableEq, Inhabited, Repr

structure Settings where
  convert : ConvertSettings
  submit : SubmitSettings
deriving DecidableEq, Inhabited, Repr

def ConvertSettings.buildOptions (c : ConvertSettings) : Edit.BuildOptions :=
  ⟨c.bulletPreset, c.numberedPreset⟩

def SubmitSettings.toPolicy (s : SubmitSettings) : Policy :=
  match s.policy with
  | .atomic => .atomic
  | .sequential => .sequential s.delayMs

/-! ## Errors -/

/-- What was found in place of the value asked for. -/
inductive Found where
  | integer (n : Int)
  | string (s : String)
  | null
  | sequence
  | map
deriving DecidableEq, Inhabited, Repr

def Found.describe : Found → String
  | .integer n => "64-bit integer `" ++ toString n ++ "`"
  | .string s => "string " ++ Text.quoted s
  | .null => "unit value"
  | .sequence => "sequence"
  | .map => "map"

inductive Error where
  /-- A path that names no value. -/
  | badPath (fault : Path.Fault)
  | missingFile (name : String)
  /-- A file that is there and cannot be read. -/
  | unreadableFile (reason : String)
  /-- A file that is not TOML. -/
  | malformedFile (name : String)
  /-- A value of the wrong type under a key, perhaps from a file. -/
  | wrongType (found : Found) (expected key : String) (origin : Option String)
  /-- A scalar in place of a section. -/
  | notSection (found : Scalar) (structName : String)
  /-- A list that is too short for a section. -/
  | shortSection (length : Nat) (structName : String) (members : Nat)
  | missingMember (name : String)
  | unknownPolicy (name : String)
  | notPolicy
deriving DecidableEq, Inhabited, Repr

/-- A scalar, as it is named where a section should be. -/
def Scalar.describe : Scalar → String
  | .null => "unit value"
  | .boolean b => "boolean `" ++ (if b then "true" else "false") ++ "`"
  | .integer n => "integer `" ++ toString n ++ "`"
  | .float x => "floating point `" ++ Number.Layout.render ⟨none, true, 1, true⟩ x ++ "`"
  | .string s => "string " ++ Text.quoted s

def Error.message : Error → String
  | .badPath fault => fault.message
  | .missingFile name => "configuration file \"" ++ name ++ "\" not found"
  | .unreadableFile reason => reason
  | .malformedFile name => "TOML parse error\n in " ++ name
  | .wrongType found expected key origin =>
    "invalid type: " ++ found.describe ++ ", expected " ++ expected ++ " for key `" ++ key ++ "`"
      ++ match origin with
        | some name => " in " ++ name
        | none => ""
  | .notSection found structName =>
    "invalid type: " ++ found.describe ++ ", expected struct " ++ structName
  | .shortSection length structName members =>
    "invalid length " ++ toString length ++ ", expected struct " ++ structName ++ " with "
      ++ toString members ++ " elements"
  | .missingMember name => "missing field `" ++ name ++ "`"
  | .unknownPolicy name => "enum PolicyKind does not have variant constructor " ++ name
  | .notPolicy =>
    "value of enum PolicyKind should be represented by either string or table with exactly one key"

/-! ## Members -/

/-- The error for a value of the wrong type. -/
def mismatch (found : Found) (expected key : String) (v : Value) : Error :=
  .wrongType found expected key v.origin

/-- A text under a key. Truth values and numbers are written out. -/
def textOf (key : String) (v : Value) : Except Error String :=
  match v with
  | .scalar _ (.string s) => .ok s
  | .scalar _ (.boolean b) => .ok (if b then "true" else "false")
  | .scalar _ (.integer n) => .ok (toString n)
  | .scalar _ (.float x) => .ok (floatLayout.render x)
  | .scalar _ .null => .error (mismatch .null "a string" key v)
  | .array _ _ => .error (mismatch .sequence "a string" key v)
  | .table _ _ => .error (mismatch .map "a string" key v)

/-- The greatest delay. -/
def maxDelay : Nat := 18446744073709551615

/-- The number that a text stands for. -/
def numberOfText? (s : String) : Option Nat :=
  let word := lowerKey s
  if word = "true" ∨ word = "on" ∨ word = "yes" then some 1
  else if word = "false" ∨ word = "off" ∨ word = "no" then some 0
  else Text.Decimal.readUnsigned? maxDelay s.toList

/-- A natural number under a key. Fractions are rounded, halves upwards. -/
def numberOf (key : String) (v : Value) : Except Error Nat :=
  match v with
  | .scalar _ (.integer n) =>
    if 0 ≤ n then .ok n.toNat
    else .error (mismatch (.integer n) "an unsigned 64 bit or less integer" key v)
  | .scalar _ (.string s) =>
    match numberOfText? s with
    | some n => .ok n
    | none => .error (mismatch (.string s) "an integer" key v)
  | .scalar _ (.boolean b) => .ok (if b then 1 else 0)
  | .scalar _ (.float x) => .ok (x.toNatBounded maxDelay)
  | .scalar _ .null => .error (mismatch .null "an integer" key v)
  | .array _ _ => .error (mismatch .sequence "an integer" key v)
  | .table _ _ => .error (mismatch .map "an integer" key v)

/-- The policy with a name in any case. -/
def policyNamed (name : String) : Except Error PolicyKind :=
  match [PolicyKind.atomic, .sequential].find? fun p => lowerKey name == p.name with
  | some p => .ok p
  | none => .error (.unknownPolicy name)

def policyOf (v : Value) : Except Error PolicyKind :=
  match v with
  | .scalar _ (.string s) => policyNamed s
  | .table _ [(name, _)] => policyNamed name
  | _ => .error .notPolicy

/-! ## Sections -/

/-- The form of a section: its key, the name of its form, and the names of its members. -/
structure SectionForm where
  key : String
  structName : String
  members : List String

/-- A member of a section, if the section has it. In a list the place decides. -/
def memberOf? {α : Type} (form : SectionForm) (content : Value) (place : Nat)
    (read : String → Value → Except Error α) : Except Error (Option α) :=
  match content with
  | .table _ entries => do
    let name := form.members[place]?.getD ""
    match entries.lookup name with
    | some v => .ok (some (← read (form.key ++ "." ++ name) v))
    | none => .ok none
  | .array _ elements =>
    match elements[place]? with
    | some v => do .ok (some (← read (form.key ++ "[" ++ toString place ++ "]") v))
    | none => .ok none
  | .scalar _ s => .error (.notSection s form.structName)

/-- A member that the section must have. -/
def require {α : Type} (form : SectionForm) (content : Value) (place : Nat) :
    Option α → Except Error α
  | some a => .ok a
  | none =>
    match content with
    | .array _ elements => .error (.shortSection elements.length form.structName form.members.length)
    | _ => .error (.missingMember (form.members[place]?.getD ""))

def convertForm : SectionForm :=
  ⟨"convert", "ConvertConfig", ["bullet_preset", "numbered_preset", "default_title"]⟩

/-- The settings of a section. A member of the wrong type is reported before one that is missing. -/
def convertOf (content : Value) : Except Error ConvertSettings := do
  let bullet ← memberOf? convertForm content 0 textOf
  let numbered ← memberOf? convertForm content 1 textOf
  let title ← memberOf? convertForm content 2 textOf
  .ok ⟨← require convertForm content 0 bullet, ← require convertForm content 1 numbered,
    ← require convertForm content 2 title⟩

def submitForm : SectionForm := ⟨"submit", "SubmitConfig", ["policy", "delay_ms"]⟩

def submitOf (content : Value) : Except Error SubmitSettings := do
  let policy ← memberOf? submitForm content 0 fun _ => policyOf
  let delay ← memberOf? submitForm content 1 numberOf
  .ok ⟨← require submitForm content 0 policy, ← require submitForm content 1 delay⟩

/-- The section with a key. -/
def sectionOf (form : SectionForm) (root : Value) : Except Error Value :=
  match root.get? form.key with
  | some content => .ok content
  | none => .error (.missingMember form.key)

/-- The settings of a configuration. -/
def settingsOf (root : Value) : Except Error Settings := do
  let convert ← convertOf (← sectionOf convertForm root)
  let submit ← submitOf (← sectionOf submitForm root)
  .ok ⟨convert, submit⟩

end DocMark.Config
