-- SUMMARY: What the program is asked to do, read from its arguments.
import DocMark.Cli.Arguments
import DocMark.Config.Settings

/-!
# Invocations

The program renders a document as Markdown (`to-md`) or turns Markdown into edit requests
(`to-doc`). The options for the configuration file and for more log output may stand before or
after the subcommand; the later one counts.
-/
namespace DocMark.Cli

open Config (PolicyKind)

/-- Rendering a document. -/
structure ToMarkdown where
  input : String
  output : Option String := none
deriving DecidableEq, Inhabited, Repr

/-- Turning Markdown into requests, or into the document that they make. -/
structure ToDocument where
  input : String
  output : Option String := none
  config : Option String := none
  documentId : String := "local"
  title : Option String := none
  preview : Bool := false
  policy : Option PolicyKind := none
  delayMs : Option Nat := none
deriving DecidableEq, Inhabited, Repr

inductive Invocation where
  | version
  | help
  | toMarkdown (command : ToMarkdown)
  | toDocument (command : ToDocument)
deriving DecidableEq, Inhabited, Repr

/-! ## Forms -/

def anyText : Option (String → Bool) := some fun _ => true

/-- The options that may stand on either side of the subcommand. -/
def sharedOptions : List OptionForm :=
  [{ name := "config", accepts := anyText }, { name := "verbose", letter := some 'v' },
   { name := "help", letter := some 'h', isFinal := true }]

def outputOption : OptionForm := { name := "output", letter := some 'o', accepts := anyText }

def policies : List PolicyKind := [.atomic, .sequential]

def policyNamed? (name : String) : Option PolicyKind := policies.find? (·.name == name)

def delay? (text : String) : Option Nat := Text.Decimal.readUnsigned? Config.maxDelay text.toList

def commandNames : List String := ["to-md", "to-doc", "help"]

def mainForm : CommandForm :=
  ⟨{ name := "version", letter := some 'V', isFinal := true } :: sharedOptions, 0, commandNames⟩

def toMarkdownForm : CommandForm := ⟨outputOption :: sharedOptions, 1, []⟩

def toDocumentForm : CommandForm :=
  ⟨[outputOption, { name := "doc", accepts := anyText }, { name := "title", accepts := anyText },
    { name := "preview" }, { name := "policy", accepts := some fun s => (policyNamed? s).isSome },
    { name := "delay-ms", accepts := some fun s => (delay? s).isSome }] ++ sharedOptions, 1, []⟩

/-! ## Reading -/

def input (given : Given) : Except UsageError String :=
  match given.positionals with
  | name :: _ => .ok name
  | [] => .error (.missingArgument "input")

/-- The invocation of a subcommand with what was given before and after its name. -/
def invocation (name : String) (before after : Given) : Except UsageError Invocation := do
  let input ← input after
  let output := after.value? "output"
  if name = "to-md" then .ok (.toMarkdown { input, output })
  else
    .ok (.toDocument {
      input
      output
      config := (after.value? "config").orElse fun _ => before.value? "config"
      documentId := (after.value? "doc").getD "local"
      title := after.value? "title"
      preview := after.has "preview"
      policy := (after.value? "policy").bind policyNamed?
      delayMs := (after.value? "delay-ms").bind delay? })

/-- What follows the name of a subcommand. -/
def readCommand (before : Given) (name : String) (rest : List String) :
    Except UsageError Invocation :=
  if name = "help" then
    match rest with
    | [] => .ok .help
    | topic :: more =>
      if commandNames.contains topic && more.isEmpty then .ok .help
      else .error (.unknownCommand topic)
  else do
    match ← scan (if name = "to-md" then toMarkdownForm else toDocumentForm) {} none rest with
    | .finished given => invocation name before given
    | .stopped _ => .ok .help
    | .subcommand _ name _ => .error (.unknownCommand name)

/-- What all arguments ask for. -/
def readInvocation (arguments : List String) : Except UsageError Invocation := do
  if arguments.isEmpty then .error .nothingGiven
  else
    match ← scan mainForm {} none arguments with
    | .finished _ => .error .missingCommand
    | .stopped option => .ok (if option = "version" then .version else .help)
    | .subcommand before name rest => readCommand before name rest

end DocMark.Cli
