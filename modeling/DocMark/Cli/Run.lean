-- SUMMARY: A run of the program over a file store: its exit status, its output and the files after it.
import DocMark.Cli.Invocation
import DocMark.Config.Loader
import DocMark.Document.Render
import DocMark.Edit.Builder
import DocMark.Markdown.Parse
import DocMark.Service.LocalSession

/-!
# Runs

A run ends with status `0` and a result, which goes to a file or to the output; with status `1` and
a complaint; or with status `2` for arguments that make no sense. Only a run that ends with
`0` writes anything.
-/
namespace DocMark.Cli

open Files (Store)
open Service (LocalDocument)

structure Outcome where
  status : Nat
  output : String := ""
  /-- What is said about a run that fails. -/
  complaint : String := ""
  files : Store
deriving DecidableEq, Inhabited, Repr

def versionText : String := "docsmd 0.1.0\n"

def helpText : String :=
  "Convert between Markdown and structured documents

Usage: docsmd [OPTIONS] <COMMAND>

Commands:
  to-md   Render a structured document (JSON) as Markdown
  to-doc  Convert Markdown into document edit requests
  help    Print this message
"

/-- Why a run fails, in words. -/
abbrev Complaint := String

def fileComplaint (deed path : String) (fault : Files.Fault) : Complaint :=
  "Error " ++ deed ++ " file '" ++ path ++ "': " ++ fault.message

/-! ## Results -/

/-- The Markdown of a document in a file. -/
def markdownOf (command : ToMarkdown) (files : Store) : Except Complaint String := do
  let json ← (files.readText command.input).mapError (fileComplaint "reading" command.input)
  let d ← (Document.fromJson? json).mapError fun e => "Error: " ++ Document.refusalMessage e
  .ok (Document.render d)

/-- The layers of the configuration that a command asks for. -/
def loaderOf (command : ToDocument) : Except Config.Error Config.Loader := do
  let loader := ({} : Config.Loader).withOptionalFile "docsmd.toml"
  let loader := match command.config with
    | some path => loader.withFile path
    | none => loader
  let loader ← match command.policy with
    | some policy => loader.withOverride "submit.policy" (.string policy.name)
    | none => .ok loader
  match command.delayMs with
  | some ms => loader.withOverride "submit.delay_ms" (.integer ms)
  | none => .ok loader

def settingsOf (command : ToDocument) (files : Store) : Except Complaint Config.Settings := do
  let loader ← (loaderOf command).mapError fun e => "Invalid configuration override: " ++ e.message
  (loader.load files).mapError fun e => "Failed to load configuration: " ++ e.message

/-- The operations for the Markdown in a file. -/
def operationsOf (command : ToDocument) (settings : Config.Settings) (files : Store) :
    Except Complaint (List Edit.Operation) := do
  let bytes ← (files.read command.input).mapError (fileComplaint "reading" command.input)
  let tree ← (Markdown.parseBytes bytes).mapError fun f => "Error: " ++ Markdown.refusalMessage f
  .ok (Edit.build tree settings.convert.buildOptions).operations

/-- The document that operations make of an empty one. -/
def previewOf (command : ToDocument) (settings : Config.Settings)
    (operations : List Edit.Operation) : Except Complaint Document :=
  let title := command.title.getD settings.convert.defaultTitle
  let empty := LocalDocument.new command.documentId title
  match empty.submit command.documentId operations settings.submit.toPolicy {} with
  | (.ok _, s) => .ok s.document.toDocument
  | (.error e, _) => .error ("Error: " ++ e.message)

/-- The requests for the Markdown in a file, or the document that they make, as JSON. -/
def documentOf (command : ToDocument) (files : Store) : Except Complaint String := do
  let settings ← settingsOf command files
  let operations ← operationsOf command settings files
  if command.preview then
    .ok (Document.toJson (← previewOf command settings operations)).prettyText
  else .ok (Edit.Batch.ofOperations operations).toJson.prettyText

/-! ## Outcomes -/

/-- Where the result of a run goes. -/
def deliver (files : Store) (output : Option String) (result : String) : Outcome :=
  match output with
  | none => { status := 0, output := result ++ "\n", files }
  | some path =>
    match files.write path (Text.Utf8.encode result.toList) with
    | .ok written => { status := 0, files := written }
    | .error fault => { status := 1, complaint := fileComplaint "writing" path fault, files }

def conclude (files : Store) (output : Option String) : Except Complaint String → Outcome
  | .ok result => deliver files output result
  | .error complaint => { status := 1, complaint, files }

/-- A run of the program. -/
def run (arguments : List String) (files : Store) : Outcome :=
  match readInvocation arguments with
  | .error e => { status := 2, complaint := "error: " ++ e.message, files }
  | .ok .version => { status := 0, output := versionText, files }
  | .ok .help => { status := 0, output := helpText, files }
  | .ok (.toMarkdown command) => conclude files command.output (markdownOf command files)
  | .ok (.toDocument command) => conclude files command.output (documentOf command files)

/-- The files that a run may read or write, as paths. -/
def pathsOf (arguments : List String) : List String :=
  match readInvocation arguments with
  | .ok (.toMarkdown command) => command.input :: command.output.toList
  | .ok (.toDocument command) =>
    ["docsmd.toml", "docsmd.toml.toml", command.input] ++ command.output.toList
      ++ command.config.toList ++ command.config.toList.map (Config.plainName · ++ ".toml")
  | _ => []

end DocMark.Cli
