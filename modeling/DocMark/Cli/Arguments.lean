-- SUMMARY: Command-line arguments: options, their values, subcommands, and what can be wrong with them.

/-!
# Arguments

Arguments are read from left to right. An option is `--name`, `--name=value` or one letter after
a hyphen, where letters may be put together and the rest of an argument is the value of the
first letter that takes one. A value may also be the next argument, if that is no option.
After `--` there are no options. No option is given twice.
-/
namespace DocMark.Cli

structure OptionForm where
  name : String
  letter : Option Char := none
  /-- What a value must be like, if the option takes one. -/
  accepts : Option (String → Bool) := none
  /-- Whether nothing that comes after the option matters. -/
  isFinal : Bool := false

def OptionForm.takesValue (o : OptionForm) : Bool := o.accepts.isSome

inductive UsageError where
  | nothingGiven
  | unknownOption (argument : String)
  | unknownCommand (name : String)
  | unexpectedArgument (argument : String)
  | unexpectedValue (option : String)
  | missingValue (option : String)
  | invalidValue (option value : String)
  | repeated (option : String)
  | missingCommand
  | missingArgument (name : String)
deriving DecidableEq, Inhabited, Repr

def UsageError.message : UsageError → String
  | .nothingGiven => "no arguments were given"
  | .unknownOption argument => "unexpected argument '" ++ argument ++ "' found"
  | .unknownCommand name => "unrecognized subcommand '" ++ name ++ "'"
  | .unexpectedArgument argument => "unexpected argument '" ++ argument ++ "' found"
  | .unexpectedValue option => "unexpected value for '--" ++ option ++ "' found"
  | .missingValue option => "a value is required for '--" ++ option ++ "' but none was supplied"
  | .invalidValue option value => "invalid value '" ++ value ++ "' for '--" ++ option ++ "'"
  | .repeated option => "the argument '--" ++ option ++ "' cannot be used multiple times"
  | .missingCommand => "a subcommand is required but one was not provided"
  | .missingArgument name => "the required argument <" ++ name ++ "> was not provided"

/-- What a command takes: its options, how many other arguments, and the names of subcommands. -/
structure CommandForm where
  options : List OptionForm
  positionals : Nat
  subcommands : List String

/-- What was given to a command. -/
structure Given where
  /-- Options with their values; an option without a value has an empty one. -/
  options : List (String × String) := []
  positionals : List String := []
deriving DecidableEq, Inhabited, Repr

namespace Given

def has (g : Given) (name : String) : Bool := g.options.any (·.1 == name)

def value? (g : Given) (name : String) : Option String := g.options.lookup name

/-- Notes an option. -/
def add (g : Given) (o : OptionForm) (value : String) : Except UsageError Given :=
  if g.has o.name then .error (.repeated o.name)
  else if (o.accepts.getD fun _ => true) value then
    .ok { g with options := g.options ++ [(o.name, value)] }
  else .error (.invalidValue o.name value)

end Given

/-- How reading a command's arguments ends. -/
inductive Scan where
  | finished (given : Given)
  /-- An option was met after which nothing matters. -/
  | stopped (option : String)
  | subcommand (given : Given) (name : String) (rest : List String)

/-- What a group of letters asks for. -/
inductive Letters where
  | done (given : Given)
  | stopped (option : String)
  /-- The last letter takes a value, which must be the next argument. -/
  | awaits (given : Given) (option : OptionForm)

/-- Reads the letters of an argument after its hyphen. -/
def readLetters (form : CommandForm) (given : Given) : List Char → Except UsageError Letters
  | [] => .ok (.done given)
  | c :: cs =>
    match form.options.find? (·.letter == some c) with
    | none => .error (.unknownOption (String.ofList ['-', c]))
    | some o =>
      if o.isFinal then .ok (.stopped o.name)
      else if o.takesValue then
        match cs with
        | [] => .ok (.awaits given o)
        | '=' :: value => do .ok (.done (← given.add o (String.ofList value)))
        | value => do .ok (.done (← given.add o (String.ofList value)))
      else do readLetters form (← given.add o "") cs

/-- An argument after its two hyphens, as a name and perhaps a value. -/
def splitLong (cs : List Char) : String × Option String :=
  match cs.dropWhile (· != '=') with
  | '=' :: value => (String.ofList (cs.takeWhile (· != '=')), some (String.ofList value))
  | _ => (String.ofList cs, none)

def readLong (form : CommandForm) (given : Given) (cs : List Char) : Except UsageError Letters :=
  let (name, value?) := splitLong cs
  match form.options.find? (·.name == name) with
  | none => .error (.unknownOption ("--" ++ name))
  | some o =>
    match o.takesValue, value? with
    | true, some value => do .ok (.done (← given.add o value))
    | true, none => .ok (.awaits given o)
    | false, some _ => .error (.unexpectedValue o.name)
    | false, none => if o.isFinal then .ok (.stopped o.name) else do .ok (.done (← given.add o ""))

/-- Notes an argument that is no option. -/
def addPositional (form : CommandForm) (given : Given) (argument : String) :
    Except UsageError Given :=
  if given.positionals.length < form.positionals then
    .ok { given with positionals := given.positionals ++ [argument] }
  else .error (.unexpectedArgument argument)

/-- Whether an argument is an option, or the mark that ends all options. -/
def looksLikeOption (argument : String) : Bool := argument.startsWith "-" && argument != "-"

/-- Reads arguments after those in `given`; `awaited` is an option whose value must come next. -/
def scan (form : CommandForm) (given : Given) (awaited : Option OptionForm) :
    List String → Except UsageError Scan
  | [] =>
    match awaited with
    | some o => .error (.missingValue o.name)
    | none => .ok (.finished given)
  | argument :: rest =>
    match awaited with
    | some o =>
      if looksLikeOption argument then .error (.missingValue o.name)
      else do scan form (← given.add o argument) none rest
    | none =>
      if form.subcommands.contains argument then .ok (.subcommand given argument rest)
      else if looksLikeOption argument then
        match argument.toList with
        | ['-', '-'] => do .ok (.finished (← rest.foldlM (addPositional form) given))
        | '-' :: '-' :: cs => do
          match ← readLong form given cs with
          | .done given => scan form given none rest
          | .stopped option => .ok (.stopped option)
          | .awaits given o => scan form given (some o) rest
        | _ :: cs => do
          match ← readLetters form given cs with
          | .done given => scan form given none rest
          | .stopped option => .ok (.stopped option)
          | .awaits given o => scan form given (some o) rest
        | [] => scan form given none rest
      else do scan form (← addPositional form given argument) none rest

end DocMark.Cli
