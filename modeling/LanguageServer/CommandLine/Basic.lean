import LanguageServer.CommandLine.LogFilter
import LanguageServer.Capabilities
import LanguageServer.DataDirectory
import LanguageServer.Text.ControlSequence
import LanguageServer.Text.Quoted

/-!
# Command line

The arguments of the program, what they ask for and what is said about wrong ones, and the checks
that are made before the server starts. Reading files and the environment is not part of it.
-/

namespace LanguageServer.CommandLine

inductive UsageError where
  | unexpectedArgument (argument : String)
  | unexpectedValue (value option : String)
  | missingValue
  | repeatedOption
deriving DecidableEq, Repr

def logLevelUsage : String := "--log-level <LOG_LEVEL>"

/-- What stands in an argument is shown without control sequences. -/
def UsageError.message : UsageError → String
  | unexpectedArgument argument =>
    "error: unexpected argument '" ++ Text.withoutControls argument ++ "' found"
  | unexpectedValue value option =>
    "error: unexpected value '" ++ Text.withoutControls value ++ "' for '" ++ option ++
      "' found; no more were expected"
  | missingValue =>
    "error: a value is required for '" ++ logLevelUsage ++ "' but none was supplied"
  | repeatedOption => "error: the argument '" ++ logLevelUsage ++ "' cannot be used multiple times"

inductive Command where
  | serve (logLevel : String)
  | version
  | help
deriving DecidableEq, Repr

def defaultLogLevel : String := "info"

/-- What has been read of the option for the log level. Its last occurrence is open until the next
option or the end of the arguments settles it. -/
structure Reading where
  settled? : Option String := none
  /-- The last occurrence with its value, if that has followed already. -/
  open? : Option (Option String) := none

/-- Settles an open option; it needs a value and must be the first one. -/
def Reading.settle (reading : Reading) : Except UsageError Reading :=
  match reading.open? with
  | none => .ok reading
  | some none => .error .missingValue
  | some (some value) =>
    if reading.settled?.isSome then .error .repeatedOption
    else .ok { settled? := some value }

def longParts (argument : List Char) : String × Option String :=
  match Text.cutAt? '=' argument with
  | some (name, value) => (.ofList name, some (.ofList value))
  | none => (.ofList argument, none)

/-- Ends the program with a text; the option that asks for it takes no value. -/
def endWith (command : Command) (option : String) (value? : Option String) (reading : Reading) :
    Except UsageError Command :=
  match value? with
  | some value => .error (.unexpectedValue value option)
  | none => reading.settle.map fun _ => command

/-- Reads arguments from left to right; version and help act as soon as they are met. -/
def read (reading : Reading) : List String → Except UsageError Command
  | [] => reading.settle.map fun reading => .serve (reading.settled?.getD defaultLogLevel)
  | argument :: arguments =>
    match argument.toList with
    | ['-', '-'] =>
      match arguments with
      | [] => read reading []
      | first :: _ => .error (.unexpectedArgument first)
    | '-' :: '-' :: long =>
      match longParts long with
      | ("log-level", some value) => do
        let reading ← reading.settle
        let reading ← Reading.settle { reading with open? := some (some value) }
        read reading arguments
      | ("log-level", none) => do
        let reading ← reading.settle
        read { reading with open? := some none } arguments
      | ("version", value?) => endWith .version "--version" value? reading
      | ("help", value?) => endWith .help "--help" value? reading
      | (name, _) => .error (.unexpectedArgument ("--" ++ name))
    | '-' :: 'V' :: _ => endWith .version "--version" none reading
    | '-' :: 'h' :: _ => endWith .help "--help" none reading
    | '-' :: c :: _ => .error (.unexpectedArgument (.ofList ['-', c]))
    | _ =>
      match reading.open? with
      | some none => read { reading with open? := some (some argument) } arguments
      | _ => .error (.unexpectedArgument argument)

def parse (arguments : List String) : Except UsageError Command := read {} arguments

def versionText : String := ServerInfo.own.name ++ " " ++ ServerInfo.own.version ++ "\n"

def helpText : String :=
  "Minimal language server with diagnostics and completion\n\n" ++
  "Usage: lsp-sample [OPTIONS]\n\n" ++
  "Options:\n" ++
  "      --log-level <LOG_LEVEL>  Log filter used when RUST_LOG is not set " ++
  "(e.g. \"debug\", \"lsp_sample=trace\") [default: info]\n" ++
  "  -h, --help                   Print help\n" ++
  "  -V, --version                Print version\n"

inductive StartError where
  | dataDirectory (path : String)
  | logFilter (text : String)
  /-- The filter cannot be cut into its parts. -/
  | brokenFilter
deriving DecidableEq, Repr

namespace StartError

/-- A filter that cannot be cut is not told about on the first line. -/
def message : StartError → String
  | dataDirectory path => "Error: Failed to create data directory " ++ Text.quoted path
  | logFilter text => "Error: Invalid log directive " ++ Text.quoted text
  | brokenFilter => ""

def exitCode : StartError → Nat
  | dataDirectory _ | logFilter _ => 1
  | brokenFilter => 101

end StartError

/-- The filter of the environment counts where it is valid, otherwise that of the arguments. -/
def chooseFilter (environment? : Option String) (argument : String) : Except StartError String :=
  let check (filter : String) (otherwise : Except StartError String) : Except StartError String :=
    match LogFilter.check filter with
    | .ok _ => .ok filter
    | .error .malformed => otherwise
    | .error .unaligned => .error .brokenFilter
  let own := check argument (.error (.logFilter argument))
  environment?.elim own (check · own)

structure Ending where
  exitCode : Nat
  output : String := ""
  errorLine : String := ""
  logFile : Bool := false
deriving DecidableEq, Repr

def firstLine (text : String) : String :=
  let line := text.toList.takeWhile (· != '\n')
  .ofList (if line.length < text.length && line.getLast? = some '\r' then line.dropLast else line)

/-- Wrong arguments end with two, a failed start mostly with one. The directory is made before the
log file, and the log file before the filter is read. -/
def ending (arguments : List String) (filter? : Option String) (directory : String)
    (canCreate : Bool) : Ending :=
  let failure (error : StartError) (logFile : Bool) : Ending :=
    { exitCode := error.exitCode, errorLine := firstLine error.message, logFile }
  match parse arguments with
  | .error error => { exitCode := 2, errorLine := firstLine error.message }
  | .ok .version => { exitCode := 0, output := versionText }
  | .ok .help => { exitCode := 0, output := helpText }
  | .ok (.serve level) =>
    if canCreate then
      match chooseFilter filter? level with
      | .error error => failure error true
      | .ok _ => { exitCode := 0, logFile := true }
    else failure (.dataDirectory directory) false

end LanguageServer.CommandLine
