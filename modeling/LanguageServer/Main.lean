import LanguageServer.CommandLine.Basic
import LanguageServer.Service.Connection

/-!
# The program

Serves one editor over standard input and output. Everything that is decided is decided in the
modules below; this one reads and writes.
-/

open LanguageServer

def sendAll (output : IO.FS.Stream) (messages : List Json) : IO Unit := do
  for message in messages do
    output.putStr (Rpc.frame message)
  output.flush

/-- Serves until the input ends or nothing more is read. -/
partial def serveInput (input output : IO.FS.Stream) (connection : Connection) : IO Unit := do
  let bytes ← input.read (.ofNat (max 1 (Rpc.missing connection.pending)))
  if bytes.isEmpty then return
  let (connection, messages) := connection.receive bytes.toList
  sendAll output messages
  if connection.closed then return
  serveInput input output connection

/-- Makes the data directory; its name is given back when that fails. -/
def makeDataDirectory : IO (Except CommandLine.StartError String) := do
  let directory := DataDirectory.locate (← IO.getEnv "XDG_DATA_HOME") (← IO.getEnv "HOME")
  try
    IO.FS.createDirAll directory
    return .ok directory
  catch _ => return .error (.dataDirectory directory)

def serveEditor (level : String) : IO (Except CommandLine.StartError Unit) := do
  match ← makeDataDirectory with
  | .error error => return .error error
  | .ok directory =>
    let log ← IO.FS.Handle.mk (DataDirectory.logPath directory) .append
    match CommandLine.chooseFilter (← IO.getEnv "RUST_LOG") level with
    | .error error => return .error error
    | .ok _ =>
      log.putStrLn "Starting"
      serveInput (← IO.getStdin) (← IO.getStdout) (.new .uppercase)
      log.putStrLn "Client disconnected, exiting"
      return .ok ()

def main (arguments : List String) : IO UInt32 := do
  match CommandLine.parse arguments with
  | .error error =>
    IO.eprintln error.message
    return 2
  | .ok .version =>
    IO.print CommandLine.versionText
    return 0
  | .ok .help =>
    IO.print CommandLine.helpText
    return 0
  | .ok (.serve level) =>
    match ← serveEditor level with
    | .ok _ => return 0
    | .error error =>
      IO.eprintln error.message
      return .ofNat error.exitCode
