/-!
# Data directory

Where the server keeps its log file.
-/

namespace LanguageServer.DataDirectory

/-- Puts a name behind a path, with one slash between them unless the path brings its own. -/
def join (path name : String) : String :=
  if path.isEmpty || path.endsWith "/" then path ++ name else path ++ "/" ++ name

def directoryName : String := "lsp-sample"

def logFileName : String := "lsp-sample.log"

/-- The directory for application data comes first, then the usual place below the home directory,
then the current directory. -/
def locate (dataHome? home? : Option String) : String :=
  let parent := match dataHome?, home? with
    | some dataHome, _ => dataHome
    | none, some home => join home ".local/share"
    | none, none => "."
  join parent directoryName

def logPath (directory : String) : String := join directory logFileName

end LanguageServer.DataDirectory
