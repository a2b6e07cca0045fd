/-!
# Capabilities

What an editor can do, as far as the server asks for it, and what the server offers in return.
-/

namespace LanguageServer

structure ClientFlags where
  configuration : Bool
  workspaceFolders : Bool
  relatedInformation : Bool
deriving DecidableEq, Repr

namespace ClientFlags

/-- An editor that declares nothing has no feature. -/
def default : ClientFlags := ⟨false, false, false⟩

instance : Inhabited ClientFlags := ⟨default⟩

end ClientFlags

/-- What the server offers. Documents are sent as a whole, and completion items are resolved. -/
structure ServerCapabilities where
  workspaceFolders : Bool
deriving DecidableEq, Repr

/-- Workspace folders are offered to an editor that has them. -/
def ServerCapabilities.forClient (flags : ClientFlags) : ServerCapabilities :=
  ⟨flags.workspaceFolders⟩

structure ServerInfo where
  name : String
  version : String
deriving DecidableEq, Repr

def ServerInfo.own : ServerInfo := ⟨"lsp-sample", "0.1.0"⟩

def configurationRegistrationId : String := "languageServerExample/didChangeConfiguration"

end LanguageServer
