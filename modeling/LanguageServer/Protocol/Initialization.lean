import LanguageServer.Capabilities
import LanguageServer.Protocol.Document

/-!
# Opening a session on the wire

JSON forms of what an editor and the server tell each other about themselves. Of the capabilities
of an editor only those that the server uses are read.
-/

namespace LanguageServer

open Json

namespace ClientFlags

def decodePublishing : Decoder Bool :=
  .record "PublishDiagnosticsClientCapabilities" (
    (·.getD false) <$> .optional "relatedInformation" .bool <*
    .all (["tagSupport", "versionSupport", "codeDescriptionSupport", "dataSupport"].map .unread))

def decodeDocument : Decoder Bool :=
  .record "TextDocumentClientCapabilities" (
    .all (["synchronization", "completion", "hover", "signatureHelp", "references",
      "documentHighlight", "documentSymbol", "formatting", "rangeFormatting", "onTypeFormatting",
      "declaration", "definition", "typeDefinition", "implementation", "codeAction", "codeLens",
      "documentLink", "colorProvider", "rename"].map .unread) *>
    ((·.getD false) <$> .optional "publishDiagnostics" decodePublishing) <*
    .all (["foldingRange", "selectionRange", "linkedEditingRange", "callHierarchy",
      "semanticTokens", "moniker", "typeHierarchy", "inlineValue", "inlayHint",
      "diagnostic"].map .unread))

def decodeWorkspace : Decoder (Bool × Bool) :=
  .record "WorkspaceClientCapabilities" (
    .all (["applyEdit", "workspaceEdit", "didChangeConfiguration", "didChangeWatchedFiles",
      "symbol", "executeCommand"].map .unread) *>
    ((fun folders? configuration? => (folders?.getD false, configuration?.getD false)) <$>
      .optional "workspaceFolders" .bool <*> .optional "configuration" .bool) <*
    .all (["semanticTokens", "codeLens", "fileOperations", "inlineValue", "inlayHint",
      "diagnostic"].map .unread))

/-- A feature that is not declared is absent. -/
def decode : Decoder ClientFlags :=
  .record "ClientCapabilities" (
    (fun workspace? document? =>
      let (workspaceFolders, configuration) := workspace?.getD (false, false)
      { configuration, workspaceFolders, relatedInformation := document?.getD false }) <$>
    .optional "workspace" decodeWorkspace <*> .optional "textDocument" decodeDocument <*
    .all (["notebookDocument", "window", "general", "experimental"].map .unread))

def toJson (flags : ClientFlags) : Json :=
  .object [("configuration", .bool flags.configuration),
    ("workspaceFolders", .bool flags.workspaceFolders),
    ("relatedInformation", .bool flags.relatedInformation)]

end ClientFlags

/-- Full synchronisation of documents is written as `1`. -/
def ServerCapabilities.toJson (capabilities : ServerCapabilities) : Json :=
  let folders : Json := .object [("workspaceFolders", .object [("supported", .bool true)])]
  ofFields [("textDocumentSync", some (.int 1)),
    ("completionProvider", some (.object [("resolveProvider", .bool true)])),
    ("workspace", if capabilities.workspaceFolders then some folders else none)]

def ServerInfo.toJson (info : ServerInfo) : Json :=
  .object [("name", .string info.name), ("version", .string info.version)]

def workspaceFolder : Decoder (Uri × String) :=
  .record "WorkspaceFolder" (Prod.mk <$> .required "uri" Uri.decode <*> .required "name" .string)

def traceLevels : List String := ["off", "messages", "verbose"]

/-- The parameters that open a session; only the capabilities are used. -/
def helloParams : Decoder ClientFlags :=
  let client : Decoder Unit := .record "ClientInfo" (.all [
    .ignored (.required "name" .string), .ignored (.optional "version" .string)])
  .record "InitializeParams" (
    .all [.ignored (.optional "processId" .uint32), .ignored (.optional "rootPath" .string),
      .ignored (.optional "rootUri" Uri.decode), .unread "initializationOptions"] *>
    .required "capabilities" ClientFlags.decode <*
    .all [.ignored (.optional "trace" (.name traceLevels)),
      .ignored (.optional "workspaceFolders" (.list workspaceFolder)),
      .ignored (.optional "clientInfo" client), .ignored (.optional "locale" .string)])

def readyParams : Decoder Unit := .record "InitializedParams" (pure ())

def configurationParams : Decoder Json :=
  .record "DidChangeConfigurationParams" (.required "settings" .any)

/-- Which folders have been added and removed is not used. -/
def folderParams : Decoder Unit :=
  .record "DidChangeWorkspaceFoldersParams" (.ignored (.required "event"
    (.record "WorkspaceFoldersChangeEvent" (.all [
      .ignored (.required "added" (.list workspaceFolder)),
      .ignored (.required "removed" (.list workspaceFolder))]))))

end LanguageServer
