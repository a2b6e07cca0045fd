import LanguageServer.Protocol.Shape

/-!
# Methods without an implementation

The methods of the protocol that the server knows and does not support, with the parameters that
they take. They are known, so they are refused for other reasons first: the session may not be
open, or the parameters may be missing or of a wrong shape.
-/

namespace LanguageServer.Service

open Json (Fields)
open Shape

/-- Parameters about a place in a document whose results may come bit by bit. -/
def placeParams (type : String) : Shape := merged type [] [placeFields, workDone, partialResult]

def spotParams (type : String) : Shape := merged type [] [placeFields, workDone]

def documentParams (type : String) (more : List (Fields Unit)) : Shape :=
  merged type (document :: more) [workDone, partialResult]

/-- Parameters about a document whose results come at once. -/
def directParams (type : String) (more : List (Fields Unit)) : Shape :=
  merged type (document :: more) [workDone]

def callParams (type : String) : Shape :=
  merged type [need "item" (hierarchyItem "CallHierarchyItem" (list int32))]
    [workDone, partialResult]

def typeParams (type : String) : Shape :=
  merged type [need "item" (hierarchyItem "TypeHierarchyItem" int32)] [workDone, partialResult]

def fileParams (type item : String) (names : List String) : Shape :=
  record type [need "files" (list (record item (names.map (need · string))))]

def navigationRequests : List (String × Shape) := [
  ("textDocument/declaration", placeParams "GotoDefinitionParams"),
  ("textDocument/definition", placeParams "GotoDefinitionParams"),
  ("textDocument/typeDefinition", placeParams "GotoDefinitionParams"),
  ("textDocument/implementation", placeParams "GotoDefinitionParams"),
  ("textDocument/references", merged "ReferenceParams"
    [need "context" (record "ReferenceContext" [need "includeDeclaration" bool])]
    [placeFields, workDone, partialResult]),
  ("textDocument/prepareCallHierarchy", spotParams "CallHierarchyPrepareParams"),
  ("callHierarchy/incomingCalls", callParams "CallHierarchyIncomingCallsParams"),
  ("callHierarchy/outgoingCalls", callParams "CallHierarchyOutgoingCallsParams"),
  ("textDocument/prepareTypeHierarchy", spotParams "TypeHierarchyPrepareParams"),
  ("typeHierarchy/supertypes", typeParams "TypeHierarchySupertypesParams"),
  ("typeHierarchy/subtypes", typeParams "TypeHierarchySubtypesParams"),
  ("textDocument/documentHighlight", placeParams "DocumentHighlightParams"),
  ("textDocument/moniker", placeParams "MonikerParams"),
  ("textDocument/linkedEditingRange", spotParams "LinkedEditingRangeParams")]

def displayRequests : List (String × Shape) := [
  ("textDocument/hover", spotParams "HoverParams"),
  ("textDocument/documentLink", documentParams "DocumentLinkParams" []),
  ("documentLink/resolve", record "DocumentLink"
    [need "range" range, may "target" uri, may "tooltip" string, may "data" any]),
  ("textDocument/codeLens", documentParams "CodeLensParams" []),
  ("codeLens/resolve", record "CodeLens"
    [need "range" range, may "command" command, may "data" any]),
  ("textDocument/foldingRange", documentParams "FoldingRangeParams" []),
  ("textDocument/selectionRange", documentParams "SelectionRangeParams"
    [need "positions" (list position)]),
  ("textDocument/documentSymbol", documentParams "DocumentSymbolParams" []),
  ("textDocument/semanticTokens/full", documentParams "SemanticTokensParams" []),
  ("textDocument/semanticTokens/full/delta", documentParams "SemanticTokensDeltaParams"
    [need "previousResultId" string]),
  ("textDocument/semanticTokens/range", documentParams "SemanticTokensRangeParams"
    [need "range" range]),
  ("textDocument/inlineValue", directParams "InlineValueParams" [need "range" range,
    need "context" (record "InlineValueContext"
      [need "frameId" int32, need "stoppedLocation" range])]),
  ("textDocument/inlayHint", directParams "InlayHintParams" [need "range" range]),
  ("inlayHint/resolve", record "InlayHint" [need "position" position, need "label" hintLabel,
    may "kind" int32, may "textEdits" (list textEdit), may "tooltip" tooltip,
    may "paddingLeft" bool, may "paddingRight" bool, may "data" any]),
  ("textDocument/signatureHelp", merged "SignatureHelpParams"
    [may "context" (record "SignatureHelpContext" [need "triggerKind" int32,
      may "triggerCharacter" string, need "isRetrigger" bool,
      may "activeSignatureHelp" signatureHelp])]
    [placeFields, workDone]),
  ("textDocument/documentColor", documentParams "DocumentColorParams" []),
  ("textDocument/colorPresentation", documentParams "ColorPresentationParams"
    [need "color" (record "Color" (["red", "green", "blue", "alpha"].map (need · .number))),
      need "range" range])]

def editRequests : List (String × Shape) := [
  ("textDocument/codeAction", documentParams "CodeActionParams" [need "range" range,
    need "context" (record "CodeActionContext" [need "diagnostics" (list diagnostic),
      may "only" (list string), may "triggerKind" int32])]),
  ("codeAction/resolve", record "CodeAction" [need "title" string, may "kind" string,
    may "diagnostics" (list diagnostic), may "edit" workspaceEdit, may "command" command,
    may "isPreferred" bool, may "disabled" (record "CodeActionDisabled" [need "reason" string]),
    may "data" any]),
  ("textDocument/formatting", directParams "DocumentFormattingParams"
    [need "options" formattingOptions]),
  ("textDocument/rangeFormatting", directParams "DocumentRangeFormattingParams"
    [need "range" range, need "options" formattingOptions]),
  ("textDocument/onTypeFormatting", merged "DocumentOnTypeFormattingParams"
    [need "ch" string, need "options" formattingOptions] [placeFields]),
  ("textDocument/rename", merged "RenameParams" [need "newName" string] [placeFields, workDone]),
  ("textDocument/prepareRename", Json.Decoder.record "TextDocumentPositionParams" placeFields)]

def workspaceRequests : List (String × Shape) := [
  ("textDocument/diagnostic", documentParams "DocumentDiagnosticParams"
    [may "identifier" string, may "previousResultId" string]),
  ("workspace/diagnostic", merged "WorkspaceDiagnosticParams"
    [may "identifier" string, need "previousResultIds" (list (record "PreviousResultId"
      [need "uri" uri, need "value" string]))]
    [workDone, partialResult]),
  ("workspace/symbol", merged "WorkspaceSymbolParams" [need "query" string]
    [partialResult, workDone]),
  ("workspaceSymbol/resolve", record "WorkspaceSymbol" [need "name" string, need "kind" int32,
    may "tags" (list int32), may "containerName" string,
    need "location" (.oneOf "OneOf" [location, record "WorkspaceLocation" [need "uri" uri]]),
    may "data" any]),
  ("workspace/willCreateFiles", fileParams "CreateFilesParams" "FileCreate" ["uri"]),
  ("workspace/willRenameFiles", fileParams "RenameFilesParams" "FileRename" ["oldUri", "newUri"]),
  ("workspace/willDeleteFiles", fileParams "DeleteFilesParams" "FileDelete" ["uri"]),
  ("workspace/executeCommand", merged "ExecuteCommandParams"
    [need "command" string, .one "arguments" (list any) (some ())] [workDone])]

def unsupportedRequests : List (String × Shape) :=
  navigationRequests ++ displayRequests ++ editRequests ++ workspaceRequests

def ignoredNotifications : List String :=
  ["workspace/didCreateFiles", "workspace/didRenameFiles", "workspace/didDeleteFiles",
    "workspace/didChangeWatchedFiles"]

end LanguageServer.Service
