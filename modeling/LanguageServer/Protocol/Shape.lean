import LanguageServer.Protocol.Completion

/-!
# Shapes of parameters

What parameters look like that the server checks and does not use.
-/

namespace LanguageServer

open Json

abbrev Shape := Decoder Unit

namespace Shape

def of {α : Type} (decoder : Decoder α) : Shape := fun value => (fun _ => ()) <$> decoder value

def any : Shape := of .any

def string : Shape := of .string

def bool : Shape := of .bool

def int32 : Shape := of .int32

def uint32 : Shape := of .uint32

def uri : Shape := of Uri.decode

def position : Shape := of Position.decode

def range : Shape := of Range.decode

def textEdit : Shape := of TextEdit.decode

def command : Shape := of Command.decode

def documentation : Shape := of Documentation.decode

def tooltip : Shape := of (Documentation.decodeAs "InlayHintTooltip")

def list (item : Shape) : Shape := of (.list item)

def need (name : String) (shape : Shape) : Fields Unit := .required name shape

def may (name : String) (shape : Shape) : Fields Unit := .ignored (.optional name shape)

def record (type : String) (fields : List (Fields Unit)) : Shape :=
  Decoder.record type (.all fields)

def merged (type : String) (fields parts : List (Fields Unit)) : Shape :=
  Decoder.merged type (.all fields :: parts)

def document : Fields Unit := .ignored documentField

def location : Shape := record "Location" [need "uri" uri, need "range" range]

def diagnostic : Shape :=
  record "Diagnostic" [need "range" range, may "severity" int32, may "code" progressToken,
    may "codeDescription" (record "CodeDescription" [need "href" uri]), may "source" string,
    need "message" string,
    may "relatedInformation" (list (record "DiagnosticRelatedInformation" [
      need "location" location, need "message" string])),
    may "tags" (list int32), may "data" any]

/-- An item of a hierarchy of calls or types; the two differ in how they write tags. -/
def hierarchyItem (type : String) (tags : Shape) : Shape :=
  record type [need "name" string, need "kind" int32, may "tags" tags, may "detail" string,
    need "uri" uri, need "range" range, need "selectionRange" range, may "data" any]

/-- Options of formatting. Those that are not known are a boolean, an integer or a text. -/
def formattingOptions : Shape :=
  let known : List (Fields Unit) := [need "tabSize" uint32, need "insertSpaces" bool,
    may "trimTrailingWhitespace" bool, may "insertFinalNewline" bool, may "trimFinalNewlines" bool]
  let knownNames := ["tabSize", "insertSpaces", "trimTrailingWhitespace", "insertFinalNewline",
    "trimFinalNewlines"]
  let property : Shape := .oneOf "FormattingProperty" [bool, int32, string]
  let others : Fields Unit :=
    { Fields.unit () with
      ofMembers members :=
        (members.filter fun member => !knownNames.contains member.1).forM fun (name, value) =>
          (property value).mapError (.failed name) }
  merged "FormattingOptions" known [others]

/-- A label of a hint: a text, or parts of which each may be explained and lead somewhere. -/
def hintLabel : Shape :=
  .oneOf "InlayHintLabel" [string, list (record "InlayHintLabelPart" [need "value" string,
    may "tooltip" tooltip, may "location" location, may "command" command])]

def signatureHelp : Shape :=
  let place : Shape
    | .array [start, stop] => uint32 start *> uint32 stop
    | value => .error (.kind value "an array of length 2")
  let parameter : Shape := record "ParameterInformation" [
    need "label" (.oneOf "ParameterLabel" [string, place]), may "documentation" documentation]
  let signature : Shape := record "SignatureInformation" [need "label" string,
    may "documentation" documentation, may "parameters" (list parameter),
    may "activeParameter" uint32]
  record "SignatureHelp" [need "signatures" (list signature), may "activeSignature" uint32,
    may "activeParameter" uint32]

/-- Edits of one document, each of which may refer to an annotation. -/
def documentEdit : Shape :=
  let annotated : Shape := merged "AnnotatedTextEdit" [need "annotationId" string]
    [.all [need "range" range, need "newText" string]]
  record "TextDocumentEdit" [
    need "textDocument" (record "OptionalVersionedTextDocumentIdentifier" [
      need "uri" uri, may "version" int32]),
    need "edits" (list (.oneOf "OneOf" [textEdit, annotated]))]

/-- A file is created, renamed or deleted. An array names the operation in front of its fields. -/
def fileOperation : Shape := fun value =>
  let options (type : String) (names : List String) : Shape :=
    record type (names.map (may · bool))
  let check (operation fields : Json) : Except DecodeError Unit :=
    match operation with
    | .string "create" => record "CreateFile" [need "uri" uri,
        may "options" (options "CreateFileOptions" ["overwrite", "ignoreIfExists"]),
        may "annotationId" string] fields
    | .string "rename" => record "RenameFile" [need "oldUri" uri, need "newUri" uri,
        may "options" (options "RenameFileOptions" ["overwrite", "ignoreIfExists"]),
        may "annotationId" string] fields
    | .string "delete" => record "DeleteFile" [need "uri" uri,
        may "options" (record "DeleteFileOptions" [may "recursive" bool,
          may "ignoreIfNotExists" bool, may "annotationId" string])] fields
    | operation => .error (.kind operation "variant identifier")
  match value with
  | .array (operation :: items) => check operation (.array items)
  | value =>
    match value.field? "kind" with
    | some operation => check operation value
    | none => .error (.missing "kind")

def workspaceEdit : Shape :=
  let uriKey (text : String) : Except DecodeError Unit := uri (.string text)
  let textKey (_ : String) : Except DecodeError Unit := .ok ()
  let annotation : Shape := record "ChangeAnnotation" [need "label" string,
    may "needsConfirmation" bool, may "description" string]
  record "WorkspaceEdit" [
    may "changes" (of (.map "map" uriKey (list textEdit))),
    may "documentChanges" (.oneOf "DocumentChanges" [list documentEdit,
      list (.oneOf "DocumentChangeOperation" [fileOperation, documentEdit])]),
    may "changeAnnotations" (of (.map "a map" textKey annotation))]

end Shape

end LanguageServer
