import LanguageServer.Completion
import LanguageServer.Protocol.Request

/-!
# Completion on the wire

JSON forms of completion items and of the parameters of a completion request.
-/

namespace LanguageServer

open Json

namespace Documentation

def markups : List String := ["plaintext", "markdown"]

def decodeMarkup : Decoder Documentation :=
  .record "MarkupContent" (markup <$> .required "kind" (.name markups) <*>
    .required "value" .string)

def decodeAs (type : String) : Decoder Documentation :=
  .oneOf type [fun value => text <$> Decoder.string value, decodeMarkup]

def decode : Decoder Documentation := decodeAs "Documentation"

def toJson : Documentation → Json
  | text s => .string s
  | markup kind value => .object [("kind", .string kind), ("value", .string value)]

end Documentation

namespace LabelDetails

def decode : Decoder LabelDetails :=
  .record "CompletionItemLabelDetails" (LabelDetails.mk <$> .optional "detail" .string <*>
    .optional "description" .string)

def toJson (details : LabelDetails) : Json :=
  ofFields [("detail", details.detail?.map .string),
    ("description", details.description?.map .string)]

end LabelDetails

namespace CompletionEdit

def decode : Decoder CompletionEdit :=
  .oneOf "CompletionTextEdit" [
    fun value => edit <$> TextEdit.decode value,
    .record "InsertReplaceEdit" (choice <$> .required "newText" .string <*>
      .required "insert" Range.decode <*> .required "replace" Range.decode)]

def toJson : CompletionEdit → Json
  | edit change => change.toJson
  | choice newText insert replace =>
    .object [("newText", .string newText), ("insert", insert.toJson), ("replace", replace.toJson)]

end CompletionEdit

namespace Command

def decode : Decoder Command :=
  .record "Command" (Command.mk <$> .required "title" .string <*> .required "command" .string <*>
    .optional "arguments" (.list .any))

def toJson (command : Command) : Json :=
  ofFields [("title", some (.string command.title)), ("command", some (.string command.name)),
    ("arguments", command.arguments?.map .array)]

end Command

namespace CompletionItem

def decode : Decoder CompletionItem :=
  .record "CompletionItem" (CompletionItem.mk <$> .required "label" .string <*>
    .optional "labelDetails" LabelDetails.decode <*> .optional "kind" .int32 <*>
    .optional "detail" .string <*> .optional "documentation" Documentation.decode <*>
    .optional "deprecated" .bool <*> .optional "preselect" .bool <*>
    .optional "sortText" .string <*> .optional "filterText" .string <*>
    .optional "insertText" .string <*> .optional "insertTextFormat" .int32 <*>
    .optional "insertTextMode" .int32 <*> .optional "textEdit" CompletionEdit.decode <*>
    .optional "additionalTextEdits" (.list TextEdit.decode) <*>
    .optional "command" Command.decode <*> .optional "commitCharacters" (.list .string) <*>
    .optional "data" .any <*> .optional "tags" (.list .int32))

def toJson (item : CompletionItem) : Json :=
  ofFields [
    ("label", some (.string item.label)),
    ("labelDetails", item.labelDetails?.map LabelDetails.toJson),
    ("kind", item.kind?.map .int),
    ("detail", item.detail?.map .string),
    ("documentation", item.documentation?.map Documentation.toJson),
    ("deprecated", item.deprecated?.map .bool),
    ("preselect", item.preselect?.map .bool),
    ("sortText", item.sortText?.map .string),
    ("filterText", item.filterText?.map .string),
    ("insertText", item.insertText?.map .string),
    ("insertTextFormat", item.insertTextFormat?.map .int),
    ("insertTextMode", item.insertTextMode?.map .int),
    ("textEdit", item.textEdit?.map CompletionEdit.toJson),
    ("additionalTextEdits", item.additionalTextEdits?.map fun edits =>
      .array (edits.map TextEdit.toJson)),
    ("command", item.command?.map Command.toJson),
    ("commitCharacters", item.commitCharacters?.map fun cs => .array (cs.map .string)),
    ("data", item.data?),
    ("tags", item.tags?.map fun ts => .array (ts.map .int))]

end CompletionItem

/-- Completion is offered at every position of every document. -/
def completionParams : Decoder Unit :=
  let context : Decoder Unit := .record "CompletionContext" (.all [
    .ignored (.required "triggerKind" .int32), .ignored (.optional "triggerCharacter" .string)])
  .merged "CompletionParams" [.ignored (.optional "context" context), placeFields, workDone,
    partialResult]

end LanguageServer
