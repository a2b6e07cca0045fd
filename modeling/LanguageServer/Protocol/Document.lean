import LanguageServer.Document.Store
import LanguageServer.Json.Decode

/-!
# Documents on the wire

JSON forms of positions, documents, edits and of the notices about documents.
-/

namespace LanguageServer

open Json

namespace Uri

def decode : Decoder Uri
  | .string text => (parse text).mapError fun error => .text text error.message
  | value => .error (.kind value "a string representing an URL")

def toJson (uri : Uri) : Json := .string uri.text

end Uri

namespace Position

def decode : Decoder Position :=
  .record "Position" (Position.mk <$> .required "line" .uint32 <*> .required "character" .uint32)

def toJson (position : Position) : Json :=
  .object [("line", .int position.line.toNat), ("character", .int position.character.toNat)]

end Position

namespace Range

def decode : Decoder Range :=
  .record "Range" (Range.mk <$> .required "start" Position.decode <*>
    .required "end" Position.decode)

def toJson (range : Range) : Json :=
  .object [("start", range.start.toJson), ("end", range.stop.toJson)]

end Range

namespace TextEdit

def decode : Decoder TextEdit :=
  .record "TextEdit" (TextEdit.mk <$> .required "range" Range.decode <*>
    .required "newText" .string)

def toJson (edit : TextEdit) : Json :=
  .object [("range", edit.range.toJson), ("newText", .string edit.newText)]

end TextEdit

namespace DocumentItem

def decode : Decoder DocumentItem :=
  .record "TextDocumentItem" (DocumentItem.mk <$> .required "uri" Uri.decode <*>
    .required "languageId" .string <*> .required "version" .int32 <*> .required "text" .string)

def toJson (item : DocumentItem) : Json :=
  .object [("uri", item.uri.toJson), ("languageId", .string item.languageId),
    ("version", .int item.version), ("text", .string item.text)]

end DocumentItem

/-- The range of a change is declared first. -/
def ContentChange.decode : Decoder ContentChange :=
  .record "TextDocumentContentChangeEvent" ((fun range? length? text =>
      { range?, rangeLength? := length?.map UInt32.toNat, text }) <$>
    .optional "range" Range.decode <*> .optional "rangeLength" .uint32 <*>
    .required "text" .string)

def documentField : Fields Uri :=
  .required "textDocument" (.record "TextDocumentIdentifier" (.required "uri" Uri.decode))

namespace Notice

def openParams : Decoder Notice :=
  .record "DidOpenTextDocumentParams" (didOpen <$> .required "textDocument" DocumentItem.decode)

def changeParams : Decoder Notice :=
  let document : Fields (Uri × Int) := .required "textDocument"
    (.record "VersionedTextDocumentIdentifier" (Prod.mk <$> .required "uri" Uri.decode <*>
      .required "version" .int32))
  .record "DidChangeTextDocumentParams" ((fun document => didChange document.1 document.2) <$>
    document <*> .required "contentChanges" (.list ContentChange.decode))

def closeParams : Decoder Notice :=
  .record "DidCloseTextDocumentParams" (didClose <$> documentField)

/-- The saved text may be sent along and is not used. -/
def saveParams : Decoder Notice :=
  .record "DidSaveTextDocumentParams" ((fun uri _ => didSave uri) <$> documentField <*>
    .optional "text" .string)

def savingParams (notice : Uri → Int → Notice) : Decoder Notice :=
  .record "WillSaveTextDocumentParams" (notice <$> documentField <*> .required "reason" .int32)

end Notice

end LanguageServer
