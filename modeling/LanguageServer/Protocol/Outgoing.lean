import LanguageServer.Protocol.Diagnostic
import LanguageServer.Rpc.Message
import LanguageServer.Service.Basic

/-!
# Messages of the server on the wire

Method names and parameters of what the server sends.
-/

namespace LanguageServer

open Json

namespace ServerMessage

def method : ServerMessage → String
  | log _ => "window/logMessage"
  | registerForConfiguration => "client/registerCapability"
  | pullSettings _ _ => "workspace/configuration"
  | publish _ _ _ => "textDocument/publishDiagnostics"

/-- Log messages are all of the informative kind, which is written as `3`. -/
def params : ServerMessage → Json
  | log text => .object [("type", .int 3), ("message", .string text)]
  | registerForConfiguration =>
    .object [("registrations", .array [.object [("id", .string configurationRegistrationId),
      ("method", .string "workspace/didChangeConfiguration")]])]
  | pullSettings _ uri =>
    .object [("items", .array [.object [("scopeUri", uri.toJson),
      ("section", .string Settings.sectionName)]])]
  | publish uri diagnostics version =>
    .object [("uri", uri.toJson), ("diagnostics", .array (diagnostics.map Diagnostic.toJson)),
      ("version", .int version)]

end ServerMessage

/-- The message with its protocol version, and with its id if it has to be answered. -/
def Outgoing.toJson (outgoing : Outgoing) : Json :=
  Rpc.envelope [("method", some (.string outgoing.message.method)),
    ("params", some outgoing.message.params), ("id", outgoing.id?.map fun id => .int id)]

def Reply.toJson? : Reply → Option Json
  | .silence | .ended => none
  | .result id value => some (Rpc.Response.toJson ⟨id, .ok value⟩)
  | .refusal id error => some (Rpc.Response.toJson ⟨id, .error error⟩)

end LanguageServer
