import LanguageServer.Diagnostics.Basic
import LanguageServer.Protocol.Document

/-!
# Diagnostics on the wire

JSON forms of settings and of what is published about a document.
-/

namespace LanguageServer

open Json

def Settings.toJson (settings : Settings) : Json :=
  .object [("maxNumberOfProblems", .int settings.maxNumberOfProblems)]

/-- Severities are written as numbers from the most to the least urgent. -/
def Severity.toJson : Severity → Json
  | error => .int 1
  | warning => .int 2
  | information => .int 3
  | hint => .int 4

def RelatedInformation.toJson (remark : RelatedInformation) : Json :=
  .object [
    ("location", .object [("uri", remark.uri.toJson), ("range", remark.range.toJson)]),
    ("message", .string remark.message)]

def Diagnostic.toJson (diagnostic : Diagnostic) : Json :=
  ofFields [
    ("range", some diagnostic.range.toJson),
    ("severity", some diagnostic.severity.toJson),
    ("source", some (.string diagnostic.source)),
    ("message", some (.string diagnostic.message)),
    ("relatedInformation", diagnostic.relatedInformation?.map fun remarks =>
      .array (remarks.map RelatedInformation.toJson))]

end LanguageServer
