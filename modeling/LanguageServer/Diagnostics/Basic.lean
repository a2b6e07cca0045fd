import LanguageServer.Diagnostics.Rule
import LanguageServer.Document.Basic
import LanguageServer.Settings.Basic

/-!
# Diagnostics

What is published for a document: the findings of a rule, as many as the settings allow, with
their offsets turned into positions.
-/

namespace LanguageServer

structure RelatedInformation where
  uri : Uri
  range : Range
  message : String
deriving DecidableEq, Repr

inductive Severity where
  | error
  | warning
  | information
  | hint
deriving DecidableEq, Repr

structure Diagnostic where
  range : Range
  severity : Severity
  source : String
  message : String
  relatedInformation? : Option (List RelatedInformation)
deriving DecidableEq, Repr

namespace Diagnostic

def sourceName : String := "ex"

/-- The remarks on a diagnostic; they point at its own range. -/
def remarks (uri : Uri) (range : Range) : List RelatedInformation :=
  ["Spelling matters", "Particularly for names"].map fun message => ⟨uri, range, message⟩

def ofFinding (document : TextDocument) (related : Bool) (finding : Finding) : Diagnostic :=
  let range : Range := ⟨document.positionAt finding.start, document.positionAt finding.stop⟩
  { range
    severity := .warning
    source := sourceName
    message := finding.message
    relatedInformation? := if related then some (remarks document.uri range) else none }

/-- The diagnostics of a document, at most as many as the settings allow. -/
def compute (rule : Rule) (document : TextDocument) (settings : Settings) (related : Bool) :
    List Diagnostic :=
  ((rule.check document.text).take settings.maxNumberOfProblems).map (ofFinding document related)

end Diagnostic

end LanguageServer
