import LanguageServer.Main
import LanguageServer.Settings.Supply
import LanguageServer.Proofs.Text.Boundary
import LanguageServer.Proofs.Text.LineBreak
import LanguageServer.Proofs.Text.LineTable
import LanguageServer.Proofs.Text.Bytes
import LanguageServer.Proofs.Text.Cut
import LanguageServer.Proofs.Text.PositionAt
import LanguageServer.Proofs.Text.Line
import LanguageServer.Proofs.Text.OffsetAt
import LanguageServer.Proofs.Text.RoundTrip
import LanguageServer.Proofs.Text.CanonicalPosition
import LanguageServer.Proofs.Text.PositionOrder
import LanguageServer.Proofs.Text.Checked
import LanguageServer.Proofs.Document.Revision
import LanguageServer.Proofs.Document.Replay
import LanguageServer.Proofs.ArrivalMap
import LanguageServer.Proofs.Document.Restriction
import LanguageServer.Proofs.Document.Course
import LanguageServer.Proofs.Document.Lifecycle
import LanguageServer.Proofs.Document.Arrangement
import LanguageServer.Proofs.Document.Contents
import LanguageServer.Proofs.Document.Sharing
import LanguageServer.Proofs.Document.Excerpt
import LanguageServer.Proofs.Document.Checked
import LanguageServer.Proofs.Diagnostics.Word
import LanguageServer.Proofs.Diagnostics.Uppercase
import LanguageServer.Proofs.Diagnostics.Finding
import LanguageServer.Proofs.Diagnostics.Placement
import LanguageServer.Proofs.Settings.Section
import LanguageServer.Proofs.Settings.Lookup
import LanguageServer.Proofs.Settings.Supply
import LanguageServer.Proofs.Settings.Sharing
import LanguageServer.Proofs.Settings.Outcome
import LanguageServer.Proofs.Document.Acceptance
import LanguageServer.Proofs.Session.Step
import LanguageServer.Proofs.Session.Run
import LanguageServer.Proofs.Session.Cause
import LanguageServer.Proofs.Session.Provenance
import LanguageServer.Proofs.Session.Progress
import LanguageServer.Proofs.Session.Accounting
import LanguageServer.Proofs.Session.Freshness
import LanguageServer.Proofs.Session.Settlement
import LanguageServer.Proofs.Session.Mode
import LanguageServer.Proofs.Session.Eviction
import LanguageServer.Proofs.Session.Retention
