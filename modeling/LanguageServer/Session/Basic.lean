import LanguageServer.Capabilities
import LanguageServer.Diagnostics.Basic
import LanguageServer.Document.Store
import LanguageServer.Settings.Cache

/-!
# Sessions

A session is the state of the server for one editor: the open documents, the settings and the
validations that are under way. Each accepted content of a document is validated on its own: the
validation takes a lookup of the settings, waits for it and publishes. Nothing waits for a
validation, so a session moves by actions of three kinds that may come in any order: a message is
handled, a validation goes one step further, the editor answers a request.

This module says what each action does. It does NOT choose an order; `Session.settle` is one that
leaves no validation able to move.
-/

namespace LanguageServer

inductive SessionPhase where
  | uninitialized
  | initializing
  | initialized
deriving DecidableEq, Repr

inductive Reaction where
  | validate
  | forgetSettings
deriving DecidableEq, Repr

structure Validation where
  /-- The content that is validated, whatever becomes of the open document. -/
  document : TextDocument
  /-- The settings lookup that is waited for, once taken. -/
  ticket? : Option Nat
deriving DecidableEq, Repr

inductive ClientMessage where
  | hello (flags : ClientFlags)
  | ready
  | shutdown
  | notice (notice : Notice)
  | configurationChanged (payload : Json)
deriving Repr

inductive ServerMessage where
  | log (text : String)
  | registerForConfiguration
  /-- Asks for the settings of a document on behalf of a lookup. -/
  | pullSettings (ticket : Nat) (uri : Uri)
  | publish (uri : Uri) (diagnostics : List Diagnostic) (version : Int)
deriving DecidableEq, Repr

structure Session where
  rule : Rule
  phase : SessionPhase
  /-- Recorded once; a later opening of the session does not change them. -/
  recordedFlags? : Option ClientFlags
  documents : DocumentStore Reaction
  settings : SettingsCache
  /-- Validations under way, each under the number it was started with. -/
  validations : ArrivalMap Nat Validation
  started : Nat

namespace Session

/-- Changed contents are validated, and settings of closed documents are forgotten. -/
def new (rule : Rule) : Session where
  rule := rule
  phase := .uninitialized
  recordedFlags? := none
  documents :=
    { DocumentStore.empty with
      listeners := [(.changed, .validate), (.closed, .forgetSettings)] }
  settings := .empty
  validations := ∅
  started := 0

def flags (session : Session) : ClientFlags := session.recordedFlags?.getD .default

def validate (session : Session) (document : TextDocument) : Session :=
  { session with
    validations := session.validations.insert session.started ⟨document, none⟩
    started := session.started + 1 }

def react (session : Session) (delivery : Delivery Reaction) : Session :=
  match delivery.listener with
  | .validate => session.validate delivery.event.document
  | .forgetSettings =>
    { session with settings := session.settings.remove delivery.event.document.uri }

/-- The first flags are kept, and they decide whether settings are pulled. -/
def hello (session : Session) (flags : ClientFlags) : Session :=
  let session := { session with
    phase := .initializing
    recordedFlags? := some (session.recordedFlags?.getD flags) }
  -- Not `flags`: a second opening must not change the mode.
  { session with settings := session.settings.setPullEnabled session.flags.configuration }

def notice (session : Session) (notice : Notice) : Session :=
  let outcome := session.documents.handle notice
  outcome.deliveries.foldl react { session with documents := outcome.store }

/-- Settings that are pulled are pulled again; otherwise the payload becomes the global value. Every
open document is validated. -/
def configurationChanged (session : Session) (payload : Json) : Session :=
  let settings :=
    if session.flags.configuration then session.settings.invalidateAll
    else session.settings.setGlobal (.ofPayload payload)
  session.documents.all.foldl validate { session with settings }

def handle (session : Session) : ClientMessage → Session × List ServerMessage
  | .hello flags => (session.hello flags, [])
  | .ready =>
    ({ session with phase := .initialized },
      .log "LSP server initialized" ::
        if session.flags.configuration then [.registerForConfiguration] else [])
  | .shutdown => (session, [.log "LSP server shutting down"])
  | .notice notice => (session.notice notice, [])
  | .configurationChanged payload => (session.configurationChanged payload, [])

def takeLookup (session : Session) (id : Nat) (validation : Validation) : Session :=
  let (ticket, settings) := session.settings.get validation.document.uri
  { session with
    settings
    validations := session.validations.insert id { validation with ticket? := some ticket } }

/-- Polls a lookup; its first poll may send a request. -/
def pollLookup (session : Session) (ticket : Nat) : Session × List ServerMessage :=
  let (settings, asked?) := session.settings.poll ticket
  ({ session with settings }, asked?.toList.map (.pullSettings ticket))

/-- Ends a validation: with settings it publishes, without it publishes nothing and drops the
failed entry. -/
def finish (session : Session) (id : Nat) (document : TextDocument) (outcome : PullOutcome) :
    Session × List ServerMessage :=
  let session := { session with validations := session.validations.erase id }
  match outcome with
  | .ok settings =>
    let diagnostics :=
      Diagnostic.compute session.rule document settings session.flags.relatedInformation
    (session, [.publish document.uri diagnostics document.version])
  | .error _ => ({ session with settings := session.settings.evictFailed document.uri }, [])

/-- One step of a validation: it takes its lookup, polls it while it is not settled, then ends. -/
def advance (session : Session) (id : Nat) : Session × List ServerMessage :=
  match session.validations.get? id with
  | none => (session, [])
  | some validation =>
    match validation.ticket? with
    | none => (session.takeLookup id validation, [])
    | some ticket =>
      match session.settings.peek ticket with
      | none => session.pollLookup ticket
      | some outcome => session.finish id validation.document outcome

def receive (session : Session) (ticket : Nat) (answer : PullAnswer) : Session :=
  { session with settings := session.settings.receive ticket answer }

inductive Action where
  | handle (message : ClientMessage)
  | advance (id : Nat)
  | answer (ticket : Nat) (answer : PullAnswer)

def step (session : Session) : Action → Session × List ServerMessage
  | .handle message => session.handle message
  | .advance id => session.advance id
  | .answer ticket answer => (session.receive ticket answer, [])

def run (session : Session) : List Action → Session × List ServerMessage
  | [] => (session, [])
  | action :: actions =>
    let (session, sent) := session.step action
    let (session, later) := session.run actions
    (session, sent ++ later)

/-- The actions that move every validation as far as it can go: it takes its lookup, polls it and
ends. -/
def settleActions (session : Session) : List Action :=
  session.validations.keys.flatMap fun id => List.replicate 3 (.advance id)

/-- Moves every validation until it has ended or waits for the editor. -/
def settle (session : Session) : Session × List ServerMessage := session.run session.settleActions

end Session

end LanguageServer
