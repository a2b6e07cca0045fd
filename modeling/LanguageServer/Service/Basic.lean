import LanguageServer.Rpc.Message
import LanguageServer.Service.Method

/-!
# Service

The service stands between an editor and the session. It serves each method only in the state that
the protocol demands, turns what the session sends into notifications and numbered requests, and
hands the answers back to the session. Serving a message does not move the validations that are
under way; `Service.settle` does, until nothing more can happen without the editor.
-/

namespace LanguageServer

open Rpc

/-- The states of a service; they follow each other in this order. -/
inductive ServicePhase where
  | fresh
  | running
  | shutDown
  | exited
deriving DecidableEq, Repr

/-- A message of the server; one with an id waits for an answer. -/
structure Outgoing where
  message : ServerMessage
  id? : Option Nat
deriving DecidableEq, Repr

inductive Reply where
  | silence
  | result (id : RequestId) (value : Json)
  | refusal (id : RequestId) (error : Rpc.Error)
  | ended

structure Service where
  phase : ServicePhase
  session : Session
  awaiting : ArrivalMap Nat ServerMessage
  nextRequest : Nat

namespace Service

def new (rule : Rule) : Service := ⟨.fresh, .new rule, ∅, 0⟩

def expectsAnswer : ServerMessage → Bool
  | .registerForConfiguration | .pullSettings _ _ => true
  | .log _ | .publish _ _ _ => false

/-- Sends a message, with the next number if it has to be answered. -/
def post (service : Service) (message : ServerMessage) : Service × Outgoing :=
  if expectsAnswer message then
    ({ service with
        awaiting := service.awaiting.insert service.nextRequest message
        nextRequest := service.nextRequest + 1 },
      ⟨message, some service.nextRequest⟩)
  else (service, ⟨message, none⟩)

def postAll (service : Service) : List ServerMessage → Service × List Outgoing
  | [] => (service, [])
  | message :: messages =>
    let (service, outgoing) := service.post message
    let (service, later) := service.postAll messages
    (service, outgoing :: later)

def act (service : Service) (action : Session.Action) : Service × List Outgoing :=
  let (session, sent) := service.session.step action
  { service with session }.postAll sent

/-- Lets the session go on until it waits for the editor, and sends its messages. -/
def settle (service : Service) : Service × List Outgoing :=
  let (session, sent) := service.session.settle
  { service with session }.postAll sent

def helloResult (flags : ClientFlags) : Json :=
  .object [("capabilities", (ServerCapabilities.forClient flags).toJson),
    ("serverInfo", ServerInfo.own.toJson)]

def sessionResult (session : Session) : ClientMessage → Json
  | .hello _ => helloResult session.flags
  | .notice (.willSaveWaitUntil uri reason) =>
    .array ((session.documents.editsBeforeSave uri reason).edits.map TextEdit.toJson)
  | _ => .null

/-- Does what was asked for; a result matters only to a request. -/
def perform (service : Service) : Task → Except Rpc.Error Json × Service × List Outgoing
  | .session message =>
    let (service, sent) := service.act (.handle message)
    (.ok (sessionResult service.session message), service, sent)
  | .completion => (.ok (.array (CompletionItem.offered.map CompletionItem.toJson)), service, [])
  | .resolve item => (.ok item.resolve.toJson, service, [])
  | .nothing => (.ok .null, service, [])
  | .unsupported => (.error .methodNotFound, service, [])

/-- Refuses a request; there is nobody to tell about a notification. -/
def refuse (id? : Option RequestId) (error : Rpc.Error) : Reply :=
  match id? with
  | some id => .refusal id error
  | none => .silence

/-- Serves a method whose turn it is. A notification must not have an id, and a request without one
is dropped. -/
def serve (service : Service) (method : Method) (request : Request) :
    Reply × Service × List Outgoing :=
  match request.id?, method.isNotification with
  | some id, true => (.refusal id .invalidRequest, service, [])
  | none, false => (.silence, service, [])
  | _, _ =>
    match method.readTask request.params? with
    | .error error => (refuse request.id? (.invalidParams error.message), service, [])
    | .ok task =>
      let (outcome, service, sent) := service.perform task
      let reply := match request.id?, outcome with
        | some id, .ok value => .result id value
        | some id, .error error => .refusal id error
        | none, _ => .silence
      (reply, service, sent)

def phaseError : ServicePhase → Rpc.Error
  | .fresh => .notInitialized
  | _ => .invalidRequest

def unknownMethod (name : String) : Rpc.Error :=
  { Rpc.Error.methodNotFound with data? := some (.string name) }

/-- Only opening a session moves a fresh service on, and only if it succeeds. -/
def openSession (service : Service) (method : Method) (request : Request) :
    Reply × Service × List Outgoing :=
  let (reply, service, sent) := service.serve method request
  match reply with
  | .result _ _ => (reply, { service with phase := .running }, sent)
  | _ => (reply, service, sent)

def receive (service : Service) (request : Request) : Reply × Service × List Outgoing :=
  if service.phase = .exited then (.ended, service, [])
  else
    match Method.named? request.method with
    | none =>
      -- Nobody has to know the methods with such names, so they are not refused either.
      let hidden := request.method.startsWith "$/"
      (if hidden then .silence else refuse request.id? (unknownMethod request.method), service, [])
    | some method =>
      match method.stage, service.phase with
      | .ending, _ => (.silence, { service with phase := .exited, awaiting := ∅ }, [])
      | .always, _ | .working, .running => service.serve method request
      | .opening, .fresh => service.openSession method request
      | .opening, _ => (refuse request.id? .invalidRequest, service, [])
      | .closing, .running => { service with phase := .shutDown }.serve method request
      | .closing, phase | .working, phase => (refuse request.id? (phaseError phase), service, [])

def pullAnswer : Except Rpc.Error Json → PullAnswer
  | .ok (.array []) => .empty
  | .ok (.array (value :: _)) => .value value
  | .ok _ => .refused Rpc.Error.parse.code Rpc.Error.parse.message
  | .error error => .refused error.code error.message

/-- Handles an answer of the editor. After the service has ended nothing is awaited any more. -/
def answer (service : Service) (id : Nat) (outcome : Except Rpc.Error Json) :
    Service × List Outgoing :=
  match service.awaiting.get? id with
  | none => (service, [])
  | some message =>
    let service := { service with awaiting := service.awaiting.erase id }
    match message with
    | .pullSettings ticket _ => service.act (.answer ticket (pullAnswer outcome))
    | _ => (service, [])

end Service

end LanguageServer
