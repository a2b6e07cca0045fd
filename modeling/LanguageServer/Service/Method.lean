import LanguageServer.Protocol.Initialization
import LanguageServer.Service.Unsupported
import LanguageServer.Session.Basic

/-!
# Methods

What the messages of an editor ask for, by method name, and how their parameters are read.
-/

namespace LanguageServer.Service

open Json

inductive Task where
  /-- Changes the session; edits before saving are answered with a list. -/
  | session (message : ClientMessage)
  | completion
  | resolve (item : CompletionItem)
  | nothing
  | unsupported

inductive ParamsError where
  | missing
  | unexpected (params : Json)
  | unreadable (error : DecodeError)

def ParamsError.message : ParamsError → String
  | missing => "Missing params field"
  | unexpected params => "Unexpected params: " ++ params.compact
  | unreadable error => error.message

inductive Stage where
  | opening
  /-- Served while the session is open. -/
  | working
  | closing
  /-- Ends the service, whatever its state. -/
  | ending
  /-- Served in every state. -/
  | always
deriving DecidableEq, Repr

structure Method where
  stage : Stage
  isNotification : Bool
  readTask : Option Json → Except ParamsError Task

namespace Method

def withParams (decoder : Decoder Task) : Option Json → Except ParamsError Task
  | none => .error .missing
  | some params => (decoder params).mapError .unreadable

def request (decoder : Decoder Task) : Method := ⟨.working, false, withParams decoder⟩

def notification (decoder : Decoder Task) : Method := ⟨.working, true, withParams decoder⟩

def notice (isNotification : Bool) (decoder : Decoder Notice) : Method :=
  ⟨.working, isNotification, withParams fun params =>
    (fun notice => .session (.notice notice)) <$> decoder params⟩

def hello : Method :=
  ⟨.opening, false, withParams fun params =>
    (fun flags => .session (.hello flags)) <$> helloParams params⟩

/-- Closes the session; it takes no parameters. -/
def shutdown : Method :=
  ⟨.closing, false, fun params? =>
    match params? with
    | none => .ok (.session .shutdown)
    | some params => .error (.unexpected params)⟩

def named? : String → Option Method
  | "initialize" => some hello
  | "initialized" => some (notification fun params =>
      (fun _ => .session .ready) <$> readyParams params)
  | "shutdown" => some shutdown
  | "exit" => some ⟨.ending, true, fun _ => .ok .nothing⟩
  | "$/cancelRequest" => some ⟨.always, true, fun _ => .ok .nothing⟩
  | "textDocument/didOpen" => some (notice true Notice.openParams)
  | "textDocument/didChange" => some (notice true Notice.changeParams)
  | "textDocument/willSave" => some (notice true (Notice.savingParams .willSave))
  | "textDocument/willSaveWaitUntil" =>
    some (notice false (Notice.savingParams .willSaveWaitUntil))
  | "textDocument/didSave" => some (notice true Notice.saveParams)
  | "textDocument/didClose" => some (notice true Notice.closeParams)
  | "workspace/didChangeConfiguration" => some (notification fun params =>
      (fun payload => .session (.configurationChanged payload)) <$> configurationParams params)
  | "workspace/didChangeWorkspaceFolders" => some (notification fun params =>
      (fun _ => .nothing) <$> folderParams params)
  | "textDocument/completion" => some (request fun params =>
      (fun _ => .completion) <$> completionParams params)
  | "completionItem/resolve" => some (request fun params =>
      .resolve <$> CompletionItem.decode params)
  | name =>
    if ignoredNotifications.contains name then some (notification fun _ => .ok .nothing)
    else (unsupportedRequests.lookup name).map fun shape =>
      request fun params => (fun _ => .unsupported) <$> shape params

end Method

end LanguageServer.Service
