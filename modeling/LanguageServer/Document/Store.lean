import LanguageServer.ArrivalMap
import LanguageServer.Document.Basic

/-!
# Open documents

The store holds the open documents in the order in which they were opened and tells its listeners
what happens to them. A notice about a document that is not open does nothing, a change with a
version below the stored one neither: an editor may close a document while notices are on their
way.

Listeners are names of a type `ι`. An operation answers with the deliveries that it causes, one
for each listener of an event in the order of registration; what a listener does with them is not
part of the store.
-/

namespace LanguageServer

universe u

inductive EventKind where
  | opened
  | changed
  | willSave
  | saved
  | closed
deriving DecidableEq, Repr

/-- What happened, with the document as it was at that moment. -/
inductive Event where
  | opened (document : TextDocument)
  | changed (document : TextDocument)
  | willSave (document : TextDocument) (reason : Int)
  | willSaveWaitUntil (document : TextDocument) (reason : Int)
  | saved (document : TextDocument)
  | closed (document : TextDocument)
deriving DecidableEq, Repr

namespace Event

def document : Event → TextDocument
  | opened document | changed document | willSave document _ | willSaveWaitUntil document _
  | saved document | closed document => document

/-- The kind of listeners that an event goes to; edits before saving come from a handler. -/
def kind? : Event → Option EventKind
  | opened _ => some .opened
  | changed _ => some .changed
  | willSave _ _ => some .willSave
  | willSaveWaitUntil _ _ => none
  | saved _ => some .saved
  | closed _ => some .closed

end Event

/-- One entry of a change; its text is the whole new content whatever its range. -/
structure ContentChange where
  text : String
  range? : Option Range := none
  rangeLength? : Option Nat := none
deriving DecidableEq, Repr

inductive Notice where
  | didOpen (item : DocumentItem)
  | didChange (uri : Uri) (version : Int) (changes : List ContentChange)
  | willSave (uri : Uri) (reason : Int)
  | willSaveWaitUntil (uri : Uri) (reason : Int)
  | didSave (uri : Uri)
  | didClose (uri : Uri)
deriving DecidableEq, Repr

def Notice.uri : Notice → Uri
  | didOpen item => item.uri
  | didChange uri _ _ | willSave uri _ | willSaveWaitUntil uri _ | didSave uri | didClose uri => uri

structure SaveHandler (ι : Type u) where
  listener : ι
  edits : TextDocument → Int → List TextEdit

structure DocumentStore (ι : Type u) where
  documents : ArrivalMap Uri TextDocument
  /-- In order of registration. -/
  listeners : List (EventKind × ι)
  saveHandler? : Option (SaveHandler ι)

structure Delivery (ι : Type u) where
  listener : ι
  event : Event
deriving DecidableEq, Repr

structure Outcome (ι : Type u) where
  store : DocumentStore ι
  deliveries : List (Delivery ι) := []
  edits : List TextEdit := []

inductive StoreOperation (ι : Type u) where
  | listen (kind : EventKind) (listener : ι)
  /-- A later handler replaces the earlier one. -/
  | handleSave (handler : SaveHandler ι)
  | notice (notice : Notice)

namespace DocumentStore

variable {ι : Type u}

def empty : DocumentStore ι := ⟨∅, [], none⟩

instance : Inhabited (DocumentStore ι) := ⟨empty⟩

def get? (store : DocumentStore ι) (uri : Uri) : Option TextDocument := store.documents.get? uri

def keys (store : DocumentStore ι) : List Uri := store.documents.keys

def all (store : DocumentStore ι) : List TextDocument := store.documents.values

def size (store : DocumentStore ι) : Nat := store.documents.size

def isEmpty (store : DocumentStore ι) : Bool := store.documents.isEmpty

/-- One delivery for each listener of the event, in order of registration. -/
def deliver (store : DocumentStore ι) (event : Event) : List (Delivery ι) :=
  (store.listeners.filter fun l => some l.1 = event.kind?).map fun l => ⟨l.2, event⟩

/-- A document that is opened again is replaced in its place. -/
def openDocument (store : DocumentStore ι) (item : DocumentItem) : Outcome ι :=
  let document := TextDocument.ofItem item
  { store := { store with documents := store.documents.insert item.uri document }
    deliveries := store.deliver (.opened document) ++ store.deliver (.changed document) }

/-- Only the last entry of a change counts. -/
def changeDocument (store : DocumentStore ι) (uri : Uri) (version : Int)
    (changes : List ContentChange) : Outcome ι :=
  match changes.getLast?, store.get? uri with
  | some last, some document =>
    -- A version that comes again is not stale.
    if version < document.version then { store }
    else
      let document := document.update last.text version
      { store := { store with documents := store.documents.insert uri document }
        deliveries := store.deliver (.changed document) }
  | _, _ => { store }

/-- The other documents keep their order. -/
def closeDocument (store : DocumentStore ι) (uri : Uri) : Outcome ι :=
  match store.get? uri with
  | some document =>
    { store := { store with documents := store.documents.erase uri }
      deliveries := store.deliver (.closed document) }
  | none => { store }

/-- Deliveries about a document that stays as it is, if it is open. -/
def announce (store : DocumentStore ι) (uri : Uri) (event : TextDocument → Event) : Outcome ι :=
  match store.get? uri with
  | some document => { store, deliveries := store.deliver (event document) }
  | none => { store }

/-- No handler and no open document mean no edits. -/
def editsBeforeSave (store : DocumentStore ι) (uri : Uri) (reason : Int) : Outcome ι :=
  match store.saveHandler?, store.get? uri with
  | some handler, some document =>
    { store
      deliveries := [⟨handler.listener, .willSaveWaitUntil document reason⟩]
      edits := handler.edits document reason }
  | _, _ => { store }

def handle (store : DocumentStore ι) : Notice → Outcome ι
  | .didOpen item => store.openDocument item
  | .didChange uri version changes => store.changeDocument uri version changes
  | .willSave uri reason => store.announce uri (.willSave · reason)
  | .willSaveWaitUntil uri reason => store.editsBeforeSave uri reason
  | .didSave uri => store.announce uri .saved
  | .didClose uri => store.closeDocument uri

def apply (store : DocumentStore ι) : StoreOperation ι → Outcome ι
  | .listen kind listener =>
    { store := { store with listeners := store.listeners ++ [(kind, listener)] } }
  | .handleSave handler => { store := { store with saveHandler? := some handler } }
  | .notice notice => store.handle notice

def run (store : DocumentStore ι) : List (StoreOperation ι) → DocumentStore ι × List (Delivery ι)
  | [] => (store, [])
  | operation :: operations =>
    let outcome := store.apply operation
    let (last, deliveries) := outcome.store.run operations
    (last, outcome.deliveries ++ deliveries)

/-- Asks an open document; the stored document remembers the line index that the answer used. -/
def query (store : DocumentStore ι) (uri : Uri) (query : TextDocument.Query) :
    Option TextDocument.Answer × DocumentStore ι :=
  match store.get? uri with
  | some document =>
    (some (document.answer query),
      { store with documents := store.documents.insert uri (document.afterQuery query) })
  | none => (none, store)

end DocumentStore

end LanguageServer
