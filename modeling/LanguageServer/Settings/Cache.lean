import LanguageServer.ArrivalMap
import LanguageServer.Settings.Basic
import LanguageServer.Uri

/-!
# Settings cache

Where the editor answers configuration requests, the settings of a document are pulled once and
everybody who asks for them shares one lookup until the entry of the document is dropped. Where it
does not, one global value serves all documents.

A lookup outlives its entry, so the cache keeps every lookup it ever handed out, under a ticket,
and the entries only say which ticket is handed out next. A lookup does nothing until it is polled
for the first time: then a global one settles and a pull asks the editor. An answer settles a pull
when it is polled again, and a settled lookup never changes.
-/

namespace LanguageServer

inductive PullError where
  | refused (code : Int) (message : String)
  | emptyAnswer (uri : Uri)
deriving DecidableEq, Repr

def errorDescription (code : Int) : String :=
  if code = -32700 then "Parse error"
  else if code = -32600 then "Invalid request"
  else if code = -32601 then "Method not found"
  else if code = -32602 then "Invalid params"
  else if code = -32603 then "Internal error"
  else if code = -32800 then "Canceled"
  else if code = -32801 then "Content modified"
  else "Server error"

def PullError.message : PullError → String
  | refused code message =>
    "Configuration request failed: " ++ errorDescription code ++ ": " ++ message
  | emptyAnswer uri => "Configuration response for " ++ uri.text ++ " was empty"

abbrev PullOutcome := Except PullError Settings

inductive PullAnswer where
  | value (value : Json)
  | refused (code : Int) (message : String)
  | empty

def PullAnswer.outcome (uri : Uri) : PullAnswer → PullOutcome
  | value v => .ok (Settings.ofSection v)
  | refused code message => .error (.refused code message)
  | empty => .error (.emptyAnswer uri)

inductive LookupOrigin where
  /-- The value that was global when the lookup was handed out. -/
  | global (settings : Settings)
  | pull (uri : Uri)
deriving DecidableEq, Repr

inductive LookupStage where
  | idle
  | asked
  | answered (answer : PullAnswer)
  | settled (outcome : PullOutcome)

structure SettingsLookup where
  origin : LookupOrigin
  stage : LookupStage

namespace SettingsLookup

def outcome? (lookup : SettingsLookup) : Option PullOutcome :=
  match lookup.stage with
  | .settled outcome => some outcome
  | _ => none

/-- A lookup after it was polled, and the document it asks for if this is its first poll. -/
def poll (lookup : SettingsLookup) : SettingsLookup × Option Uri :=
  match lookup.origin, lookup.stage with
  | .global settings, .idle => ({ lookup with stage := .settled (.ok settings) }, none)
  | .pull uri, .idle => ({ lookup with stage := .asked }, some uri)
  | .pull uri, .answered answer => ({ lookup with stage := .settled (answer.outcome uri) }, none)
  | _, _ => (lookup, none)

/-- An answer counts only where one is awaited. -/
def receive (lookup : SettingsLookup) (answer : PullAnswer) : SettingsLookup :=
  match lookup.stage with
  | .asked => { lookup with stage := .answered answer }
  | _ => lookup

end SettingsLookup

structure SettingsCache where
  pullEnabled : Bool
  global : Settings
  /-- The ticket that the next request for a document gets. -/
  entries : ArrivalMap Uri Nat
  /-- Every lookup handed out so far; its place is its ticket. -/
  lookups : List SettingsLookup

namespace SettingsCache

/-- Pulling starts disabled and the global value is the default. -/
def empty : SettingsCache := ⟨false, .default, ∅, []⟩

instance : Inhabited SettingsCache := ⟨empty⟩

def size (cache : SettingsCache) : Nat := cache.entries.size

def isEmpty (cache : SettingsCache) : Bool := cache.entries.isEmpty

/-- Switching drops every entry. -/
def setPullEnabled (cache : SettingsCache) (enabled : Bool) : SettingsCache :=
  { cache with pullEnabled := enabled, entries := ∅ }

def setGlobal (cache : SettingsCache) (settings : Settings) : SettingsCache :=
  { cache with global := settings }

def handOut (cache : SettingsCache) (origin : LookupOrigin) : Nat × SettingsCache :=
  (cache.lookups.length, { cache with lookups := cache.lookups ++ [⟨origin, .idle⟩] })

/-- The ticket of a lookup for the settings of a document, shared while its entry stays. -/
def get (cache : SettingsCache) (uri : Uri) : Nat × SettingsCache :=
  if cache.pullEnabled then
    match cache.entries.get? uri with
    | some ticket => (ticket, cache)
    | none =>
      let (ticket, cache) := cache.handOut (.pull uri)
      (ticket, { cache with entries := cache.entries.insert uri ticket })
  else cache.handOut (.global cache.global)

/-- Drops every entry; lookups already handed out go on. -/
def invalidateAll (cache : SettingsCache) : SettingsCache := { cache with entries := ∅ }

def remove (cache : SettingsCache) (uri : Uri) : SettingsCache :=
  { cache with entries := cache.entries.erase uri }

/-- The outcome of a lookup, once known; looking does not poll. -/
def peek (cache : SettingsCache) (ticket : Nat) : Option PullOutcome :=
  (cache.lookups[ticket]?).bind SettingsLookup.outcome?

/-- Polls a lookup and tells which document the editor has to be asked about, if any. -/
def poll (cache : SettingsCache) (ticket : Nat) : SettingsCache × Option Uri :=
  match cache.lookups[ticket]? with
  | none => (cache, none)
  | some lookup =>
    let (lookup, asked?) := lookup.poll
    ({ cache with lookups := cache.lookups.set ticket lookup }, asked?)

def receive (cache : SettingsCache) (ticket : Nat) (answer : PullAnswer) : SettingsCache :=
  { cache with lookups := cache.lookups.modify ticket (·.receive answer) }

/-- Drops the entry of a document if its lookup ended with an error, so that the next request pulls
again. -/
def evictFailed (cache : SettingsCache) (uri : Uri) : SettingsCache :=
  -- The entry may have a later lookup than the one that failed, and keeps it.
  match (cache.entries.get? uri).bind cache.peek with
  | some (.error _) => cache.remove uri
  | _ => cache

end SettingsCache

end LanguageServer
