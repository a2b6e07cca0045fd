import LanguageServer.Json.Basic

/-!
# Settings

The server has one setting, the number of problems that it reports for a document. It is read from
the value of its section; whatever does not have the right shape stands for the default.
-/

namespace LanguageServer

structure Settings where
  maxNumberOfProblems : Nat
deriving DecidableEq, Repr

namespace Settings

def sectionName : String := "languageServerExample"

def defaultMax : Nat := 1000

def default : Settings := ⟨defaultMax⟩

instance : Inhabited Settings := ⟨default⟩

/-- A count is an integer of at most sixty-four bits without sign. -/
def ofCount? : Json → Option Settings
  | .int n => if 0 ≤ n ∧ n ≤ Json.integerMax then some ⟨n.toNat⟩ else none
  | _ => none

/-- The section is an object with the count as a field, or an array of the count alone. -/
def ofSection? : Json → Option Settings
  | .object fields => (fields.lookup "maxNumberOfProblems").bind ofCount?
  | .array [count] => ofCount? count
  | _ => none

def ofSection (value : Json) : Settings := (ofSection? value).getD default

/-- Settings from a whole configuration, of which nothing but the section is read. -/
def ofPayload (payload : Json) : Settings :=
  ((payload.field? sectionName).map ofSection).getD default

end Settings

end LanguageServer
