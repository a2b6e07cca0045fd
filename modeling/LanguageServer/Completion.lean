import LanguageServer.Json.Basic
import LanguageServer.Text.Position

/-!
# Completion

A fixed catalog of items is offered at every position. An item carries the id of its catalog entry
as data, and resolving it fills in what the id stands for.
-/

namespace LanguageServer

inductive Documentation where
  | text (text : String)
  | markup (kind value : String)
deriving DecidableEq, Repr

structure LabelDetails where
  detail? : Option String
  description? : Option String
deriving DecidableEq, Repr

inductive CompletionEdit where
  | edit (edit : TextEdit)
  /-- The editor chooses between inserting and replacing. -/
  | choice (newText : String) (insert replace : Range)
deriving DecidableEq, Repr

structure Command where
  title : String
  name : String
  arguments? : Option (List Json)
deriving Repr

structure CompletionItem where
  label : String
  labelDetails? : Option LabelDetails := none
  kind? : Option Int := none
  detail? : Option String := none
  documentation? : Option Documentation := none
  deprecated? : Option Bool := none
  preselect? : Option Bool := none
  sortText? : Option String := none
  filterText? : Option String := none
  insertText? : Option String := none
  insertTextFormat? : Option Int := none
  insertTextMode? : Option Int := none
  textEdit? : Option CompletionEdit := none
  additionalTextEdits? : Option (List TextEdit) := none
  command? : Option Command := none
  commitCharacters? : Option (List String) := none
  data? : Option Json := none
  tags? : Option (List Int) := none
deriving Repr, Inhabited

namespace CompletionItem

def catalog : List (Int × String) := [(1, "TypeScript"), (2, "JavaScript")]

def textKind : Int := 1

def offered : List CompletionItem :=
  catalog.map fun (id, label) => { label, kind? := some textKind, data? := some (.int id) }

/-- The catalog label that an item's data refers to. -/
def catalogLabel? (item : CompletionItem) : Option String :=
  match item.data? with
  | some (.int id) => catalog.lookup id
  | _ => none

/-- Fills in detail and documentation of a catalog item; any other item stays as it is. -/
def resolve (item : CompletionItem) : CompletionItem :=
  match item.catalogLabel? with
  | some label =>
    { item with
      detail? := some (label ++ " details")
      documentation? := some (.text (label ++ " documentation")) }
  | none => item

end CompletionItem

end LanguageServer
