import LanguageServer.Json.Printer
import LanguageServer.Text.Quoted

/-!
# Decoding JSON

Readers of the shapes that messages are made of, and what they say about a value of another shape.
The values that they read are in normal form.

A structure is an object with known fields, and others do not count; it may also be an array of all
its fields in the order in which they are declared. Of an object with several faults the first one
in the order of names is reported, and a missing field only where nothing else is wrong.
-/

namespace LanguageServer.Json

inductive DecodeError where
  | kind (found : Json) (expected : String)
  /-- Of the right kind, but out of bounds. -/
  | bounds (found : Json) (expected : String)
  | length (found : Nat) (expected : String)
  | missing (field : String)
  | unknown (found : String) (known : List String)
  /-- None of the shapes that a type has. -/
  | noShape (type : String)
  /-- A text that does not mean what it should. -/
  | text (found reason : String)

def describe : Json → String
  | null => "null"
  | bool b => "boolean `" ++ toString b ++ "`"
  | int n => "integer `" ++ toString n ++ "`"
  | float x => "floating point `" ++ floatText x ++ "`"
  | string s => "string " ++ Text.quoted s
  | array _ => "sequence"
  | object _ => "map"

def choice (names : List String) : String :=
  let marked := names.map fun name => "`" ++ name ++ "`"
  match marked with
  | [a, b] => a ++ " or " ++ b
  | [a] => a
  | _ => "one of " ++ ", ".intercalate marked

def DecodeError.message : DecodeError → String
  | kind found expected => "invalid type: " ++ found.describe ++ ", expected " ++ expected
  | bounds found expected => "invalid value: " ++ found.describe ++ ", expected " ++ expected
  | length found expected => "invalid length " ++ toString found ++ ", expected " ++ expected
  | missing field => "missing field `" ++ field ++ "`"
  | unknown found known => "unknown variant `" ++ found ++ "`, expected " ++ choice known
  | noShape type => "data did not match any variant of untagged enum " ++ type
  | text found reason => reason ++ ": " ++ Text.quoted found

abbrev Decoder (α : Type) := Json → Except DecodeError α

namespace Decoder

variable {α β : Type}

def any : Decoder Json := .ok

def string : Decoder String
  | .string s => .ok s
  | value => .error (.kind value "a string")

def bool : Decoder Bool
  | .bool b => .ok b
  | value => .error (.kind value "a boolean")

def intBetween (type : String) (low high : Int) : Decoder Int
  | .int n => if low ≤ n ∧ n ≤ high then .ok n else .error (.bounds (.int n) type)
  | value => .error (.kind value type)

def int32 : Decoder Int := intBetween "i32" (-0x80000000) 0x7FFFFFFF

def int64 : Decoder Int := intBetween "i64" (-0x8000000000000000) 0x7FFFFFFFFFFFFFFF

def uint32 : Decoder UInt32 := fun value =>
  (intBetween "u32" 0 0xFFFFFFFF value).map fun n => .ofNat n.toNat

def number : Decoder Unit
  | .int _ | .float _ => .ok ()
  | value => .error (.kind value "f32")

def list (item : Decoder α) : Decoder (List α)
  | .array items => items.mapM item
  | value => .error (.kind value "a sequence")

def nullable (decoder : Decoder α) : Decoder (Option α)
  | .null => .ok none
  | value => (decoder value).map some

/-- The first of several shapes that fits. -/
def oneOf (type : String) (decoders : List (Decoder α)) : Decoder α := fun value =>
  match decoders.findSome? fun decoder => (decoder value).toOption with
  | some result => .ok result
  | none => .error (.noShape type)

/-- One of some names, also written as an object with a null under it. -/
def name (names : List String) : Decoder String := fun value =>
  let check (found : String) : Except DecodeError String :=
    if names.contains found then .ok found else .error (.unknown found names)
  match value with
  | .string found => check found
  | .object [(found, content)] => do
    let found ← check found
    match content with
    | .null => .ok found
    | content => .error (.kind content "unit")
  | .object _ => .error (.bounds value "map with a single key")
  | value => .error (.kind value "string or map")

def map (type : String) (key : String → Except DecodeError α) (item : Decoder β) :
    Decoder (List (α × β))
  | .object fields => fields.mapM fun (name, value) => do .ok (← key name, ← item value)
  | value => .error (.kind value type)

end Decoder

inductive FieldFault where
  | failed (field : String) (error : DecodeError)
  | missing (field : String)

namespace FieldFault

def error : FieldFault → DecodeError
  | failed _ error => error
  | missing field => .missing field

/-- The one of two faults that is reported; the first one is about a field declared earlier. -/
def prior : FieldFault → FieldFault → FieldFault
  | failed a error, failed b error' => if b < a then failed b error' else failed a error
  | missing _, failed b error' => failed b error'
  | fault, _ => fault

end FieldFault

/-- Reads fields of a structure, which are declared in some order. -/
structure Fields (α : Type) where
  count : Nat
  ofMembers : List (String × Json) → Except FieldFault α
  /-- Reads the first items of an array and gives back the others; nothing where there are too few.
  -/
  ofItems : List Json → Except (Option DecodeError) (α × List Json)

namespace Fields

variable {α β : Type}

def unit (value : α) : Fields α := ⟨0, fun _ => .ok value, fun items => .ok (value, items)⟩

def one (name : String) (decoder : Decoder α) (absent? : Option α) : Fields α where
  count := 1
  ofMembers members :=
    match members.lookup name with
    | some value => (decoder value).mapError (.failed name)
    | none => absent?.elim (.error (.missing name)) .ok
  ofItems
    | [] => .error none
    | item :: items => (decoder item).mapError some |>.map (·, items)

def required (name : String) (decoder : Decoder α) : Fields α := one name decoder none

/-- A field that may be missing or null. -/
def optional (name : String) (decoder : Decoder α) : Fields (Option α) :=
  one name (.nullable decoder) (some none)

/-- Fields and further ones declared behind them. -/
def both (first : Fields (α → β)) (second : Fields α) : Fields β where
  count := first.count + second.count
  ofMembers members :=
    match first.ofMembers members, second.ofMembers members with
    | .ok f, .ok a => .ok (f a)
    | .error fault, .ok _ => .error fault
    | .ok _, .error fault => .error fault
    | .error fault, .error fault' => .error (fault.prior fault')
  ofItems items := do
    let (f, items) ← first.ofItems items
    let (a, items) ← second.ofItems items
    .ok (f a, items)

instance : Applicative Fields where
  pure := unit
  seq first second := both first (second ())

def ignored (fields : Fields α) : Fields Unit := (fun _ => ()) <$> fields

def all (fields : List (Fields Unit)) : Fields Unit :=
  fields.foldr (fun first rest => (fun _ _ => ()) <$> first <*> rest) (pure ())

def unread (name : String) : Fields Unit := one name (fun _ => .ok ()) (some ())

end Fields

namespace Decoder

variable {α : Type}

def record (type : String) (fields : Fields α) : Decoder α
  | .object members => (fields.ofMembers members).mapError FieldFault.error
  | .array items =>
    match fields.ofItems items with
    | .ok (result, []) => .ok result
    | .ok _ => .error (.length items.length "fewer elements in array")
    | .error (some error) => .error error
    | .error none =>
      let elements := if fields.count = 1 then " element" else " elements"
      .error (.length items.length ("struct " ++ type ++ " with " ++ toString fields.count ++
        elements))
  | value => .error (.kind value ("struct " ++ type))

/-- A structure that takes in the fields of others. Its own fields come first, and it is written as
an object only. -/
def merged (type : String) (parts : List (Fields Unit)) : Decoder Unit
  | .object members => parts.forM fun part => (part.ofMembers members).mapError FieldFault.error
  | value => .error (.kind value ("struct " ++ type))

end Decoder

def ofFields (fields : List (String × Option Json)) : Json :=
  object (fields.filterMap fun (name, value?) => value?.map (name, ·))

end LanguageServer.Json
