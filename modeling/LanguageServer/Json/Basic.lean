/-!
# JSON values

Integers and floating-point numbers are different values: a number is an integer only when it is
written without fraction and exponent and lies in `Json.integerMin … Json.integerMax`. An object
keeps its fields as they were written. In a value in normal form the fields of every object are in
the order of their names, and no name occurs twice.
-/

namespace LanguageServer

inductive Json where
  | null
  | bool (value : Bool)
  | int (value : Int)
  | float (value : Float)
  | string (value : String)
  | array (items : List Json)
  | object (fields : List (String × Json))
deriving Repr, Inhabited

namespace Json

def integerMin : Int := -0x8000000000000000

def integerMax : Int := 0xFFFFFFFFFFFFFFFF

def field? (name : String) : Json → Option Json
  | object fields => fields.lookup name
  | _ => none

/-- Puts a field in front of fields in normal form; a name that is there already keeps its value. -/
def addField (name : String) (value : Json) : List (String × Json) → List (String × Json)
  | [] => [(name, value)]
  | (other, old) :: fields =>
    if name < other then (name, value) :: (other, old) :: fields
    else if name = other then (other, old) :: fields
    else (other, old) :: addField name value fields

mutual

/-- The normal form of a value. Of fields with one name the last one counts. -/
def normalize : Json → Json
  | array items => array (normalizeItems items)
  | object fields => object (normalizeFields fields)
  | value => value

def normalizeItems : List Json → List Json
  | [] => []
  | item :: items => normalize item :: normalizeItems items

def normalizeFields : List (String × Json) → List (String × Json)
  | [] => []
  | (name, value) :: fields => addField name (normalize value) (normalizeFields fields)

end

end Json

end LanguageServer
