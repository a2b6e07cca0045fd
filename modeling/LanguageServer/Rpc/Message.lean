import LanguageServer.Json.Decode

/-!
# Messages

Requests, notifications and responses as JSON. A request without id is a notification. Responses
and errors follow JSON-RPC 2.0.
-/

namespace LanguageServer.Rpc

open Json

inductive RequestId where
  | number (value : Int)
  | text (value : String)
  | null
deriving DecidableEq, Repr

namespace RequestId

def ofJson? : Json → Option RequestId
  | .string s => some (.text s)
  | .null => some null
  | value => (Decoder.int64 value).toOption.map .number

def toJson : RequestId → Json
  | number n => .int n
  | text s => .string s
  | null => .null

end RequestId

structure Request where
  method : String
  id? : Option RequestId
  /-- Parameters that are written as null are there. -/
  params? : Option Json
deriving Repr

structure Error where
  code : Int
  message : String
  data? : Option Json := none
deriving Repr

namespace Error

def parse : Error := { code := -32700, message := "Parse error" }

def invalidRequest : Error := { code := -32600, message := "Invalid request" }

def methodNotFound : Error := { code := -32601, message := "Method not found" }

def invalidParams (message : String) : Error := { code := -32602, message }

def notInitialized : Error := { code := -32002, message := "Server not initialized" }

def toJson (error : Error) : Json :=
  ofFields [("code", some (.int error.code)), ("message", some (.string error.message)),
    ("data", error.data?)]

end Error

structure Response where
  id : RequestId
  outcome : Except Error Json

inductive Message where
  | request (request : Request)
  | response (response : Response)

/-- The value of a field that may be missing but not repeated. -/
def once? (fields : List (String × Json)) (name : String) : Option (Option Json) :=
  match fields.filter (·.1 = name) with
  | [] => some none
  | [(_, value)] => some (some value)
  | _ => none

def single? (fields : List (String × Json)) (name : String) : Option Json :=
  (once? fields name).bind id

def isVersion : Json → Bool
  | .string version => version == "2.0"
  | _ => false

namespace Request

/-- A request from its parts. Without a name it asks for the method with the empty name. -/
def ofParts? (version? method? params? id? : Option Json) : Option Request := do
  let method ← match method? with
    | none => some ""
    | some (.string name) => some name
    | some _ => none
  let id? ← match id? with
    | none => some none
    | some id => (RequestId.ofJson? id).map some
  if version?.any isVersion then some { method, id?, params? := params?.map normalize } else none

/-- Reads a request; it may be an array of its parts, of which the last ones may be missing. -/
def ofJson? : Json → Option Request
  | .object fields => do
    ofParts? (← once? fields "jsonrpc") (← once? fields "method") (← once? fields "params")
      (← once? fields "id")
  | .array items =>
    if items.length ≤ 4 then ofParts? items[0]? items[1]? items[2]? items[3]? else none
  | _ => none

end Request

namespace Error

def ofParts? (code message data : Json) : Option Error := do
  let data? := match data with
    | .null => none
    | data => some data
  some {
    code := ← (Decoder.int64 code).toOption
    message := ← (Decoder.string message).toOption
    data? }

def ofJson? : Json → Option Error
  | .object fields => do
    if fields.all fun field => ["code", "message", "data"].contains field.1 then
      ofParts? (← single? fields "code") (← single? fields "message")
        ((← once? fields "data").getD .null)
    else none
  | .array [code, message, data] => ofParts? code message data
  | _ => none

end Error

namespace Response

def outcome? (fields : List (String × Json)) : Option (Except Error Json) :=
  match single? fields "result" with
  | some result => some (.ok (normalize result))
  | none => ((single? fields "error").bind Error.ofJson?).map .error

def ofJson? : Json → Option Response
  | .object fields => do
    if isVersion (← single? fields "jsonrpc") then
      some ⟨← (single? fields "id").bind RequestId.ofJson?, ← outcome? fields⟩
    else none
  | _ => none

end Response

/-- Reads a message. What is not a response is a request, whatever else it holds. -/
def Message.ofJson? (value : Json) : Option Message :=
  match Response.ofJson? value with
  | some answer => some (.response answer)
  | none => (Request.ofJson? value).map .request

def envelope (fields : List (String × Option Json)) : Json :=
  ofFields (("jsonrpc", some (.string "2.0")) :: fields)

def Response.toJson (response : Response) : Json :=
  match response.outcome with
  | .ok result => envelope [("result", some result), ("id", some response.id.toJson)]
  | .error error => envelope [("error", some error.toJson), ("id", some response.id.toJson)]

/-- The response to something that cannot be told to be a request. -/
def Error.toAnonymousResponse (error : Error) : Json := Response.toJson ⟨.null, .error error⟩

end LanguageServer.Rpc
