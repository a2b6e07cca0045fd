import LanguageServer.Json.Reader
import LanguageServer.Rpc.Header
import LanguageServer.Rpc.Message

/-!
# Frames

On a byte stream each message stands behind headers that say how long it is.
-/

namespace LanguageServer.Rpc

inductive FrameError where
  | headers
  | encoding
  /-- The content is not JSON. -/
  | syntactic
  /-- The content is JSON but no message. -/
  | shape
deriving DecidableEq, Repr

def FrameError.response : FrameError → Error
  | shape => .invalidRequest
  | _ => .parse

inductive Received where
  /-- More bytes have to come. -/
  | incomplete
  /-- A message without content, and the bytes after it. They are not read before more come. -/
  | empty (rest : List UInt8)
  | message (message : Message) (rest : List UInt8)
  | broken (error : FrameError)

def ofContent (content : String) : Except FrameError Message :=
  match Json.readPart content.toList with
  | none => .error .syntactic
  | some (value, rest) =>
    match Message.ofJson? value with
    | none => .error .shape
    | some message => if rest.all Json.isBlank then .ok message else .error .syntactic

def receive (bytes : List UInt8) : Received :=
  match Header.readAll [] Header.countMax bytes with
  | .incomplete => .incomplete
  | .broken => .broken .headers
  | .read headers bytes =>
    match Header.contentLength? headers with
    | none => .broken .headers
    | some 0 => .empty bytes
    | some length =>
      if bytes.length < length then .incomplete
      else
        match Header.utf8? (bytes.take length) with
        | none => .broken .encoding
        | some content =>
          match ofContent content with
          | .ok message => .message message (bytes.drop length)
          | .error error => .broken error

/-- How many bytes have to come at least before a message can be read. -/
def missing (bytes : List UInt8) : Nat :=
  match Header.readAll [] Header.countMax bytes with
  | .read headers content => (Header.contentLength? headers).getD 0 - content.length
  | _ => 1

theorem length_receive_lt {bytes rest : List UInt8} {message : Message}
    (h : receive bytes = .message message rest) : rest.length < bytes.length := by
  unfold receive at h
  split at h
  · simp at h
  · simp at h
  · next headers =>
    have := Header.length_readAll_lt headers
    grind

def frame (message : Json) : String :=
  let content := message.compact
  "Content-Length: " ++ toString content.utf8ByteSize ++ "\r\n\r\n" ++ content

end LanguageServer.Rpc
