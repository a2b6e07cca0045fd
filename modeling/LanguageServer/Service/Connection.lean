import LanguageServer.Protocol.Outgoing
import LanguageServer.Rpc.Frame

/-!
# Connections

A connection feeds the bytes of a stream to a service and collects the messages to send back. What
cannot be read is answered with an error, and nothing is read after that. Messages that come
together are all handled before the validations that they start go on.
-/

namespace LanguageServer

structure Connection where
  service : Service
  /-- Bytes that do not make up a message yet. -/
  pending : List UInt8
  closed : Bool

namespace Connection

def new (rule : Rule) : Connection := ⟨.new rule, [], false⟩

def answer (service : Service) (response : Rpc.Response) : Service × List Outgoing :=
  match response.id with
  | .number (.ofNat id) => service.answer id response.outcome
  | _ => (service, [])

def serve (service : Service) : Rpc.Message → Service × List Json × Bool
  | .request request =>
    let (reply, service, sent) := service.receive request
    let closed := match reply with
      | .ended => true
      | _ => false
    (service, sent.map Outgoing.toJson ++ reply.toJson?.toList, closed)
  | .response response =>
    let (service, sent) := answer service response
    (service, sent.map Outgoing.toJson, false)

/-- Serves the messages that stand at the front of a stream. What follows a message without content
is kept until more bytes come. -/
def drain (service : Service) (bytes : List UInt8) : Connection × List Json :=
  match _received : Rpc.receive bytes with
  | .incomplete => (⟨service, bytes, false⟩, [])
  | .empty rest => (⟨service, rest, false⟩, [])
  -- Nobody can tell where the next message would start.
  | .broken error => (⟨service, [], true⟩, [error.response.toAnonymousResponse])
  | .message message rest =>
    let (service, sent, closed) := serve service message
    if closed then (⟨service, [], true⟩, sent)
    else
      let (connection, later) := drain service rest
      (connection, sent ++ later)
termination_by bytes.length
decreasing_by exact Rpc.length_receive_lt _received

/-- Takes more bytes of the stream. A connection that they close sends nothing of its own any more. -/
def receive (connection : Connection) (bytes : List UInt8) : Connection × List Json :=
  if connection.closed then (connection, [])
  else
    let (connection, sent) := drain connection.service (connection.pending ++ bytes)
    if connection.closed then (connection, sent)
    else
      let (service, later) := connection.service.settle
      ({ connection with service }, sent ++ later.map Outgoing.toJson)

end Connection

end LanguageServer
