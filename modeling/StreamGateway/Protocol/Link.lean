import StreamGateway.Protocol.Session

/-! # Links

A session together with the connection it runs over. A call reads at most one text, sends its frames
in order and stops at the first that cannot be sent; the session only moves on when all of them are
out, except that an operation that is ended is closed whether or not the client could be told. -/
namespace StreamGateway

open Json (Raw)

/-- A connection that carries texts both ways. -/
class Transport (τ : Type) where
  /-- The next text, if there is one. -/
  receive : τ → Except ProtocolError String × τ
  /-- Sends one text. -/
  send : τ → String → Except ProtocolError Unit × τ
  /-- Ends the connection with a code and a reason. -/
  close : τ → UInt16 → String → Except ProtocolError Unit × τ

/-- A connection whose two directions can be shut down without a word to the client. -/
class Severable (τ : Type) extends Transport τ where
  sever : τ → τ

/-- A session over a connection. -/
structure Link (τ : Type) where
  session : Session
  transport : τ

/-- A link before anything has happened to it. -/
def Link.fresh {τ : Type} (subprotocol : Subprotocol) (transport : τ) : Link τ :=
  { session := { subprotocol }, transport }

namespace Link

variable {τ : Type} [Transport τ]

/-- A fresh session over a connection, for a subprotocol by name. -/
def ofName (name : String) (transport : τ) : Except ProtocolError (Link τ) :=
  match name with
  | "graphql-transport-ws" => .ok (.fresh .transport transport)
  | "graphql-ws" => .ok (.fresh .legacy transport)
  | "absinthe" => .ok (.fresh .absinthe transport)
  | _ => .error (.unsupportedSubprotocol name)

def receive (l : Link τ) : Except ProtocolError String × Link τ :=
  let (result, transport) := Transport.receive l.transport
  (result, { l with transport })

def send (l : Link τ) (frame : String) : Except ProtocolError Unit × Link τ :=
  let (result, transport) := Transport.send l.transport frame
  (result, { l with transport })

/-- Sends frames in order, up to the first that cannot be sent. -/
def sendAll (l : Link τ) : List String → Except ProtocolError Unit × Link τ
  | [] => (.ok (), l)
  | frame :: frames =>
    match l.send frame with
    | (.ok (), l) => sendAll l frames
    | (.error e, l) => (.error e, l)

/-- Answers a text that was read. -/
def settle {α : Type} (l : Link τ) (reply : Session.Reply α) : Except ProtocolError α × Link τ :=
  match l.sendAll reply.frames with
  | (.ok (), l) => (.ok reply.value, { l with session := reply.session })
  | (.error e, l) => (.error e, l)

/-- Reads one text and answers it as `decode` says. -/
def converse {α : Type} (l : Link τ)
    (decode : Session → String → Except ProtocolError (Session.Reply α)) :
    Except ProtocolError α × Link τ :=
  match l.receive with
  | (.error e, l) => (.error e, l)
  | (.ok text, l) =>
    match decode l.session text with
    | .error e => (.error e, l)
    | .ok reply => l.settle reply

/-- The handshake. -/
def handshake (l : Link τ) : Except ProtocolError (Option Raw) × Link τ :=
  if l.session.initialized then (.error .alreadyInitialized, l) else l.converse Session.handshake

/-- The client's next message. -/
def read (l : Link τ) : Except ProtocolError Message × Link τ :=
  if l.session.initialized then l.converse Session.message else (.error .notInitialized, l)

/-- Answers a ping. -/
def pong (l : Link τ) (ping : Message) : Except ProtocolError Unit × Link τ :=
  l.send (l.session.pong ping)

/-- Sends a result of an open operation. -/
def writeData (l : Link τ) (id : String) (data : Raw) (extensions : Option Raw) :
    Except ProtocolError Unit × Link τ :=
  match l.session.dataFrame id data extensions with
  | .error e => (.error e, l)
  | .ok frame => l.send frame

/-- Sends errors of an open operation. -/
def writeErrors (l : Link τ) (id : String) (errors : Raw) (extensions : Option Raw) :
    Except Failure Unit × Link τ :=
  match l.session.errorsFrame id errors extensions with
  | .error f => (.error f, l)
  | .ok frame =>
    match l.send frame with
    | (.ok (), l) => (.ok (), l)
    | (.error e, l) => (.error (.error e), l)

/-- Ends an open operation. -/
def done (l : Link τ) (id : String) : Except ProtocolError Unit × Link τ :=
  if l.session.isOpen id then
    { l with session := l.session.release id }.send (l.session.doneFrame id)
  else (.error (.unknownOperation id), l)

/-- Ends the connection. -/
def close (l : Link τ) (code : UInt16) (reason : String) : Except ProtocolError Unit × Link τ :=
  let (result, transport) := Transport.close l.transport code reason
  (result, { l with transport })

/-! ### What is logged -/

/-- A handshake that failed is logged. -/
def handshakeEvents {α : Type} (p : Subprotocol) : Except ProtocolError α → Log.Journal
  | .ok _ => []
  | .error e =>
    [{ level := .debug, target := "gate_wsproto::protocols", message := "handshake failed"
       fields := [("protocol", .text p.name), ("error", .shown e.message)] }]

/-- A message that was read is logged. -/
def messageEvents (p : Subprotocol) : Except ProtocolError Message → Log.Journal
  | .error _ => []
  | .ok m =>
    [{ level := .trace, target := "gate_wsproto::protocols", message := "client message"
       fields := [("protocol", .text p.name), ("kind", .shown m.kind.name), ("id", .shown m.id)] }]

end Link
end StreamGateway
