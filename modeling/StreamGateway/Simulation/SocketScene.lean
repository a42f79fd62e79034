import StreamGateway.Simulation.Socket
import StreamGateway.WebSocket.Connection

/-! # A socket connection at work

One connection with a client whose frames are given, driven one call at a time. -/
namespace StreamGateway

/-- A connection and what its client has seen. -/
structure SocketScene where
  socket : WebSocket
  /-- The client has seen the end. -/
  ended : Bool := false

namespace SocketScene

/-- What is done next. -/
inductive Step where
  | client (frames : List ClientFrame)
  | clientDrop
  | read
  | write (text : String)
  | close (code : UInt16) (reason : String)
  | sever

/-- What a step led to. -/
inductive Outcome where
  | ok
  | failed
  | gone
  | text (text : String)
  | error (e : ProtocolError)

/-- A connection over the network; none if there is no network. -/
def create? (network : Network) (limit : Option Nat) : Option SocketScene :=
  match network with
  | .loopback => some { socket := { limit } }
  | .isolated => none

def ofResult : Except ProtocolError Unit → Outcome
  | .ok () => .ok
  | .error e => .error e

def step (s : SocketScene) : Step → Outcome × SocketScene
  | .client frames =>
    if s.socket.clientGone then (.gone, s)
    else
      let (sent, socket) := s.socket.push frames
      (if sent then .ok else .failed, { s with socket })
  | .clientDrop => (.ok, { s with socket := s.socket.clientDrop })
  | .read =>
    match s.socket.receive with
    | (.ok text, socket) => (.text text, { s with socket })
    | (.error e, socket) => (.error e, { s with socket })
  | .write text =>
    let (result, socket) := s.socket.send text
    (ofResult result, { s with socket })
  | .close code reason =>
    let (result, socket) := s.socket.close code reason
    (ofResult result, { s with socket })
  | .sever => (.ok, { s with socket := s.socket.shutDown })

/-- What the client sees now. -/
def look (s : SocketScene) : List ServerFrame × SocketScene :=
  if s.socket.clientGone then ([], s)
  else
    let (frames, socket) := s.socket.take
    (frames, { socket, ended := s.ended || socket.shut })

end SocketScene
end StreamGateway
