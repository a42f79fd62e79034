import StreamGateway.Simulation.EngineRoom
import StreamGateway.Simulation.Socket
import StreamGateway.WebSocket.Upgrade

/-! # A gateway at work

A gateway with a scripted engine and named clients. Each step is over when everything that it set
off is done. -/
namespace StreamGateway

open Json (Raw)

/-- A client that reached the gateway. -/
structure Client where
  name : String
  /-- Its connection, once it is upgraded. -/
  connection : Option Nat
  /-- It has gone, or has seen the end. -/
  ended : Bool
deriving DecidableEq

/-- A gateway, its engine and its clients. -/
structure GatewayScene where
  network : Network
  /-- Connections come in by a listener; otherwise they are handed over one by one. -/
  listening : Bool
  room : EngineRoom
  clients : List Client := []

namespace GatewayScene

/-- What a client does when it connects. -/
structure Arrival where
  client : String
  request : List UInt8
  /-- Frames that it sends as soon as it is upgraded. -/
  first : List ClientFrame
  /-- It goes away right after that. -/
  drop : Bool

/-- What is done next. -/
inductive Step where
  | connect (arrival : Arrival)
  | send (client : String) (frames : List ClientFrame)
  | drop (client : String)
  | script (script : EngineScript)
  | release
  | next (id : SubscriptionId) (response : Raw)
  | complete (id : SubscriptionId)
  | shutdown (timeoutMs : Nat)

/-- What a step led to. -/
inductive Outcome where
  | ok
  | gone
  | noClient
  | noSink
  | error (e : GatewayError)
  /-- The client could not reach the gateway at all. -/
  | unreachable
  /-- How the request was answered, and, without a listener, what became of the connection. -/
  | connected (reply : Option UpgradeReply) (result : Option (Except GatewayError Nat))
  | shutDown (drained token : Bool)

/-! ### Requests -/

/-- The lines of a request, as bytes. -/
def requestBytes (lines : List (List UInt8)) : List UInt8 :=
  (lines.flatMap fun line => line ++ [13, 10]) ++ [13, 10]

/-- A request with one header for each offer of subprotocols. -/
def requestWith (offers : List (List UInt8)) : List UInt8 :=
  let line (s : String) : List UInt8 := Text.Utf8.encode s
  requestBytes (line "GET /graphql HTTP/1.1" :: line "Host: localhost" ::
    line "Connection: Upgrade" :: line "Upgrade: websocket" :: line "Sec-WebSocket-Version: 13" ::
    line "Sec-WebSocket-Key: dGhlIHNhbXBsZSBub25jZQ==" ::
    offers.map fun offer => line "Sec-WebSocket-Protocol: " ++ offer)

/-! ### Beginning -/

/-- A gateway without clients; none if its settings ask for more than can be laid out. -/
def create? (network : Network) (listening : Bool) (settings : SocketSettings) :
    Option (Except GatewayError GatewayScene) :=
  (Gateway.create? settings).map fun made =>
    made.map fun gateway =>
      { network, listening
        room := { gateway := if listening then gateway.spawn (.listener false) else gateway } }

/-! ### Clients -/

def client? (s : GatewayScene) (name : String) : Option Client := s.clients.find? (·.name = name)

/-- Puts a client in its place; a new one goes to the end. -/
def putClient (s : GatewayScene) (c : Client) : GatewayScene :=
  if (s.client? c.name).isSome then
    { s with clients := s.clients.map fun d => if d.name = c.name then c else d }
  else { s with clients := s.clients ++ [c] }

/-- Changes the connection of a client. -/
def onSocket {α : Type} (s : GatewayScene) (connection : Nat) (absent : α)
    (f : WebSocket → α × WebSocket) : α × GatewayScene :=
  let (a, gateway) := s.room.gateway.withHandler connection absent fun h =>
    let (a, transport) := f h.link.transport
    (a, { h with link := { h.link with transport } })
  (a, { s with room := { s.room with gateway } })

/-- The connection of an upgraded client, with what the client sends at once. -/
def greet (s : GatewayScene) (a : Arrival) : WebSocket :=
  let socket : WebSocket :=
    { limit := some s.room.gateway.settings.maxMessageSize.toNat, inbox := a.first }
  if a.drop then socket.clientDrop else socket

/-- A client connects. -/
def connect (s : GatewayScene) (a : Arrival) : Outcome × GatewayScene :=
  if s.network = .isolated || (s.listening && s.room.gateway.shuttingDown) then (.unreachable, s)
  else
    let reply := UpgradeReply.of a.request
    let open? := !s.room.gateway.shuttingDown
    let gateway := s.room.gateway.accept s.listening
    let task := gateway.lastTask
    let upgrade := reply.result.map fun subprotocol => (s.greet a, subprotocol)
    let connection := match reply with
      | .accepted _ => if open? then some (gateway.lastConnection + 1) else none
      | _ => none
    let room := { s.room with gateway, upgrades := [(task, upgrade)] }.rest
    let result := match room.gateway.task? task with
      | some (.accept _ (.returned result)) => some result
      | _ => none
    let s := { s with room }.putClient ⟨a.client, connection, connection.isNone || a.drop⟩
    (.connected (if open? then some reply else none) (if s.listening then none else result), s)

/-- A client sends frames. -/
def send (s : GatewayScene) (name : String) (frames : List ClientFrame) : Outcome × GatewayScene :=
  match s.client? name with
  | none => (.noClient, s)
  | some client =>
    match client.ended, client.connection with
    | false, some c =>
      let (_, s) := s.onSocket c false (·.push frames)
      (.ok, s)
    | _, _ => (.gone, s)

/-- A client goes away. -/
def drop (s : GatewayScene) (name : String) : Outcome × GatewayScene :=
  match s.client? name with
  | none => (.noClient, s)
  | some client =>
    match client.ended, client.connection with
    | false, some c =>
      let (_, s) := s.onSocket c () fun socket => ((), socket.clientDrop)
      (.ok, s.putClient { client with ended := true })
    | _, _ => (.gone, s)

/-! ### Steps -/

def ofSink (s : GatewayScene) (outcome : Option (Except GatewayError Unit) × EngineRoom) :
    Outcome × GatewayScene :=
  (match outcome.1 with
    | none => .noSink
    | some (.ok ()) => .ok
    | some (.error e) => .error e,
    { s with room := outcome.2 })

/-- Shuts the gateway down; tells whether all tasks came to their end. -/
def shutdown (s : GatewayScene) (timeoutMs : Nat) : Bool × GatewayScene :=
  let gateway := s.room.gateway.shutdown timeoutMs
  let task := gateway.lastTask
  let room := { s.room with gateway }.rest
  let drained := match room.gateway.task? task with
    | some (.shutdown _ (.returned drained)) => drained
    | _ => false
  (drained, { s with room })

/-- The step itself, before anything else that it sets off. -/
def act (s : GatewayScene) : Step → Outcome × GatewayScene
  | .connect a => s.connect a
  | .send client frames => s.send client frames
  | .drop client => s.drop client
  | .script script => (.ok, { s with room := { s.room with script } })
  | .release => (.ok, { s with room := s.room.release })
  | .next id response => s.ofSink (s.room.next id response)
  | .complete id => s.ofSink (s.room.complete id)
  | .shutdown timeoutMs =>
    let (drained, s) := s.shutdown timeoutMs
    (.shutDown drained s.room.gateway.shuttingDown, s)

/-- A step with all that it sets off. -/
def step (s : GatewayScene) (t : Step) : Outcome × GatewayScene :=
  let (outcome, s) := s.act t
  (outcome, { s with room := s.room.rest.prune })

/-! ### Reports -/

/-- What one client sees now: frames, and whether the end is among it. -/
def lookOne (s : GatewayScene) (client : Client) : (List ServerFrame × Bool) × GatewayScene :=
  match client.ended, client.connection with
  | false, some c =>
    let ((frames, shut), s) := s.onSocket c ([], true) fun socket =>
      let (frames, socket) := socket.take
      ((frames, socket.shut), socket)
    ((frames, shut), s.putClient { client with ended := shut })
  | _, _ => (([], false), s)

/-- What the clients see now; those who see nothing are left out. -/
def lookAll (s : GatewayScene) :
    List Client → List (String × List ServerFrame × Bool) × GatewayScene
  | [] => ([], s)
  | client :: rest =>
    let ((frames, ended), s) := s.lookOne client
    let (seen, s) := s.lookAll rest
    (if frames.isEmpty && !ended then seen else (client.name, frames, ended) :: seen, s)

def look (s : GatewayScene) : List (String × List ServerFrame × Bool) × GatewayScene :=
  s.lookAll s.clients

/-- The end: the engine lets go of what it holds, and the gateway is shut down once more. -/
def finish (s : GatewayScene) : Bool × Meters :=
  let script := { s.room.script with subscribe := some .ok }
  let room := ({ s.room with script }.release).rest
  let (drained, s) := { s with room }.shutdown Shutdown.standardTimeoutMs
  (drained, s.room.gateway.meters)

end GatewayScene
end StreamGateway
