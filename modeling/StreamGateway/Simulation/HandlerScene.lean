import StreamGateway.Simulation.EngineRoom
import StreamGateway.Simulation.Socket

/-! # A handler at work

One handler without a gateway around it, with a client whose frames are given and a scripted
engine. -/
namespace StreamGateway

open Json (Raw)

/-- A handler, its engine and its client. -/
structure HandlerScene where
  room : EngineRoom
  id : Nat
  /-- The client has seen the end. -/
  ended : Bool := false

namespace HandlerScene

/-- What is done next. -/
inductive Step where
  | client (frames : List ClientFrame)
  | clientDrop
  | handshake
  | drain
  | readOne
  | message (message : Message)
  | close
  | script (script : EngineScript)
  | release
  | next (id : SubscriptionId) (response : Raw)
  | complete (id : SubscriptionId)

/-- What a step led to. -/
inductive Outcome where
  | ok
  | failed
  | gone
  | noSink
  | error (e : GatewayError)

/-- A fresh handler; none without a network. -/
def create? (network : Network) (id : Nat) (subprotocol : Subprotocol) (workers : Nat) :
    Option HandlerScene :=
  match network with
  | .isolated => none
  | .loopback => do
    let resolvers ← Pool.create? workers
    let handler : Handler WebSocket := .fresh id subprotocol {}
    let gateway : Gateway WebSocket :=
      { settings := {}, poller := none, handlers := [handler], live := [id]
        drains := { size := 1 }, resolvers }
    return { room := { gateway }, id }

def handler? (s : HandlerScene) : Option (Handler WebSocket) := s.room.gateway.handler? s.id

def ofResult : Except GatewayError Unit → Outcome
  | .ok () => .ok
  | .error e => .error e

/-- Something done with the handler. -/
def onHandler (s : HandlerScene) (f : Handler WebSocket → Outcome × Handler WebSocket) :
    Outcome × HandlerScene :=
  let (outcome, gateway) := s.room.gateway.withHandler s.id .ok f
  (outcome, { s with room := { s.room with gateway } })

/-- Something done with the connection below. -/
def onSocket (s : HandlerScene) (f : WebSocket → Outcome × WebSocket) : Outcome × HandlerScene :=
  s.onHandler fun h =>
    let (outcome, transport) := f h.link.transport
    (outcome, { h with link := { h.link with transport } })

/-- A call of the handler. -/
def call (s : HandlerScene)
    (f : Handler WebSocket → Except GatewayError Unit × Handler WebSocket) :
    Outcome × HandlerScene :=
  s.onHandler fun h =>
    let (result, h) := f h
    (ofResult result, h)

/-- Reads until there is nothing left. Every turn takes a frame or ends the drain. -/
def drain (h : Handler WebSocket) : Outcome × Handler WebSocket :=
  match h.drain (h.link.transport.inbox.length + 1) with
  | (.failed e, h) => (.error e, h)
  | (_, h) => (.ok, h)

/-- Closes the handler, with the engine's answer. -/
def close (s : HandlerScene) : Outcome × HandlerScene :=
  let answer := s.room.script.unsubscribeClient.answer s.room.script.message ⟨s.id, 0⟩
  let (called, gateway) := s.room.gateway.withHandler s.id false fun h => h.close answer
  let room := { s.room with gateway }
  (.ok, { s with room := if called then room.note (.unsubscribeClient s.id) else room })

def ofSink (s : HandlerScene) (outcome : Option (Except GatewayError Unit) × EngineRoom) :
    Outcome × HandlerScene :=
  (match outcome.1 with
    | none => .noSink
    | some result => ofResult result,
    { s with room := outcome.2 })

/-- The step itself, before anything that it sets off. -/
def act (s : HandlerScene) : Step → Outcome × HandlerScene
  | .client frames =>
    s.onSocket fun socket =>
      if socket.clientGone then (.gone, socket)
      else
        let (sent, socket) := socket.push frames
        (if sent then .ok else .failed, socket)
  | .clientDrop => s.onSocket fun socket => (.ok, socket.clientDrop)
  | .handshake => s.call Handler.handshake
  | .drain => s.onHandler drain
  | .readOne => s.call Handler.readOne
  | .message m => s.call (·.handle m)
  | .close => s.close
  | .script script => (.ok, { s with room := { s.room with script } })
  | .release => (.ok, { s with room := s.room.release })
  | .next id response => s.ofSink (s.room.next id response)
  | .complete id => s.ofSink (s.room.complete id)

/-- A step, with all calls to the engine that can be made. -/
def step (s : HandlerScene) (t : Step) : Outcome × HandlerScene :=
  let (outcome, s) := s.act t
  (outcome, { s with room := s.room.rest.prune })

/-- What the client sees now. -/
def look (s : HandlerScene) : List ServerFrame × HandlerScene :=
  match s.handler? with
  | none => ([], s)
  | some h =>
    if h.link.transport.clientGone then ([], s)
    else
      let (frames, transport) := h.link.transport.take
      let gateway := s.room.gateway.put { h with link := { h.link with transport } }
      (frames, { s with room := { s.room with gateway }, ended := s.ended || transport.shut })

end HandlerScene
end StreamGateway
