import StreamGateway.Gateway.Serving

/-! # Taking connections in

A new connection is upgraded, shakes hands, becomes live and is served for the first time; input
that came along with the handshake is handled before the poller is asked about the connection. An
error on the way closes what was built. -/
namespace StreamGateway

variable {τ : Type} [Severable τ]

namespace Gateway

/-- A handler for an upgraded connection, under the next number. -/
def takeIn (s : Gateway τ) (transport : τ) (subprotocol : Subprotocol) : Nat × Gateway τ :=
  let c := s.lastConnection + 1
  (c, { s with lastConnection := c, handlers := s.handlers ++ [.fresh c subprotocol transport] })

/-- The name of the conversation on a connection. -/
def protocolName (s : Gateway τ) (c : Nat) : String :=
  ((s.handler? c).map (·.link.session.subprotocol.name)).getD ""

/-- A connection that came in by the listener could not be taken in. -/
def logRefusal (s : Gateway τ) (e : GatewayError) : Gateway τ :=
  s.log (if e.isDisconnect then .debug else .warn) "websocket upgrade" [("error", .shown e.message)]

end Gateway

namespace Accept

/-- Goes on with taking a connection in. -/
def step (a : Answers τ) (s : Gateway τ) : Accept → Accept × Gateway τ
  | .entering =>
    if s.shuttingDown then (.returned (.error .disabled), s)
    else match a.setup with
      | .error f => (.returned (.error (.fault f)), s)
      | .ok () => (.upgrading, s)
  | .upgrading =>
    match a.upgrade with
    | .error e => (.returned (.error e), { s with meters := s.meters.handshakeFailed })
    | .ok (transport, subprotocol) =>
      let (c, s) := s.takeIn transport subprotocol
      (.handshaking c, s)
  | .handshaking c =>
    let (result, s) := s.withHandler c (.error (.connectionGone c)) Handler.handshake
    match result with
    | .ok () => (.configuring c, s)
    | .error e =>
      let s := { s with meters := s.meters.handshakeFailed }.log .warn
        "initializing websocket connection"
        [("connection_id", .number c), ("protocol", .text (s.protocolName c)),
          ("error", .shown e.message)]
      (.failing c e .marking, s)
  | .failing _ e .closed => (.returned (.error e), s)
  | .failing c e stage =>
    let (stage, s) := stage.step a s c
    (.failing c e stage, s)
  | .configuring c =>
    match a.configure with
    | .ok () => (.inserting c, s)
    | .error f => (.failing c (.fault f) .marking, s)
  | .inserting c =>
    let s := { s with meters := s.meters.connected, live := s.live ++ [c] }.log .debug
      "websocket connection accepted"
      [("connection_id", .number c), ("protocol", .text (s.protocolName c))]
    if s.isPolling then (.serving c .draining, s)
    else (.returned (.ok c), s.spawn (.reader c .reading))
  | .serving c (.done (.ok ())) => (.returned (.ok c), s)
  | .serving c (.done (.error e)) => (.removing c e .removing, s)
  | .serving c stage =>
    let (stage, s) := stage.step a s c
    (.serving c stage, s)
  | .removing c e stage =>
    if stage.isOver then (.returned (.error e), s)
    else
      let (stage, s) := stage.step a s c
      (.removing c e stage, s)
  | .returned result => (.returned result, s)

end Accept
end StreamGateway
