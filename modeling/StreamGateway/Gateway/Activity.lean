import StreamGateway.Handler.Resolver

/-! # Activities of the gateway

Everything the gateway does at the same time is an activity, and every activity is at a stage. A
stage is what it does next in one go; between two stages any other activity may take its turn. -/
namespace StreamGateway

/-- Closing a handler. -/
inductive Closing where
  | marking
  | unsubscribing
  | forgetting
  | disconnecting
  | closed
deriving DecidableEq

/-- Taking a connection down. -/
inductive Teardown where
  /-- Off the live connections. -/
  | removing
  /-- Off the poller. -/
  | deregistering
  | closing (stage : Closing)
deriving DecidableEq

/-- Handing a connection back to the poller. -/
inductive Rearm where
  /-- Is it still live? -/
  | checking
  /-- Is the poller open? -/
  | testing
  | enrolling
  /-- Was it taken down meanwhile? -/
  | rechecking
  | undoing
  | done (result : Except PollerError Unit)

/-- Handling all that has come in on a connection that is off the poller, and handing it back. -/
inductive Serve where
  | draining
  | rearming (stage : Rearm)
  | done (result : Except GatewayError Unit)

/-- Taking a new connection in. -/
inductive Accept where
  | entering
  | upgrading
  | handshaking (connection : Nat)
  /-- The handler is closed because of an error; the connection was never live. -/
  | failing (connection : Nat) (e : GatewayError) (stage : Closing)
  | configuring (connection : Nat)
  | inserting (connection : Nat)
  | serving (connection : Nat) (stage : Serve)
  | removing (connection : Nat) (e : GatewayError) (stage : Teardown)
  | returned (result : Except GatewayError Nat)

/-- Work on a connection that the poller reported. -/
inductive Drain where
  | serving (stage : Serve)
  | removing (stage : Teardown)
  | finished

/-- Reading a connection without a poller. -/
inductive Reading where
  | reading
  | removing (stage : Teardown)
  | finished

/-- Waiting for input on all connections. -/
inductive Polling where
  /-- Has a shutdown begun? -/
  | resting
  | waiting
  /-- Is there a handler for the first of these? -/
  | looking (ready : List Nat)
  /-- The connection is taken off the poller. -/
  | taking (connection : Nat) (ready : List Nat)
  | submitting (connection : Nat) (ready : List Nat)
  /-- The poller has failed: one connection after the other is taken down. -/
  | closing (connections : List Nat) (stage : Teardown)
  | stopped

/-- Shutting the gateway down. -/
inductive Shutdown where
  | announcing
  | cancelling
  /-- Which connections are live? -/
  | listing
  | closing (connections : List Nat) (stage : Teardown)
  | shutting
  | draining (before : Bool)
  | releasing (drained : List Nat)
  /-- The poller's connections are shut down. -/
  | severing (drained : List Nat)
  | settling
  /-- Waiting for the other activities. -/
  | waiting
  /-- Waiting for the polling to stop. -/
  | joining (drained : Bool)
  | returned (drained : Bool)

/-- Something that the gateway is doing. -/
inductive Activity where
  /-- `listened` tells a connection that came in by the listener from one that was handed over. -/
  | accept (listened : Bool) (stage : Accept)
  | drain (connection : Nat) (stage : Drain)
  | reader (connection : Nat) (stage : Reading)
  /-- A read that was under way when its reader was called off. -/
  | leftover (connection : Nat) (ended : Bool)
  | resolver (stage : Resolver)
  | polling (stage : Polling)
  | listener (ended : Bool)
  | shutdown (timeoutMs : Nat) (stage : Shutdown)

namespace Activity

/-- Nothing is left to do. -/
def isOver : Activity → Bool
  | .accept _ (.returned _) => true
  | .drain _ .finished => true
  | .reader _ .finished => true
  | .leftover _ ended => ended
  | .resolver .finished => true
  | .polling .stopped => true
  | .listener ended => ended
  | .shutdown _ (.returned _) => true
  | _ => false

/-- A shutdown waits for this kind of activity. -/
def isTracked : Activity → Bool
  | .accept listened _ => listened
  | .drain _ _ | .reader _ _ | .resolver _ => true
  | _ => false

/-- The connection that the activity keeps. -/
def connection? : Activity → Option Nat
  | .accept _ stage =>
    match stage with
    | .handshaking c | .failing c _ _ | .configuring c | .inserting c | .serving c _
    | .removing c _ _ => some c
    | _ => none
  | .drain c _ | .reader c _ | .leftover c _ => some c
  | .resolver stage => stage.connection?
  | .polling stage =>
    match stage with
    | .submitting c _ => some c
    | .taking c _ => some c
    | .closing (c :: _) _ => some c
    | _ => none
  | .shutdown _ (.closing (c :: _) _) => some c
  | _ => none

end Activity
end StreamGateway
