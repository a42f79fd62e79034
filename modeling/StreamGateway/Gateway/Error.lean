import StreamGateway.Poller.Error

/-! # Errors of the gateway -/
namespace StreamGateway

/-- A subscription as the engine knows it: the connection, and the number of the subscription on
it. -/
structure SubscriptionId where
  connection : Nat
  number : Nat
deriving DecidableEq

namespace SubscriptionId

def text (s : SubscriptionId) : String := toString s.connection ++ ":" ++ toString s.number

end SubscriptionId

/-- Why the engine did not do what it was asked for. -/
inductive EngineError where
  | rejected (reason : String)
  | unknownSubscription (id : SubscriptionId)
  | unavailable (reason : String)
deriving DecidableEq

def EngineError.message : EngineError → String
  | .rejected reason => "operation rejected: " ++ reason
  | .unknownSubscription id => "unknown subscription " ++ id.text
  | .unavailable reason => "executor unavailable: " ++ reason

/-- Why a request to change to the socket protocol was turned down. -/
inductive UpgradeError where
  /-- The request was answered with an error status. -/
  | status (line : String)
  /-- The request breaks a rule of the socket protocol. -/
  | violation (rule : String)
  /-- The request is no readable request. -/
  | unreadable (reason : String)
  | fault (fault : Fault)
deriving DecidableEq

def UpgradeError.message : UpgradeError → String
  | .status line => "HTTP error: " ++ line
  | .violation rule => "WebSocket protocol error: " ++ rule
  | .unreadable reason => "HTTP format error: " ++ reason
  | .fault f => "IO error: " ++ f.text

/-- Why a call on the gateway failed. -/
inductive GatewayError where
  | disabled
  | poller (e : PollerError)
  | protocol (e : ProtocolError)
  | engine (e : EngineError)
  | upgrade (e : UpgradeError)
  | handshakeTimeout
  | clientTerminated
  | missingId
  | duplicateSubscription (id : String)
  | unknownSubscription (id : String)
  | connectionGone (connection : Nat)
  | fault (fault : Fault)
  /-- A piece of work broke down. -/
  | task
deriving DecidableEq

namespace GatewayError

def message : GatewayError → String
  | .disabled => "websocket subscriptions are disabled"
  | .poller e => e.message
  | .protocol e => e.message
  | .engine e => e.message
  | .upgrade e => "websocket upgrade failed: " ++ e.message
  | .handshakeTimeout => "websocket upgrade timed out"
  | .clientTerminated => "client terminated the connection"
  | .missingId => "missing id in subscribe"
  | .duplicateSubscription id => "subscription with id " ++ Text.quoted id ++ " already exists"
  | .unknownSubscription id => "no subscription was registered for ID " ++ Text.quoted id
  | .connectionGone connection => "connection " ++ toString connection ++ " is closed"
  | .fault f => f.text
  | .task => "task failed: a piece of work broke down"

/-- The client went away or asked to leave. -/
def isDisconnect : GatewayError → Bool
  | .clientTerminated | .connectionGone _ => true
  | .protocol e => e.isClosed
  | _ => false

end GatewayError
end StreamGateway
