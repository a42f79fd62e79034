/-! # Meters

What the gateway counts. A meter that was never touched has no value, which is not the same as
zero. -/
namespace StreamGateway

/-- The gateway's counters and gauges. -/
structure Meters where
  connectionsTotal : Option Int := none
  connectionsActive : Option Int := none
  subscriptionsActive : Option Int := none
  handshakeFailures : Option Int := none
  waitErrors : Option Int := none
deriving DecidableEq

namespace Meters

/-- A meter moved by `change`. -/
def moved (meter : Option Int) (change : Int) : Option Int := some (meter.getD 0 + change)

/-- A connection begins. -/
def connected (m : Meters) : Meters :=
  { m with
    connectionsTotal := moved m.connectionsTotal 1
    connectionsActive := moved m.connectionsActive 1 }

/-- A connection ends. -/
def disconnected (m : Meters) : Meters :=
  { m with connectionsActive := moved m.connectionsActive (-1) }

def handshakeFailed (m : Meters) : Meters :=
  { m with handshakeFailures := moved m.handshakeFailures 1 }

def waitFailed (m : Meters) : Meters := { m with waitErrors := moved m.waitErrors 1 }

/-- Takes over what a handler counted. -/
def subscribed (m : Meters) (counted : Option Int) : Meters :=
  match counted with
  | none => m
  | some change => { m with subscriptionsActive := moved m.subscriptionsActive change }

/-- The meters that were touched, by name. -/
def entries (m : Meters) : List (String × Int) :=
  [("ws_connections_total", m.connectionsTotal), ("ws_connections_active", m.connectionsActive),
    ("ws_subscriptions_active", m.subscriptionsActive),
    ("ws_handshake_failures_total", m.handshakeFailures),
    ("ws_poller_wait_errors_total", m.waitErrors)].filterMap fun (name, value) =>
    value.map (name, ·)

end Meters
end StreamGateway
