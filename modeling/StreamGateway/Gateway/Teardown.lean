import StreamGateway.Gateway.Basic

/-! # Taking connections down

A connection leaves the live ones first, then the poller, and then its handler is closed. In this
order a connection that is being handed back to the poller sees in time that it is not wanted there.
Taking a connection down twice does no harm. -/
namespace StreamGateway

variable {τ : Type} [Severable τ]

/-- Goes on with closing the handler of a connection. -/
def Closing.step (a : Answers τ) (s : Gateway τ) (c : Nat) : Closing → Closing × Gateway τ
  | .marking =>
    let (before, s) := s.withHandler c true Handler.markClosed
    (if before then .closed else .unsubscribing, s)
  | .unsubscribing =>
    (.forgetting,
      (s.answered (.unsubscribeClient c) a.engine).modifyHandler c (·.clientUnsubscribed a.engine))
  | .forgetting => (.disconnecting, s.modifyHandler c Handler.forgetAll)
  | .disconnecting => (.closed, s.modifyHandler c Handler.disconnect)
  | .closed => (.closed, s)

/-- Takes a connection off the poller; it may have been off already. -/
def Gateway.deregister (a : Answers τ) (s : Gateway τ) (c : Nat) :
    Except PollerError Unit × Gateway τ :=
  match s.poller with
  | none => (.ok (), s)
  | some p =>
    let (result, p) := p.remove c a.unwatch
    (result, { s with poller := some p })

namespace Teardown

/-- Everything is done. -/
def isOver : Teardown → Bool
  | .closing .closed => true
  | _ => false

/-- Goes on with taking a connection down. -/
def step (a : Answers τ) (s : Gateway τ) (c : Nat) : Teardown → Teardown × Gateway τ
  | .removing =>
    let s := if s.isLive c then
        { s with live := s.live.filter (· ≠ c), meters := s.meters.disconnected }
      else s
    (.deregistering, s)
  | .deregistering =>
    let (result, s) := s.deregister a c
    let s := match result with
      | .ok () | .error (.notRegistered _) | .error .closed => s
      | .error e =>
        s.log .debug "deregistering connection"
          [("connection_id", .number c), ("error", .shown e.message)]
    (.closing .marking, s)
  | .closing stage =>
    let (stage, s) := stage.step a s c
    (.closing stage, s)

end Teardown
end StreamGateway
