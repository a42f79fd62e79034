import StreamGateway.Gateway.Teardown

/-! # Polling

One task waits on the poller, takes every connection with input off it and puts it in line to be
drained. When the poller fails for good, all connections are taken down. -/
namespace StreamGateway

variable {τ : Type} [Severable τ]

namespace Polling

/-- The end of polling. -/
def stop (s : Gateway τ) : Polling × Gateway τ := (.stopped, s.log .debug "polling task stopped" [])

/-- A wait has failed. -/
def failed (s : Gateway τ) (e : PollerError) : Polling × Gateway τ :=
  if s.shuttingDown then stop s
  else
    let s := { s with meters := s.meters.waitFailed }
    let fields := [("error", Log.Value.shown e.message)]
    if e.isFatal then
      (.closing s.live .removing,
        s.log .error "poller failed, closing all websocket connections" fields)
    else (.resting, s.log .warn "poller wait" fields)

/-- Goes on with polling. -/
def step (a : Answers τ) (s : Gateway τ) : Polling → Polling × Gateway τ
  | .resting => if s.shuttingDown then stop s else (.waiting, s)
  | .waiting =>
    match s.poller with
    | none => stop s
    | some p =>
      let (result, p, events) := p.wait s.settings.maxEventsPerWait.toNat a.ready
      let s := { s with poller := some p, journal := s.journal ++ events }
      match result with
      | .ok ready => (.looking (ready.map Int.toNat), s)
      | .error e => failed s e
  | .looking [] => (.resting, s)
  | .looking (c :: ready) => (if s.isLive c then .taking c ready else .looking ready, s)
  | .taking c ready =>
    match s.deregister a c with
    | (.ok (), s) => (.submitting c ready, s)
    | (.error (.notRegistered _), s) => (.looking ready, s)
    | (.error e, s) =>
      (.looking ready, s.log .debug "taking ready connection"
        [("connection_id", .number c), ("error", .shown e.message)])
  | .submitting c ready => (.looking ready, s.spawnDrain c)
  | .closing [] _ => stop s
  | .closing (c :: rest) stage =>
    if stage.isOver then (.closing rest .removing, s)
    else
      let (stage, s) := stage.step a s c
      (.closing (c :: rest) stage, s)
  | .stopped => (.stopped, s)

end Polling
end StreamGateway
