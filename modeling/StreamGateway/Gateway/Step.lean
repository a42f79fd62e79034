import StreamGateway.Gateway.Accept
import StreamGateway.Gateway.Polling
import StreamGateway.Gateway.Shutdown

/-! # Steps of the gateway

One step of one task. A run of a gateway is any sequence of such steps, with new connections and
shutdowns begun in between. -/
namespace StreamGateway.Gateway

variable {τ : Type} [Severable τ]

/-- A task goes on by one stage. -/
def advance (a : Answers τ) (s : Gateway τ) : Activity → Activity × Gateway τ
  | .accept listened stage =>
    let (stage, s) := stage.step a s
    let s := match listened, stage with
      | true, .returned (.error e) => s.logRefusal e
      | _, _ => s
    (.accept listened stage, s)
  | .drain c stage =>
    let (stage, s) := stage.step a s c
    (.drain c stage, s)
  | .reader c stage =>
    let (stage, s) := stage.step a s c
    (.reader c stage, s)
  | .leftover c ended =>
    if ended then (.leftover c ended, s)
    else
      let (_, s) := s.withHandler c (.ok ()) Handler.readOne
      (.leftover c true, s)
  | .resolver stage =>
    match stage.connection? with
    | none => (.resolver .finished, s)
    | some c =>
      let s := match stage.call? with
        | some call => s.answered call a.engine
        | none => s
      let (stage, s) := s.withHandler c .finished fun h => stage.step a.engine h
      (.resolver stage, s)
  | .polling stage =>
    let (stage, s) := stage.step a s
    (.polling stage, s)
  | .listener ended =>
    if s.shuttingDown && !ended then (.listener true, s.log .debug "accept loop stopped" [])
    else (.listener ended, s)
  | .shutdown timeoutMs stage =>
    let (stage, s) := stage.step a s timeoutMs
    (.shutdown timeoutMs stage, s)

/-- The task with number `i` goes on, unless it is over or waits for a worker. -/
def step (s : Gateway τ) (i : Nat) (a : Answers τ) : Gateway τ :=
  match s.task? i with
  | none => s
  | some t =>
    if t.isOver || s.waits i then s
    else
      let (t, s) := s.advance a t
      s.setTask i t

/-- A client connects. -/
def accept (s : Gateway τ) (listened : Bool) : Gateway τ := s.spawn (.accept listened .entering)

/-- Somebody asks for a shutdown. -/
def shutdown (s : Gateway τ) (timeoutMs : Nat) : Gateway τ :=
  s.spawn (.shutdown timeoutMs .announcing)

end StreamGateway.Gateway
