import StreamGateway.Gateway.Teardown

/-! # Serving connections

With a poller, a connection that has input is taken off the poller, everything that has come in is
handled, and the connection is handed back, so it is never read by two tasks at once. Without one, a
reader of its own waits for each connection. -/
namespace StreamGateway

variable {τ : Type} [Severable τ]

/-- Goes on with handing a connection back. -/
def Rearm.step (a : Answers τ) (s : Gateway τ) (c : Nat) : Rearm → Rearm × Gateway τ
  | .checking => (if s.isPolling && s.isLive c then .testing else .done (.ok ()), s)
  | .testing =>
    match s.poller with
    | none => (.done (.ok ()), s)
    | some p =>
      if p.closed then (.done (.error .closed), s)
      else match a.mode with
        | .error f => (.done (.error (.nonBlocking c f)), s)
        | .ok () => (.enrolling, s)
  | .enrolling =>
    match s.poller with
    | none => (.done (.ok ()), s)
    | some p =>
      match p.enrol c a.watch with
      | (.ok (), p) => (.rechecking, { s with poller := some p })
      | (.error e, p) => (.done (.error e), { s with poller := some p })
  | .rechecking => (if s.isLive c then .done (.ok ()) else .undoing, s)
  | .undoing => (.done (.ok ()), (s.deregister a c).2)
  | .done result => (.done result, s)

/-- Goes on with handling what has come in. -/
def Serve.step (a : Answers τ) (s : Gateway τ) (c : Nat) : Serve → Serve × Gateway τ
  | .draining =>
    let (turn, s) := s.withHandler c .idle Handler.turn
    match turn with
    | .handled => (.draining, s)
    | .idle => (.rearming .checking, s)
    | .failed e => (.done (.error e), s)
  | .rearming (.done result) => (.done (result.mapError .poller), s)
  | .rearming stage =>
    let (stage, s) := stage.step a s c
    (.rearming stage, s)
  | .done result => (.done result, s)

/-- Goes on with a connection that the poller reported. -/
def Drain.step (a : Answers τ) (s : Gateway τ) (c : Nat) : Drain → Drain × Gateway τ
  | .serving (.done (.ok ())) => (.finished, s)
  | .serving (.done (.error e)) => (.removing .removing, s.logEnd c e)
  | .serving stage =>
    let (stage, s) := stage.step a s c
    (.serving stage, s)
  | .removing stage =>
    if stage.isOver then (.finished, s)
    else
      let (stage, s) := stage.step a s c
      (.removing stage, s)
  | .finished => (.finished, s)

/-- How long, in milliseconds, a reader may hold its connection in one attempt to read. Whoever
writes to the connection waits that long. -/
def SocketSettings.readSliceMs (ws : SocketSettings) : UInt64 := min ws.readTimeoutMs 50

/-- Goes on with reading a connection. When a shutdown calls the reader off, the read that is under
way is left to itself. -/
def Reading.step (a : Answers τ) (s : Gateway τ) (c : Nat) : Reading → Reading × Gateway τ
  | .reading =>
    if s.shuttingDown && a.noticed then (.removing .removing, s.spawn (.leftover c false))
    else
      let (turn, s) := s.withHandler c .idle Handler.patientTurn
      match turn with
      | .handled | .idle => (.reading, s)
      | .failed e => (.removing .removing, s.logEnd c e)
  | .removing stage =>
    if stage.isOver then (.finished, s)
    else
      let (stage, s) := stage.step a s c
      (.removing stage, s)
  | .finished => (.finished, s)

end StreamGateway
