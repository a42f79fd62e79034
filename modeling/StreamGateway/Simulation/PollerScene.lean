import StreamGateway.Simulation.Socket

/-! # A poller at work

A poller over numbered connections in memory, driven one call at a time. -/
namespace StreamGateway

/-- A poller with its connections and the kernel's queue. -/
structure PollerScene where
  network : Network
  poller : Poller
  sockets : Array Socket := #[]
  queue : ReadyQueue := []

namespace PollerScene

/-- What is done next. -/
inductive Step where
  | opening (kind : SocketKind) (count : Nat)
  | add (conn : Nat)
  | addAll
  | remove (conn : Nat)
  | write (conn : Nat) (text : String)
  | read (conn : Nat)
  | reply (conn : Nat) (text : String)
  | peerRead (conn : Nat)
  | hangUp (conn : Nat)
  | halfClose (conn : Nat)
  | wait (most : Nat)
  | rotate (most times : Nat)
  | close (closeConns : Bool)

/-- What a step led to. -/
inductive Outcome where
  | ok
  | count (n : Nat)
  | failed
  | noPeer
  /-- The connection would have to wait for input. -/
  | blocking
  | seen (seen : Socket.Seen)
  | ready (conns : List Nat)
  | rounds (rounds : List (Except PollerError (List Nat)))
  | each (results : List (Except PollerError Unit))
  | error (e : PollerError)
  /-- There is no such connection. -/
  | unknown

def ofResult : Except PollerError Unit → Outcome
  | .ok () => .ok
  | .error e => .error e

def ofSent : Socket.Sent → Outcome
  | .ok => .ok
  | .failed => .failed
  | .noPeer => .noPeer

/-- Whether a connection can be read. -/
def isReady (s : PollerScene) (i : Nat) : Bool :=
  match s.sockets[i]? with
  | some socket => socket.ready
  | none => false

/-- Replaces a connection; if it is watched and can be read now, the kernel notes it. -/
def update (s : PollerScene) (i : Nat) (socket : Socket) : PollerScene :=
  let s := { s with sockets := s.sockets.setIfInBounds i socket }
  if s.poller.interest.contains (i : Int) && socket.ready then { s with queue := s.queue.push i }
  else s

/-- Registers a connection. -/
def add (s : PollerScene) (i : Nat) (socket : Socket) : Except PollerError Unit × PollerScene :=
  if s.poller.closed then (.error .closed, s)
  else
    let (mode, socket) := socket.setNonBlocking
    let (result, poller) := s.poller.add i mode socket.watchable
    (result, { s with poller }.update i socket)

/-- Registers the connections from `i` on, `n` of them. -/
def addFrom (s : PollerScene) (i : Nat) : Nat → List (Except PollerError Unit) × PollerScene
  | 0 => ([], s)
  | n + 1 =>
    match s.sockets[i]? with
    | none => ([], s)
    | some socket =>
      let (result, s) := s.add i socket
      let (results, s) := s.addFrom (i + 1) n
      (result :: results, s)

/-- What the system says to a wait. -/
def readiness (s : PollerScene) : Readiness :=
  { marks := fun conns => .ok (conns.filter fun d => s.isReady d.toNat)
    fills := fun places => .ok ((s.queue.take s.isReady places).1.map Int.ofNat) }

/-- The kernel's queue after a wait. -/
def queueAfter (s : PollerScene) (most : Nat) : ReadyQueue :=
  match s.poller.backend with
  | .pollList => s.queue
  | _ => if s.poller.closed then s.queue else (s.queue.take s.isReady (s.poller.capacity most)).2

/-- One wait: the numbers of the connections reported, in order. -/
def waitOnce (s : PollerScene) (most : Nat) : Except PollerError (List Nat) × PollerScene :=
  let (result, poller, _) := s.poller.wait most s.readiness
  (result.map (·.map Int.toNat), { s with poller, queue := s.queueAfter most })

/-- Several waits in a row; one that fails does not end them. -/
def waitTimes (s : PollerScene) (most : Nat) :
    Nat → List (Except PollerError (List Nat)) × PollerScene
  | 0 => ([], s)
  | n + 1 =>
    let (round, s) := s.waitOnce most
    let (rounds, s) := s.waitTimes most n
    (round :: rounds, s)

/-- The rounds with connections numbered by first appearance. -/
def renumber (rounds : List (Except PollerError (List Nat))) :
    List (Except PollerError (List Nat)) :=
  let order := (rounds.filterMap Except.toOption).flatten.eraseDups
  rounds.map fun round => round.map (·.map fun i => order.idxOf i)

/-- Opens connections, up to the first that cannot be made. -/
def openMany (s : PollerScene) (kind : SocketKind) : Nat → Option PollerScene
  | 0 => some s
  | n + 1 => do
    let socket ← Socket.open? s.network kind
    openMany { s with sockets := s.sockets.push socket } kind n

/-- Something done with one connection. -/
def withSocket (s : PollerScene) (i : Nat) (f : Socket → Outcome × Socket) :
    Outcome × PollerScene :=
  match s.sockets[i]? with
  | none => (.unknown, s)
  | some socket =>
    let (outcome, socket) := f socket
    (outcome, s.update i socket)

/-- Shuts connections down. -/
def shutDown (s : PollerScene) : List Nat → PollerScene
  | [] => s
  | i :: is =>
    match s.sockets[i]? with
    | none => s.shutDown is
    | some socket =>
      { s with sockets := s.sockets.setIfInBounds i { socket with shut := true } }.shutDown is

/-- One step; none if the scene breaks down because a connection cannot be made. -/
def step (s : PollerScene) : Step → Option (Outcome × PollerScene)
  | .opening kind count => do
    let s ← s.openMany kind count
    return (.count s.sockets.size, s)
  | .add i =>
    match s.sockets[i]? with
    | none => some (.unknown, s)
    | some socket =>
      let (result, s) := s.add i socket
      some (ofResult result, s)
  | .addAll =>
    let (results, s) := s.addFrom 0 s.sockets.size
    some (.each results, s)
  | .remove i =>
    let (result, poller) := s.poller.remove i (.ok ())
    let queue := if result.isOk then s.queue.filter (· ≠ i) else s.queue
    some (ofResult result, { s with poller, queue })
  | .write i text =>
    some (s.withSocket i fun socket =>
      let (sent, socket) := socket.peerSend text
      (ofSent sent, socket))
  | .reply i text =>
    some (s.withSocket i fun socket =>
      let (sent, socket) := socket.reply text
      (ofSent sent, socket))
  | .read i =>
    some (s.withSocket i fun socket =>
      match socket.readAll with
      | (some seen, socket) => (.seen seen, socket)
      | (none, socket) => (.blocking, socket))
  | .peerRead i =>
    some (s.withSocket i fun socket =>
      match socket.peerReadAll with
      | (some seen, socket) => (.seen seen, socket)
      | (none, socket) => (.noPeer, socket))
  | .hangUp i => some (s.withSocket i fun socket => (.ok, socket.hangUp))
  | .halfClose i =>
    some (s.withSocket i fun socket =>
      let (there, socket) := socket.halfClose
      (if there then .ok else .noPeer, socket))
  | .wait most =>
    match s.waitOnce most with
    | (.ok ready, s) => some (.ready (ready.mergeSort (· ≤ ·)), s)
    | (.error e, s) => some (.error e, s)
  | .rotate most times =>
    let (rounds, s) := s.waitTimes most times
    some (.rounds (renumber rounds), s)
  | .close closeConns =>
    let (closing, poller, _) := s.poller.close closeConns
    some (.ok, { s with poller, queue := [] }.shutDown (closing.map Int.toNat))

end PollerScene
end StreamGateway
