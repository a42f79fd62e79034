import StreamGateway.Poller.Registry

/-! # Sockets in memory

Connected streams with their peers, as far as a poller can tell them apart, and the kernel's queue
of ready descriptors. `Network` says whether streams over the loopback interface can be made at
all. -/
namespace StreamGateway

/-- What the surrounding system offers. -/
inductive Network where
  | loopback
  /-- No connection over the network can be made. -/
  | isolated
deriving DecidableEq

/-- What a descriptor stands for. -/
inductive SocketKind where
  | pair
  | network
  | file
  /-- A handle that can only be passed around. -/
  | handle
deriving DecidableEq

/-- The other end of a stream. -/
inductive Peer where
  | none
  | active
  /-- It sends no more. -/
  | silent
  | gone
deriving DecidableEq

/-- A descriptor with what waits at both ends. -/
structure Socket where
  kind : SocketKind
  peer : Peer
  nonBlocking : Bool := false
  /-- Sent by the peer and not read yet. -/
  inbound : String := ""
  /-- Sent to the peer and not read by it yet. -/
  outbound : String := ""
  /-- Both directions have been shut down. -/
  shut : Bool := false
  /-- The peer went away before it had read everything, and no read has told so yet. -/
  reset : Bool := false
deriving DecidableEq

namespace Socket

/-- A new descriptor; none if the network has no way to make it. -/
def open? (network : Network) (kind : SocketKind) : Option Socket :=
  match kind with
  | .pair => some { kind, peer := .active }
  | .network =>
    match network with
    | .loopback => some { kind, peer := .active }
    | .isolated => none
  | .file | .handle => some { kind, peer := .none }

/-- Nothing more will come. -/
def atEnd (s : Socket) : Bool := s.shut || s.peer ≠ .active

/-- A read would not have to wait. -/
def ready (s : Socket) : Bool := s.inbound ≠ "" || s.atEnd

/-- The answer to switching to non-blocking. -/
def setNonBlocking (s : Socket) : Except Fault Unit × Socket :=
  match s.kind with
  | .handle => (.error ⟨.other, "Bad file descriptor (os error 9)"⟩, s)
  | _ => (.ok (), { s with nonBlocking := true })

/-- The kernel's answer to watching the descriptor. -/
def watchable (s : Socket) : Except Fault Unit :=
  match s.kind with
  | .file => .error ⟨.permissionDenied, "Operation not permitted (os error 1)"⟩
  | _ => .ok ()

/-- How sending ended. -/
inductive Sent where
  | ok
  | failed
  | noPeer
deriving DecidableEq

/-- The peer sends. Sending nothing is left undone, so it cannot fail. -/
def peerSend (s : Socket) (text : String) : Sent × Socket :=
  match s.peer with
  | .none | .gone => (.noPeer, s)
  | .silent => (if text = "" then .ok else .failed, s)
  | .active =>
    if text = "" then (.ok, s)
    else if s.shut then (.failed, s)
    else (.ok, { s with inbound := s.inbound ++ text })

/-- The connection sends; again nothing can always be sent. -/
def reply (s : Socket) (text : String) : Sent × Socket :=
  if text = "" then (.ok, s)
  else
    match s.peer with
    | .none | .gone => (.failed, s)
    | _ => if s.shut then (.failed, s) else (.ok, { s with outbound := s.outbound ++ text })

/-- Why a read stops. -/
inductive Ending where
  /-- More may come. -/
  | pending
  /-- Nothing more will come. -/
  | finished
  /-- The connection was reset. -/
  | reset
deriving DecidableEq

/-- All that can be read now, and why there is no more. -/
structure Seen where
  text : String
  ending : Ending
deriving DecidableEq

/-- The connection reads all it can; none if it would have to wait for more. A reset is told once,
behind what was sent before it. -/
def readAll (s : Socket) : Option Seen × Socket :=
  if s.nonBlocking then
    let ending : Ending := if s.reset then .reset else if s.atEnd then .finished else .pending
    (some ⟨s.inbound, ending⟩, { s with inbound := "", reset := false })
  else (none, s)

/-- The peer reads all it can; none without a peer. -/
def peerReadAll (s : Socket) : Option Seen × Socket :=
  match s.peer with
  | .none | .gone => (none, s)
  | _ => (some ⟨s.outbound, if s.shut then .finished else .pending⟩, { s with outbound := "" })

/-- The peer goes away; what it has not read makes this a reset. -/
def hangUp (s : Socket) : Socket :=
  match s.peer with
  | .none | .gone => s
  | _ => { s with peer := .gone, reset := s.outbound ≠ "", outbound := "" }

/-- The peer stops sending; tells whether there was one. -/
def halfClose (s : Socket) : Bool × Socket :=
  match s.peer with
  | .none | .gone => (false, s)
  | _ => (true, { s with peer := .silent })

end Socket

/-- The kernel's queue of descriptors that may be ready. -/
abbrev ReadyQueue := List Nat

namespace ReadyQueue

/-- A descriptor became ready; one that is in the queue keeps its place. -/
def push (q : ReadyQueue) (i : Nat) : ReadyQueue := if q.contains i then q else q ++ [i]

/-- Looks through the queue until `room` ready descriptors are found: those, and what was not looked
at. Descriptors that are not ready any more are dropped. -/
def scan (ready : Nat → Bool) : Nat → ReadyQueue → List Nat × ReadyQueue
  | 0, q => ([], q)
  | _, [] => ([], [])
  | room + 1, i :: q =>
    if ready i then
      let (found, left) := scan ready room q
      (i :: found, left)
    else scan ready (room + 1) q

/-- Up to `room` ready descriptors; they go to the end of the queue. -/
def take (q : ReadyQueue) (ready : Nat → Bool) (room : Nat) : List Nat × ReadyQueue :=
  let (found, left) := scan ready room q
  (found, left ++ found)

end ReadyQueue
end StreamGateway
