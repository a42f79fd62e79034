import StreamGateway.Log.Event
import StreamGateway.Poller.Error

/-! # The poller

A registry of connections together with a backend that says which of them can be read. What the
system answers to a call (whether a descriptor could be switched or watched, which ones are ready)
is an argument of the step that makes the call, so every behaviour of the system is covered. Calls
that take a lock in between are split at the lock: `enrol` is the locked part of `add`, and closing
is `shut`, `drain` and `closeBackend`. -/
namespace StreamGateway

/-- How a poller is made. -/
structure PollerConfig where
  backend : Backend := .auto
  /-- How long a wait may last. -/
  timeoutMs : UInt64 := 1000
  /-- How many connections are expected, and how many are reported at once by the kernel. -/
  bufferSize : UInt64 := 128
deriving DecidableEq

/-- How the system answers a wait, which depends on what it is asked. -/
structure Readiness where
  /-- Of the connections that are handed over, in any order, those it marks. -/
  marks : List Descriptor → Except Fault (List Descriptor)
  /-- Of its own list, what it fills into a buffer with so many places. -/
  fills : Nat → Except Fault (List Descriptor)

/-- The same answer, whatever is asked. -/
def Readiness.always (answer : Except Fault (List Descriptor)) : Readiness :=
  { marks := fun _ => answer, fills := fun _ => answer }

/-- A registry of connections that wait for input. -/
structure Poller where
  /-- The backend in use. -/
  backend : Backend
  timeoutMs : UInt64
  bufferSize : UInt64
  closed : Bool := false
  /-- The registered connections, in the order of registration. -/
  conns : List Descriptor := []
  /-- What the kernel watches, for a backend that has a list of its own there. -/
  interest : List Descriptor := []
  /-- The kernel's list still exists. -/
  backendOpen : Bool := true
  /-- Where the next capped wait on a list starts. -/
  cursor : UInt64 := 0
deriving DecidableEq

namespace Poller

def target : String := "gate_netpoll::poller"

/-- The largest number of entries for which a table can be laid out in memory. -/
def largestTable : Nat := 7 * Nat.pow 2 55

/-- A poller, and what is logged about it; none if its table cannot be laid out. -/
def create? (config : PollerConfig) : Option (Poller × Log.Journal) :=
  if largestTable < config.bufferSize.toNat then none
  else
    let backend := config.backend.resolved
    let kernel : Log.Journal :=
      if backend = .epoll then
        [{ level := .trace, target := "gate_netpoll::backend::epoll"
           message := "epoll instance created" }]
      else []
    let created : Log.Event :=
      { level := .debug, target, message := "poller created"
        fields := [("backend", .shown backend.name),
          ("timeout_ms", .number config.timeoutMs.toNat)] }
    some ({ backend, timeoutMs := config.timeoutMs, bufferSize := config.bufferSize },
      kernel ++ [created])

/-- Number of registered connections. -/
def size (p : Poller) : Nat := p.conns.length

/-- The backend reports on this connection. -/
def watches (p : Poller) (d : Descriptor) : Bool :=
  match p.backend with
  | .pollList => p.conns.contains d
  | _ => p.interest.contains d

/-! ### Registering -/

/-- What is said about a kernel list that does not exist any more. -/
def backendClosed : Fault := ⟨.notConnected, "epoll instance closed"⟩

/-- The backend starts to watch a connection, if the system lets it. -/
def watch (p : Poller) (d : Descriptor) (system : Except Fault Unit) : Except Fault Poller :=
  match p.backend with
  | .pollList => .ok p
  | _ =>
    if p.backendOpen then system.map fun _ => { p with interest := p.interest ++ [d] }
    else .error backendClosed

/-- The backend stops watching a connection, if the system lets it. -/
def unwatch (p : Poller) (d : Descriptor) (system : Except Fault Unit) : Except Fault Poller :=
  match p.backend with
  | .pollList => .ok p
  | _ =>
    if p.backendOpen then system.map fun _ => { p with interest := p.interest.filter (· ≠ d) }
    else .error backendClosed

/-- Registers a connection that is non-blocking already. -/
def enrol (p : Poller) (d : Descriptor) (system : Except Fault Unit) :
    Except PollerError Unit × Poller :=
  if p.conns.contains d then (.error (.alreadyRegistered d), p)
  else match p.watch d system with
    | .error f => (.error (.fault f), p)
    | .ok p => (.ok (), { p with conns := p.conns ++ [d] })

/-- Registers a connection. `mode` is the answer to switching it to non-blocking, `system` the
answer to watching it. -/
def add (p : Poller) (d : Descriptor) (mode system : Except Fault Unit) :
    Except PollerError Unit × Poller :=
  if p.closed then (.error .closed, p)
  else match mode with
    | .error f => (.error (.nonBlocking d f), p)
    | .ok () => p.enrol d system

/-- Takes a connection off the registry; it is left open. -/
def remove (p : Poller) (d : Descriptor) (system : Except Fault Unit) :
    Except PollerError Unit × Poller :=
  if !p.conns.contains d then (.error (.notRegistered d), p)
  else
    let p := { p with conns := p.conns.filter (· ≠ d) }
    match p.unwatch d system with
    | .error f => (.error (.fault f), p)
    | .ok p => (.ok (), p)

/-! ### Waiting -/

/-- How many places the buffer has that the kernel is to fill when `most` are asked for. -/
def capacity (p : Poller) (most : Nat) : Nat := max 1 (min (max 1 most) (max 1 p.bufferSize.toNat))

/-- At most `most` of the ready connections; when there are more, those that follow the ones chosen
before, in a cycle. -/
def choose (cursor : UInt64) (most : Nat) (ready : List Descriptor) : List Descriptor × UInt64 :=
  if ready.length ≤ most then (ready, cursor)
  else
    let start := cursor.toNat % ready.length
    ((ready.drop start ++ ready.take start).take most, cursor + .ofNat most)

/-- Each connection once, in the order of first appearance. -/
def distinct : List Descriptor → List Descriptor
  | [] => []
  | d :: ds => d :: (distinct ds).filter (· ≠ d)

/-- What the system says to a wait: a list is handed over, the kernel is asked to fill a buffer. -/
def ask (p : Poller) (most : Nat) (system : Readiness) : Except Fault (List Descriptor) :=
  match p.backend with
  | .pollList => system.marks p.conns
  | _ => system.fills (p.capacity most)

/-- The connections with input, at most `most` of them. A failed wait closes the poller. -/
def wait (p : Poller) (most : Nat) (system : Readiness) :
    Except PollerError (List Descriptor) × Poller × Log.Journal :=
  if p.closed then (.error .closed, p, [])
  else match p.ask most system with
    | .error f =>
      (.error (.wait f), { p with closed := true },
        [{ level := .warn, target, message := "poller wait failed, poller is no longer usable"
           fields := [("error", .shown f.text)] }])
    | .ok ready =>
      let (chosen, cursor) := match p.backend with
        | .pollList => choose p.cursor (max 1 most) ready
        | _ => (ready, p.cursor)
      (.ok ((distinct chosen).filter p.conns.contains), { p with cursor }, [])

/-! ### Closing -/

/-- Nothing can be registered or waited for any more; tells whether that was so before. -/
def shut (p : Poller) : Bool × Poller := (p.closed, { p with closed := true })

/-- Empties the registry. -/
def drain (p : Poller) : List Descriptor × Poller := (p.conns, { p with conns := [] })

/-- Gives the kernel's list up. -/
def closeBackend (p : Poller) : Poller := { p with backendOpen := false, interest := [] }

/-- Closes the poller; gives the connections that are to be closed with it. -/
def close (p : Poller) (closeConns : Bool) : List Descriptor × Poller × Log.Journal :=
  let (before, p) := p.shut
  if before ∧ p.conns.isEmpty then ([], p, [])
  else
    let (drained, p) := p.drain
    (if closeConns then drained else [], p.closeBackend,
      [{ level := .debug, target, message := "poller closed"
         fields := [("connections", .number drained.length), ("close_conns", .flag closeConns)] }])

end Poller
end StreamGateway
