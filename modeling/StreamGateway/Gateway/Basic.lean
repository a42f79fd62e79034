import StreamGateway.Gateway.Meters
import StreamGateway.Gateway.Activity
import StreamGateway.Poller.Registry
import StreamGateway.Pool.Workers
import StreamGateway.Settings.Setting

/-! # The gateway

What all activities of a gateway share. Activities are tasks with numbers; those that need a worker
wait in one of two pools, one for connections with input and one for calls to the engine. What the
surrounding system and the engine say is an argument of each step (`Answers`), so every behaviour of
theirs is covered. -/
namespace StreamGateway

/-- A gateway at work. -/
structure Gateway (τ : Type) where
  settings : SocketSettings
  /-- Connections are read when the poller reports them; without one each has a reader of its
  own. -/
  poller : Option Poller
  /-- Every handler that was ever built. -/
  handlers : List (Handler τ) := []
  /-- The connections that are served. -/
  live : List Nat := []
  /-- The number given to the last connection. Fewer than `2 ^ 64` are assumed to be given. -/
  lastConnection : Nat := 0
  shuttingDown : Bool := false
  drains : Pool Nat
  resolvers : Pool Nat
  tasks : List (Nat × Activity) := []
  /-- The number given to the last task. -/
  lastTask : Nat := 0
  /-- The calls that the engine has answered, in order, with its answers. -/
  history : List (EngineCall × Except EngineError Unit) := []
  meters : Meters := {}
  journal : Log.Journal := []

/-- What the system and the engine say to a step. A step looks only at the answers to what it
asks. -/
structure Answers (τ : Type) where
  /-- A new connection can be prepared. -/
  setup : Except Fault Unit := .ok ()
  /-- How the upgrade went. -/
  upgrade : Except GatewayError (τ × Subprotocol) := .error .handshakeTimeout
  /-- The connection can be set up for reading. -/
  configure : Except Fault Unit := .ok ()
  /-- It can be switched to non-blocking. -/
  mode : Except Fault Unit := .ok ()
  watch : Except Fault Unit := .ok ()
  unwatch : Except Fault Unit := .ok ()
  ready : Readiness := .always (.ok [])
  engine : Except EngineError Unit := .ok ()
  /-- A reader that could go on notices the shutdown first. -/
  noticed : Bool := true
  /-- The time for a shutdown is over. -/
  expired : Bool := false

namespace Gateway

variable {τ : Type}

def target : String := "gate_ws::gateway"

def log (s : Gateway τ) (level : Log.Level) (message : String)
    (fields : List (String × Log.Value)) : Gateway τ :=
  { s with journal := s.journal ++ [{ level, target, message, fields }] }

/-- The end of a connection is only worth a warning if it is not the client who left. -/
def logEnd (s : Gateway τ) (connection : Nat) (e : GatewayError) : Gateway τ :=
  let fields := [("connection_id", .number connection), ("error", .shown e.message)]
  if e.isDisconnect then s.log .debug "websocket connection ended" fields
  else s.log .warn "handling websocket connection" fields

def isPolling (s : Gateway τ) : Bool := s.poller.isSome

/-- Connections registered with the poller. -/
def registered (s : Gateway τ) : Nat := (s.poller.map Poller.size).getD 0

def isLive (s : Gateway τ) (connection : Nat) : Bool := s.live.contains connection

/-! ### Tasks -/

def task? (s : Gateway τ) (i : Nat) : Option Activity := s.tasks.lookup i

/-- The task waits for a worker. -/
def waits (s : Gateway τ) (i : Nat) : Bool :=
  s.drains.waiting.contains i || s.resolvers.waiting.contains i

/-- Tasks that a shutdown waits for. -/
def tracked (s : Gateway τ) : Nat := s.tasks.countP fun (_, t) => t.isTracked && !t.isOver

/-- Begins a task. -/
def spawn (s : Gateway τ) (t : Activity) : Gateway τ :=
  { s with lastTask := s.lastTask + 1, tasks := s.tasks ++ [(s.lastTask + 1, t)] }

/-- Begins a task that reads a connection when there is a worker for it. -/
def spawnDrain (s : Gateway τ) (connection : Nat) : Gateway τ :=
  let s := s.spawn (.drain connection (.serving .draining))
  { s with drains := (s.drains.submit s.lastTask).fill }

/-- Begins a task that calls the engine when there is a worker for it. -/
def spawnResolver (s : Gateway τ) (job : Job) : Gateway τ :=
  let s := s.spawn (.resolver (.ofJob job))
  { s with resolvers := (s.resolvers.submit s.lastTask).fill }

/-- A task is at another stage; one that is over gives its worker back. -/
def setTask (s : Gateway τ) (i : Nat) (t : Activity) : Gateway τ :=
  let s := { s with tasks := s.tasks.map fun (j, u) => if j = i then (j, t) else (j, u) }
  if t.isOver then
    { s with drains := (s.drains.finish i).fill, resolvers := (s.resolvers.finish i).fill }
  else s

/-! ### Handlers -/

def handler? (s : Gateway τ) (connection : Nat) : Option (Handler τ) :=
  s.handlers.find? (·.id = connection)

/-- Some task or the gateway itself still keeps the connection. -/
def holds (s : Gateway τ) (connection : Nat) : Bool :=
  s.isLive connection ||
    s.tasks.any fun (_, t) => !t.isOver && t.connection? = some connection

/-- Puts a handler in its place. Its work goes in line, and its log and its counts are picked up. -/
def put (s : Gateway τ) (h : Handler τ) : Gateway τ :=
  let settled := { h with submitted := [], journal := [], counted := none }
  let s := { s with
    handlers := s.handlers.map fun g => if g.id = h.id then settled else g
    journal := s.journal ++ h.journal
    meters := s.meters.subscribed h.counted }
  h.submitted.foldl spawnResolver s

/-- Does something with a handler, if there is one. -/
def withHandler {α : Type} (s : Gateway τ) (connection : Nat) (absent : α)
    (f : Handler τ → α × Handler τ) : α × Gateway τ :=
  match s.handler? connection with
  | none => (absent, s)
  | some h =>
    let (a, h) := f h
    (a, s.put h)

/-- Changes a handler, if there is one. -/
def modifyHandler (s : Gateway τ) (connection : Nat) (f : Handler τ → Handler τ) : Gateway τ :=
  match s.handler? connection with
  | none => s
  | some h => s.put (f h)

/-- Notes what the engine said to a call. -/
def answered (s : Gateway τ) (call : EngineCall) (answer : Except EngineError Unit) : Gateway τ :=
  { s with history := s.history ++ [(call, answer)] }

/-! ### Beginning -/

/-- A gateway that nobody has connected to. It refuses to start when it is switched off; none stands
for settings that ask for more than can be laid out. -/
def create? (settings : SocketSettings) : Option (Except GatewayError (Gateway τ)) :=
  if !settings.enabled then some (.error .disabled)
  else do
    let poller ←
      if settings.enablePoller then
        (Poller.create? ⟨settings.backend, settings.pollTimeoutMs,
          settings.connectionBufferSize⟩).map some
      else pure none
    let drains ← Pool.create? settings.maxConcurrentResolvers.toNat
    let resolvers ← Pool.create? settings.maxConcurrentResolvers.toNat
    let s : Gateway τ :=
      { settings, poller := poller.map (·.1), drains, resolvers
        journal := (poller.map (·.2)).getD [] }
    match poller with
    | some (p, _) =>
      let s := s.log .info "subscription gateway started in poll mode"
        [("backend", .shown p.backend.name)]
      return .ok (s.spawn (.polling .resting))
    | none => return .ok (s.log .info "subscription gateway started in per-connection mode" [])

/-- How a gateway shows in logs. -/
def text (s : Gateway τ) : String :=
  "SubscriptionGateway \x7b polling: " ++ (if s.isPolling then "true" else "false") ++
    ", connections: " ++ toString s.live.length ++ ", tasks: " ++ toString s.tracked ++ ", .. \x7d"

end Gateway
end StreamGateway
