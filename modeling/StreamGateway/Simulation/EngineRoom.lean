import StreamGateway.Gateway.Step
import StreamGateway.WebSocket.Connection

/-! # A gateway with a scripted engine

A gateway whose engine follows a script. Whatever can go on goes on, always the most urgent task
first, until nothing moves any more; calls that the script holds wait until they are released. -/
namespace StreamGateway

open Json (Raw)

/-- How the engine answers a call. -/
inductive Verdict where
  | ok
  | reject
  | unavailable
  | unknown
deriving DecidableEq

def Verdict.answer (v : Verdict) (message : String) (id : SubscriptionId) :
    Except EngineError Unit :=
  match v with
  | .ok => .ok ()
  | .reject => .error (.rejected message)
  | .unavailable => .error (.unavailable message)
  | .unknown => .error (.unknownSubscription id)

/-- What the engine does with the calls it gets. -/
structure EngineScript where
  /-- The answer to a subscription; none holds the call until it is released. -/
  subscribe : Option Verdict := some .ok
  unsubscribe : Verdict := .ok
  unsubscribeClient : Verdict := .ok
  /-- The reason that refusals give. -/
  message : String := ""
  /-- The responses that a subscription sends at once. -/
  responses : List Raw := []
  /-- A subscription ends at once. -/
  complete : Bool := false

/-- Something that happened at the engine. -/
inductive EngineEvent where
  | subscribe (request : SubscribeRequest)
  | emitted (id : SubscriptionId) (result : Except GatewayError Unit)
  | completed (id : SubscriptionId) (result : Except GatewayError Unit)
  | unsubscribe (id : SubscriptionId)
  | unsubscribeClient (connection : Nat)

/-- A gateway, its engine, and what happened at the engine since the last report. -/
structure EngineRoom where
  gateway : Gateway WebSocket
  script : EngineScript := {}
  /-- Tasks whose call the engine holds, in order. -/
  held : List Nat := []
  /-- The sinks that the engine was given. -/
  sinks : List Sink := []
  /-- How the upgrades of tasks end. -/
  upgrades : List (Nat × Except GatewayError (WebSocket × Subprotocol)) := []
  events : List EngineEvent := []

namespace EngineRoom

def note (r : EngineRoom) (e : EngineEvent) : EngineRoom := { r with events := r.events ++ [e] }

/-! ### Sinks -/

/-- Uses the sink of a subscription, if the engine has one. -/
def useSink (r : EngineRoom) (id : SubscriptionId)
    (f : Sink → Handler WebSocket → Except GatewayError Unit × Handler WebSocket) :
    Option (Except GatewayError Unit) × EngineRoom :=
  match r.sinks.find? (·.id = id) with
  | none => (none, r)
  | some sink =>
    if r.gateway.holds id.connection then
      let (result, gateway) :=
        r.gateway.withHandler id.connection (.error (.connectionGone id.connection)) (f sink)
      (some result, { r with gateway })
    else (some (.error (.connectionGone id.connection)), r)

/-- The engine sends a response. -/
def next (r : EngineRoom) (id : SubscriptionId) (response : Raw) :
    Option (Except GatewayError Unit) × EngineRoom :=
  r.useSink id fun sink h => sink.next h response

/-- The engine ends a subscription. -/
def complete (r : EngineRoom) (id : SubscriptionId) :
    Option (Except GatewayError Unit) × EngineRoom :=
  r.useSink id Sink.complete

/-- Sends the responses of the script. -/
def emitAll (r : EngineRoom) (id : SubscriptionId) : List Raw → EngineRoom
  | [] => r
  | response :: rest =>
    let (result, r) := r.next id response
    (r.note (.emitted id (result.getD (.ok ())))).emitAll id rest

/-! ### Calls -/

/-- The engine does what the script says about a subscription, and answers. -/
def perform (r : EngineRoom) (task : Nat) (request : SubscribeRequest) : EngineRoom :=
  let r := r.emitAll request.id r.script.responses
  let r :=
    if r.script.complete then
      let (result, r) := r.complete request.id
      r.note (.completed request.id (result.getD (.ok ())))
    else r
  let verdict := r.script.subscribe.getD .ok
  { r with gateway := r.gateway.step task { engine := verdict.answer r.script.message request.id } }

/-- A subscription reaches the engine. -/
def receive (r : EngineRoom) (task : Nat) (request : SubscribeRequest) : EngineRoom :=
  let r := { r.note (.subscribe request) with sinks := r.sinks ++ [request.sink] }
  match r.script.subscribe with
  | none => { r with held := r.held ++ [task] }
  | some _ => r.perform task request

/-- The engine goes on with calls that it held. -/
def performAll (r : EngineRoom) : List Nat → EngineRoom
  | [] => r
  | task :: rest =>
    match r.gateway.task? task with
    | some (.resolver (.subscribing request)) => (r.perform task request).performAll rest
    | _ => r.performAll rest

def release (r : EngineRoom) : EngineRoom := { r with held := [] }.performAll r.held

/-! ### Turns -/

/-- The connection has input, or is at its end. -/
def isReady (r : EngineRoom) (c : Nat) : Bool :=
  match r.gateway.handler? c with
  | some h => h.link.transport.ready
  | none => false

/-- The registered connections that have something to report. -/
def ready (r : EngineRoom) : List Descriptor :=
  match r.gateway.poller with
  | none => []
  | some p => p.conns.filter fun d => r.isReady d.toNat

/-- The task can go on by itself. -/
def canGo (r : EngineRoom) (i : Nat) (t : Activity) : Bool :=
  if t.isOver || r.gateway.waits i then false
  else match t with
    | .resolver (.subscribing _) => !r.held.contains i
    | .reader c .reading => r.gateway.shuttingDown || r.isReady c
    | .polling .resting | .polling .waiting => r.gateway.shuttingDown || !r.ready.isEmpty
    | .listener _ => r.gateway.shuttingDown
    | .shutdown _ .waiting => r.gateway.tracked = 0
    | .shutdown _ (.joining _) => Shutdown.pollingOver r.gateway
    | _ => true

/-- Tasks of lower rank have their turn first. -/
def rank : Activity → Nat
  | .shutdown _ _ => 0
  | .accept _ _ | .drain _ _ | .reader _ _ | .resolver _ => 1
  | .listener _ => 2
  | .polling _ => 3
  | .leftover _ _ => 4

/-- The task whose turn it is. -/
def next? (r : EngineRoom) : Option (Nat × Activity) :=
  let able := r.gateway.tasks.filter fun (i, t) => r.canGo i t
  (List.range 5).findSome? fun k => able.find? fun (_, t) => rank t = k

/-- A shutdown that waits in vain. -/
def expired? (r : EngineRoom) : Option Nat :=
  (r.gateway.tasks.find? fun
    | (_, .shutdown _ .waiting) => true
    | _ => false).map (·.1)

/-- What the script says to the call that a task makes next. -/
def verdict (r : EngineRoom) (t : Activity) : Except EngineError Unit :=
  match t with
  | .resolver stage =>
    match stage.call? with
    | some (.unsubscribe id) => r.script.unsubscribe.answer r.script.message id
    | _ => .ok ()
  | t => r.script.unsubscribeClient.answer r.script.message ⟨t.connection?.getD 0, 0⟩

/-- What happened at the engine in a step that left this history behind. -/
def observed : EngineCall × Except EngineError Unit → Option EngineEvent
  | (.subscribe _, _) => none
  | (.unsubscribe id, _) => some (.unsubscribe id)
  | (.unsubscribeClient c, _) => some (.unsubscribeClient c)

/-- A step of a task, with the answers of the script. -/
def step (r : EngineRoom) (i : Nat) (t : Activity) (expired : Bool) : EngineRoom :=
  let answers : Answers WebSocket :=
    { upgrade := (r.upgrades.lookup i).getD (.error .handshakeTimeout)
      ready := { marks := fun _ => .ok r.ready, fills := fun places => .ok (r.ready.take places) }
      engine := r.verdict t
      expired }
  let before := r.gateway.history.length
  let gateway := r.gateway.step i answers
  { r with gateway, events := r.events ++ (gateway.history.drop before).filterMap observed }

/-- The task whose turn it is takes it. -/
def turn (r : EngineRoom) (i : Nat) (t : Activity) : EngineRoom :=
  match t with
  | .resolver (.subscribing request) => r.receive i request
  | t => r.step i t false

/-- Goes on until nothing moves any more, for at most `turns` turns. -/
def settle : Nat → EngineRoom → EngineRoom
  | 0, r => r
  | turns + 1, r =>
    match r.next? with
    | some (i, t) => settle turns (r.turn i t)
    | none =>
      match r.expired? with
      | some i =>
        match r.gateway.task? i with
        | some t => settle turns (r.step i t true)
        | none => r
      | none => r

/-- More turns than any script in use needs. -/
def patience : Nat := 1000000

/-- Everything that was set off is done. -/
def rest (r : EngineRoom) : EngineRoom := r.settle patience

/-- Drops the tasks that are over. -/
def prune (r : EngineRoom) : EngineRoom :=
  { r with
    gateway := { r.gateway with tasks := r.gateway.tasks.filter fun (_, t) => !t.isOver }
    upgrades := [] }

/-! ### Reports -/

/-- What happened at the engine and in the log since the last time. -/
def take (r : EngineRoom) : List EngineEvent × Log.Journal × EngineRoom :=
  (r.events, r.gateway.journal,
    { r with events := [], gateway := { r.gateway with journal := [], history := [] } })

/-- Puts a departure among those directly in front of it, in the order of connections. -/
def insertDeparture (c : Nat) : List EngineEvent → List EngineEvent
  | .unsubscribeClient d :: rest =>
    if d < c then .unsubscribeClient d :: insertDeparture c rest
    else .unsubscribeClient c :: .unsubscribeClient d :: rest
  | rest => .unsubscribeClient c :: rest

/-- Departures that follow each other, in the order of connections. -/
def ordered : List EngineEvent → List EngineEvent
  | [] => []
  | .unsubscribeClient c :: rest => insertDeparture c (ordered rest)
  | e :: rest => e :: ordered rest

end EngineRoom
end StreamGateway
