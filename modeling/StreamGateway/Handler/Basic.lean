import StreamGateway.Handler.Job
import StreamGateway.Handler.Response
import StreamGateway.Protocol.Link

/-! # Connection handlers

One client's conversation together with the subscriptions it has running. Messages are handled one
at a time; calls to the engine are only put in line here (`submitted`) and made elsewhere, so that a
slow engine never holds up reading. Only a client that leaves, or one that cannot be told about a
bad request, ends the connection. -/
namespace StreamGateway

open Json (Raw)

/-- A connection with its running subscriptions. -/
structure Handler (τ : Type) where
  id : Nat
  link : Link τ
  /-- What the client sent with its handshake. -/
  initialPayload : Option Raw := none
  /-- The number of the subscription that runs under an operation id. -/
  subscriptions : List (String × Nat) := []
  /-- The number given last. Fewer than `2 ^ 64` are assumed to be given, so none comes twice. -/
  lastNumber : Nat := 0
  closed : Bool := false
  /-- Work for the engine that was not picked up yet, in order. -/
  submitted : List Job := []
  /-- The change in the number of running subscriptions; none if nothing was ever counted. -/
  counted : Option Int := none
  /-- What was logged and not picked up yet. -/
  journal : Log.Journal := []

/-- A handler before anything has happened to it. -/
def Handler.fresh {τ : Type} (id : Nat) (subprotocol : Subprotocol) (transport : τ) : Handler τ :=
  { id, link := .fresh subprotocol transport }

namespace Handler

variable {τ : Type} [Transport τ]

/-! ### Bookkeeping -/

def target : String := "gate_ws::handler"

/-- Logs something about this connection. -/
def log (h : Handler τ) (level : Log.Level) (message : String)
    (fields : List (String × Log.Value)) : Handler τ :=
  { h with journal := h.journal ++
    [{ level, target, message, fields := ("connection_id", .number h.id) :: fields }] }

/-- Logs what the protocol reports. -/
def logAll (h : Handler τ) (events : Log.Journal) : Handler τ :=
  { h with journal := h.journal ++ events }

/-- Counts subscriptions that begin or end. -/
def count (h : Handler τ) (change : Int) : Handler τ :=
  { h with counted := some (h.counted.getD 0 + change) }

/-- The number under which an operation runs. -/
def number? (h : Handler τ) (operationId : String) : Option Nat :=
  h.subscriptions.lookup operationId

/-- The operation runs under this number. -/
def isRunning (h : Handler τ) (operationId : String) (number : Nat) : Bool :=
  h.number? operationId = some number

/-- Takes an operation off the running ones. -/
def forget (h : Handler τ) (operationId : String) : Handler τ :=
  match h.number? operationId with
  | none => h
  | some _ =>
    { h with subscriptions := h.subscriptions.filter (·.1 ≠ operationId) }.count (-1)

def submit (h : Handler τ) (job : Job) : Handler τ := { h with submitted := h.submitted ++ [job] }

/-- Puts the outcome of a call on the link into the handler. -/
def withLink {α : Type} (h : Handler τ) (outcome : Except ProtocolError α × Link τ) :
    Except GatewayError α × Handler τ :=
  (outcome.1.mapError .protocol, { h with link := outcome.2 })

/-- How a handler shows in logs. -/
def text (h : Handler τ) : String :=
  "ConnectionHandler \x7b id: " ++ toString h.id ++ ", protocol: " ++
    Text.quoted h.link.session.subprotocol.name ++ ", closed: " ++
    (if h.closed then "true" else "false") ++ ", .. \x7d"

/-! ### Messages of the client -/

/-- The handshake. -/
def handshake (h : Handler τ) : Except GatewayError Unit × Handler τ :=
  let (result, link) := h.link.handshake
  let h := { h with link }.logAll (Link.handshakeEvents link.session.subprotocol result)
  match result with
  | .error e => (.error (.protocol e), h)
  | .ok payload =>
    (.ok (), { h with initialPayload := payload }.log .debug "websocket connection initialized"
      [("protocol", .text link.session.subprotocol.name)])

/-- Starts a subscription under the next number, unless its id is empty or taken. -/
def subscribe (h : Handler τ) (m : Message) : Except GatewayError Unit × Handler τ :=
  if m.id = "" then (.error .missingId, h)
  else if (h.number? m.id).isSome then (.error (.duplicateSubscription m.id), h)
  else
    let number := h.lastNumber + 1
    let request : SubscribeRequest := ⟨⟨h.id, number⟩, m.id, m.payload, h.initialPayload⟩
    let h := { h with
      lastNumber := number, subscriptions := (m.id, number) :: h.subscriptions }.count 1
    let h := h.log .debug "subscribe"
      [("subscription_id", .number number), ("operation_id", .shown m.id)]
    (.ok (), h.submit (.subscribe request))

/-- Tells the client about a bad request in a plain text. Channel clients understand nothing but
channel messages, so they are told nothing. -/
def requestError (h : Handler τ) (e : GatewayError) : Except GatewayError Unit × Handler τ :=
  let h := h.log .warn "handling websocket connection" [("error", .shown e.message)]
  match h.link.session.subprotocol with
  | .absinthe => (.ok (), h)
  | _ => h.withLink (h.link.send e.message)

/-- Ends a subscription at the client's wish. -/
def complete (h : Handler τ) (m : Message) : Except GatewayError Unit × Handler τ :=
  match h.number? m.id with
  | none => h.requestError (.unknownSubscription m.id)
  | some number => (.ok (), (h.forget m.id).submit (.unsubscribe ⟨h.id, number⟩))

/-- Handles one message. -/
def handle (h : Handler τ) (m : Message) : Except GatewayError Unit × Handler τ :=
  match m.kind with
  | .terminate => (.error .clientTerminated, h)
  | .ping =>
    match h.withLink (h.link.pong m) with
    | (.ok (), h) => (.ok (), h)
    | (.error e, h) => (.ok (), h.log .debug "sending pong" [("error", .shown e.message)])
  | .pong => (.ok (), h)
  | .subscribe =>
    match h.subscribe m with
    | (.ok (), h) => (.ok (), h)
    | (.error e, h) => (.ok (), h.log .warn "handling subscribe" [("error", .shown e.message)])
  | .complete => h.complete m

/-- Reads one message. -/
def readMessage (h : Handler τ) : Except ProtocolError Message × Handler τ :=
  let (result, link) := h.link.read
  (result, { h with link }.logAll (Link.messageEvents link.session.subprotocol result))

/-- Reads and handles one message. -/
def readOne (h : Handler τ) : Except GatewayError Unit × Handler τ :=
  match h.readMessage with
  | (.error e, h) => (.error (.protocol e), h)
  | (.ok m, h) => h.handle m

/-! ### Reading on -/

/-- How a turn of reading ended. -/
inductive Turn where
  /-- A message was handled. -/
  | handled
  /-- There was nothing to read. -/
  | idle
  | failed (e : GatewayError)
deriving DecidableEq

/-- One turn of a drain: handles a message if there is one. -/
def turn (h : Handler τ) : Turn × Handler τ :=
  match h.readMessage with
  | (.error e, h) => if e.isWouldBlock then (.idle, h) else (.failed (.protocol e), h)
  | (.ok m, h) =>
    match h.handle m with
    | (.ok (), h) => (.handled, h)
    | (.error e, h) => (.failed e, h)

/-- Handles messages until there is nothing to read, for at most `turns` turns. A drain that ran out
of turns ends with `handled`. -/
def drain : Nat → Handler τ → Turn × Handler τ
  | 0, h => (.handled, h)
  | turns + 1, h =>
    match h.turn with
    | (.handled, h) => drain turns h
    | ended => ended

/-- One turn of a reader of its own, which waits again when nothing came in time. -/
def patientTurn (h : Handler τ) : Turn × Handler τ :=
  match h.readOne with
  | (.ok (), h) => (.handled, h)
  | (.error (.protocol e), h) => if e.isTimeout then (.idle, h) else (.failed (.protocol e), h)
  | (.error e, h) => (.failed e, h)

/-! ### Results of the engine -/

/-- An error of the link as one of the handler; a call that broke down is a failed task. -/
def ofFailure : Failure → GatewayError
  | .error e => .protocol e
  | .crash => .task

/-- Sends errors for an operation. -/
def sendErrors (h : Handler τ) (operationId : String) (errors : Raw) (extensions : Option Raw) :
    Except GatewayError Unit × Handler τ :=
  let (result, link) := h.link.writeErrors operationId errors extensions
  (result.mapError ofFailure, { h with link })

/-- Sends a response, as errors if it has any, otherwise as a result. -/
def respond (h : Handler τ) (operationId : String) (response : Raw) :
    Except GatewayError Unit × Handler τ :=
  match Response.parse response with
  | .error p => (.error (.protocol (.malformed p)), h)
  | .ok shape =>
    match shape.failures? with
    | some errors => h.sendErrors operationId errors shape.extensions
    | none => h.withLink (h.link.writeData operationId response none)

/-- Ends an operation at the engine's wish. -/
def finish (h : Handler τ) (operationId : String) : Except GatewayError Unit × Handler τ :=
  let h := h.forget operationId
  h.withLink (h.link.done operationId)

/-- Tells the client that the engine refused an operation, and ends it. An operation whose refusal
cannot be sent is not ended. -/
def reject (h : Handler τ) (operationId : String) (message : String) :
    Except GatewayError Unit × Handler τ :=
  match h.sendErrors operationId (Response.errorsOf message) none with
  | (.error e, h) => (.error e, h)
  | (.ok (), h) => h.finish operationId

end Handler

/-- The engine sends a response through a sink. -/
def Sink.next {τ : Type} [Transport τ] (s : Sink) (h : Handler τ) (response : Raw) :
    Except GatewayError Unit × Handler τ :=
  h.respond s.operationId response

/-- The engine ends a subscription through its sink. -/
def Sink.complete {τ : Type} [Transport τ] (s : Sink) (h : Handler τ) :
    Except GatewayError Unit × Handler τ :=
  h.finish s.operationId

/-! ### Closing -/

namespace Handler

variable {τ : Type} [Transport τ]

/-- The first step of closing; tells whether the handler was closed before. -/
def markClosed (h : Handler τ) : Bool × Handler τ :=
  if h.closed then (true, h)
  else
    (false, { h with closed := true }.log .debug "closing websocket connection"
      [("open_operations", .number h.link.session.opened.length)])

/-- The engine's answer to ending all subscriptions of the client. -/
def clientUnsubscribed (h : Handler τ) (answer : Except EngineError Unit) : Handler τ :=
  match answer with
  | .ok () => h
  | .error e => h.log .debug "unsubscribing client" [("error", .shown e.message)]

/-- Takes all operations off the running ones. -/
def forgetAll (h : Handler τ) : Handler τ :=
  { h with subscriptions := [] }.count (-h.subscriptions.length)

/-- Ends the connection. -/
def disconnect (h : Handler τ) : Handler τ :=
  match h.withLink (h.link.close 1000 "") with
  | (.ok (), h) => h
  | (.error e, h) => h.log .debug "closing websocket connection" [("error", .shown e.message)]

/-- Closes the handler in one go, unless it is closed; tells whether the engine was called. -/
def close (h : Handler τ) (answer : Except EngineError Unit) : Bool × Handler τ :=
  match h.markClosed with
  | (true, h) => (false, h)
  | (false, h) => (true, ((h.clientUnsubscribed answer).forgetAll).disconnect)

end Handler
end StreamGateway
