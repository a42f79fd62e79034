import StreamGateway.Handler.Basic

/-! # Resolvers

The tasks that make a handler's calls to the engine. A task goes through stages; between two stages
anything else may happen to the handler. When the engine has started a subscription that does not
run any more, it is stopped again; when the engine refuses one, the client is told. -/
namespace StreamGateway

/-- Where a task stands. -/
inductive Resolver where
  /-- The engine is asked to start a subscription. -/
  | subscribing (request : SubscribeRequest)
  /-- The engine has started it; is it still wanted? -/
  | checking (sink : Sink)
  /-- It is not; the engine is asked to stop it. -/
  | cancelling (id : SubscriptionId)
  /-- The engine has refused it; the client is told. -/
  | reporting (sink : Sink) (e : EngineError)
  /-- The engine is asked to stop a subscription that the client has ended. -/
  | unsubscribing (id : SubscriptionId)
  | finished
deriving DecidableEq

namespace Resolver

/-- The task that does a job. -/
def ofJob : Job → Resolver
  | .subscribe request => .subscribing request
  | .unsubscribe id => .unsubscribing id

/-- The call whose answer the task waits for. -/
def call? : Resolver → Option EngineCall
  | .subscribing request => some (.subscribe request)
  | .cancelling id | .unsubscribing id => some (.unsubscribe id)
  | _ => none

/-- The connection that the task works for. -/
def connection? : Resolver → Option Nat
  | .subscribing request => some request.id.connection
  | .checking sink | .reporting sink _ => some sink.id.connection
  | .cancelling id | .unsubscribing id => some id.connection
  | .finished => none

variable {τ : Type} [Transport τ]

/-- Goes on to the next stage. `answer` is what the engine says to the call of this stage, if there
is one. -/
def step (answer : Except EngineError Unit) (h : Handler τ) : Resolver → Resolver × Handler τ
  | .subscribing request =>
    match answer with
    | .ok () => (.checking request.sink, h)
    | .error e =>
      (.reporting request.sink e, h.log .warn "subscription rejected"
        [("subscription_id", .number request.id.number), ("error", .shown e.message)])
  | .checking sink =>
    (if h.isRunning sink.operationId sink.id.number then .finished else .cancelling sink.id, h)
  | .cancelling id =>
    match answer with
    | .ok () => (.finished, h)
    | .error e =>
      (.finished, h.log .debug "cancelling subscription"
        [("subscription_id", .number id.number), ("error", .shown e.message)])
  | .reporting sink e =>
    match h.reject sink.operationId e.message with
    | (.ok (), h) => (.finished, h)
    | (.error e, h) =>
      (.finished, h.log .debug "reporting rejected subscription" [("error", .shown e.message)])
  | .unsubscribing id =>
    match answer with
    | .ok () => (.finished, h)
    | .error e =>
      (.finished, h.log .warn "handling complete"
        [("subscription_id", .number id.number), ("error", .shown e.message)])
  | .finished => (.finished, h)

end Resolver
end StreamGateway
