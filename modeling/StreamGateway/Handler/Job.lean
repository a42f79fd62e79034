import StreamGateway.Gateway.Error
import StreamGateway.Json.Raw

/-! # Work for the engine

What a connection asks of the engine, and where the engine sends the results. -/
namespace StreamGateway

open Json (Raw)

/-- A subscription that is to be started. -/
structure SubscribeRequest where
  id : SubscriptionId
  /-- The id that the client chose. -/
  operationId : String
  payload : Option Raw
  /-- What the client sent with its handshake. -/
  initialPayload : Option Raw
deriving DecidableEq

/-- Work that waits for a worker. -/
inductive Job where
  | subscribe (request : SubscribeRequest)
  | unsubscribe (id : SubscriptionId)
deriving DecidableEq

/-- The subscription that a job is about. -/
def Job.id : Job → SubscriptionId
  | .subscribe request => request.id
  | .unsubscribe id => id

/-- A call that the engine has received. -/
inductive EngineCall where
  | subscribe (request : SubscribeRequest)
  | unsubscribe (id : SubscriptionId)
  | unsubscribeClient (connection : Nat)
deriving DecidableEq

/-- Where the engine sends the results of one subscription. -/
structure Sink where
  operationId : String
  id : SubscriptionId
deriving DecidableEq

def SubscribeRequest.sink (r : SubscribeRequest) : Sink := ⟨r.operationId, r.id⟩

/-- How a sink shows in the logs of an engine. -/
def Sink.text (s : Sink) : String :=
  "ResultSink \x7b operation_id: " ++ Text.quoted s.operationId ++
    ", id: SubscriptionId \x7b connection_id: " ++ toString s.id.connection ++
    ", subscription_id: " ++ toString s.id.number ++ " \x7d, .. \x7d"

end StreamGateway
