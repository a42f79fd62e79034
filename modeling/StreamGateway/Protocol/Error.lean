import StreamGateway.Json.Problem

/-! # What can go wrong on a connection

Failures of the system below (`Fault`) and of the conversation with a client (`ProtocolError`). -/
namespace StreamGateway

/-! ### Faults of the system -/

/-- The kinds of system faults that are told apart. -/
inductive FaultKind where
  | wouldBlock
  | timedOut
  | unexpectedEnd
  | connectionReset
  | connectionAborted
  | brokenPipe
  | notConnected
  | interrupted
  | permissionDenied
  | connectionRefused
  | invalidData
  | other
deriving DecidableEq

namespace FaultKind

def description : FaultKind → String
  | .wouldBlock => "operation would block"
  | .timedOut => "timed out"
  | .unexpectedEnd => "unexpected end of file"
  | .connectionReset => "connection reset"
  | .connectionAborted => "connection aborted"
  | .brokenPipe => "broken pipe"
  | .notConnected => "not connected"
  | .interrupted => "operation interrupted"
  | .permissionDenied => "permission denied"
  | .connectionRefused => "connection refused"
  | .invalidData => "invalid data"
  | .other => "other error"

/-- The connection cannot be used any more. -/
def isClosed : FaultKind → Bool
  | .unexpectedEnd | .connectionReset | .connectionAborted | .brokenPipe | .notConnected => true
  | _ => false

end FaultKind

/-- A fault of the system, with its text. -/
structure Fault where
  kind : FaultKind
  text : String := kind.description
deriving DecidableEq

/-- Nothing to read at the moment, as the system words it. -/
def Fault.wouldBlock : Fault := ⟨.wouldBlock, "Resource temporarily unavailable (os error 11)"⟩

/-! ### Errors of a conversation -/

/-- Why a call on a connection's protocol failed. -/
inductive ProtocolError where
  | unsupportedSubprotocol (name : String)
  | handshake (expected got : String)
  | notInitialized
  | alreadyInitialized
  | unsupportedMessage (type : String)
  | malformed (problem : Json.Problem)
  | unknownOperation (id : String)
  | connectionClosed
  | fault (fault : Fault)
deriving DecidableEq

namespace ProtocolError

def message : ProtocolError → String
  | .unsupportedSubprotocol name => "unsupported subprotocol " ++ Text.quoted name
  | .handshake expected got =>
    "expected first message of type " ++ Text.quoted expected ++ ", got " ++ Text.quoted got
  | .notInitialized => "connection is not initialized"
  | .alreadyInitialized => "connection is already initialized"
  | .unsupportedMessage type => "unsupported message type " ++ Text.quoted type
  | .malformed problem => "malformed message: " ++ problem.message
  | .unknownOperation id => "no open operation with id " ++ Text.quoted id
  | .connectionClosed => "connection closed"
  | .fault f => f.text

/-- Nothing can be read at the moment. -/
def isWouldBlock : ProtocolError → Bool
  | .fault f => f.kind = .wouldBlock
  | _ => false

/-- Nothing came in time. -/
def isTimeout : ProtocolError → Bool
  | .fault f => f.kind = .wouldBlock || f.kind = .timedOut
  | _ => false

/-- The connection is gone. -/
def isClosed : ProtocolError → Bool
  | .connectionClosed => true
  | .fault f => f.kind.isClosed
  | _ => false

end ProtocolError

/-- How a call ends without a value: with an error, or by breaking down. -/
inductive Failure where
  | error (e : ProtocolError)
  | crash
deriving DecidableEq

end StreamGateway
