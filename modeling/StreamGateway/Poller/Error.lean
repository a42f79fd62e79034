import StreamGateway.Poller.Backend
import StreamGateway.Protocol.Error

/-! # Errors of the poller -/
namespace StreamGateway

/-- The number by which the system knows a connection. -/
abbrev Descriptor := Int

/-- Why a call on the poller failed. -/
inductive PollerError where
  | unsupported (backend : Backend)
  | nonBlocking (descriptor : Descriptor) (fault : Fault)
  | alreadyRegistered (descriptor : Descriptor)
  | notRegistered (descriptor : Descriptor)
  | closed
  | wait (fault : Fault)
  | fault (fault : Fault)
deriving DecidableEq

namespace PollerError

def message : PollerError → String
  | .unsupported backend =>
    "readiness backend " ++ backend.name ++ " is not supported on this platform"
  | .nonBlocking d f => "failed to set descriptor " ++ toString d ++ " non-blocking: " ++ f.text
  | .alreadyRegistered d => "descriptor " ++ toString d ++ " is already registered"
  | .notRegistered d => "descriptor " ++ toString d ++ " is not registered"
  | .closed => "poller is closed"
  | .wait f => "poller wait failed: " ++ f.text
  | .fault f => "poller I/O error: " ++ f.text

/-- The poller cannot be waited on any more. -/
def isFatal : PollerError → Bool
  | .wait _ | .closed => true
  | _ => false

end PollerError
end StreamGateway
