/-! # Readiness backends

The two ways to learn which connections can be read: a kernel-side interest list, and a list of
descriptors that is handed over at every wait. -/
namespace StreamGateway

/-- A choice of backend; `auto` leaves it to the system. -/
inductive Backend where
  | auto
  | epoll
  | pollList
deriving DecidableEq

namespace Backend

def name : Backend → String
  | .auto => "auto"
  | .epoll => "epoll"
  | .pollList => "poll-list"

/-- The spelling in settings. -/
def key : Backend → String
  | .auto => "auto"
  | .epoll => "epoll"
  | .pollList => "pollList"

/-- The backend that is used. -/
def resolved : Backend → Backend
  | .auto => .epoll
  | b => b

def all : List Backend := [.auto, .epoll, .pollList]

/-- The backend with this spelling in settings. -/
def ofKey? (s : String) : Option Backend := all.find? (·.key = s)

/-- The backend with this name. -/
def ofName? (s : String) : Option Backend := all.find? (·.name = s)

end Backend
end StreamGateway
