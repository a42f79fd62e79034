import StreamGateway.Number.Unsigned
import StreamGateway.Text.Blank
import StreamGateway.Poller.Backend
import StreamGateway.Json.Record

/-! # The settings

Two switches, a backend, and eight limits that must not be zero. `Setting` lists them in the order
in which they are written, checked and overridden; each has a key in documents and a variable in the
environment. -/
namespace StreamGateway

/-- How connections are served. -/
structure SocketSettings where
  enabled : Bool := true
  enablePoller : Bool := true
  backend : Backend := .auto
  pollTimeoutMs : UInt64 := 1000
  connectionBufferSize : UInt64 := 128
  maxEventsPerWait : UInt64 := 8
  maxConcurrentResolvers : UInt64 := 32
  handshakeTimeoutMs : UInt64 := 10000
  readTimeoutMs : UInt64 := 5000
  writeTimeoutMs : UInt64 := 10000
  maxMessageSize : UInt64 := 1048576
deriving DecidableEq

/-- All settings. -/
structure Settings where
  websocket : SocketSettings := {}
deriving DecidableEq

/-! ### Switches -/

/-- A setting that is on or off. -/
inductive Switch where
  | enabled
  | enablePoller
deriving DecidableEq

namespace Switch

def key : Switch → String
  | .enabled => "enabled"
  | .enablePoller => "enablePoller"

def envName : Switch → String
  | .enabled => "GATE_WS_ENABLED"
  | .enablePoller => "GATE_WS_POLLER"

def get (s : Switch) (ws : SocketSettings) : Bool :=
  match s with
  | .enabled => ws.enabled
  | .enablePoller => ws.enablePoller

def set (s : Switch) (value : Bool) (ws : SocketSettings) : SocketSettings :=
  match s with
  | .enabled => { ws with enabled := value }
  | .enablePoller => { ws with enablePoller := value }

/-- A switch in the environment, in any case. -/
def parse? (s : String) : Option Bool :=
  match Text.lower s with
  | "true" | "1" | "yes" | "on" => some true
  | "false" | "0" | "no" | "off" => some false
  | _ => none

end Switch

/-! ### Limits -/

/-- A setting that is a positive number. -/
inductive Limit where
  | pollTimeoutMs
  | connectionBufferSize
  | maxEventsPerWait
  | maxConcurrentResolvers
  | handshakeTimeoutMs
  | readTimeoutMs
  | writeTimeoutMs
  | maxMessageSize
deriving DecidableEq

namespace Limit

def all : List Limit :=
  [.pollTimeoutMs, .connectionBufferSize, .maxEventsPerWait, .maxConcurrentResolvers,
    .handshakeTimeoutMs, .readTimeoutMs, .writeTimeoutMs, .maxMessageSize]

def key : Limit → String
  | .pollTimeoutMs => "pollTimeoutMs"
  | .connectionBufferSize => "connectionBufferSize"
  | .maxEventsPerWait => "maxEventsPerWait"
  | .maxConcurrentResolvers => "maxConcurrentResolvers"
  | .handshakeTimeoutMs => "handshakeTimeoutMs"
  | .readTimeoutMs => "readTimeoutMs"
  | .writeTimeoutMs => "writeTimeoutMs"
  | .maxMessageSize => "maxMessageSize"

def envName : Limit → String
  | .pollTimeoutMs => "GATE_WS_POLL_TIMEOUT_MS"
  | .connectionBufferSize => "GATE_WS_CONNECTION_BUFFER_SIZE"
  | .maxEventsPerWait => "GATE_WS_MAX_EVENTS_PER_WAIT"
  | .maxConcurrentResolvers => "GATE_WS_MAX_CONCURRENT_RESOLVERS"
  | .handshakeTimeoutMs => "GATE_WS_HANDSHAKE_TIMEOUT_MS"
  | .readTimeoutMs => "GATE_WS_READ_TIMEOUT_MS"
  | .writeTimeoutMs => "GATE_WS_WRITE_TIMEOUT_MS"
  | .maxMessageSize => "GATE_WS_MAX_MESSAGE_SIZE"

/-- The name of the range of numbers in complaints: one for times, one for sizes and counts. -/
def kind : Limit → String
  | .pollTimeoutMs | .handshakeTimeoutMs | .readTimeoutMs | .writeTimeoutMs => "u64"
  | .connectionBufferSize | .maxEventsPerWait | .maxConcurrentResolvers | .maxMessageSize => "usize"

/-- The largest value that the environment may ask for. -/
def most : Limit → Nat
  | .pollTimeoutMs => 60000
  | .connectionBufferSize => 1000000
  | .maxEventsPerWait | .maxConcurrentResolvers => 65536
  | .handshakeTimeoutMs | .readTimeoutMs | .writeTimeoutMs => 600000
  | .maxMessageSize => Nat.pow 2 30

def get (l : Limit) (ws : SocketSettings) : UInt64 :=
  match l with
  | .pollTimeoutMs => ws.pollTimeoutMs
  | .connectionBufferSize => ws.connectionBufferSize
  | .maxEventsPerWait => ws.maxEventsPerWait
  | .maxConcurrentResolvers => ws.maxConcurrentResolvers
  | .handshakeTimeoutMs => ws.handshakeTimeoutMs
  | .readTimeoutMs => ws.readTimeoutMs
  | .writeTimeoutMs => ws.writeTimeoutMs
  | .maxMessageSize => ws.maxMessageSize

def set (l : Limit) (value : UInt64) (ws : SocketSettings) : SocketSettings :=
  match l with
  | .pollTimeoutMs => { ws with pollTimeoutMs := value }
  | .connectionBufferSize => { ws with connectionBufferSize := value }
  | .maxEventsPerWait => { ws with maxEventsPerWait := value }
  | .maxConcurrentResolvers => { ws with maxConcurrentResolvers := value }
  | .handshakeTimeoutMs => { ws with handshakeTimeoutMs := value }
  | .readTimeoutMs => { ws with readTimeoutMs := value }
  | .writeTimeoutMs => { ws with writeTimeoutMs := value }
  | .maxMessageSize => { ws with maxMessageSize := value }

end Limit

/-- A backend in the environment, in any case and in either spelling. -/
def Backend.parse? (s : String) : Option Backend :=
  match Text.lower s with
  | "auto" => some .auto
  | "epoll" => some .epoll
  | "polllist" | "poll-list" | "poll" => some .pollList
  | _ => none

/-! ### All of them -/

/-- One of the settings. -/
inductive Setting where
  | switch (s : Switch)
  | backend
  | limit (l : Limit)
deriving DecidableEq

namespace Setting

def all : List Setting :=
  .switch .enabled :: .switch .enablePoller :: .backend :: Limit.all.map .limit

def key : Setting → String
  | .switch s => s.key
  | .backend => "backend"
  | .limit l => l.key

def envName : Setting → String
  | .switch s => s.envName
  | .backend => "GATE_WS_BACKEND"
  | .limit l => l.envName

end Setting

/-- The first limit that is zero. -/
def SocketSettings.zeroLimit? (ws : SocketSettings) : Option Limit :=
  Limit.all.find? fun l => l.get ws = 0

end StreamGateway
