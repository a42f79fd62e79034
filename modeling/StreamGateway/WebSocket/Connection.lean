import StreamGateway.Protocol.Link
import StreamGateway.WebSocket.Frame

/-! # Socket connections

The server's end of a socket connection, with the client's frames on their way in and the server's
frames on their way out. Pings are answered as soon as reading goes on, fragments are joined, and a
client's close is answered with the next call. -/
namespace StreamGateway

/-- How far a connection has been closed. -/
inductive SocketPhase where
  | active
  | closedByUs
  | closedByPeer
  | terminated
deriving DecidableEq

/-- The beginning of a message that came in parts. -/
structure Fragments where
  opcode : Opcode
  payload : List UInt8
deriving DecidableEq

/-- The server's end of a connection, and what is under way in both directions. -/
structure WebSocket where
  /-- The longest message that is taken, in bytes. -/
  limit : Option Nat := none
  phase : SocketPhase := .active
  /-- A control frame that goes out with the next call. -/
  pending : Option ServerFrame := none
  fragments : Option Fragments := none
  /-- The client's frames that were not read yet. -/
  inbox : List ClientFrame := []
  /-- The length of the first frame of the inbox was complained about already. -/
  measured : Bool := false
  /-- Frames that the client has not taken yet, the last one first. -/
  outbox : List ServerFrame := []
  /-- The client went away. -/
  clientGone : Bool := false
  /-- Something was sent to a client that had gone. -/
  lost : Bool := false
  /-- Both directions were shut down on our side. -/
  shut : Bool := false
  /-- A frame is left that could not be written. -/
  stuck : Bool := false
deriving DecidableEq

namespace WebSocket

/-! ### Sending -/

/-- How many bytes may be under way to a client that does not read. -/
def window : Nat := Nat.pow 2 24

/-- Bytes under way to the client. -/
def backlog (ws : WebSocket) : Nat := ws.outbox.foldr (·.size + ·) 0

def brokenPipe : ProtocolError := .fault ⟨.brokenPipe, "Broken pipe (os error 32)"⟩

def timedOut : ProtocolError := .fault ⟨.timedOut, "websocket write timed out"⟩

/-- Puts a frame on its way. -/
def emit (ws : WebSocket) (frame : ServerFrame) : Except ProtocolError Unit × WebSocket :=
  if ws.shut || ws.lost then (.error brokenPipe, { ws with stuck := true })
  else if ws.clientGone then (.ok (), { ws with lost := true })
  else if window < ws.backlog + frame.size then (.error timedOut, ws)
  else (.ok (), { ws with outbox := frame :: ws.outbox })

/-- Sends the control frame that waits, if there is one. -/
def flush (ws : WebSocket) : Except ProtocolError Unit × WebSocket :=
  match ws.pending with
  | none => (.ok (), ws)
  | some frame => { ws with pending := none }.emit frame

/-- Sends a text, and behind it what waits. -/
def send (ws : WebSocket) (text : String) : Except ProtocolError Unit × WebSocket :=
  match ws.phase with
  | .terminated => (.error .connectionClosed, ws)
  | .closedByUs => (.error Breach.sendAfterClosing.toError, ws)
  | .closedByPeer =>
    (.error Breach.sendAfterClosing.toError, { ws.flush.2 with phase := .terminated })
  | .active =>
    match ws.emit (.text text) with
    | (.error e, ws) => (.error e, ws)
    | (.ok (), ws) => ws.flush

/-- Shuts both directions down. -/
def shutDown (ws : WebSocket) : WebSocket := { ws with shut := true }

/-- Sends a close frame on an active connection, then shuts it down. -/
def close (ws : WebSocket) (code : UInt16) (reason : String) :
    Except ProtocolError Unit × WebSocket :=
  match ws.phase with
  | .active =>
    match { ws with phase := .closedByUs }.emit (.close (some ⟨code, reason⟩)) with
    | (.error e, ws) => (.error e, ws.shutDown)
    | (.ok (), ws) =>
      let (result, ws) := ws.flush
      (result, ws.shutDown)
  | .closedByPeer => (.ok (), { ws.flush.2 with phase := .terminated, shut := true })
  | .closedByUs => (if ws.stuck then .error brokenPipe else .ok (), ws.shutDown)
  | .terminated => (.ok (), ws.shutDown)

/-! ### Reading -/

/-- What a frame brought. -/
inductive Absorbed where
  | text (text : String)
  | binary (payload : List UInt8)
  /-- Nothing for the reader. -/
  | nothing
  | closed
  | breach (breach : Breach)

/-- The parts of a message with one more; it must not become too long. -/
def join (ws : WebSocket) (f : Fragments) (more : List UInt8) : Except Breach Fragments :=
  let size := f.payload.length + more.length
  match ws.limit with
  | some most =>
    if most < size then .error (.tooLong size most) else .ok { f with payload := f.payload ++ more }
  | none => .ok { f with payload := f.payload ++ more }

/-- The bytes could be the beginning of a text. -/
def beginsText (payload : List UInt8) : Bool :=
  match Text.Utf8.decode payload with
  | .ok _ => true
  | .error f => f.badLength = none

/-- A whole message. -/
def whole (f : Fragments) : Absorbed :=
  if f.opcode = .text then
    match Text.Utf8.decode f.payload with
    | .ok s => .text s
    | .error _ => .breach .badText
  else .binary f.payload

/-- The message grows by one part. -/
def grow (ws : WebSocket) (f : Fragments) (more : List UInt8) (final : Bool) :
    Absorbed × WebSocket :=
  match ws.join f more with
  | .error b => (.breach b, ws)
  | .ok f =>
    if final then (whole f, { ws with fragments := none })
    else if f.opcode = .text && !beginsText f.payload then (.breach .badText, ws)
    else (.nothing, { ws with fragments := some f })

/-- The reason in a close frame. -/
def closeReason (payload : List UInt8) : Except Breach (Option CloseReason) :=
  match payload with
  | [] => .ok none
  | [_] => .error .badClose
  | a :: b :: rest =>
    match Text.Utf8.decode rest with
    | .ok text => .ok (some ⟨UInt16.ofNat (256 * a.toNat + b.toNat), text⟩)
    | .error _ => .error .badText

/-- Takes a control frame in. -/
def absorbControl (ws : WebSocket) (f : ClientFrame) : Absorbed × WebSocket :=
  if !f.final then (.breach .fragmentedControl, ws)
  else if 125 < f.payload.length then (.breach .controlTooBig, ws)
  else match f.opcode with
    | .ping => (.nothing, { ws with pending := some (.pong f.payload) })
    | .close =>
      match closeReason f.payload with
      | .error b => (.breach b, ws)
      | .ok reason =>
        (.closed,
          { ws with
            phase := .closedByPeer, pending := some (.close (reason.map CloseReason.answer)) })
    | _ => (.nothing, ws)

/-- Takes a frame in. -/
def absorb (ws : WebSocket) (f : ClientFrame) : Absorbed × WebSocket :=
  if !f.masked then (.breach .unmasked, ws)
  else if f.opcode.isControl then ws.absorbControl f
  else match f.opcode, ws.fragments with
    | .continuation, none => (.breach .nothingToContinue, ws)
    | .continuation, some parts => ws.grow parts f.payload f.final
    | opcode, some _ => (.breach (.unfinished opcode), ws)
    | opcode, none => ws.grow ⟨opcode, []⟩ f.payload f.final

/-- The first frame is longer than it may be, and nobody has been told yet. -/
def oversize? (ws : WebSocket) (f : ClientFrame) : Option Breach :=
  match ws.limit with
  | some most =>
    if !ws.measured && most < f.payload.length then some (.tooLong f.payload.length most) else none
  | none => none

/-- Reads on until a message or the end; `frames` are those that wait. -/
def receiveFrom (ws : WebSocket) : List ClientFrame → Except ProtocolError String × WebSocket
  | [] =>
    match ({ ws with inbox := [] } : WebSocket).flush with
    | (.error e, ws) => (.error e, ws)
    | (.ok (), ws) =>
      if ws.clientGone || ws.shut then (.error .connectionClosed, { ws with phase := .terminated })
      else (.error (.fault .wouldBlock), ws)
  | f :: frames =>
    match ({ ws with inbox := f :: frames } : WebSocket).flush with
    | (.error e, ws) => (.error e, ws)
    | (.ok (), ws) =>
      match ws.oversize? f with
      | some b => (.error b.toError, { ws with measured := true })
      | none =>
        match { ws with inbox := frames, measured := false }.absorb f with
        | (.nothing, ws) => ws.receiveFrom frames
        | (.text s, ws) => (.ok s, ws)
        | (.binary payload, ws) =>
          match Text.Utf8.decode payload with
          | .ok s => (.ok s, ws)
          | .error fault => (.error (.fault ⟨.invalidData, fault.message⟩), ws)
        | (.closed, ws) => (.error .connectionClosed, ws)
        | (.breach b, ws) => (.error b.toError, ws)

/-- The next message as text. -/
def receive (ws : WebSocket) : Except ProtocolError String × WebSocket :=
  match ws.phase with
  | .active => ws.receiveFrom ws.inbox
  | .closedByPeer => (.error .connectionClosed, { ws.flush.2 with phase := .terminated })
  | .closedByUs | .terminated => (.error .connectionClosed, { ws with phase := .terminated })

/-- A read would not have to wait. -/
def ready (ws : WebSocket) : Bool :=
  ws.phase ≠ .active || !ws.inbox.isEmpty || ws.clientGone || ws.shut

/-! ### The client's side -/

/-- The client sends frames; tells whether they could be sent. -/
def push (ws : WebSocket) (frames : List ClientFrame) : Bool × WebSocket :=
  if ws.clientGone || ws.shut then (false, ws) else (true, { ws with inbox := ws.inbox ++ frames })

/-- The client goes away. -/
def clientDrop (ws : WebSocket) : WebSocket := { ws with clientGone := true, outbox := [] }

/-- The client takes what was sent, in order. -/
def take (ws : WebSocket) : List ServerFrame × WebSocket :=
  (ws.outbox.reverse, { ws with outbox := [] })

end WebSocket

instance : Severable WebSocket where
  receive := WebSocket.receive
  send := WebSocket.send
  close := WebSocket.close
  sever := WebSocket.shutDown

end StreamGateway
