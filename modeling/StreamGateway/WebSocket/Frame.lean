import StreamGateway.Protocol.Error
import StreamGateway.Text.Utf8

/-! # Socket frames

What travels in the two directions of a socket connection. A client's frames are kept as it sends
them, with every liberty a faulty client can take; the server's frames are always well formed. -/
namespace StreamGateway

/-- What a frame is for. -/
inductive Opcode where
  | continuation
  | text
  | binary
  | close
  | ping
  | pong
deriving DecidableEq

/-- Frames that steer the connection and may stand between the parts of a message. -/
def Opcode.isControl : Opcode → Bool
  | .close | .ping | .pong => true
  | _ => false

/-- A frame as a client sends it. -/
structure ClientFrame where
  opcode : Opcode
  payload : List UInt8
  /-- It ends its message. -/
  final : Bool
  /-- Its payload was masked, as a client's must be. -/
  masked : Bool
deriving DecidableEq

/-- A frame with a whole text. -/
def ClientFrame.ofText (s : String) : ClientFrame := ⟨.text, Text.Utf8.encode s, true, true⟩

/-- Why a connection was ended. -/
structure CloseReason where
  code : UInt16
  text : String
deriving DecidableEq

namespace CloseReason

/-- Codes that may stand in a close frame. -/
def isAllowed (code : UInt16) : Bool :=
  (1000 ≤ code && code ≤ 1013 && code ≠ 1004 && code ≠ 1005 && code ≠ 1006) ||
    (3000 ≤ code && code ≤ 4999)

/-- What is answered to a close: the same reason, or, for a code that must not be sent, that the
client broke the rules. -/
def answer (r : CloseReason) : CloseReason :=
  if isAllowed r.code then r else ⟨1002, "Protocol violation"⟩

end CloseReason

/-- A frame of the server. -/
inductive ServerFrame where
  | text (text : String)
  | ping (payload : List UInt8)
  | pong (payload : List UInt8)
  | close (reason : Option CloseReason)
deriving DecidableEq

/-- Bytes of payload. -/
def ServerFrame.size : ServerFrame → Nat
  | .text t => t.utf8ByteSize
  | .ping p | .pong p => p.length
  | .close none => 0
  | .close (some r) => 2 + r.text.utf8ByteSize

/-! ### Breaches of the rules -/

/-- How a client can break the rules of the connection. -/
inductive Breach where
  | unmasked
  | nothingToContinue
  | unfinished (received : Opcode)
  | controlTooBig
  | fragmentedControl
  | tooLong (size most : Nat)
  | badText
  | badClose
  | sendAfterClosing
deriving DecidableEq

namespace Breach

/-- The name of a message's kind. -/
def kindName : Opcode → String
  | .continuation => "CONTINUE"
  | .text => "TEXT"
  | .binary => "BINARY"
  | .close => "CLOSE"
  | .ping => "PING"
  | .pong => "PONG"

def message : Breach → String
  | .tooLong size most =>
    "Space limit exceeded: Message too long: " ++ toString size ++ " > " ++ toString most
  | .badText => "UTF-8 encoding error"
  | .unmasked => rule "Received an unmasked frame from client"
  | .nothingToContinue => rule "Continue frame but nothing to continue"
  | .unfinished received =>
    rule ("While waiting for more fragments received: " ++ kindName received)
  | .controlTooBig => rule "Control frame too big (payload must be 125 bytes or less)"
  | .fragmentedControl => rule "Fragmented control frame"
  | .badClose => rule "Invalid close sequence"
  | .sendAfterClosing => rule "Sending after closing is not allowed"
where
  rule (s : String) : String := "WebSocket protocol error: " ++ s

/-- The breach as an error of the conversation. -/
def toError (b : Breach) : ProtocolError := .fault ⟨.other, b.message⟩

end Breach
end StreamGateway
