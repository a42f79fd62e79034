import StreamGateway.Gateway.Error
import StreamGateway.Protocol.Subprotocol

/-! # Upgrade requests

The request with which a client asks for a socket connection: its head is taken apart, its headers
are checked one after the other, and of the subprotocols it offers the first supported one is
chosen. -/
namespace StreamGateway

/-- The head of a request. Header names are in lower case. -/
structure RequestHead where
  method : String
  /-- The minor version of HTTP/1. -/
  version : Nat
  headers : List (String × List UInt8)
  /-- Bytes came behind the head. -/
  more : Bool
deriving DecidableEq

/-- How an upgrade request is answered. -/
inductive UpgradeReply where
  | accepted (subprotocol : Subprotocol)
  /-- The request is refused with a response. -/
  | declined (status : Nat) (body : String) (e : UpgradeError)
  /-- The request is dropped without a response. -/
  | dropped (e : UpgradeError)
  /-- The request has not arrived in full. -/
  | waiting
deriving DecidableEq

namespace RequestHead

/-- The character of a byte, as far as heads go. -/
def charOf (b : UInt8) : Char := Char.ofNat b.toNat

def textOf (bytes : List UInt8) : String := String.ofList (bytes.map charOf)

/-- The lines of a head without their ends, and what comes behind the empty line; none if there is
no empty line. -/
def lines? (line : List UInt8) : List UInt8 → Option (List (List UInt8) × List UInt8)
  | [] => none
  | 10 :: rest =>
    let line := if line.head? = some 13 then line.drop 1 else line
    if line.isEmpty then some ([], rest)
    else (lines? [] rest).map fun (ls, behind) => (line.reverse :: ls, behind)
  | b :: rest => lines? (b :: line) rest

/-- A blank in a header line. -/
def isPadding (b : UInt8) : Bool := b = 32 || b = 9

def trimmed (bytes : List UInt8) : List UInt8 :=
  ((bytes.dropWhile isPadding).reverse.dropWhile isPadding).reverse

/-- A header line. -/
def header? (line : List UInt8) : Option (String × List UInt8) :=
  match line.span (· ≠ 58) with
  | (name, _ :: value) =>
    if name.isEmpty || name.any isPadding then none
    else some (Text.lower (textOf name), trimmed value)
  | _ => none

/-- The words of a request line. -/
def requestLine? (line : List UInt8) : Option (String × Nat) :=
  match (Text.pieces ' ' (textOf line).toList).map String.ofList with
  | [method, _, "HTTP/1.1"] => some (method, 1)
  | [method, _, "HTTP/1.0"] => some (method, 0)
  | _ => none

/-- The head at the beginning of the bytes: none if it is not complete, otherwise whether it can be
read. -/
def parse? (bytes : List UInt8) : Option (Except UpgradeError RequestHead) := do
  let (lines, behind) ← lines? [] bytes
  match lines with
  | [] => return .error (.unreadable "invalid HTTP request")
  | first :: rest =>
    match requestLine? first, rest.mapM header? with
    | some (method, version), some headers =>
      return .ok { method, version, headers, more := !behind.isEmpty }
    | _, _ => return .error (.unreadable "invalid HTTP request")

/-- The values of a header, in order. -/
def values (h : RequestHead) (name : String) : List (List UInt8) :=
  (h.headers.filter (·.1 = name)).map (·.2)

/-- A value in visible characters. -/
def visible? (value : List UInt8) : Option String :=
  if value.all fun b => (32 ≤ b && b < 127) || b = 9 then some (textOf value) else none

/-- The first value of a header, if it is visible. -/
def value? (h : RequestHead) (name : String) : Option String := (h.values name).head?.bind visible?

/-- The words of a list divided by commas and blanks. -/
def words (s : String) : List String :=
  ((Text.pieces ',' s.toList).flatMap (Text.pieces ' ')).map String.ofList

/-- The first rule that the head breaks. -/
def breach? (h : RequestHead) : Option String :=
  let has (name : String) (p : String → Bool) : Bool := ((h.value? name).map p).getD false
  if h.method ≠ "GET" then some "Unsupported HTTP method used - only GET is allowed"
  else if h.version = 0 then some "HTTP version must be 1.1 or higher"
  else if h.more then some "Junk after client request"
  else if !has "connection" fun v => (words v).any fun w => Text.lower w = "upgrade" then
    some "No \"Connection: upgrade\" header"
  else if !has "upgrade" fun v => Text.lower v = "websocket" then
    some "No \"Upgrade: websocket\" header"
  else if !has "sec-websocket-version" fun v => v = "13" then
    some "No \"Sec-WebSocket-Version: 13\" header"
  else if (h.values "sec-websocket-key").isEmpty then some "No \"Sec-WebSocket-Key\" header"
  else none

/-- The answer to a readable request. -/
def reply (h : RequestHead) : UpgradeReply :=
  match h.breach? with
  | some rule => .dropped (.violation rule)
  | none =>
    match Subprotocol.select ((h.values "sec-websocket-protocol").filterMap visible?) with
    | some subprotocol => .accepted subprotocol
    | none => .declined 400 "unsupported websocket subprotocol" (.status "400 Bad Request")

end RequestHead

/-- The answer to the bytes of a request. -/
def UpgradeReply.of (bytes : List UInt8) : UpgradeReply :=
  match RequestHead.parse? bytes with
  | none => .waiting
  | some (.error e) => .dropped e
  | some (.ok head) => head.reply

/-- What the gateway makes of an answer. -/
def UpgradeReply.result : UpgradeReply → Except GatewayError Subprotocol
  | .accepted subprotocol => .ok subprotocol
  | .declined _ _ e | .dropped e => .error (.upgrade e)
  | .waiting => .error .handshakeTimeout

end StreamGateway
