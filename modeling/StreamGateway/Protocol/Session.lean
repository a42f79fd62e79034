import StreamGateway.Log.Event
import StreamGateway.Protocol.Frame
import StreamGateway.Protocol.Subprotocol

/-! # Sessions

What a conversation remembers, and what each message does to it. Nothing here sends: decoding a text
gives the frames that answer it together with the session that holds once they are sent. -/
namespace StreamGateway

open Json (Raw)

/-- What a client's message asks for. -/
inductive MessageKind where
  | ping
  | pong
  | subscribe
  | complete
  | terminate
deriving DecidableEq

namespace MessageKind

def name : MessageKind → String
  | .ping => "Ping"
  | .pong => "Pong"
  | .subscribe => "Subscribe"
  | .complete => "Complete"
  | .terminate => "Terminate"

def all : List MessageKind := [.ping, .pong, .subscribe, .complete, .terminate]

def named? (s : String) : Option MessageKind := all.find? (·.name = s)

end MessageKind

/-- A client's message. -/
structure Message where
  /-- The operation it is about; on a channel the id derived from the client's reference. -/
  id : String
  kind : MessageKind
  payload : Option Raw
deriving DecidableEq

/-! ### Open operations -/

/-- Ids in increasing order. -/
abbrev Ids := List String

namespace Ids

/-- Adds an id in its place. -/
def insert (id : String) : Ids → Ids
  | [] => [id]
  | x :: xs =>
    if id < x then id :: x :: xs
    else if id = x then x :: xs
    else x :: insert id xs

end Ids

/-- Where a subscription on a channel was asked for, so that errors can be answered there. -/
structure Origin where
  joinRef : Option String
  ref : Option String
  topic : String
deriving DecidableEq

/-- What a conversation remembers. -/
structure Session where
  subprotocol : Subprotocol
  initialized : Bool := false
  /-- The operations that were started and not ended. -/
  opened : Ids := []
  /-- Where the open operations of a channel were asked for. -/
  origins : List (String × Origin) := []
deriving DecidableEq

namespace Session

def isOpen (s : Session) (id : String) : Bool := s.opened.contains id

/-- Opens an operation, unless its id is empty. -/
def withOpen (s : Session) (id : String) : Session :=
  if id = "" then s else { s with opened := Ids.insert id s.opened }

/-- Closes an operation, if it is open, and forgets where it came from. -/
def release (s : Session) (id : String) : Session :=
  if s.isOpen id then
    { s with opened := s.opened.filter (· ≠ id), origins := s.origins.filter (·.1 ≠ id) }
  else s

def origin? (s : Session) (id : String) : Option Origin := s.origins.lookup id

/-! ### Reading -/

/-- What a text leads to: frames to send, and, once they are sent, a session and a value. -/
structure Reply (α : Type) where
  frames : List String
  session : Session
  value : α

/-- An answer to a channel message. -/
def channelReply (joinRef ref : Option String) (topic status : String) (response : Json) : String :=
  ChannelFrame.render
    { joinRef, ref, topic, event := "phx_reply", payload := Payload.reply status response }

/-- The first text of an object protocol must be `connection_init`. -/
def objectHandshake (s : Session) (text : String) : Except ProtocolError (Reply (Option Raw)) :=
  match ObjectFrame.parse text with
  | .error p => .error (.malformed p)
  | .ok f =>
    if f.type ≠ "connection_init" then .error (.handshake "connection_init" f.type)
    else
      let ack := ObjectFrame.render { type := "connection_ack" }
      let frames := match s.subprotocol with
        | .legacy => [ack, ObjectFrame.render { type := "ka" }]
        | _ => [ack]
      .ok ⟨frames, { s with initialized := true }, f.payload⟩

/-- The first message on a channel must be `phx_join`. -/
def channelHandshake (s : Session) (text : String) : Except ProtocolError (Reply (Option Raw)) :=
  match ChannelFrame.parse text with
  | .error p => .error (.malformed p)
  | .ok f =>
    if f.event ≠ "phx_join" then .error (.handshake "phx_join" f.event)
    else
      .ok ⟨[channelReply f.joinRef f.ref f.topic "ok" (.obj [])],
        { s with initialized := true }, some f.payload⟩

/-- The first text of a conversation; gives the client's payload. -/
def handshake (s : Session) (text : String) : Except ProtocolError (Reply (Option Raw)) :=
  match s.subprotocol with
  | .transport | .legacy => s.objectHandshake text
  | .absinthe => s.channelHandshake text

/-- What the type of an object frame asks for. -/
def objectKind? (p : Subprotocol) (type : String) : Option MessageKind :=
  match p with
  | .legacy =>
    match type with
    | "start" => some .subscribe
    | "stop" => some .complete
    | "connection_terminate" => some .terminate
    | _ => none
  | _ =>
    match type with
    | "ping" => some .ping
    | "pong" => some .pong
    | "subscribe" => some .subscribe
    | "complete" => some .complete
    | _ => none

/-- A further text of an object protocol. -/
def objectMessage (s : Session) (text : String) : Except ProtocolError (Reply Message) :=
  match ObjectFrame.parse text with
  | .error p => .error (.malformed p)
  | .ok f =>
    match objectKind? s.subprotocol f.type with
    | none => .error (.unsupportedMessage f.type)
    | some kind =>
      let session := match kind with
        | .subscribe => s.withOpen f.id
        | .complete => s.release f.id
        | _ => s
      .ok ⟨[], session, ⟨f.id, kind, f.payload⟩⟩

/-- Opens an operation of a channel; where it was asked for is only noted if it was not open. -/
def openFrom (s : Session) (id : String) (origin : Origin) : Session :=
  if s.isOpen id then s
  else { s.withOpen id with origins := (id, origin) :: s.origins }

/-- A further message on a channel. A document is answered with the id of its subscription. -/
def channelMessage (s : Session) (text : String) : Except ProtocolError (Reply Message) :=
  match ChannelFrame.parse text with
  | .error p => .error (.malformed p)
  | .ok f =>
    let ref := f.ref.getD ""
    match f.event with
    | "heartbeat" => .ok ⟨[], s, ⟨ref, .ping, some f.payload⟩⟩
    | "doc" =>
      let id := Subprotocol.channelId ref
      .ok ⟨[channelReply f.joinRef f.ref f.topic "ok" (.obj [("subscriptionId", .str id)])],
        s.openFrom id ⟨f.joinRef, f.ref, f.topic⟩, ⟨id, .subscribe, some f.payload⟩⟩
    | "phx_leave" =>
      let id := if s.isOpen f.topic then f.topic else Subprotocol.channelId ref
      .ok ⟨[], s.release id, ⟨id, .complete, some f.payload⟩⟩
    | event => .error (.unsupportedMessage event)

/-- A further text of a conversation. -/
def message (s : Session) (text : String) : Except ProtocolError (Reply Message) :=
  match s.subprotocol with
  | .transport | .legacy => s.objectMessage text
  | .absinthe => s.channelMessage text

/-! ### Writing -/

/-- The answer to a ping. -/
def pong (s : Session) (ping : Message) : String :=
  match s.subprotocol with
  | .transport => ObjectFrame.render { type := "pong", payload := ping.payload }
  | .legacy => ObjectFrame.render { type := "ka" }
  | .absinthe =>
    channelReply none (if ping.id = "" then none else some ping.id) "phoenix" "ok" (.obj [])

/-- The frame that carries a result. -/
def dataFrame (s : Session) (id : String) (data : Raw) (extensions : Option Raw) :
    Except ProtocolError String :=
  if !s.isOpen id then .error (.unknownOperation id)
  else match Payload.withExtensions data extensions with
    | .error p => .error (.malformed p)
    | .ok payload =>
      match s.subprotocol with
      | .transport => .ok (ObjectFrame.render { id, type := "next", payload := some payload })
      | .legacy => .ok (ObjectFrame.render { id, type := "data", payload := some payload })
      | .absinthe =>
        let payload := Payload.objectOf
          [("result", payload.text), ("subscriptionId", Json.render (.str id))]
        .ok (ChannelFrame.render { topic := id, event := "subscription:data", payload })

/-- The response to errors on a channel is built from values; raw text that is not a value breaks
it. -/
def errorsResponse (errors : Raw) (extensions : Option Raw) : Except Failure Json :=
  match Json.parse errors.text, extensions.map (Json.parse ·.text) with
  | .ok e, none => .ok (.obj [("errors", e)])
  | .ok e, some (.ok x) => .ok (.obj [("errors", e), ("extensions", x)])
  | _, _ => .error .crash

/-- The frame that carries errors. One object protocol has no room for extensions and drops them. -/
def errorsFrame (s : Session) (id : String) (errors : Raw) (extensions : Option Raw) :
    Except Failure String :=
  if !s.isOpen id then .error (.error (.unknownOperation id))
  else match s.subprotocol with
    | .transport => .ok (ObjectFrame.render { id, type := "error", payload := some errors })
    | .legacy =>
      let payload := Payload.ofErrors errors extensions
      .ok (ObjectFrame.render { id, type := "data", payload := some payload })
    | .absinthe =>
      match s.origin? id with
      | none => .error (.error (.unknownOperation id))
      | some origin => do
        let response ← errorsResponse errors extensions
        return channelReply origin.joinRef origin.ref origin.topic "error" response

/-- The frame that ends an operation. -/
def doneFrame (s : Session) (id : String) : String :=
  match s.subprotocol with
  | .transport | .legacy => ObjectFrame.render { id, type := "complete" }
  | .absinthe =>
    ChannelFrame.render { topic := id, event := "phx_close", payload := Payload.objectOf [] }

end Session
end StreamGateway
