import StreamGateway.Simulation.ScriptedTransport

/-! # Conversations

A session over a scripted connection, driven one call at a time. -/
namespace StreamGateway

open Json (Raw)

/-- A session over a scripted connection, with what happened since the last report. -/
structure Conversation where
  link : Link ScriptedTransport
  /-- The last message that was read. -/
  last : Option Message := none
  journal : Log.Journal := []

namespace Conversation

/-- What the client, the system or the server does next. -/
inductive Step where
  | push (text : String)
  | failRead (fault : Fault)
  | failWrite (after : Nat) (fault : Fault)
  | handshake
  | read
  | pong (ping : Message)
  | pongLast
  | data (id : String) (data : Raw) (extensions : Option Raw)
  | errors (id : String) (errors : Raw) (extensions : Option Raw)
  | done (id : String)
  | close (code : UInt16) (reason : String)

/-- What a step led to. -/
inductive Outcome where
  | ok
  /-- There was nothing to do it with. -/
  | none
  | payload (payload : Option Raw)
  | message (message : Message)
  | failed (failure : Failure)

def ofResult : Except ProtocolError Unit → Outcome
  | .ok () => .ok
  | .error e => .failed (.error e)

/-- A conversation in a subprotocol. -/
def start (subprotocol : Subprotocol) : Conversation :=
  { link := .fresh subprotocol {} }

/-- The conversation after a call. -/
def after (c : Conversation) (link : Link ScriptedTransport) (result : Except ProtocolError Unit) :
    Outcome × Conversation :=
  (ofResult result, { c with link })

/-- The conversation with another script. -/
def script (c : Conversation) (f : ScriptedTransport → ScriptedTransport) :
    Outcome × Conversation :=
  (.ok, { c with link := { c.link with transport := f c.link.transport } })

def step (c : Conversation) : Step → Outcome × Conversation
  | .push text => c.script (·.push text)
  | .failRead f => c.script (·.failRead f)
  | .failWrite n f => c.script (·.failWrite n f)
  | .handshake =>
    let (result, link) := c.link.handshake
    let journal := c.journal ++ Link.handshakeEvents link.session.subprotocol result
    match result with
    | .ok payload => (.payload payload, { c with link, journal })
    | .error e => (.failed (.error e), { c with link, journal })
  | .read =>
    let (result, link) := c.link.read
    let journal := c.journal ++ Link.messageEvents link.session.subprotocol result
    match result with
    | .ok m => (.message m, { c with link, journal, last := some m })
    | .error e => (.failed (.error e), { c with link, journal })
  | .pong ping =>
    let (result, link) := c.link.pong ping
    c.after link result
  | .pongLast =>
    match c.last with
    | none => (.none, c)
    | some ping =>
      let (result, link) := c.link.pong ping
      c.after link result
  | .data id data extensions =>
    let (result, link) := c.link.writeData id data extensions
    c.after link result
  | .errors id errors extensions =>
    match c.link.writeErrors id errors extensions with
    | (.ok (), link) => (.ok, { c with link })
    | (.error f, link) => (.failed f, { c with link })
  | .done id =>
    let (result, link) := c.link.done id
    c.after link result
  | .close code reason =>
    let (result, link) := c.link.close code reason
    c.after link result

/-- What is seen of a conversation after a step. -/
structure Report where
  outcome : Outcome
  /-- The frames sent in this step. -/
  sent : List String
  opened : Ids
  closed : Option (UInt16 × String)
  journal : Log.Journal

/-- Does a step and reports it. -/
def observe (c : Conversation) (s : Step) : Report × Conversation :=
  let (outcome, c) := c.step s
  let (sent, transport) := c.link.transport.takeSent
  (⟨outcome, sent, c.link.session.opened, transport.closed, c.journal⟩,
    { c with link := { c.link with transport }, journal := [] })

end Conversation
end StreamGateway
