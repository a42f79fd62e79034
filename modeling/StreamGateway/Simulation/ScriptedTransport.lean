import StreamGateway.Protocol.Link

/-! # Scripted connections

A connection in memory: texts of the client wait in a queue, what is sent is kept, and faults can be
planned for reads and writes. A planned fault comes before anything else, even on a closed
connection. -/
namespace StreamGateway

/-- A connection whose client follows a script. -/
structure ScriptedTransport where
  /-- Texts of the client that wait to be read. -/
  inbox : List String := []
  /-- Faults of the next reads. -/
  readFaults : List Fault := []
  /-- Faults of writes to come, each behind a number of writes that pass. -/
  writeFaults : List (Nat × Fault) := []
  /-- What was sent, the last text first. -/
  sent : List String := []
  /-- The code and reason of the last close. -/
  closed : Option (UInt16 × String) := none
deriving DecidableEq

namespace ScriptedTransport

def receive (t : ScriptedTransport) : Except ProtocolError String × ScriptedTransport :=
  match t.readFaults with
  | f :: rest => (.error (.fault f), { t with readFaults := rest })
  | [] =>
    if t.closed.isSome then (.error .connectionClosed, t)
    else match t.inbox with
      | [] => (.error (.fault { kind := .wouldBlock }), t)
      | text :: rest => (.ok text, { t with inbox := rest })

/-- Sends without looking at planned faults. -/
def deliver (t : ScriptedTransport) (text : String) :
    Except ProtocolError Unit × ScriptedTransport :=
  if t.closed.isSome then (.error .connectionClosed, t)
  else (.ok (), { t with sent := text :: t.sent })

def send (t : ScriptedTransport) (text : String) : Except ProtocolError Unit × ScriptedTransport :=
  match t.writeFaults with
  | [] => t.deliver text
  | (0, f) :: rest => (.error (.fault f), { t with writeFaults := rest })
  | (n + 1, f) :: rest => { t with writeFaults := (n, f) :: rest }.deliver text

def close (t : ScriptedTransport) (code : UInt16) (reason : String) :
    Except ProtocolError Unit × ScriptedTransport :=
  (.ok (), { t with closed := some (code, reason) })

/-- The client sends a text. -/
def push (t : ScriptedTransport) (text : String) : ScriptedTransport :=
  { t with inbox := t.inbox ++ [text] }

/-- Plans a fault for a read. -/
def failRead (t : ScriptedTransport) (f : Fault) : ScriptedTransport :=
  { t with readFaults := t.readFaults ++ [f] }

/-- Plans a fault for a write, behind `after` writes that pass. -/
def failWrite (t : ScriptedTransport) (after : Nat) (f : Fault) : ScriptedTransport :=
  { t with writeFaults := t.writeFaults ++ [(after, f)] }

/-- What was sent since the last time, in order. -/
def takeSent (t : ScriptedTransport) : List String × ScriptedTransport :=
  (t.sent.reverse, { t with sent := [] })

end ScriptedTransport

instance : Transport ScriptedTransport where
  receive := ScriptedTransport.receive
  send := ScriptedTransport.send
  close := ScriptedTransport.close

end StreamGateway
