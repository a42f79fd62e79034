import StreamGateway.Proofs.Protocol.Conversation
import StreamGateway.Proofs.Protocol.Origins

/-! # What comes in and what goes out

A connection is seen from outside through two lists: the texts of the client that wait to be read,
and the texts that have gone out. Nothing else is asked of it: any read and any write may fail. A
list of frames goes out up to the first that cannot be sent (`Link.sendAll_cases`), so an answer of
at most one frame goes out as a whole or not at all (`Link.converse_error`), while a longer one may
get stuck half way. -/
namespace StreamGateway

open Json (Raw)

variable {τ : Type} [Transport τ]

/-- `log` lists the texts that have gone out over a connection: one that could be sent is added at
its end, one that could not be sent is not, and reading leaves it alone. -/
structure Transport.Logs (log : τ → List String) : Prop where
  receive : ∀ t, log (Transport.receive t).2 = log t
  sent : ∀ t frame, (Transport.send t frame).1 = .ok () →
    log (Transport.send t frame).2 = log t ++ [frame]
  unsent : ∀ t frame e, (Transport.send t frame).1 = .error e →
    log (Transport.send t frame).2 = log t

/-- `waiting` lists the texts of the client that wait to be read: a read takes the first of them,
and sending leaves them alone. -/
structure Transport.Queues (waiting : τ → List String) : Prop where
  receive : ∀ t text, (Transport.receive t).1 = .ok text →
    waiting t = text :: waiting (Transport.receive t).2
  send : ∀ t frame, waiting (Transport.send t frame).2 = waiting t

namespace Link

variable {log waiting : τ → List String}

/-! ## Sending -/

theorem sendAll_of_sent {l : Link τ} {frame : String} {frames : List String}
    (h : (l.send frame).1 = .ok ()) :
    l.sendAll (frame :: frames) = (l.send frame).2.sendAll frames := by
  have hpair : l.send frame = (.ok (), (l.send frame).2) := Prod.ext h rfl
  rw [sendAll, hpair]

theorem sendAll_of_unsent {l : Link τ} {frame : String} {frames : List String} {e : ProtocolError}
    (h : (l.send frame).1 = .error e) :
    l.sendAll (frame :: frames) = (.error e, (l.send frame).2) := by
  have hpair : l.send frame = (.error e, (l.send frame).2) := Prod.ext h rfl
  rw [sendAll, hpair]

/-- The connection takes the frames of `out` and refuses the one behind them. -/
def Sticks (l : Link τ) (frames out : List String) (e : ProtocolError) : Prop :=
  ∃ frame rest, frames = out ++ frame :: rest ∧ (l.sendAll out).1 = .ok () ∧
    ((l.sendAll out).2.send frame).1 = .error e

/-- Of a list of frames all go out, or those before the first that the connection refuses. -/
theorem sendAll_cases (hlog : Transport.Logs log) (l : Link τ) (frames : List String) :
    ((l.sendAll frames).1 = .ok () ∧
      log (l.sendAll frames).2.transport = log l.transport ++ frames) ∨
      ∃ e out, (l.sendAll frames).1 = .error e ∧ l.Sticks frames out e ∧
        log (l.sendAll frames).2.transport = log l.transport ++ out := by
  induction frames generalizing l with
  | nil => exact Or.inl ⟨rfl, (List.append_nil _).symm⟩
  | cons frame frames ih =>
    cases hsend : (l.send frame).1 with
    | ok =>
      have hsent : log (l.send frame).2.transport = log l.transport ++ [frame] :=
        hlog.sent l.transport frame hsend
      rw [sendAll_of_sent hsend]
      rcases ih (l.send frame).2 with ⟨hok, hout⟩ |
        ⟨e, out, herror, ⟨stuck, rest, rfl, hstuck⟩, hout⟩
      · refine Or.inl ⟨hok, ?_⟩
        rw [hout, hsent, List.append_assoc, List.singleton_append]
      · rw [← sendAll_of_sent hsend] at hstuck
        rw [hsent, List.append_assoc, List.singleton_append] at hout
        exact Or.inr ⟨e, frame :: out, herror, ⟨stuck, rest, rfl, hstuck⟩, hout⟩
    | error e =>
      rw [sendAll_of_unsent hsend]
      refine Or.inr ⟨e, [], rfl, ⟨frame, frames, rfl, rfl, hsend⟩, ?_⟩
      rw [List.append_nil]
      exact hlog.unsent l.transport frame e hsend

theorem waiting_sendAll (hqueue : Transport.Queues waiting) (l : Link τ) (frames : List String) :
    waiting (l.sendAll frames).2.transport = waiting l.transport := by
  induction frames generalizing l with
  | nil => rfl
  | cons frame frames ih =>
    cases hsend : (l.send frame).1 with
    | ok =>
      rw [sendAll_of_sent hsend, ih]
      exact hqueue.send l.transport frame
    | error e =>
      rw [sendAll_of_unsent hsend]
      exact hqueue.send l.transport frame

/-! ## Answering -/

/-- Everything that is seen of a link from outside and from inside is the same, but for what waits
to be read: the log of the connection, and the whole session with its open operations and where they
came from. -/
def Unmoved (log : τ → List String) (l l' : Link τ) : Prop :=
  log l'.transport = log l.transport ∧ l'.session = l.session

omit [Transport τ] in
theorem Unmoved.refl (log : τ → List String) (l : Link τ) : l.Unmoved log l := ⟨rfl, rfl⟩

theorem unmoved_receive (hlog : Transport.Logs log) (l : Link τ) : l.Unmoved log l.receive.2 :=
  ⟨hlog.receive l.transport, rfl⟩

theorem unmoved_send (hlog : Transport.Logs log) {l : Link τ} {frame : String} {e : ProtocolError}
    (h : (l.send frame).1 = .error e) : l.Unmoved log (l.send frame).2 :=
  ⟨hlog.unsent l.transport frame e h, rfl⟩

/-- A text that was read with an error has moved nothing, as long as its answer is no longer than a
frame. -/
theorem converse_error {α : Type} (hlog : Transport.Logs log) {l : Link τ}
    {decode : Session → String → Except ProtocolError (Session.Reply α)}
    (hshort : ∀ text reply, decode l.session text = .ok reply → reply.frames.length ≤ 1)
    {e : ProtocolError} (h : (l.converse decode).1 = .error e) :
    l.Unmoved log (l.converse decode).2 := by
  have hreceived := l.unmoved_receive hlog
  rw [converse] at h ⊢
  split at h <;> rename_i hreceive <;> rw [hreceive] at hreceived
  · exact hreceived
  · rename_i l'
    split at h <;> rename_i hdecode
    · exact hreceived
    · rename_i reply
      have hlength := hshort _ reply (hreceived.2 ▸ hdecode)
      rw [settle] at h ⊢
      split at h <;> rename_i hsend
      · cases h
      · rcases sendAll_cases hlog l' reply.frames with
          ⟨hok, -⟩ | ⟨e', out, -, ⟨frame, rest, hframes, -, -⟩, hout⟩
        · rw [hsend] at hok
          cases hok
        · -- the frame that is stuck is the only one
          rw [hframes, List.length_append, List.length_cons] at hlength
          have hnil : out = [] := List.length_eq_zero_iff.mp (by omega)
          rw [hsend, hnil, List.append_nil, hreceived.1] at hout
          refine ⟨hout, ?_⟩
          rw [← congrArg (·.2.session) hsend, sendAll_session, hreceived.2]

/-! ## Histories -/

theorem perform_subprotocol (l : Link τ) (call : Call τ) :
    (l.perform call).session.subprotocol = l.session.subprotocol := by
  cases call with
  | handshake =>
    rcases l.handshake_cases with ⟨_, -, hsession⟩ | ⟨_, -, -, hsession⟩ <;> rw [perform, hsession]
  | read =>
    rcases l.read_cases with ⟨_, -, hsession⟩ | ⟨reply, -, hread, -, hsession⟩ <;>
      rw [perform, hsession]
    exact hread.subprotocol
  | data id data extensions => rw [perform, writeData_session]
  | errors id errors extensions => rw [perform, writeErrors_session]
  | done id =>
    rw [perform, done_session]
    split
    · exact l.session.release_subprotocol id
    · rfl
  | stir f | pong ping | close code reason => rfl

theorem performAll_subprotocol (l : Link τ) (calls : List (Call τ)) :
    (l.performAll calls).session.subprotocol = l.session.subprotocol := by
  induction calls generalizing l with
  | nil => rfl
  | cons call calls ih =>
    have hstep : l.performAll (call :: calls) = (l.perform call).performAll calls := rfl
    rw [hstep, ih, perform_subprotocol]

/-- On a channel it is known where each open operation was asked for. -/
theorem exists_origin {p : Subprotocol} {transport : τ} {calls : List (Call τ)} {id : String}
    (hp : p = .absinthe) (hid : id ∈ ((fresh p transport).performAll calls).session.opened) :
    ∃ origin, ((fresh p transport).performAll calls).session.origin? id = some origin := by
  subst hp
  have htraced := traced_performAll (traced_fresh transport) calls
  obtain ⟨doc, -, -, -, horigin⟩ := htraced.origin id hid
  exact ⟨_, horigin⟩

end Link

/-! ## Scripted connections -/

namespace ScriptedTransport

theorem deliver_cases (t : ScriptedTransport) (text : String) :
    ((t.deliver text).1 = .ok () → (t.deliver text).2.sent = text :: t.sent) ∧
      ∀ e, (t.deliver text).1 = .error e → (t.deliver text).2.sent = t.sent := by
  rw [deliver]
  split
  · simp
  · simp

theorem send_cases (t : ScriptedTransport) (text : String) :
    ((t.send text).1 = .ok () → (t.send text).2.sent = text :: t.sent) ∧
      ∀ e, (t.send text).1 = .error e → (t.send text).2.sent = t.sent := by
  rw [send]
  split
  · exact deliver_cases t text
  · simp
  · exact deliver_cases _ text

/-- What a scripted connection has sent, in order. -/
def log (t : ScriptedTransport) : List String := t.sent.reverse

theorem logs : Transport.Logs log where
  receive t := congrArg List.reverse (receive_sent t)
  sent t frame h := by
    have hsent : (t.send frame).2.sent = frame :: t.sent := (send_cases t frame).1 h
    show (t.send frame).2.sent.reverse = _
    rw [hsent, List.reverse_cons]
    rfl
  unsent t frame e h := congrArg List.reverse ((send_cases t frame).2 e h)

theorem deliver_inbox (t : ScriptedTransport) (text : String) :
    (t.deliver text).2.inbox = t.inbox := by
  rw [deliver]
  split <;> rfl

theorem receive_inbox (t : ScriptedTransport) (text : String) :
    t.receive.1 = .ok text → t.inbox = text :: t.receive.2.inbox := by
  rw [receive]
  split
  · simp
  · split
    · simp
    · split <;> rename_i hinbox
      · simp
      · rintro ⟨⟩
        exact hinbox

theorem queues : Transport.Queues inbox where
  receive := receive_inbox
  send t frame := by
    show (t.send frame).2.inbox = t.inbox
    rw [send]
    split
    · exact deliver_inbox t frame
    · rfl
    · exact deliver_inbox _ frame

end ScriptedTransport
end StreamGateway
