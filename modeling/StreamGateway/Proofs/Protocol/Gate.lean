import StreamGateway.Proofs.Protocol.Agreement
import StreamGateway.Proofs.Protocol.Logs

/-! # The gate before a conversation

No message is read before the handshake has succeeded, and no handshake succeeds twice. In between
stands one text of the client: what it has to be is said by `Subprotocol.Greets`, together with the
frames that acknowledge it; every other text is turned away with the error of
`Subprotocol.TurnsAway`. A session is initialised exactly if a handshake has succeeded before
(`Link.initialized_performAll`), so the gate opens once and stays open. -/
namespace StreamGateway

open Json (Raw)

/-! ## The first text -/

namespace Subprotocol

/-- A text that opens a conversation, with the payload it brings and the frames that acknowledge it.
A channel is joined under the references and the topic that the client has chosen. -/
inductive Greets : Subprotocol → String → Option Raw → List String → Prop where
  | transport {text : String} {f : ObjectFrame} :
    ObjectFrame.parse text = .ok f → f.type = "connection_init" →
      Greets .transport text f.payload ["\x7b\"type\":\"connection_ack\"\x7d"]
  | legacy {text : String} {f : ObjectFrame} :
    ObjectFrame.parse text = .ok f → f.type = "connection_init" →
      Greets .legacy text f.payload
        ["\x7b\"type\":\"connection_ack\"\x7d", "\x7b\"type\":\"ka\"\x7d"]
  | absinthe {text : String} {f : ChannelFrame} :
    ChannelFrame.parse text = .ok f → f.event = "phx_join" →
      Greets .absinthe text (some f.payload)
        [ChannelFrame.render { f with
          event := "phx_reply", payload := ⟨"\x7b\"status\":\"ok\",\"response\":\x7b\x7d\x7d"⟩ }]

/-- A text that does not open a conversation, with the error that says so: it is no frame at all, or
one of another type. -/
inductive TurnsAway : Subprotocol → String → ProtocolError → Prop where
  | object {p : Subprotocol} {text : String} {problem : Json.Problem} :
    p ≠ .absinthe → ObjectFrame.parse text = .error problem → TurnsAway p text (.malformed problem)
  | type {p : Subprotocol} {text : String} {f : ObjectFrame} :
    p ≠ .absinthe → ObjectFrame.parse text = .ok f → f.type ≠ "connection_init" →
      TurnsAway p text (.handshake "connection_init" f.type)
  | channel {text : String} {problem : Json.Problem} :
    ChannelFrame.parse text = .error problem → TurnsAway .absinthe text (.malformed problem)
  | event {text : String} {f : ChannelFrame} :
    ChannelFrame.parse text = .ok f → f.event ≠ "phx_join" →
      TurnsAway .absinthe text (.handshake "phx_join" f.event)

theorem greets_or_turnsAway (p : Subprotocol) (text : String) :
    (∃ payload acks, p.Greets text payload acks) ∨ ∃ e, p.TurnsAway text e := by
  cases p with
  | transport =>
    cases hparse : ObjectFrame.parse text with
    | error problem => exact Or.inr ⟨_, .object nofun hparse⟩
    | ok f =>
      by_cases htype : f.type = "connection_init"
      · exact Or.inl ⟨_, _, .transport hparse htype⟩
      · exact Or.inr ⟨_, .type nofun hparse htype⟩
  | legacy =>
    cases hparse : ObjectFrame.parse text with
    | error problem => exact Or.inr ⟨_, .object nofun hparse⟩
    | ok f =>
      by_cases htype : f.type = "connection_init"
      · exact Or.inl ⟨_, _, .legacy hparse htype⟩
      · exact Or.inr ⟨_, .type nofun hparse htype⟩
  | absinthe =>
    cases hparse : ChannelFrame.parse text with
    | error problem => exact Or.inr ⟨_, .channel hparse⟩
    | ok f =>
      by_cases hevent : f.event = "phx_join"
      · exact Or.inl ⟨_, _, .absinthe hparse hevent⟩
      · exact Or.inr ⟨_, .event hparse hevent⟩

end Subprotocol

namespace Session

theorem handshake_eq_objectHandshake {s : Session} (hp : s.subprotocol ≠ .absinthe)
    (text : String) : s.handshake text = s.objectHandshake text := by
  rw [handshake]
  split
  · rfl
  · rfl
  · exact absurd ‹_› hp

theorem handshake_eq_channelHandshake {s : Session} (hp : s.subprotocol = .absinthe)
    (text : String) : s.handshake text = s.channelHandshake text := by
  rw [handshake, hp]

theorem handshake_of_greets {s : Session} {p : Subprotocol} {text : String} {payload : Option Raw}
    {acks : List String} (hp : s.subprotocol = p) (h : p.Greets text payload acks) :
    s.handshake text = .ok ⟨acks, { s with initialized := true }, payload⟩ := by
  cases h with
  | transport hparse htype | legacy hparse htype =>
    rw [handshake_eq_objectHandshake (by simp [hp]), objectHandshake, hparse]
    dsimp only
    rw [if_neg (not_not_intro htype), hp]
    rfl
  | absinthe hparse hevent =>
    rw [handshake_eq_channelHandshake hp, channelHandshake, hparse]
    dsimp only
    rw [if_neg (not_not_intro hevent)]
    rfl

theorem handshake_of_turnsAway {s : Session} {p : Subprotocol} {text : String} {e : ProtocolError}
    (hp : s.subprotocol = p) (h : p.TurnsAway text e) : s.handshake text = .error e := by
  cases h with
  | object hobject hparse =>
    rw [handshake_eq_objectHandshake (hp ▸ hobject), objectHandshake, hparse]
  | type hobject hparse htype =>
    rw [handshake_eq_objectHandshake (hp ▸ hobject), objectHandshake, hparse]
    exact if_pos htype
  | channel hparse => rw [handshake_eq_channelHandshake hp, channelHandshake, hparse]
  | event hparse hevent =>
    rw [handshake_eq_channelHandshake hp, channelHandshake, hparse]
    exact if_pos hevent

end Session

/-! ## The handshake -/

namespace Link

variable {τ : Type} [Transport τ] {log waiting : τ → List String}

/-- The client is let in: it gets the acknowledgements and the session is initialised. Only a
connection that refuses one of them prevents that; the session then stays as it is, and the
handshake says what is wrong. -/
def LetsIn (log : τ → List String) (l : Link τ) (payload : Option Raw) (acks : List String) :
    Prop :=
  (l.handshake.1 = .ok payload ∧ log l.handshake.2.transport = log l.transport ++ acks ∧
    l.handshake.2.session = { l.session with initialized := true }) ∨
  ∃ e out, l.handshake.1 = .error e ∧ l.receive.2.Sticks acks out e ∧
    log l.handshake.2.transport = log l.transport ++ out ∧ l.handshake.2.session = l.session

theorem handshake_of_initialized {l : Link τ} (h : l.session.initialized = true) :
    l.handshake = (.error .alreadyInitialized, l) := by
  rw [handshake, if_pos h]

theorem read_of_not_initialized {l : Link τ} (h : l.session.initialized = false) :
    l.read = (.error .notInitialized, l) := by
  rw [read, h, if_neg (by decide)]

theorem handshake_ok {l : Link τ} {text : String} {reply : Session.Reply (Option Raw)}
    (hinit : l.session.initialized = false) (hreceive : l.receive.1 = .ok text)
    (hdecode : l.session.handshake text = .ok reply) : l.handshake = l.receive.2.settle reply := by
  rw [handshake, hinit, if_neg (by decide), converse_ok hreceive hdecode]

theorem handshake_error {l : Link τ} {text : String} {e : ProtocolError}
    (hinit : l.session.initialized = false) (hreceive : l.receive.1 = .ok text)
    (hdecode : l.session.handshake text = .error e) : l.handshake = (.error e, l.receive.2) := by
  rw [handshake, hinit, if_neg (by decide), converse_refused hreceive hdecode]

theorem waiting_settle {α : Type} (hqueue : Transport.Queues waiting) (l : Link τ)
    (reply : Session.Reply α) : waiting (l.settle reply).2.transport = waiting l.transport := by
  rw [← waiting_sendAll hqueue l reply.frames, settle]
  split <;> rename_i hsend <;> rw [hsend]

/-- Whatever comes of it, a handshake takes one text. -/
theorem waiting_handshake (hqueue : Transport.Queues waiting) {l : Link τ} {text : String}
    (hinit : l.session.initialized = false) (hreceive : l.receive.1 = .ok text) :
    waiting l.transport = text :: waiting l.handshake.2.transport := by
  have htaken : waiting l.transport = text :: waiting l.receive.2.transport :=
    hqueue.receive l.transport text hreceive
  cases hdecode : l.session.handshake text with
  | error e => rw [handshake_error hinit hreceive hdecode, htaken]
  | ok reply => rw [handshake_ok hinit hreceive hdecode, waiting_settle hqueue, htaken]

theorem letsIn_of_greets (hlog : Transport.Logs log) {l : Link τ} {text : String}
    {payload : Option Raw} {acks : List String} (hinit : l.session.initialized = false)
    (hreceive : l.receive.1 = .ok text) (hgreets : l.session.subprotocol.Greets text payload acks) :
    l.LetsIn log payload acks := by
  have hreceived : log l.receive.2.transport = log l.transport := hlog.receive l.transport
  have hsession := sendAll_session l.receive.2 acks
  rw [LetsIn, handshake_ok hinit hreceive (Session.handshake_of_greets rfl hgreets), settle]
  rcases sendAll_cases hlog l.receive.2 acks with ⟨hok, hout⟩ | ⟨e, out, herror, hsticks, hout⟩
  · have hpair : l.receive.2.sendAll acks = (.ok (), (l.receive.2.sendAll acks).2) :=
      Prod.ext hok rfl
    rw [hpair]
    exact Or.inl ⟨rfl, hreceived ▸ hout, rfl⟩
  · have hpair : l.receive.2.sendAll acks = (.error e, (l.receive.2.sendAll acks).2) :=
      Prod.ext herror rfl
    rw [hpair]
    exact Or.inr ⟨e, out, rfl, hsticks, hreceived ▸ hout, hsession⟩

/-! ## Histories -/

/-- Only a handshake that succeeds initialises a session, and nothing undoes it. -/
theorem initialized_perform (l : Link τ) (call : Call τ) :
    (l.perform call).session.initialized = true ↔
      l.session.initialized = true ∨ call = .handshake ∧
        ∃ payload, l.handshake.1 = .ok payload := by
  cases call with
  | handshake =>
    rcases l.handshake_cases with ⟨e, herror, hsession⟩ | ⟨payload, -, hok, hsession⟩
    · rw [perform, hsession, herror]
      simp
    · rw [perform, hsession, hok]
      simp
  | read =>
    rcases l.read_cases with ⟨_, -, hsession⟩ | ⟨reply, -, hread, -, hsession⟩
    · rw [perform, hsession]
      simp
    · rw [perform, hsession, hread.initialized]
      simp
  | data id data extensions =>
    rw [perform, writeData_session]
    simp
  | errors id errors extensions =>
    rw [perform, writeErrors_session]
    simp
  | done id =>
    rw [perform, done_session]
    split <;> simp
  | stir f | pong ping | close code reason =>
    refine ⟨Or.inl, fun h => h.resolve_right ?_⟩
    rintro ⟨hcall, -⟩
    cases hcall

/-- Somewhere among the calls there is a handshake that succeeds. -/
def Shakes (l : Link τ) (calls : List (Call τ)) : Prop :=
  ∃ before behind payload, calls = before ++ .handshake :: behind ∧
    (l.performAll before).handshake.1 = .ok payload

theorem shakes_cons (l : Link τ) (call : Call τ) (calls : List (Call τ)) :
    l.Shakes (call :: calls) ↔
      (call = .handshake ∧ ∃ payload, l.handshake.1 = .ok payload) ∨
        (l.perform call).Shakes calls := by
  constructor
  · rintro ⟨before, behind, payload, hcalls, hok⟩
    cases before with
    | nil =>
      obtain ⟨rfl, rfl⟩ := List.cons.inj hcalls
      exact Or.inl ⟨rfl, payload, hok⟩
    | cons first before =>
      obtain ⟨rfl, rfl⟩ := List.cons.inj hcalls
      exact Or.inr ⟨before, behind, payload, rfl, hok⟩
  · rintro (⟨rfl, payload, hok⟩ | ⟨before, behind, payload, rfl, hok⟩)
    · exact ⟨[], calls, payload, rfl, hok⟩
    · exact ⟨call :: before, behind, payload, rfl, hok⟩

theorem initialized_performAll (l : Link τ) (calls : List (Call τ)) :
    (l.performAll calls).session.initialized = true ↔
      l.session.initialized = true ∨ l.Shakes calls := by
  induction calls generalizing l with
  | nil =>
    have hnever : ¬l.Shakes [] := by
      rintro ⟨before, behind, payload, hcalls, -⟩
      simp at hcalls
    exact ⟨Or.inl, fun h => h.resolve_right hnever⟩
  | cons call calls ih =>
    have hstep : l.performAll (call :: calls) = (l.perform call).performAll calls := rfl
    rw [hstep, ih, initialized_perform, shakes_cons, or_assoc]

/-- **The handshake is a gate.** In every state that a link over any connection can come to, in any
subprotocol: before a handshake has succeeded no message is read, and a handshake takes exactly one
text of the client. If this text opens a conversation, its acknowledgements go out, the session is
initialised and the payload is handed over; every other text is turned away, with nothing written
and nothing changed. Once a handshake has succeeded, a further one is refused and does nothing. -/
theorem handshake_is_gate (hlog : Transport.Logs log) (hqueue : Transport.Queues waiting)
    (p : Subprotocol) (transport : τ) (calls : List (Call τ)) :
    let l := (fresh p transport).performAll calls
    ((fresh p transport).Shakes calls ∧ l.session.initialized = true ∧
      l.handshake = (.error .alreadyInitialized, l)) ∨
    (¬(fresh p transport).Shakes calls ∧ l.session.initialized = false ∧
      l.read = (.error .notInitialized, l) ∧
      ∀ text, l.receive.1 = .ok text →
        waiting l.transport = text :: waiting l.handshake.2.transport ∧
        (∀ payload acks, p.Greets text payload acks → l.LetsIn log payload acks) ∧
        ((¬∃ payload acks, p.Greets text payload acks) →
          ∃ e, p.TurnsAway text e ∧ l.handshake.1 = .error e ∧ l.Unmoved log l.handshake.2)) := by
  intro l
  have hsubprotocol : l.session.subprotocol = p := performAll_subprotocol (fresh p transport) calls
  have hshakes : l.session.initialized = true ↔ (fresh p transport).Shakes calls := by
    rw [initialized_performAll]
    exact ⟨fun h => h.resolve_left nofun, Or.inr⟩
  cases hinit : l.session.initialized with
  | true => exact Or.inl ⟨hshakes.mp hinit, rfl, handshake_of_initialized hinit⟩
  | false =>
    refine Or.inr ⟨fun h => ?_, rfl, read_of_not_initialized hinit, fun text hreceive =>
      ⟨waiting_handshake hqueue hinit hreceive, fun payload acks hgreets => ?_,
        fun hstranger => ?_⟩⟩
    · rw [hshakes.mpr h] at hinit
      cases hinit
    · exact letsIn_of_greets hlog hinit hreceive (hsubprotocol.symm ▸ hgreets)
    · obtain ⟨e, haway⟩ := (p.greets_or_turnsAway text).resolve_left hstranger
      have hhandshake := handshake_error hinit hreceive
        (Session.handshake_of_turnsAway hsubprotocol haway)
      refine ⟨e, haway, by rw [hhandshake], ?_⟩
      rw [hhandshake]
      exact l.unmoved_receive hlog

/-- A client that starts without a handshake, is turned away, and then says hello. -/
def hasty : List (Call ScriptedTransport) :=
  [.stir (·.push "\x7b\"id\":\"1\",\"type\":\"start\"\x7d"), .handshake,
    .stir (·.push (Conversation.greeting .legacy))]

theorem handshake_is_gate_hasty :
    Transport.Logs ScriptedTransport.log ∧ Transport.Queues ScriptedTransport.inbox ∧
      let l := (fresh .legacy ({} : ScriptedTransport)).performAll hasty
      ¬(fresh .legacy ({} : ScriptedTransport)).Shakes hasty ∧
        l.receive.1 = .ok (Conversation.greeting .legacy) ∧
        l.transport.inbox = Conversation.greeting .legacy :: l.handshake.2.transport.inbox ∧
        l.LetsIn ScriptedTransport.log none
          ["\x7b\"type\":\"connection_ack\"\x7d", "\x7b\"type\":\"ka\"\x7d"] := by
  have hgreets : Subprotocol.Greets .legacy (Conversation.greeting .legacy) none
      ["\x7b\"type\":\"connection_ack\"\x7d", "\x7b\"type\":\"ka\"\x7d"] :=
    .legacy (f := { type := "connection_init" }) rfl rfl
  have hinit :
      ((fresh .legacy ({} : ScriptedTransport)).performAll hasty).session.initialized = false := by
    decide +kernel
  have hreceive : ((fresh .legacy ({} : ScriptedTransport)).performAll hasty).receive.1 =
      .ok (Conversation.greeting .legacy) := by
    decide +kernel
  rcases handshake_is_gate ScriptedTransport.logs ScriptedTransport.queues .legacy {} hasty with
    ⟨-, hshaken, -⟩ | ⟨hnever, -, -, htext⟩
  · rw [hinit] at hshaken
    cases hshaken
  · obtain ⟨htaken, hin, -⟩ := htext _ hreceive
    exact ⟨ScriptedTransport.logs, ScriptedTransport.queues, hnever, hreceive, htaken,
      hin _ _ hgreets⟩

end Link
end StreamGateway
