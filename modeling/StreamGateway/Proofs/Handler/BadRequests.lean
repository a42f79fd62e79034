import StreamGateway.Proofs.Handler.Refusals
import StreamGateway.Proofs.Text.Quoting

/-! # Requests that are turned down

A client may subscribe without an id or under one that is taken, and it may complete an operation
that does not run. When the handler turns such a request down, the session has acted on it already:
it has opened or closed an operation, or answered a document. Nothing comes of that as long as the
handler was not cleared by closing it. What runs is what is open (`Life.matched`), and the open
operations are in order (`Life.inOrder`); so a subscription that is turned down opens nothing new,
and a completion that is turned down closes nothing (`Session.message_session_of_idle`). -/
namespace StreamGateway

open Json (Raw)

theorem Ids.insert_of_mem {id : String} {xs : Ids} (hxs : xs.Pairwise (· < ·)) (hid : id ∈ xs) :
    insert id xs = xs := by
  induction xs with
  | nil => cases hid
  | cons y ys ih =>
    obtain ⟨hy, hys⟩ := List.pairwise_cons.mp hxs
    rw [insert]
    rcases List.mem_cons.mp hid with rfl | hid
    · rw [if_neg (String.lt_irrefl id), if_pos rfl]
    · have hlt : y < id := hy id hid
      have hne : id ≠ y := fun heq => String.lt_irrefl y (heq ▸ hlt)
      rw [if_neg (String.lt_asymm hlt), if_neg hne, ih hys hid]

/-! ## Sessions -/

namespace Session

/-- Nothing is opened that is open already. -/
theorem InOrder.withOpen_of_idle {s : Session} (hs : s.InOrder) {id : String}
    (hid : id = "" ∨ id ∈ s.opened) : s.withOpen id = s := by
  rw [Session.withOpen]
  split
  · rfl
  · rename_i hne
    rw [Ids.insert_of_mem hs (hid.resolve_left hne)]

theorem openFrom_of_mem {s : Session} {id : String} (hid : id ∈ s.opened) (origin : Origin) :
    s.openFrom id origin = s := by
  rw [openFrom, if_pos (isOpen_iff.mpr hid)]

/-! ### Messages -/

/-- What a text of an object protocol does. No frame answers it. -/
theorem message_of_object {s : Session} (hp : s.subprotocol ≠ .absinthe) {text : String}
    {reply : Reply Message} (h : s.message text = .ok reply) :
    reply.frames = [] ∧
      reply.session = match reply.value.kind with
        | .subscribe => s.withOpen reply.value.id
        | .complete => s.release reply.value.id
        | _ => s := by
  rw [message_eq_objectMessage hp, objectMessage] at h
  split at h
  · cases h
  · split at h
    · cases h
    · cases h
      exact ⟨rfl, rfl⟩

/-- What a message on a channel does. Only a document is answered. -/
theorem message_of_channel {s : Session} (hp : s.subprotocol = .absinthe) {text : String}
    {reply : Reply Message} (h : s.message text = .ok reply) :
    ∃ f, ChannelFrame.parse text = .ok f ∧
      match reply.value.kind with
      | .subscribe =>
        reply.frames = [channelReply f.joinRef f.ref f.topic "ok"
          (.obj [("subscriptionId", .str reply.value.id)])] ∧
        reply.value.id ≠ "" ∧ reply.session = s.openFrom reply.value.id f.origin
      | .complete => reply.frames = [] ∧ reply.session = s.release reply.value.id
      | _ => reply.frames = [] ∧ reply.session = s := by
  rw [message_eq_channelMessage hp, channelMessage] at h
  split at h
  · cases h
  · rename_i f hparse
    refine ⟨f, hparse, ?_⟩
    dsimp only at h
    split at h
    · cases h
      exact ⟨rfl, rfl⟩
    · cases h
      exact ⟨rfl, Subprotocol.channelId_ne_empty _, rfl⟩
    · cases h
      exact ⟨rfl, rfl⟩
    · cases h

/-- The message asks for an operation that cannot be opened, or for the end of one that is not
open. -/
def Idle (s : Session) (m : Message) : Prop :=
  (m.kind = .subscribe ∧ (m.id = "" ∨ m.id ∈ s.opened)) ∨ (m.kind = .complete ∧ m.id ∉ s.opened)

/-- Such a message leaves the whole session as it is. -/
theorem message_session_of_idle {s : Session} (hs : s.InOrder) {text : String}
    {reply : Reply Message} (h : s.message text = .ok reply) (hidle : s.Idle reply.value) :
    reply.session = s := by
  by_cases hp : s.subprotocol = .absinthe
  · obtain ⟨f, -, hdone⟩ := message_of_channel hp h
    rcases hidle with ⟨hkind, hid⟩ | ⟨hkind, hid⟩ <;> rw [hkind] at hdone
    · rw [hdone.2.2, openFrom_of_mem (hid.resolve_left hdone.2.1)]
    · rw [hdone.2, release_of_notMem hid]
  · have hsession := (message_of_object hp h).2
    rcases hidle with ⟨hkind, hid⟩ | ⟨hkind, hid⟩ <;> rw [hsession, hkind]
    · exact hs.withOpen_of_idle hid
    · exact release_of_notMem hid

end Session

/-! ## Links -/

namespace Link

variable {τ : Type} [Transport τ]

theorem inOrder_perform {l : Link τ} (hl : l.session.InOrder) (call : Call τ) :
    (l.perform call).session.InOrder := by
  cases call with
  | stir f => exact hl
  | handshake =>
    rw [perform]
    rcases l.handshake_cases with ⟨_, -, hsession⟩ |
      ⟨_, -, -, hsession⟩ <;> rw [hsession] <;> exact hl
  | read =>
    rcases l.read_cases with ⟨_, -, hsession⟩ | ⟨reply, -, hread, -, hsession⟩ <;>
      rw [perform, hsession]
    · exact hl
    · exact hread.inOrder hl
  | pong ping => exact hl
  | data id data extensions =>
    rw [perform, writeData_session]
    exact hl
  | errors id errors extensions =>
    rw [perform, writeErrors_session]
    exact hl
  | done id =>
    rw [perform, done_session]
    split
    · exact hl.release id
    · exact hl
  | close code reason => exact hl

theorem inOrder_performAll {l : Link τ} (hl : l.session.InOrder) (calls : List (Call τ)) :
    (l.performAll calls).session.InOrder := by
  induction calls generalizing l with
  | nil => exact hl
  | cons call calls ih => exact ih (inOrder_perform hl call)

/-- A text that was read without moving the session is answered by at most one frame. -/
theorem settle_unmoved {l : Link τ} {reply : Session.Reply Message}
    (hsession : reply.session = l.session) :
    (reply.frames = [] → l.settle reply = (.ok reply.value, l)) ∧
      ∀ frame, reply.frames = [frame] →
        l.settle reply = ((l.send frame).1.map fun _ => reply.value, (l.send frame).2) := by
  constructor
  · intro hframes
    rw [settle, hframes, sendAll, hsession]
  · intro frame hframes
    have hsent : (l.send frame).2.session = l.session := rfl
    rw [settle, hframes]
    cases hsend : (l.send frame).1 with
    | ok =>
      rw [sendAll_of_sent hsend, sendAll, hsession, ← hsent]
      rfl
    | error e =>
      rw [sendAll_of_unsent hsend]
      rfl

end Link

/-! ## Handlers -/

namespace Handler

variable {τ : Type} [Transport τ] {log : τ → List String}

/-- In the life of a handler the open operations are in order. -/
theorem Life.inOrder (l : Life τ) : l.handler.link.session.InOrder := by
  obtain ⟨calls, hcalls⟩ : Called (Link.fresh l.subprotocol l.transport) l.handler.link :=
    called_moves (fresh l.id l.subprotocol l.transport) l.moves
  have hfresh : (Link.fresh l.subprotocol l.transport).session.InOrder := List.Pairwise.nil
  rw [hcalls]
  exact Link.inOrder_performAll hfresh calls

/-- The request is turned down: it subscribes without an id or under one that runs, or completes one
that does not. -/
def TurnsDown (h : Handler τ) (m : Message) : Prop :=
  (m.kind = .subscribe ∧ (m.id = "" ∨ h.number? m.id ≠ none)) ∨
    (m.kind = .complete ∧ h.number? m.id = none)

/-- The text tells a client that no subscription runs under this id, which it quotes. -/
def TellsUnknown (text id : String) : Prop :=
  ∃ quotation, text = "no subscription was registered for ID " ++ quotation ∧
    Text.Quotes quotation id

/-- What is sent in answer to a text with a request that is turned down. An object protocol has a
plain text for the completion of an unknown operation, which quotes its id. A channel answers the
document as it answers every document. -/
inductive Retort (p : Subprotocol) (text : String) (m : Message) : List String → Prop where
  | silence (hp : p ≠ .absinthe) (hm : m.kind = .subscribe) : Retort p text m []
  | notice (hp : p ≠ .absinthe) (hm : m.kind = .complete) {frame : String}
      (hframe : ∀ id, TellsUnknown frame id ↔ id = m.id) : Retort p text m [frame]
  | answer (hp : p = .absinthe) (hm : m.kind = .subscribe) {doc : ChannelFrame}
      (hdoc : ChannelFrame.parse text = .ok doc) {frame : String}
      (hframe : ChannelFrame.Registers frame doc m.id) : Retort p text m [frame]
  | farewell (hp : p = .absinthe) (hm : m.kind = .complete) : Retort p text m []

/-- Nothing is different but the connection and what was logged: not the running subscriptions, the
last number or the work in line, and not the session with its open operations and their origins. -/
def Undisturbed (h h' : Handler τ) : Prop :=
  ∃ link journal, link.session = h.link.session ∧ h' = { h with link, journal }

/-- After a read, the frames have gone out, or the connection has refused the only one. -/
def Spoken (log : τ → List String) (h : Handler τ) (frames : List String)
    (outcome : Except GatewayError Unit × Handler τ) : Prop :=
  (outcome.1 = .ok () ∧ log outcome.2.link.transport = log h.link.transport ++ frames) ∨
    ∃ frame e, frames = [frame] ∧ (h.link.receive.2.send frame).1 = .error e ∧
      outcome.1 = .error (.protocol e) ∧ log outcome.2.link.transport = log h.link.transport

/-! ### Turning down -/

theorem tellsUnknown_iff {text id : String} :
    TellsUnknown text id ↔ text = GatewayError.message (.unknownSubscription id) := by
  rw [TellsUnknown]
  simp only [Text.quotes_iff, exists_eq_right]
  rfl

/-- The text about an id is about no other one. -/
theorem tellsUnknown_message_iff {id other : String} :
    TellsUnknown (GatewayError.message (.unknownSubscription id)) other ↔ other = id := by
  have hself : TellsUnknown (GatewayError.message (.unknownSubscription id)) id :=
    tellsUnknown_iff.mpr rfl
  constructor
  · rintro ⟨quotation, htext, hquotes⟩
    obtain ⟨quotation', htext', hquotes'⟩ := hself
    obtain rfl := String.append_right_inj _ |>.mp (htext.symm.trans htext')
    exact hquotes.unique hquotes'
  · rintro rfl
    exact hself

omit [Transport τ] in
theorem subscribe_of_turnsDown {h : Handler τ} {m : Message}
    (hm : m.id = "" ∨ h.number? m.id ≠ none) : ∃ e, h.subscribe m = (.error e, h) := by
  rw [subscribe]
  by_cases hempty : m.id = ""
  · exact ⟨_, if_pos hempty⟩
  · have hruns : (h.number? m.id).isSome = true :=
      Option.isSome_iff_ne_none.mpr (hm.resolve_left hempty)
    rw [if_neg hempty, if_pos hruns]
    exact ⟨_, rfl⟩

theorem handle_of_subscribe {h : Handler τ} {m : Message} (hkind : m.kind = .subscribe)
    (hm : m.id = "" ∨ h.number? m.id ≠ none) :
    ∃ journal, h.handle m = (.ok (), { h with journal }) := by
  obtain ⟨e, hsubscribe⟩ := subscribe_of_turnsDown hm
  rw [handle, hkind]
  dsimp only
  rw [hsubscribe]
  exact ⟨_, rfl⟩

theorem handle_of_complete {h : Handler τ} {m : Message} (hkind : m.kind = .complete)
    (hm : h.number? m.id = none) : h.handle m = h.requestError (.unknownSubscription m.id) := by
  rw [handle, hkind]
  dsimp only
  rw [complete, hm]

/-- A channel client is told nothing. -/
theorem requestError_of_channel {h : Handler τ} (hp : h.link.session.subprotocol = .absinthe)
    (e : GatewayError) : ∃ journal, h.requestError e = (.ok (), { h with journal }) := by
  rw [requestError]
  split
  · exact ⟨_, rfl⟩
  · rename_i hobject
    exact absurd hp hobject

theorem requestError_of_object {h : Handler τ} (hp : h.link.session.subprotocol ≠ .absinthe)
    (e : GatewayError) :
    ∃ journal, h.requestError e =
      ((h.link.send e.message).1.mapError .protocol,
        { h with link := (h.link.send e.message).2, journal }) := by
  rw [requestError]
  split
  · rename_i hchannel
    exact absurd hchannel hp
  · exact ⟨_, rfl⟩

/-- The handling of a message fails if the client leaves, or if it cannot be told about an operation
that does not run. -/
theorem handle_eq_error_iff {h : Handler τ} {m : Message} {e : GatewayError} :
    (h.handle m).1 = .error e ↔
      (m.kind = .terminate ∧ e = .clientTerminated) ∨
        (m.kind = .complete ∧ h.number? m.id = none ∧ h.link.session.subprotocol ≠ .absinthe ∧
          ∃ text refused, TellsUnknown text m.id ∧ (h.link.send text).1 = .error refused ∧
            e = .protocol refused) := by
  cases hkind : m.kind with
  | terminate =>
    rw [handle, hkind]
    simp [eq_comm]
  | ping =>
    rw [handle, hkind]
    dsimp only
    split <;> simp
  | pong =>
    rw [handle, hkind]
    simp
  | subscribe =>
    rw [handle, hkind]
    dsimp only
    split <;> simp
  | complete =>
    cases hruns : h.number? m.id with
    | some number =>
      rw [handle, hkind]
      dsimp only
      rw [complete, hruns]
      simp
    | none =>
      rw [handle_of_complete hkind hruns]
      by_cases hp : h.link.session.subprotocol = .absinthe
      · obtain ⟨journal, hchannel⟩ := requestError_of_channel hp (.unknownSubscription m.id)
        rw [hchannel]
        simp [hp]
      · obtain ⟨journal, hobject⟩ := requestError_of_object hp (.unknownSubscription m.id)
        simp only [hobject, tellsUnknown_iff, exists_and_left, exists_eq_left]
        cases hsend : (h.link.send (GatewayError.message (.unknownSubscription m.id))).1 with
        | ok => simp [Except.mapError]
        | error refused => simp [Except.mapError, hp, eq_comm]

/-! ### Reading -/

/-- The handler gets what was read, on the link behind it. -/
theorem readOne_of_read {h : Handler τ} {m : Message} {l : Link τ}
    (hread : h.link.read = (.ok m, l)) :
    ∃ journal, h.readOne = ({ h with link := l, journal } : Handler τ).handle m := by
  rw [readOne, readMessage, hread]
  exact ⟨_, rfl⟩

theorem readOne_of_unread {h : Handler τ} {e : ProtocolError} {l : Link τ}
    (hread : h.link.read = (.error e, l)) :
    ∃ journal, h.readOne = (.error (.protocol e), { h with link := l, journal }) := by
  rw [readOne, readMessage, hread]
  exact ⟨_, rfl⟩

/-- A subscription that is turned down: all that is sent was sent when it was read. -/
theorem spoken_of_subscribe {h : Handler τ} {m : Message} {l : Link τ}
    (hread : h.link.read = (.ok m, l)) (hsession : l.session = h.link.session)
    (hkind : m.kind = .subscribe) (hid : m.id = "" ∨ h.number? m.id ≠ none) {frames : List String}
    (hsent : log l.transport = log h.link.transport ++ frames) :
    h.Undisturbed h.readOne.2 ∧ h.Spoken log frames h.readOne := by
  obtain ⟨journal, hone⟩ := readOne_of_read hread
  obtain ⟨journal', hhandle⟩ := handle_of_subscribe (h := { h with link := l, journal }) hkind hid
  rw [hone, hhandle]
  exact ⟨⟨l, journal', hsession, rfl⟩, Or.inl ⟨rfl, hsent⟩⟩

/-- A completion that is turned down on a channel. -/
theorem spoken_of_leave {h : Handler τ} {m : Message} {l : Link τ}
    (hread : h.link.read = (.ok m, l)) (hsession : l.session = h.link.session)
    (hp : h.link.session.subprotocol = .absinthe) (hkind : m.kind = .complete)
    (hid : h.number? m.id = none) (hsent : log l.transport = log h.link.transport) :
    h.Undisturbed h.readOne.2 ∧ h.Spoken log [] h.readOne := by
  obtain ⟨journal, hone⟩ := readOne_of_read hread
  have hhandle : ({ h with link := l, journal } : Handler τ).handle m = _ :=
    handle_of_complete hkind hid
  obtain ⟨journal', hquiet⟩ :=
    requestError_of_channel (h := { h with link := l, journal }) (hsession ▸ hp)
      (.unknownSubscription m.id)
  rw [hone, hhandle, hquiet]
  refine ⟨⟨l, journal', hsession, rfl⟩, Or.inl ⟨rfl, ?_⟩⟩
  rw [List.append_nil]
  exact hsent

/-- A completion that is turned down on an object protocol: there is one text to send. -/
theorem spoken_of_complete (hlog : Transport.Logs log) {h : Handler τ} {m : Message}
    (hread : h.link.read = (.ok m, h.link.receive.2)) (hp : h.link.session.subprotocol ≠ .absinthe)
    (hkind : m.kind = .complete) (hid : h.number? m.id = none) :
    h.Undisturbed h.readOne.2 ∧
      h.Spoken log [GatewayError.message (.unknownSubscription m.id)] h.readOne := by
  have hreceived : log h.link.receive.2.transport = log h.link.transport :=
    hlog.receive h.link.transport
  obtain ⟨journal, hone⟩ := readOne_of_read hread
  have hhandle : ({ h with link := h.link.receive.2, journal } : Handler τ).handle m = _ :=
    handle_of_complete hkind hid
  obtain ⟨journal', hnotice⟩ :=
    requestError_of_object (h := { h with link := h.link.receive.2, journal }) hp
      (.unknownSubscription m.id)
  rw [hone, hhandle, hnotice]
  refine ⟨⟨(h.link.receive.2.send (GatewayError.message (.unknownSubscription m.id))).2, journal',
    rfl, rfl⟩, ?_⟩
  cases hsend : (h.link.receive.2.send (GatewayError.message (.unknownSubscription m.id))).1 with
  | ok =>
    refine Or.inl ⟨rfl, ?_⟩
    rw [← hreceived]
    exact hlog.sent _ _ hsend
  | error e =>
    refine Or.inr ⟨_, e, rfl, hsend, rfl, ?_⟩
    rw [← hreceived]
    exact hlog.unsent _ _ _ hsend

/-- A document whose answer cannot be sent. -/
theorem spoken_of_unanswered {h : Handler τ} {l : Link τ} {e : ProtocolError}
    (hread : h.link.read = (.error e, l)) (hsession : l.session = h.link.session) {frame : String}
    (hsend : (h.link.receive.2.send frame).1 = .error e)
    (hsent : log l.transport = log h.link.transport) :
    h.Undisturbed h.readOne.2 ∧ h.Spoken log [frame] h.readOne := by
  obtain ⟨journal, hone⟩ := readOne_of_unread hread
  rw [hone]
  exact ⟨⟨l, journal, hsession, rfl⟩, Or.inr ⟨frame, e, rfl, hsend, rfl, hsent⟩⟩

/-- Reading a request that is turned down and handling it, where the open operations are those that
run. -/
theorem spoken_of_turnsDown (hlog : Transport.Logs log) {h : Handler τ}
    (hs : h.link.session.InOrder) (hmatched : Matched h.books) {text : String}
    {reply : Session.Reply Message} (hinit : h.link.session.initialized = true)
    (htext : h.link.receive.1 = .ok text) (hmessage : h.link.session.message text = .ok reply)
    (hdown : h.TurnsDown reply.value) :
    h.Undisturbed h.readOne.2 ∧
      ∃ frames, Retort h.link.session.subprotocol text reply.value frames ∧
        h.Spoken log frames h.readOne := by
  have hopen : ∀ op, op ∈ h.link.session.opened ↔ h.number? op ≠ none := hmatched
  have hidle : h.link.session.Idle reply.value := by
    rw [Session.Idle, hopen, not_not]
    exact hdown
  have hsession : reply.session = h.link.receive.2.session :=
    Session.message_session_of_idle hs hmessage hidle
  have hread : h.link.read = h.link.receive.2.settle reply := by
    rw [Link.read, if_pos hinit, Link.converse_ok htext hmessage]
  have hreceived : log h.link.receive.2.transport = log h.link.transport :=
    hlog.receive h.link.transport
  obtain ⟨hsilent, hanswers⟩ := Link.settle_unmoved hsession
  by_cases hp : h.link.session.subprotocol = .absinthe
  · obtain ⟨doc, hdoc, hdone⟩ := Session.message_of_channel hp hmessage
    rcases hdown with ⟨hkind, hid⟩ | ⟨hkind, hid⟩ <;> rw [hkind] at hdone
    · have hretort := Retort.answer hp hkind hdoc (ChannelFrame.registers_channelReply doc _)
      rw [hanswers _ hdone.1] at hread
      cases hsend : (h.link.receive.2.send _).1 with
      | ok =>
        rw [hsend] at hread
        have hsent := hlog.sent _ _ hsend
        rw [hreceived] at hsent
        obtain ⟨hundisturbed, hspoken⟩ := spoken_of_subscribe hread rfl hkind hid hsent
        exact ⟨hundisturbed, _, hretort, hspoken⟩
      | error e =>
        rw [hsend] at hread
        have hsent := hlog.unsent _ _ _ hsend
        rw [hreceived] at hsent
        obtain ⟨hundisturbed, hspoken⟩ := spoken_of_unanswered hread rfl hsend hsent
        exact ⟨hundisturbed, _, hretort, hspoken⟩
    · rw [hsilent hdone.1] at hread
      obtain ⟨hundisturbed, hspoken⟩ := spoken_of_leave hread rfl hp hkind hid hreceived
      exact ⟨hundisturbed, _, .farewell hp hkind, hspoken⟩
  · rw [hsilent (Session.message_of_object hp hmessage).1] at hread
    rcases hdown with ⟨hkind, hid⟩ | ⟨hkind, hid⟩
    · obtain ⟨hundisturbed, hspoken⟩ :=
        spoken_of_subscribe hread rfl hkind hid (hreceived.trans (List.append_nil _).symm)
      exact ⟨hundisturbed, _, .silence hp hkind, hspoken⟩
    · obtain ⟨hundisturbed, hspoken⟩ := spoken_of_complete hlog hread hp hkind hid
      exact ⟨hundisturbed, _, .notice hp hkind fun _ => tellsUnknown_message_iff, hspoken⟩

/-- **Requests that are turned down do no harm**: at any point of a handler's life short of closing,
whatever text with such a request is read, the running subscriptions, the last number, the work for
the engine and the session (its open operations and their origins) stay as they are. What is sent is
given by `Retort`, at most one frame, and reading and handling the text succeeds unless that frame
cannot be sent. On the whole, the handling of a message fails only if the client leaves or if the
text about an unknown operation cannot be sent. -/
theorem turned_down_undisturbed (hlog : Transport.Logs log) (l : Life τ)
    (hmoves : .forgetAll ∉ l.moves) {text : String} {reply : Session.Reply Message}
    (hinit : l.handler.link.session.initialized = true)
    (htext : l.handler.link.receive.1 = .ok text)
    (hmessage : l.handler.link.session.message text = .ok reply)
    (hdown : l.handler.TurnsDown reply.value) :
    l.handler.Undisturbed l.handler.readOne.2 ∧
      (∃ frames, Retort l.handler.link.session.subprotocol text reply.value frames ∧
        l.handler.Spoken log frames l.handler.readOne) ∧
      ∀ (h : Handler τ) (m : Message) (e : GatewayError), (h.handle m).1 = .error e ↔
        (m.kind = .terminate ∧ e = .clientTerminated) ∨
          (m.kind = .complete ∧ h.number? m.id = none ∧ h.link.session.subprotocol ≠ .absinthe ∧
            ∃ text refused, TellsUnknown text m.id ∧ (h.link.send text).1 = .error refused ∧
              e = .protocol refused) := by
  obtain ⟨hundisturbed, hspoken⟩ :=
    spoken_of_turnsDown hlog l.inOrder (l.matched hmoves) hinit htext hmessage hdown
  exact ⟨hundisturbed, hspoken, fun h m e => handle_eq_error_iff⟩

/-- A document of a channel client. -/
def document : String := "[\"1\",\"2\",\"__absinthe__:control\",\"doc\",\x7b\x7d]"

/-- The client has sent the document, and sends it once more. -/
def repetitive : Life ScriptedTransport where
  id := 1
  subprotocol := .absinthe
  transport := {}
  moves :=
    [.stir (·.push "[\"1\",\"1\",\"__absinthe__:control\",\"phx_join\",\x7b\x7d]"), .handshake,
      .stir (·.push document), .read, .stir (·.push document)]

theorem turnsDown_repetitive : ∃ reply,
    repetitive.handler.link.session.message document = .ok reply ∧
      repetitive.handler.TurnsDown reply.value := by
  refine ⟨_, rfl, Or.inl ⟨rfl, Or.inr ?_⟩⟩
  decide +kernel

theorem turned_down_undisturbed_repetitive :
    let h := repetitive.handler
    ∃ reply, h.link.session.message document = .ok reply ∧ h.TurnsDown reply.value ∧
      h.Undisturbed h.readOne.2 ∧
      ∃ frames, Retort h.link.session.subprotocol document reply.value frames ∧
        h.Spoken ScriptedTransport.log frames h.readOne := by
  intro h
  obtain ⟨reply, hmessage, hdown⟩ := turnsDown_repetitive
  have hmoves : .forgetAll ∉ repetitive.moves := by simp [repetitive]
  have hinit : h.link.session.initialized = true := by decide +kernel
  have htext : h.link.receive.1 = .ok document := by decide +kernel
  obtain ⟨hundisturbed, hspoken, -⟩ :=
    turned_down_undisturbed ScriptedTransport.logs repetitive hmoves hinit htext hmessage hdown
  exact ⟨reply, hmessage, hdown, hundisturbed, hspoken⟩

end Handler
end StreamGateway
