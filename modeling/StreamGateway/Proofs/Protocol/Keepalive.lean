import StreamGateway.Proofs.Json.Unambiguous
import StreamGateway.Proofs.Protocol.Logs
import StreamGateway.Proofs.Protocol.Shapes

/-! # Pings come back

A ping is read as a message, and the answer is made from the message. On an object protocol that is
enough: the pong carries the very text of the ping's payload. On a channel a heartbeat is answered
under its reference, which the message holds as its id; and there a missing reference is an empty
id. So a heartbeat with an empty reference is answered without any, and it is the only ping that
does not come back as it was (`Link.keepalive_echoed_iff`). -/
namespace StreamGateway

open Json (Raw Reads Writes)

/-! ## Texts -/

namespace ObjectFrame

/-- The text is a ping with this payload, as it is written; where `null` stands there is none. -/
def IsPing (text : String) (payload : Option Raw) : Prop :=
  ∃ f : ObjectFrame, f.StandsIn text ∧ f.type = "ping" ∧ f.payload = payload ∧
    payload ≠ some ⟨"null"⟩

theorem IsPing.ne_null {text : String} {payload : Option Raw} (h : IsPing text payload) :
    payload ≠ some ⟨"null"⟩ := by
  obtain ⟨-, -, -, -, hnull⟩ := h
  exact hnull

theorem some_eq_of_text {raw : Raw} {text : String} (h : raw.text = text) :
    some raw = some ⟨text⟩ :=
  congrArg (fun text => some (Raw.mk text)) h

/-- Payloads that are written the same are the same, as long as none of them is `null`. -/
theorem payloadText_inj {payload payload' : Option Raw} (hnull : payload ≠ some ⟨"null"⟩)
    (hnull' : payload' ≠ some ⟨"null"⟩) (h : payloadText payload = payloadText payload') :
    payload = payload' := by
  cases payload with
  | none =>
    cases payload' with
    | none => rfl
    | some raw => exact absurd (some_eq_of_text (String.toList_inj.mp h.symm)) hnull'
  | some raw =>
    cases payload' with
    | none => exact absurd (some_eq_of_text (String.toList_inj.mp h)) hnull
    | some raw' => exact some_eq_of_text (String.toList_inj.mp h)

/-- A ping has one payload at most. -/
theorem IsPing.unique {text : String} {payload payload' : Option Raw} (h : IsPing text payload)
    (h' : IsPing text payload') : payload = payload' := by
  obtain ⟨f, hf, -, rfl, hnull⟩ := h
  obtain ⟨f', hf', -, rfl, hnull'⟩ := h'
  apply payloadText_inj hnull hnull'
  -- a text is an object or a list, and that in one way, so both frames have their payload from the
  -- same place
  cases hf with
  | object ms htext _ _ hpayload =>
    cases hf' with
    | object ms' htext' _ _ hpayload' =>
      obtain rfl := Json.isObject_unique htext htext'
      exact hpayload.symm.trans hpayload'
    | list _ _ _ htext' => exact absurd htext (Json.not_isObject_of_isList htext')
  | list id type more htext _ _ hpayload =>
    cases hf' with
    | object ms' htext' => exact absurd htext' (Json.not_isObject_of_isList htext)
    | list id' type' more' htext' _ _ hpayload' =>
      have hsame := Json.isList_unique htext htext'
      simp only [List.cons.injEq] at hsame
      obtain rfl := hsame.2.2
      rcases hpayload with ⟨rfl, hnone⟩ | rfl
      · rcases hpayload' with ⟨-, hnone'⟩ | hmore
        · rw [hnone, hnone']
        · cases hmore
      · rcases hpayload' with ⟨hmore, -⟩ | hmore
        · cases hmore
        · exact (List.cons.inj hmore).1

/-- A value that may be left out is not `null`. -/
theorem reads_some_raw {v : List Char} {raw : Raw}
    (h : Reads (Json.optional Raw.read) v (some raw)) : raw.IsJson ∧ raw.text ≠ "null" := by
  have hend : Json.Delimited [] := by simp [Json.Delimited]
  obtain ⟨hnone, -⟩ | ⟨_, hsome, hraw⟩ := Json.lexical_raw.reads_of_optional h
  · cases hnone
  · cases hsome
    refine ⟨Raw.isJson_of_read (hraw.read [] hend), fun hnull => ?_⟩
    -- the text would be `null`, and that is read as nothing
    have hv : v = "null".toList := (Json.eq_of_reads_raw hraw).trans (congrArg String.toList hnull)
    cases Json.eq_none_of_reads_null (hv ▸ h)

/-- The payload of a frame that was read is a value other than `null`. -/
theorem payload_of_parse {text : String} {f : ObjectFrame} (h : parse text = .ok f) :
    ∀ raw ∈ f.payload, raw.IsJson ∧ raw.text ≠ "null" := by
  refine Json.Record.invariant_of_parse (P := fun f => ∀ raw ∈ f.payload, raw.IsJson ∧
    raw.text ≠ "null")
    lexical_fields ?_ (by simp) h
  intro g hg s v s' hreads hs
  simp only [record, List.mem_cons, List.not_mem_nil, or_false] at hg
  rcases hg with rfl | rfl | rfl
  · obtain ⟨id, -, rfl⟩ := exists_of_reads_id hreads
    exact hs
  · obtain ⟨type, -, rfl⟩ := exists_of_reads_type hreads
    exact hs
  · obtain ⟨payload, hpayload, rfl⟩ :=
      Json.lexical_raw.optional.reads_of_map (fun payload => ({ s with payload } : ObjectFrame))
        hreads
    rintro raw ⟨⟩
    exact reads_some_raw hpayload

theorem isPing_of_parse {text : String} {f : ObjectFrame} (h : parse text = .ok f)
    (htype : f.type = "ping") : IsPing text f.payload :=
  ⟨f, standsIn_of_parse h, htype, rfl, fun heq => (payload_of_parse h _ heq).2 rfl⟩

/-- A pong is read with the payload that it was written with. -/
theorem parse_pong {payload : Option Raw} (hjson : ∀ raw ∈ payload, raw.IsJson)
    (hnull : payload ≠ some ⟨"null"⟩) :
    parse (render { type := "pong", payload }) = .ok { type := "pong", payload } := by
  have hheard : heard payload = payload := by
    cases payload with
    | none => rfl
    | some raw =>
      rw [heard, if_neg]
      exact fun htext => hnull (some_eq_of_text htext)
  rw [parse_render hjson, hheard]

end ObjectFrame

namespace ChannelFrame

/-- The text is a heartbeat with this reference, if it has one. -/
def IsHeartbeat (text : String) (ref : Option String) : Prop :=
  ∃ f : ChannelFrame, f.StandsIn text ∧ f.event = "heartbeat" ∧ f.ref = ref

theorem MayWrite.unique {s s' : Option String} {v : List Char} (h : MayWrite s v)
    (h' : MayWrite s' v) : s = s' := by
  have hnull (x : String) : ¬Writes x "null".toList := by
    rintro ⟨t, -, heq⟩
    cases heq
  cases s with
  | none =>
    obtain rfl : v = "null".toList := h
    cases s' with
    | none => rfl
    | some x => exact absurd h' (hnull x)
  | some x =>
    cases s' with
    | none =>
      obtain rfl : v = "null".toList := h'
      exact absurd h (hnull x)
    | some x' => exact congrArg some (Writes.sole h h' (r := []) rfl).1

/-- A heartbeat has one reference at most. -/
theorem IsHeartbeat.unique {text : String} {ref ref' : Option String} (h : IsHeartbeat text ref)
    (h' : IsHeartbeat text ref') : ref = ref' := by
  obtain ⟨f, ⟨joinRef, v, topic, event, htext, -, hv⟩, -, rfl⟩ := h
  obtain ⟨f', ⟨joinRef', v', topic', event', htext', -, hv'⟩, -, rfl⟩ := h'
  have hsame := Json.isList_unique htext htext'
  simp only [List.cons.injEq] at hsame
  exact hv.unique (hsame.2.1 ▸ hv')

/-- The text is an answer on the topic of heartbeats that says `ok` to this reference. -/
def Acknowledges (frame : String) (ref : Option String) : Prop :=
  ∃ f : ChannelFrame, parse frame = .ok f ∧ f.event = "phx_reply" ∧
    f.topic = "phoenix" ∧ f.ref = ref ∧
    ∃ members : Json.Members, Json.parse f.payload.text = .ok (.obj members) ∧
      members.get? "status" = some (.str "ok")

/-- The answer that all is well. -/
theorem parse_reply_ok : Json.parse (Payload.reply "ok" (.obj [])).text =
    .ok (.obj [("response", .obj []), ("status", .str "ok")]) := by
  have htext : (Payload.reply "ok" (.obj [])).text =
      "\x7b\"status\":\"ok\",\"response\":\x7b\x7d\x7d" := by
    decide +kernel
  rw [htext]
  rfl

theorem acknowledges_iff {ref ref' : Option String} :
    Acknowledges (Session.channelReply none ref "phoenix" "ok" (.obj [])) ref' ↔ ref = ref' := by
  have hparse := parse_channelReply none ref "phoenix" "ok" (.obj [])
  constructor
  · rintro ⟨f, hf, -, -, rfl, -⟩
    rw [hparse] at hf
    cases hf
    rfl
  · rintro rfl
    exact ⟨_, hparse, rfl, rfl, rfl, _, parse_reply_ok, rfl⟩

end ChannelFrame

/-- The text is a ping, and the frame gives it back. On an object protocol it is a pong with the
ping's payload; on a channel it says `ok` to the heartbeat's reference. One object protocol has no
pings. -/
def Subprotocol.Echoes : Subprotocol → (text frame : String) → Prop
  | .transport, text, frame =>
    (∃ payload, ObjectFrame.IsPing text payload) ∧
      ∀ payload, ObjectFrame.IsPing text payload →
        ObjectFrame.parse frame = .ok { type := "pong", payload }
  | .legacy, _, _ => False
  | .absinthe, text, frame =>
    (∃ ref, ChannelFrame.IsHeartbeat text ref) ∧
      ∀ ref, ChannelFrame.IsHeartbeat text ref → ChannelFrame.Acknowledges frame ref

/-! ## Messages -/

namespace Session

/-- What a message keeps of the ping it was read from. -/
inductive Pinged (text : String) : Subprotocol → Message → Prop where
  | object {payload : Option Raw} (h : ObjectFrame.IsPing text payload)
      (hjson : ∀ raw ∈ payload, raw.IsJson)
      (id : String) : Pinged text .transport ⟨id, .ping, payload⟩
  | channel {ref : Option String} (h : ChannelFrame.IsHeartbeat text ref) (payload : Option Raw) :
      Pinged text .absinthe ⟨ref.getD "", .ping, payload⟩

theorem eq_ping_of_objectKind? {p : Subprotocol} {type : String} (hp : p ≠ .absinthe)
    (h : objectKind? p type = some .ping) : p = .transport ∧ type = "ping" := by
  cases p with
  | transport =>
    simp only [objectKind?] at h
    split at h <;> simp_all
  | legacy =>
    simp only [objectKind?] at h
    split at h <;> simp_all
  | absinthe => exact absurd rfl hp

theorem objectMessage_ping {s : Session} {text : String} {reply : Reply Message}
    (hp : s.subprotocol ≠ .absinthe) (h : s.objectMessage text = .ok reply)
    (hkind : reply.value.kind = .ping) :
    reply = ⟨[], s, reply.value⟩ ∧ Pinged text s.subprotocol reply.value := by
  rw [objectMessage] at h
  split at h
  · cases h
  · rename_i f hparse
    split at h
    · cases h
    · rename_i kind hobject
      cases h
      obtain rfl : kind = .ping := hkind
      obtain ⟨hsubprotocol, htype⟩ := eq_ping_of_objectKind? hp hobject
      have hjson := fun raw hraw => (ObjectFrame.payload_of_parse hparse raw hraw).1
      rw [hsubprotocol]
      exact ⟨rfl, .object (ObjectFrame.isPing_of_parse hparse htype) hjson f.id⟩

theorem channelMessage_ping {s : Session} {text : String} {reply : Reply Message}
    (hp : s.subprotocol = .absinthe) (h : s.channelMessage text = .ok reply)
    (hkind : reply.value.kind = .ping) :
    reply = ⟨[], s, reply.value⟩ ∧ Pinged text s.subprotocol reply.value := by
  rw [channelMessage] at h
  split at h
  · cases h
  · rename_i f hparse
    dsimp only at h
    split at h
    · rename_i hevent
      cases h
      rw [hp]
      exact ⟨rfl, .channel ⟨f, ChannelFrame.standsIn_of_parse hparse, hevent, rfl⟩ _⟩
    · cases h
      cases hkind
    · cases h
      cases hkind
    · cases h

/-- A ping is not answered when it is read, and it does nothing to the session. -/
theorem message_ping {s : Session} {text : String} {reply : Reply Message}
    (h : s.message text = .ok reply) (hkind : reply.value.kind = .ping) :
    reply = ⟨[], s, reply.value⟩ ∧ Pinged text s.subprotocol reply.value := by
  by_cases hp : s.subprotocol = .absinthe
  · exact channelMessage_ping hp ((message_eq_channelMessage hp text).symm.trans h) hkind
  · exact objectMessage_ping hp ((message_eq_objectMessage hp text).symm.trans h) hkind

/-- The reference in the answer to a heartbeat. -/
theorem ref_of_pong (ref : Option String) :
    (if ref.getD "" = "" then none else some (ref.getD "")) =
      if ref = some "" then none else ref := by
  cases ref with
  | none => rfl
  | some r => by_cases hr : r = "" <;> simp [hr]

theorem pong_channel {s : Session} (hp : s.subprotocol = .absinthe) (ref : Option String)
    (payload : Option Raw) :
    s.pong ⟨ref.getD "", .ping, payload⟩ =
      channelReply none (if ref = some "" then none else ref) "phoenix" "ok" (.obj []) := by
  rw [pong, hp]
  dsimp only
  rw [ref_of_pong]

/-- What a message keeps of a ping is enough to give it back, but for an empty reference. -/
theorem Pinged.echoes_iff {text : String} {p : Subprotocol} {ping : Message}
    (h : Pinged text p ping) {s : Session} (hs : s.subprotocol = p) :
    p.Echoes text (s.pong ping) ↔ (p = .absinthe → ¬ChannelFrame.IsHeartbeat text (some "")) := by
  cases h with
  | @object payload hping hjson id =>
    have hpong : s.pong ⟨id, .ping, payload⟩ = ObjectFrame.render { type := "pong", payload } := by
      rw [pong, hs]
    rw [hpong]
    constructor
    · rintro - ⟨⟩
    · refine fun _ => ⟨⟨payload, hping⟩, fun payload' hping' => ?_⟩
      rw [hping'.unique hping, ObjectFrame.parse_pong hjson hping.ne_null]
  | @channel ref hbeat payload =>
    rw [pong_channel hs]
    constructor
    · -- the id of the message is empty, so the answer is written without a reference
      rintro ⟨-, hack⟩ - hempty
      obtain rfl := hbeat.unique hempty
      have hlost := ChannelFrame.acknowledges_iff.mp (hack _ hempty)
      rw [if_pos rfl] at hlost
      cases hlost
    · intro hne
      have href : ref ≠ some "" := fun heq => hne rfl (heq ▸ hbeat)
      refine ⟨⟨ref, hbeat⟩, fun ref' hbeat' => ?_⟩
      rw [ChannelFrame.acknowledges_iff, if_neg href, hbeat.unique hbeat']

/-- The answer to a heartbeat with an empty reference has none. -/
theorem Pinged.acknowledges_none {text : String} {ping : Message} (h : Pinged text .absinthe ping)
    (hempty : ChannelFrame.IsHeartbeat text (some "")) {s : Session}
    (hs : s.subprotocol = .absinthe) : ChannelFrame.Acknowledges (s.pong ping) none := by
  cases h with
  | @channel ref hbeat payload =>
    obtain rfl := hbeat.unique hempty
    rw [pong_channel hs, ChannelFrame.acknowledges_iff, if_pos rfl]

end Session

/-! ## Links -/

namespace Link

variable {τ : Type} [Transport τ] {log : τ → List String}

/-- A ping is only read. -/
theorem read_ping {l : Link τ} {ping : Message} (hread : l.read.1 = .ok ping)
    (hkind : ping.kind = .ping) :
    ∃ text, l.receive.1 = .ok text ∧ Session.Pinged text l.session.subprotocol ping ∧
      l.read.2 = l.receive.2 := by
  rw [read] at hread ⊢
  split at hread <;> rename_i hinit
  · rw [if_pos hinit]
    rcases l.converse_cases Session.message with ⟨e, herror, -⟩ |
      ⟨text, reply, hreceive, hdecode, hvalue, -⟩
    · rw [hread] at herror
      cases herror
    · obtain rfl : ping = reply.value := Except.ok.inj (hread.symm.trans hvalue)
      obtain ⟨hreply, hpinged⟩ := Session.message_ping hdecode hkind
      refine ⟨text, hreceive, hpinged, ?_⟩
      -- there is no frame to send, and the session that is set is the one that was there
      rw [converse_ok hreceive hdecode, hreply]
      rfl
  · cases hread

/-- A call writes this one frame, if the connection takes it, and changes nothing else. -/
structure Puts (log : τ → List String) (l : Link τ) (frame : String)
    (outcome : Except ProtocolError Unit × Link τ) :
    Prop where
  result : outcome.1 = (l.send frame).1
  written : outcome.1 = .ok () → log outcome.2.transport = log l.transport ++ [frame]
  refused : ∀ e, outcome.1 = .error e → log outcome.2.transport = log l.transport
  session : outcome.2.session = l.session

theorem puts_send (hlog : Transport.Logs log) (l : Link τ) (frame : String) :
    l.Puts log frame (l.send frame) :=
  ⟨rfl, hlog.sent l.transport frame, hlog.unsent l.transport frame, rfl⟩

/-- **Pings come back as they were, except for a heartbeat with an empty reference.** Reading a ping
changes nothing and sends nothing. Answering it, at once or after other calls, sends one frame and
leaves the session with its open operations alone. On an object protocol the frame is a pong with
the ping's payload as it was written. On a channel it says `ok` to the heartbeat's reference, unless
that is the empty string. Then the answer has no reference. -/
theorem keepalive_echoed_iff (hlog : Transport.Logs log) {l : Link τ} {ping : Message}
    (hread : l.read.1 = .ok ping) (hkind : ping.kind = .ping) (calls : List (Call τ)) :
    let later := l.read.2.performAll calls
    ∃ text frame, l.receive.1 = .ok text ∧ l.Unmoved log l.read.2 ∧
      later.Puts log frame (later.pong ping) ∧
      (l.session.subprotocol.Echoes text frame ↔
        (l.session.subprotocol = .absinthe → ¬ChannelFrame.IsHeartbeat text (some ""))) ∧
      (l.session.subprotocol = .absinthe → ChannelFrame.IsHeartbeat text (some "") →
        ChannelFrame.Acknowledges frame none) := by
  intro later
  obtain ⟨text, hreceive, hpinged, honly⟩ := read_ping hread hkind
  have hlater : later.session.subprotocol = l.session.subprotocol := by
    rw [performAll_subprotocol, honly]
    rfl
  refine ⟨text, later.session.pong ping, hreceive, honly ▸ l.unmoved_receive hlog,
    puts_send hlog later _, hpinged.echoes_iff hlater, fun hp hempty => ?_⟩
  rw [hp] at hpinged hlater
  exact hpinged.acknowledges_none hempty hlater

/-- A ping whose payload has blanks and escapes. -/
def paddedPing : String := "\x7b\"payload\": [ 1.0, \"\\u0041\" ] ,\"type\":\"ping\"\x7d"

/-- A client with an open operation has sent a text. -/
def hears (p : Subprotocol) (text : String) : Link ScriptedTransport where
  session := { subprotocol := p, initialized := true, opened := ["1"] }
  transport := { inbox := [text] }

theorem keepalive_echoed_iff_padded :
    let l := hears .transport paddedPing
    let ping : Message := ⟨"", .ping, some ⟨"[ 1.0, \"\\u0041\" ]"⟩⟩
    (Transport.Logs ScriptedTransport.log ∧ l.read.1 = .ok ping ∧ ping.kind = .ping) ∧
      ∃ frame, (l.read.2.performAll [.done "1"]).Puts ScriptedTransport.log frame
          ((l.read.2.performAll [.done "1"]).pong ping) ∧
        Subprotocol.transport.Echoes paddedPing frame := by
  intro l ping
  have hread : l.read.1 = .ok ping := by decide +kernel
  have hreceive : l.receive.1 = .ok paddedPing := rfl
  obtain ⟨text, frame, htext, -, hputs, hechoes, -⟩ :=
    keepalive_echoed_iff ScriptedTransport.logs hread rfl [.done "1"]
  obtain rfl : paddedPing = text := Except.ok.inj (hreceive.symm.trans htext)
  exact ⟨⟨ScriptedTransport.logs, hread, rfl⟩, frame, hputs, hechoes.mpr fun hp => by cases hp⟩

/-- A client joins a channel and sends a heartbeat with an empty reference. The answer has no
reference. -/
theorem empty_reference_lost :
    let beat := "[null,\"\",\"phoenix\",\"heartbeat\",\x7b\x7d]"
    let answer :=
      "[null,null,\"phoenix\",\"phx_reply\",\x7b\"status\":\"ok\",\"response\":\x7b\x7d\x7d]"
    let client : ScriptedTransport :=
      { inbox := ["[\"1\",\"1\",\"c\",\"phx_join\",\x7b\x7d]", beat] }
    let l := (fresh .absinthe client).handshake.2
    let ping : Message := ⟨"", .ping, some ⟨"\x7b\x7d"⟩⟩
    l.session.initialized = true ∧ l.receive.1 = .ok beat ∧ l.read.1 = .ok ping ∧
      (l.read.2.pong ping).2.transport.log = l.read.2.transport.log ++ [answer] ∧
      ¬Subprotocol.absinthe.Echoes beat answer := by
  intro beat answer client l ping
  refine ⟨by decide +kernel, by decide +kernel, by decide +kernel, by decide +kernel, ?_⟩
  have hbeat : ChannelFrame.parse beat = .ok ⟨none, some "", "phoenix", "heartbeat",
      ⟨"\x7b\x7d"⟩⟩ := by decide +kernel
  have hanswer : (ChannelFrame.parse answer).toOption.bind (·.ref) = none := by decide +kernel
  rintro ⟨-, hack⟩
  obtain ⟨f, hf, -, -, href, -⟩ :=
    hack (some "") ⟨_, ChannelFrame.standsIn_of_parse hbeat, rfl, rfl⟩
  rw [hf] at hanswer
  cases href.symm.trans hanswer

end Link
end StreamGateway
