import StreamGateway.Proofs.Json.Printing
import StreamGateway.Proofs.Protocol.Operations
import StreamGateway.Simulation.ScriptedTransport

/-! # Frames are read back as they were written

Both shapes of frames hold strings, which are escaped, and a payload, which is kept as it is
written. Each frame is a record whose members or items are written so that their readers read them
back (`ObjectFrame.takesMembers`, `ChannelFrame.takesItems`). It follows what a result says to the
client: the frame that carries it holds the operation's id and the very text of the result. -/
namespace StreamGateway

open Json (Raw)

/-! ## Object frames -/

namespace ObjectFrame

/-- The members of a frame's text. -/
def members (f : ObjectFrame) : List (String × List Char) :=
  (if f.id = "" then [] else [("id", Json.renderString f.id)]) ++
    ("type", Json.renderString f.type) ::
      (f.payload.toList.map fun raw => ("payload", raw.text.toList))

theorem renderChars_eq (f : ObjectFrame) : f.renderChars = Json.objectChars f.members := by
  obtain ⟨id, type, payload⟩ := f
  by_cases hid : id = ""
  · cases payload <;>
      simp [renderChars, members, hid, keyChars, Json.objectChars, Json.membersChars]
  · cases payload <;>
      simp [renderChars, members, hid, keyChars, Json.objectChars, Json.membersChars]

/-- What is left of a payload in a frame that is read back: `null` counts as none. -/
def heard : Option Raw → Option Raw
  | none => none
  | some raw => if raw.text = "null" then none else some raw

theorem reads_payload {raw : Raw} (h : raw.IsJson) :
    Json.Reads (Json.optional Raw.read) raw.text.toList (heard (some raw)) := by
  rw [heard]
  split_ifs with hnull
  · rw [hnull]
    exact Json.reads_null
  · exact (Json.reads_raw h).optional (Json.head_ne_of_ne_null h hnull)

/-- The members behind the id. -/
theorem takesRest (id type : String) {payload : Option Raw} (h : ∀ raw ∈ payload, raw.IsJson)
    {seen : List String} (htype : "type" ∉ seen) (hpayload : "payload" ∉ seen) :
    ∃ seen', record.TakesMembers seen { id, type := "" }
        (("type", Json.renderString type) ::
          payload.toList.map fun raw => ("payload", raw.text.toList))
        seen' { id, type, payload := heard payload } ∧ "type" ∈ seen' := by
  have hread := (Json.reads_string type).map fun type => ({ id, type } : ObjectFrame)
  cases payload with
  | none => exact ⟨"type" :: seen, .cons rfl htype hread (.nil _ _), by simp⟩
  | some raw =>
    have hraw := (reads_payload (h raw rfl)).map fun payload =>
      ({ id, type, payload } : ObjectFrame)
    refine ⟨"payload" :: "type" :: seen,
      .cons rfl htype hread (.cons rfl ?_ hraw (.nil _ _)), by simp⟩
    simpa using hpayload

theorem takesMembers {f : ObjectFrame} (h : ∀ raw ∈ f.payload, raw.IsJson) :
    ∃ seen, record.TakesMembers [] { type := "" } f.members seen
        { f with payload := heard f.payload } ∧ "type" ∈ seen := by
  obtain ⟨id, type, payload⟩ := f
  rw [members]
  by_cases hid : id = ""
  · subst hid
    exact takesRest "" type h (by simp) (by simp)
  · have hnew : "type" ∉ ["id"] := by simp
    obtain ⟨seen, htakes, htype⟩ := takesRest id type h hnew (by simp)
    have hread := (Json.reads_string id).map fun id => ({ id, type := "" } : ObjectFrame)
    rw [if_neg hid]
    exact ⟨seen, .cons rfl (by simp) hread htakes, htype⟩

/-- A frame that was written is read back. -/
theorem parse_render {f : ObjectFrame} (h : ∀ raw ∈ f.payload, raw.IsJson) :
    parse f.render = .ok { f with payload := heard f.payload } := by
  obtain ⟨seen, htakes, htype⟩ := takesMembers h
  have hmissing : Json.Record.checkMissing seen record.fields = .ok () := by
    simp [record, Json.Record.checkMissing, htype]
  rw [render, renderChars_eq]
  exact record.parse_ofList (record.read_object rfl htakes hmissing)

end ObjectFrame

/-! ## Channel frames -/

namespace ChannelFrame

theorem renderChars_eq (f : ChannelFrame) :
    f.renderChars = Json.listChars [optionalChars f.joinRef, optionalChars f.ref,
      Json.renderString f.topic, Json.renderString f.event, f.payload.text.toList] := by
  simp [renderChars, Json.listChars, Json.itemsChars]

theorem reads_optionalChars (s : Option String) :
    Json.Reads (Json.optional Json.readString) (optionalChars s) s := by
  cases s with
  | none => exact Json.reads_null
  | some s => exact (Json.reads_string s).optional (by simp [Json.renderString])

theorem takesItems {f : ChannelFrame} (h : f.payload.IsJson) (f₀ : ChannelFrame) :
    Json.Record.TakesItems record.fields f₀
      [optionalChars f.joinRef, optionalChars f.ref, Json.renderString f.topic,
        Json.renderString f.event, f.payload.text.toList] f :=
  .cons ((reads_optionalChars f.joinRef).map fun joinRef => { f₀ with joinRef })
    (.cons ((reads_optionalChars f.ref).map fun ref => { f₀ with joinRef := f.joinRef, ref })
      (.cons ((Json.reads_string f.topic).map fun topic =>
          { f₀ with joinRef := f.joinRef, ref := f.ref, topic })
        (.cons ((Json.reads_string f.event).map fun event =>
            { f with event, payload := f₀.payload })
          (.cons ((Json.reads_raw h).map fun payload => { f with payload }) (.nil f)))))

/-- A frame that was written is read back. -/
theorem parse_render {f : ChannelFrame} (h : f.payload.IsJson) : parse f.render = .ok f := by
  rw [render, renderChars_eq]
  exact record.parse_ofList (record.read_list (takesItems h _))

end ChannelFrame

/-! ## Payloads -/

namespace Payload

theorem objectOf_chars (key value : String) (ms : List (String × String)) :
    ((((key, value) :: ms).map fun (key, value) =>
        Json.renderString key ++ ':' :: value.toList).intersperse [',']).flatten ++ ['\x7d'] =
      Json.renderString key ++ ':' ::
        (value.toList ++ Json.membersChars (ms.map fun (key, value) => (key, value.toList))) := by
  induction ms generalizing key value with
  | nil => simp [Json.membersChars]
  | cons m ms ih =>
    obtain ⟨key', value'⟩ := m
    have hrest := ih key' value'
    simp only [List.map_cons, List.intersperse_cons_cons, List.flatten_cons, List.append_assoc,
      List.cons_append, Json.membersChars] at hrest ⊢
    rw [hrest]
    simp

theorem objectOf_eq (ms : List (String × String)) :
    objectOf ms =
      ⟨String.ofList (Json.objectChars (ms.map fun (key, value) => (key, value.toList)))⟩ := by
  cases ms with
  | nil => rfl
  | cons m ms =>
    obtain ⟨key, value⟩ := m
    rw [objectOf, objectOf_chars]
    rfl

theorem objectOf_isJson {ms : List (String × String)} (h : ∀ m ∈ ms, (⟨m.2⟩ : Raw).IsJson) :
    (objectOf ms).IsJson := by
  have hmembers : ∀ m ∈ ms.map fun (key, value) => (key, value.toList), Json.Spells .value m.2 := by
    intro m hm
    obtain ⟨m', hm', rfl⟩ := List.mem_map.mp hm
    exact h m' hm'
  rw [objectOf_eq, Raw.IsJson, String.toList_ofList]
  exact Json.Spells.objectChars hmembers

end Payload

/-- The payload of a result on a channel. -/
structure ChannelResult where
  result : Raw
  subscriptionId : String
deriving DecidableEq

namespace ChannelResult

/-- The payload as a record in a text. -/
def record : Json.Record ChannelResult where
  title := "struct SubscriptionData"
  fields := [
    { name := "result"
      required := true
      read := fun r cs => do
        let (result, rest) ← Raw.read cs
        return ({ r with result }, rest) },
    { name := "subscriptionId"
      required := true
      read := fun r cs => do
        let (subscriptionId, rest) ← Json.readString cs
        return ({ r with subscriptionId }, rest) }]

/-- The payload of a text. -/
def parse (text : String) : Except Json.Problem ChannelResult :=
  record.parse { result := ⟨"null"⟩, subscriptionId := "" } text

/-- The payload that a session writes. -/
def payload (r : ChannelResult) : Raw :=
  Payload.objectOf [("result", r.result.text),
    ("subscriptionId", Json.render (.str r.subscriptionId))]

theorem payload_isJson {r : ChannelResult} (h : r.result.IsJson) : r.payload.IsJson := by
  have hid : (⟨Json.render (.str r.subscriptionId)⟩ : Raw).IsJson := by
    rw [Raw.IsJson, Json.render, String.toList_ofList, Json.renderChars]
    exact .text (Json.isText_renderString r.subscriptionId)
  apply Payload.objectOf_isJson
  simp [hid, h]

/-- The payload of a result that was written is read back. -/
theorem parse_payload {r : ChannelResult} (h : r.result.IsJson) : parse r.payload.text = .ok r := by
  have hresult := (Json.reads_raw h).map fun result =>
    ({ result, subscriptionId := "" } : ChannelResult)
  have hid := (Json.reads_string r.subscriptionId).map fun subscriptionId =>
    ({ r with subscriptionId } : ChannelResult)
  have htakes : record.TakesMembers [] { result := ⟨"null"⟩, subscriptionId := "" }
      [("result", r.result.text.toList), ("subscriptionId", Json.renderString r.subscriptionId)]
      ["subscriptionId", "result"] r :=
    .cons rfl (by simp) hresult (.cons rfl (by simp) hid (.nil _ _))
  rw [payload, Payload.objectOf_eq, parse]
  simp only [List.map_cons, List.map_nil, Json.render, String.toList_ofList, Json.renderChars]
  exact record.parse_ofList (record.read_object rfl htakes rfl)

end ChannelResult

/-- The payload of an answer on a channel. -/
structure ChannelAnswer where
  status : String
  response : Raw
deriving DecidableEq

namespace ChannelAnswer

/-- The payload as a record in a text. -/
def record : Json.Record ChannelAnswer where
  title := "struct Reply"
  fields := [
    { name := "status"
      required := true
      read := fun a cs => do
        let (status, rest) ← Json.readString cs
        return ({ a with status }, rest) },
    { name := "response"
      required := true
      read := fun a cs => do
        let (response, rest) ← Raw.read cs
        return ({ a with response }, rest) }]

/-- The payload of a text. -/
def parse (text : String) : Except Json.Problem ChannelAnswer :=
  record.parse { status := "", response := ⟨"null"⟩ } text

/-- The payload of an answer that was written is read back. -/
theorem parse_reply (status : String) (response : Json) :
    parse (Payload.reply status response).text = .ok ⟨status, ⟨response.render⟩⟩ := by
  have hstatus := (Json.reads_string status).map fun status =>
    ({ status, response := ⟨"null"⟩ } : ChannelAnswer)
  have hresponse := (Json.reads_raw (Json.render_isJson response)).map fun response =>
    ({ status, response } : ChannelAnswer)
  have htakes : record.TakesMembers [] { status := "", response := ⟨"null"⟩ }
      [("status", Json.renderString status), ("response", response.render.toList)]
      ["response", "status"] ⟨status, ⟨response.render⟩⟩ :=
    .cons rfl (by simp) hstatus (.cons rfl (by simp) hresponse (.nil _ _))
  have htext : (Json.render (.str status)).toList = Json.renderString status := by
    rw [Json.render, String.toList_ofList, Json.renderChars]
  rw [Payload.reply, Payload.objectOf_eq, parse]
  simp only [List.map_cons, List.map_nil, htext]
  exact record.parse_ofList (record.read_object rfl htakes rfl)

end ChannelAnswer

namespace ChannelFrame

/-- Where a message was sent. -/
def origin (f : ChannelFrame) : Origin := ⟨f.joinRef, f.ref, f.topic⟩

/-- The frame answers a message that was sent there, with a status and the text of a response. -/
def Answers (frame : String) (origin : Origin) (status : String) (response : Raw) : Prop :=
  ∃ payload,
    parse frame = .ok
      { joinRef := origin.joinRef, ref := origin.ref, topic := origin.topic
        event := "phx_reply", payload } ∧
    ChannelAnswer.parse payload.text = .ok { status, response }

theorem parse_channelReply (joinRef ref : Option String) (topic status : String) (response : Json) :
    parse (Session.channelReply joinRef ref topic status response) =
      .ok { joinRef, ref, topic, event := "phx_reply"
            payload := Payload.reply status response } := by
  have hjson : (Payload.reply status response).IsJson := by
    apply Payload.objectOf_isJson
    simp [Json.render_isJson]
  exact parse_render hjson

theorem answers_channelReply (origin : Origin) (status : String) (response : Json) :
    Answers (Session.channelReply origin.joinRef origin.ref origin.topic status response) origin
      status ⟨response.render⟩ :=
  ⟨_, parse_channelReply _ _ _ _ _, ChannelAnswer.parse_reply status response⟩

end ChannelFrame

/-! ## Results -/

/-- The type of a frame that carries a result. -/
def Subprotocol.resultType : Subprotocol → String
  | .transport => "next"
  | .legacy => "data"
  | .absinthe => "subscription:data"

namespace Session

theorem objectDataFrame {s : Session} (hp : s.subprotocol ≠ .absinthe) {id : String}
    (hid : id ∈ s.opened) (data : Raw) :
    s.dataFrame id data none =
      .ok (ObjectFrame.render { id, type := s.subprotocol.resultType, payload := some data }) := by
  have hopen : s.isOpen id = true := isOpen_iff.mpr hid
  cases hs : s.subprotocol with
  | transport => simp [dataFrame, hopen, Payload.withExtensions, hs, Subprotocol.resultType]
  | legacy => simp [dataFrame, hopen, Payload.withExtensions, hs, Subprotocol.resultType]
  | absinthe => exact absurd hs hp

theorem channelDataFrame {s : Session} (hp : s.subprotocol = .absinthe) {id : String}
    (hid : id ∈ s.opened) (data : Raw) :
    s.dataFrame id data none =
      .ok (ChannelFrame.render
        { topic := id, event := s.subprotocol.resultType
          payload := ChannelResult.payload ⟨data, id⟩ }) := by
  have hopen : s.isOpen id = true := isOpen_iff.mpr hid
  simp [dataFrame, hopen, Payload.withExtensions, hp, Subprotocol.resultType, ChannelResult.payload]

theorem message_eq_objectMessage {s : Session} (hp : s.subprotocol ≠ .absinthe) (text : String) :
    s.message text = s.objectMessage text := by
  cases hs : s.subprotocol with
  | transport | legacy => simp [message, hs]
  | absinthe => exact absurd hs hp

/-- The id of a message is the id of the client's frame, and a subscription opens it. -/
theorem objectMessage_id {s : Session} (hp : s.subprotocol ≠ .absinthe) {text : String}
    {reply : Reply Message} (h : s.message text = .ok reply) :
    ∃ f, ObjectFrame.parse text = .ok f ∧ reply.value.id = f.id ∧
      (reply.value.kind = .subscribe → f.id ≠ "" → f.id ∈ reply.session.opened) := by
  have hheeds := (read_message h).heeds
  rw [message_eq_objectMessage hp, objectMessage] at h
  cases hparse : ObjectFrame.parse text with
  | error p => simp [hparse] at h
  | ok f =>
    have hid : reply.value.id = f.id := by
      simp only [hparse] at h
      split at h <;> cases h
      rfl
    refine ⟨f, rfl, hid, ?_⟩
    intro hkind hne
    rw [Heeds, hkind, hid] at hheeds
    exact (hheeds f.id).mpr (Or.inl ⟨rfl, hne⟩)

end Session

/-- **Object frames are read back as they were written**: the same id, the same type and the very
text of the payload, for all strings and all JSON payloads but `null`, which is read as none. So the
id of an operation is the one in the client's frame, and a result goes out in one frame that holds
this id and the text of the result. -/
theorem object_framing_round_trips :
    (∀ f : ObjectFrame, (∀ raw ∈ f.payload, raw.IsJson ∧ raw.text ≠ "null") →
      ObjectFrame.parse f.render = .ok f) ∧
    (∀ (s : Session) (text : String) (reply : Session.Reply Message),
      s.subprotocol ≠ .absinthe → s.message text = .ok reply →
      ∃ f, ObjectFrame.parse text = .ok f ∧ reply.value.id = f.id ∧
        (reply.value.kind = .subscribe → f.id ≠ "" → f.id ∈ reply.session.opened)) ∧
    ∀ (τ : Type) [Transport τ] (l : Link τ) (id : String) (data : Raw),
      l.session.subprotocol ≠ .absinthe → id ∈ l.session.opened → data.IsJson →
      ∃ f : ObjectFrame,
        f = { id, type := l.session.subprotocol.resultType, payload := some data } ∧
        l.writeData id data none = l.send f.render ∧
        ObjectFrame.parse f.render =
          .ok { f with payload := if data.text = "null" then none else some data } := by
  refine ⟨?_, ?_, ?_⟩
  · intro f hpayload
    have hheard : ObjectFrame.heard f.payload = f.payload := by
      cases hf : f.payload with
      | none => rfl
      | some raw => simp [ObjectFrame.heard, (hpayload raw hf).2]
    rw [ObjectFrame.parse_render fun raw hraw => (hpayload raw hraw).1, hheard]
  · intro s text reply hp h
    exact Session.objectMessage_id hp h
  · intro τ _ l id data hp hid hdata
    refine ⟨_, rfl, ?_, ?_⟩
    · rw [Link.writeData, Session.objectDataFrame hp hid]
    · rw [ObjectFrame.parse_render (by simpa using hdata)]
      rfl

/-- A frame whose id needs escapes and whose payload holds escapes and blanks. -/
def quotedFrame : ObjectFrame where
  id := "\"\\\n\x01é😀"
  type := "next"
  payload := some ⟨"\x7b\"a\" : [ -1.5e3, \"\\ud800\\n\" ]\x7d"⟩

/-- A link with one open operation. -/
def linkOpen (subprotocol : Subprotocol) (id : String) : Link ScriptedTransport where
  session := { subprotocol, initialized := true, opened := [id] }
  transport := {}

theorem object_framing_round_trips_quoted :
    ((∀ raw ∈ quotedFrame.payload, raw.IsJson ∧ raw.text ≠ "null") ∧
      ObjectFrame.parse quotedFrame.render = .ok quotedFrame) ∧
    ((⟨"[null]"⟩ : Raw).IsJson ∧ "\"" ∈ (linkOpen .legacy "\"").session.opened ∧
      ∃ f : ObjectFrame,
        f = { id := "\"", type := "data", payload := some ⟨"[null]"⟩ } ∧
        (linkOpen .legacy "\"").writeData "\"" ⟨"[null]"⟩ none =
          (linkOpen .legacy "\"").send f.render ∧
        ObjectFrame.parse f.render = .ok { f with payload := some ⟨"[null]"⟩ }) := by
  have hpayload : ∀ raw ∈ quotedFrame.payload, raw.IsJson ∧ raw.text ≠ "null" := by
    intro raw hraw
    cases hraw
    exact ⟨by decide +kernel, by decide⟩
  have hdata : (⟨"[null]"⟩ : Raw).IsJson := by decide +kernel
  have hopen : "\"" ∈ (linkOpen .legacy "\"").session.opened := List.mem_singleton.mpr rfl
  obtain ⟨hframes, -, hresults⟩ := object_framing_round_trips
  exact ⟨⟨hpayload, hframes quotedFrame hpayload⟩, hdata, hopen,
    hresults ScriptedTransport (linkOpen .legacy "\"") "\"" ⟨"[null]"⟩ (by decide) hopen hdata⟩

/-- **Channel frames are read back as they were written**: the same five fields for all strings and
all JSON payloads, with a reference that is missing told apart from an empty one. A result goes out
in one frame on the topic of its operation, and its payload holds the very text of the result and
the id. -/
theorem channel_framing_round_trips :
    (∀ f : ChannelFrame, f.payload.IsJson → ChannelFrame.parse f.render = .ok f) ∧
    ∀ (τ : Type) [Transport τ] (l : Link τ) (id : String) (data : Raw),
      l.session.subprotocol = .absinthe → id ∈ l.session.opened → data.IsJson →
      ∃ frame payload, l.writeData id data none = l.send frame ∧
        ChannelFrame.parse frame =
          .ok { joinRef := none, ref := none, topic := id, event := "subscription:data", payload } ∧
        ChannelResult.parse payload.text = .ok { result := data, subscriptionId := id } := by
  refine ⟨fun f h => ChannelFrame.parse_render h, ?_⟩
  intro τ _ l id data hp hid hdata
  have hpayload : (ChannelResult.payload ⟨data, id⟩).IsJson := ChannelResult.payload_isJson hdata
  refine ⟨ChannelFrame.render ⟨none, none, id, "subscription:data",
    ChannelResult.payload ⟨data, id⟩⟩, _, ?_, ChannelFrame.parse_render hpayload,
    ChannelResult.parse_payload hdata⟩
  rw [Link.writeData, Session.channelDataFrame hp hid, hp]
  rfl

theorem channel_framing_round_trips_empty_ref :
    ((⟨"null"⟩ : Raw).IsJson ∧
      ChannelFrame.parse
          (ChannelFrame.render ⟨none, some "", "\t", "\\", ⟨"null"⟩⟩) =
        .ok ⟨none, some "", "\t", "\\", ⟨"null"⟩⟩) ∧
    ((⟨"[ 1,\"]\"]"⟩ : Raw).IsJson ∧ "\\" ∈ (linkOpen .absinthe "\\").session.opened ∧
      ∃ frame payload,
        (linkOpen .absinthe "\\").writeData "\\" ⟨"[ 1,\"]\"]"⟩ none =
          (linkOpen .absinthe "\\").send frame ∧
        ChannelFrame.parse frame =
          .ok { joinRef := none, ref := none, topic := "\\"
                event := "subscription:data", payload } ∧
        ChannelResult.parse payload.text =
          .ok { result := ⟨"[ 1,\"]\"]"⟩, subscriptionId := "\\" }) := by
  have hnull : (⟨"null"⟩ : Raw).IsJson := by decide +kernel
  have hdata : (⟨"[ 1,\"]\"]"⟩ : Raw).IsJson := by decide +kernel
  have hopen : "\\" ∈ (linkOpen .absinthe "\\").session.opened := List.mem_singleton.mpr rfl
  obtain ⟨hframes, hresults⟩ := channel_framing_round_trips
  exact ⟨⟨hnull, hframes ⟨none, some "", "\t", "\\", ⟨"null"⟩⟩ hnull⟩, hdata, hopen,
    hresults ScriptedTransport (linkOpen .absinthe "\\") "\\" ⟨"[ 1,\"]\"]"⟩ rfl hopen hdata⟩

end StreamGateway
