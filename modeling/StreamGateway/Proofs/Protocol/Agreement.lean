import Mathlib.Data.List.Forall2
import StreamGateway.Proofs.Protocol.Framing
import StreamGateway.Simulation.Conversation

/-! # The three subprotocols agree

Seen from far enough, all three subprotocols hold the same session: a client starts and stops
operations, and the server sends results and errors of open ones and ends them. `Event` is what can
happen in such a session, `Event.expected` what comes of it, and `Event.happen` how each subprotocol
goes about it: the object protocols call an operation by the client's id, a channel by a name
derived from it (`Subprotocol.operationId`). What a conversation remembers stays a picture of the
abstract session (`Session.Pictures`), event by event, so all three lead to the same upshots and to
the same open operations up to their names. -/
namespace StreamGateway

open Json (Raw)

/-! ## The names of operations -/

namespace Subprotocol

/-- What an operation is called for which the client has chosen an id. -/
def operationId : Subprotocol → String → String
  | .absinthe, id => channelId id
  | _, id => id

theorem colon_notMem_digits (n : Nat) : ':' ∉ (toString n).toList := by
  rw [Nat.toString_eq_repr, Nat.toList_repr]
  intro hmem
  have hdigit : (':').isDigit = true := Nat.isDigit_of_mem_toDigits (by decide) (by decide) hmem
  exact absurd hdigit (by decide)

/-- What stands in front of the last colon is determined by the whole. -/
theorem eq_of_append_colon {a b ds es : List Char} (hds : ':' ∉ ds) (hes : ':' ∉ es)
    (h : a ++ ':' :: ds = b ++ ':' :: es) : a = b := by
  rcases List.append_eq_append_iff.mp h with ⟨m, rfl, hm⟩ | ⟨m, rfl, hm⟩
  · cases m with
    | nil => exact (List.append_nil a).symm
    | cons c m =>
      have hmem : ':' ∈ ds := by simp [(List.cons.inj hm).2]
      exact absurd hmem hds
  · cases m with
    | nil => exact List.append_nil b
    | cons c m =>
      have hmem : ':' ∈ es := by simp [(List.cons.inj hm).2]
      exact absurd hmem hes

theorem eq_of_numbered {tag a b : String} {m n : Nat}
    (h : tag ++ a ++ ":" ++ toString m = tag ++ b ++ ":" ++ toString n) : a = b := by
  have hchars := congrArg String.toList h
  simp only [String.toList_append, List.append_assoc] at hchars
  have hrest : a.toList ++ ':' :: (toString m).toList = b.toList ++ ':' :: (toString n).toList :=
    List.append_cancel_left hchars
  exact String.toList_injective
    (eq_of_append_colon (colon_notMem_digits m) (colon_notMem_digits n) hrest)

/-- References are told apart by what they are called on a channel, whatever their digests. -/
theorem channelId_inj {a b : String} (h : channelId a = channelId b) : a = b := eq_of_numbered h

/-- The reference behind what a subscription is called on a channel: everything between the tag and
the last colon. -/
def channelRef (id : String) : String :=
  let named := id.toList.drop "__absinthe__:doc:".length
  String.ofList (named.reverse.dropWhile (· ≠ ':')).tail.reverse

/-- The number behind the last colon may be any, so nothing is asked of the digest. -/
theorem channelRef_numbered (ref : String) (n : Nat) :
    channelRef ("__absinthe__:doc:" ++ ref ++ ":" ++ toString n) = ref := by
  have hdigits : ∀ c ∈ (toString n).toList.reverse, decide (c ≠ ':') = true := by
    intro c hc
    have hne : c ≠ ':' := fun heq => colon_notMem_digits n (heq ▸ List.mem_reverse.mp hc)
    exact decide_eq_true hne
  have hnamed : ("__absinthe__:doc:" ++ ref ++ ":" ++ toString n).toList.drop
      "__absinthe__:doc:".length =
      ref.toList ++ ':' :: (toString n).toList := by
    simp only [String.toList_append, List.append_assoc]
    exact List.drop_left
  have hbehind : (':' :: ref.toList.reverse).dropWhile (fun c => decide (c ≠ ':')) = ':' ::
      ref.toList.reverse :=
    List.dropWhile_cons_of_neg (by simp)
  rw [channelRef, hnamed, List.reverse_append, List.reverse_cons, List.append_assoc,
    List.dropWhile_append_of_pos hdigits, List.singleton_append, hbehind, List.tail_cons,
    List.reverse_reverse, String.ofList_toList]

/-- **What a subscription is called on a channel determines its reference**: the reference can be
read off, whatever it holds, and so different references are never called the same. -/
theorem channelId_determines_ref :
    (∀ ref, channelRef (channelId ref) = ref) ∧ ∀ a b, channelId a = channelId b ↔ a = b := by
  have hread (ref : String) : channelRef (channelId ref) = ref := channelRef_numbered ref _
  refine ⟨hread, fun a b => ⟨fun h => ?_, fun h => h ▸ rfl⟩⟩
  calc a = channelRef (channelId a) := (hread a).symm
    _ = channelRef (channelId b) := congrArg channelRef h
    _ = b := hread b

theorem numbered_ne_empty (tag a : String) (n : Nat) : tag ++ a ++ ":" ++ toString n ≠ "" := by
  intro h
  have hchars := congrArg String.toList h
  simp at hchars

theorem channelId_ne_empty (ref : String) : channelId ref ≠ "" := numbered_ne_empty _ _ _

theorem operationId_of_ne {p : Subprotocol} (hp : p ≠ .absinthe) (id : String) :
    p.operationId id = id := by
  cases p with
  | transport | legacy => rfl
  | absinthe => exact absurd rfl hp

theorem operationId_inj (p : Subprotocol) {a b : String} (h : p.operationId a = p.operationId b) :
    a = b := by
  cases p with
  | transport | legacy => exact h
  | absinthe => exact channelId_inj h

theorem operationId_ne_empty (p : Subprotocol) {id : String} (hid : id ≠ "") :
    p.operationId id ≠ "" := by
  cases p with
  | transport | legacy => exact hid
  | absinthe => exact channelId_ne_empty id

end Subprotocol

/-! ## Abstract sessions -/

/-- What can happen in a session. -/
inductive Event where
  | subscribe (id : String) (payload : Raw)
  | stop (id : String)
  | data (id : String) (data : Raw)
  | errors (id : String) (errors : Raw) (extensions : Option Raw)
  | done (id : String)

/-- What comes of an event. -/
inductive Upshot where
  /-- A message was read that starts an operation. -/
  | subscribe
  /-- A message was read that ends one. -/
  | complete
  | ok
  | unknownOperation
  | other
deriving DecidableEq

/-- What an event has led to, and what is open after it. -/
structure Sight where
  upshot : Upshot
  opened : Ids
deriving DecidableEq

namespace Event

def id : Event → String
  | .subscribe id _ | .stop id | .data id _ | .errors id _ _ | .done id => id

/-- The id is not empty, the client's payload is JSON, and errors are values. -/
def Fit (e : Event) : Prop :=
  e.id ≠ "" ∧
    match e with
    | .subscribe _ payload => payload.IsJson
    | .errors _ raw extensions =>
      (∃ v, Json.parse raw.text = .ok v) ∧ ∀ x ∈ extensions, ∃ v, Json.parse x.text = .ok v
    | _ => True

/-- What an event comes to in a session with these operations open. -/
def expected (ids : Ids) : Event → Sight
  | .subscribe id _ => ⟨.subscribe, Ids.insert id ids⟩
  | .stop id => ⟨.complete, ids.filter (· ≠ id)⟩
  | .data id _ | .errors id _ _ => ⟨if id ∈ ids then .ok else .unknownOperation, ids⟩
  | .done id => ⟨if id ∈ ids then .ok else .unknownOperation, ids.filter (· ≠ id)⟩

/-- What a script of events comes to, event by event. -/
def expectedAll (ids : Ids) : List Event → List Sight
  | [] => []
  | e :: es => e.expected ids :: expectedAll (e.expected ids).opened es

end Event

/-! ## How the subprotocols go about it -/

/-- What a channel client puts into its messages beside the id. -/
structure Manner where
  joinRef : Option String
  /-- The topic on which it asks for subscriptions. -/
  topic : String
  /-- The payload with which it leaves. -/
  farewell : Raw
  isJson : farewell.IsJson

namespace Subprotocol

/-- The types of the frames by which a client of an object protocol starts and stops an
operation. -/
def subscribeType : Subprotocol → String
  | .legacy => "start"
  | _ => "subscribe"

@[inherit_doc subscribeType]
def stopType : Subprotocol → String
  | .legacy => "stop"
  | _ => "complete"

/-- The text by which a client starts an operation. -/
def subscribeText (p : Subprotocol) (m : Manner) (id : String) (payload : Raw) : String :=
  match p with
  | .absinthe =>
    ChannelFrame.render
      { joinRef := m.joinRef, ref := some id, topic := m.topic, event := "doc", payload }
  | _ => ObjectFrame.render { id, type := p.subscribeType, payload := some payload }

/-- The text by which a client stops an operation. -/
def stopText (p : Subprotocol) (m : Manner) (id : String) : String :=
  match p with
  | .absinthe =>
    ChannelFrame.render
      { joinRef := m.joinRef, ref := some id, topic := channelId id, event := "phx_leave"
        payload := m.farewell }
  | _ => ObjectFrame.render { id, type := p.stopType }

theorem subscribeText_of_ne {p : Subprotocol} (hp : p ≠ .absinthe) (m : Manner) (id : String)
    (payload : Raw) :
    p.subscribeText m id payload = ObjectFrame.render ⟨id, p.subscribeType, some payload⟩ := by
  cases p with
  | transport | legacy => rfl
  | absinthe => exact absurd rfl hp

theorem stopText_of_ne {p : Subprotocol} (hp : p ≠ .absinthe) (m : Manner) (id : String) :
    p.stopText m id = ObjectFrame.render ⟨id, p.stopType, none⟩ := by
  cases p with
  | transport | legacy => rfl
  | absinthe => exact absurd rfl hp

end Subprotocol

namespace Conversation

/-- The client sends a text, and the server reads it. -/
def hear (c : Conversation) (text : String) : Outcome × Conversation :=
  (c.step (.push text)).2.step .read

/-- A conversation that has just heard the client's first text. -/
def greet (p : Subprotocol) (hello : String) : Outcome × Conversation :=
  ((start p).step (.push hello)).2.step .handshake

/-- What an outcome is in an abstract session. -/
def Outcome.upshot : Outcome → Upshot
  | .ok => .ok
  | .message m =>
    match m.kind with
    | .subscribe => .subscribe
    | .complete => .complete
    | _ => .other
  | .failed (.error (.unknownOperation _)) => .unknownOperation
  | _ => .other

end Conversation

/-- An event of an abstract session in a conversation. -/
def Event.happen (p : Subprotocol) (m : Manner) (c : Conversation) :
    Event → Conversation.Outcome × Conversation
  | .subscribe id payload => c.hear (p.subscribeText m id payload)
  | .stop id => c.hear (p.stopText m id)
  | .data id raw => c.step (.data (p.operationId id) raw none)
  | .errors id raw extensions => c.step (.errors (p.operationId id) raw extensions)
  | .done id => c.step (.done (p.operationId id))

namespace Conversation

/-- What is seen of a conversation in which a script of events happens. -/
def sights (p : Subprotocol) (m : Manner) (c : Conversation) : List Event → List Sight
  | [] => []
  | e :: es =>
    let (outcome, c) := e.happen p m c
    ⟨outcome.upshot, c.link.session.opened⟩ :: c.sights p m es

end Conversation

/-! ## Sessions that picture the abstract one -/

/-- A session of a subprotocol in which these operations of the client are open, each under its
name. -/
structure Session.Pictures (s : Session) (p : Subprotocol) (ids : Ids) : Prop where
  subprotocol : s.subprotocol = p
  initialized : s.initialized = true
  opened : ∀ x, x ∈ s.opened ↔ ∃ id ∈ ids, p.operationId id = x
  /-- Where operations keep their ids they also keep their order. -/
  exact : p ≠ .absinthe → s.opened = ids
  origins : p = .absinthe → ∀ x ∈ s.opened, x ∈ s.origins.map Prod.fst

namespace Session.Pictures

variable {s : Session} {p : Subprotocol} {ids : Ids}

theorem mem_iff (h : s.Pictures p ids) (id : String) : p.operationId id ∈ s.opened ↔ id ∈ ids := by
  rw [h.opened]
  constructor
  · rintro ⟨x, hx, hname⟩
    exact p.operationId_inj hname ▸ hx
  · intro hid
    exact ⟨id, hid, rfl⟩

theorem isOpen_eq (h : s.Pictures p ids) (id : String) :
    s.isOpen (p.operationId id) = decide (id ∈ ids) := by
  rw [Bool.eq_iff_iff, isOpen_iff, h.mem_iff, decide_eq_true_iff]

theorem release (h : s.Pictures p ids) (id : String) :
    (s.release (p.operationId id)).Pictures p (ids.filter (· ≠ id)) where
  subprotocol := (s.release_subprotocol _).trans h.subprotocol
  initialized := (s.release_initialized _).trans h.initialized
  opened := by
    intro x
    rw [release_closes s (p.operationId id) x, h.opened]
    constructor
    · rintro ⟨⟨y, hy, rfl⟩, hne⟩
      have hyid : y ≠ id := fun heq => hne (congrArg p.operationId heq)
      exact ⟨y, by simp [hy, hyid], rfl⟩
    · rintro ⟨y, hy, rfl⟩
      obtain ⟨hy, hne⟩ := List.mem_filter.mp hy
      -- another id has another name, so it stays open
      exact ⟨⟨y, hy, rfl⟩, fun heq => by simp [p.operationId_inj heq] at hne⟩
  exact := by
    intro hp
    rw [opened_release, Subprotocol.operationId_of_ne hp, h.exact hp]
  origins := by
    intro hp x hx
    obtain ⟨hopen, hne⟩ := (release_closes s (p.operationId id) x).mp hx
    obtain ⟨origin, horigin, rfl⟩ := List.mem_map.mp (h.origins hp x hopen)
    refine List.mem_map_of_mem ?_
    by_cases hreleased : p.operationId id ∈ s.opened
    · rw [origins_release hreleased]
      exact List.mem_filter.mpr ⟨horigin, by simpa using hne⟩
    · rw [release_of_notMem hreleased]
      exact horigin

/-- Opening an operation, in either way, adds it to the picture. -/
theorem opens (h : s.Pictures p ids) {id : String} (hid : id ≠ "") {t : Session}
    (ht : s.Opens (p.operationId id) t) (x : String) :
    x ∈ t.opened ↔ ∃ y ∈ Ids.insert id ids, p.operationId y = x := by
  rw [ht, h.opened]
  simp only [Ids.mem_insert, p.operationId_ne_empty hid, ne_eq, not_false_eq_true, and_true,
    or_and_right, exists_or, exists_eq_left]
  rw [eq_comm]

theorem withOpen (h : s.Pictures p ids) (hp : p ≠ .absinthe) {id : String} (hid : id ≠ "") :
    (s.withOpen (p.operationId id)).Pictures p (Ids.insert id ids) where
  subprotocol := by rw [withOpen_subprotocol, h.subprotocol]
  initialized := by rw [withOpen_initialized, h.initialized]
  opened := h.opens hid (withOpen_opens s _)
  exact := by
    intro _
    rw [Session.withOpen, Subprotocol.operationId_of_ne hp, if_neg hid, h.exact hp]
  origins := fun habsinthe => absurd habsinthe hp

theorem openFrom (h : s.Pictures .absinthe ids) {id : String} (hid : id ≠ "") (origin : Origin) :
    (s.openFrom (Subprotocol.channelId id) origin).Pictures .absinthe (Ids.insert id ids) where
  subprotocol := by rw [openFrom_subprotocol, h.subprotocol]
  initialized := by rw [openFrom_initialized, h.initialized]
  opened := h.opens hid (openFrom_opens s _ origin)
  exact := fun hp => absurd rfl hp
  origins := by
    intro _ x hx
    by_cases hopen : s.isOpen (Subprotocol.channelId id) = true
    · -- the origin of the first subscription is kept
      rw [Session.openFrom, if_pos hopen] at hx ⊢
      exact h.origins rfl x hx
    · rcases (openFrom_opens s _ origin x).mp hx with ⟨rfl, -⟩ | hx
      · simp [Session.openFrom, hopen]
      · rw [Session.openFrom, if_neg hopen]
        exact List.mem_cons_of_mem _ (h.origins rfl x hx)

end Session.Pictures

namespace Session

variable {s : Session} {p : Subprotocol} {ids : Ids}

/-! ### What the client asks for -/

theorem objectMessage_subscribe {text : String} {f : ObjectFrame}
    (hparse : ObjectFrame.parse text = .ok f)
    (hkind : objectKind? s.subprotocol f.type = some .subscribe) :
    s.objectMessage text = .ok ⟨[], s.withOpen f.id, ⟨f.id, .subscribe, f.payload⟩⟩ := by
  simp only [objectMessage, hparse, hkind]

theorem objectMessage_stop {text : String} {f : ObjectFrame}
    (hparse : ObjectFrame.parse text = .ok f)
    (hkind : objectKind? s.subprotocol f.type = some .complete) :
    s.objectMessage text = .ok ⟨[], s.release f.id, ⟨f.id, .complete, f.payload⟩⟩ := by
  simp only [objectMessage, hparse, hkind]

theorem channelMessage_doc {text id : String} {f : ChannelFrame}
    (hparse : ChannelFrame.parse text = .ok f) (hevent : f.event = "doc") (hid : f.ref = some id) :
    ∃ frames, s.channelMessage text =
      .ok ⟨frames, s.openFrom (Subprotocol.channelId id) ⟨f.joinRef, f.ref, f.topic⟩,
        ⟨Subprotocol.channelId id, .subscribe, some f.payload⟩⟩ := by
  simp only [channelMessage, hparse, hevent, hid, Option.getD_some]
  exact ⟨_, rfl⟩

/-- A client that leaves the topic of its subscription ends it, whether or not it is open. -/
theorem channelMessage_leave {text id : String} {f : ChannelFrame}
    (hparse : ChannelFrame.parse text = .ok f) (hevent : f.event = "phx_leave")
    (hid : f.ref = some id) (htopic : f.topic = Subprotocol.channelId id) :
    s.channelMessage text =
      .ok ⟨[], s.release (Subprotocol.channelId id),
        ⟨Subprotocol.channelId id, .complete, some f.payload⟩⟩ := by
  simp only [channelMessage, hparse, hevent, hid, htopic, Option.getD_some, ite_self]

theorem message_eq_channelMessage (hp : s.subprotocol = .absinthe) (text : String) :
    s.message text = s.channelMessage text := by
  simp only [message, hp]

/-- The client starts an operation. -/
theorem message_subscribe (h : s.Pictures p ids) (m : Manner) {id : String} (hid : id ≠ "")
    {payload : Raw} (hpayload : payload.IsJson) :
    ∃ reply, s.message (p.subscribeText m id payload) = .ok reply ∧
      reply.value.kind = .subscribe ∧ reply.session.Pictures p (Ids.insert id ids) := by
  by_cases hp : p = .absinthe
  · subst hp
    have hparse := ChannelFrame.parse_render
      (f := ⟨m.joinRef, some id, m.topic, "doc", payload⟩) hpayload
    obtain ⟨frames, hmessage⟩ := channelMessage_doc (s := s) hparse rfl rfl
    rw [message_eq_channelMessage h.subprotocol]
    exact ⟨_, hmessage, rfl, h.openFrom hid _⟩
  · have hparse := ObjectFrame.parse_render
      (f := ⟨id, p.subscribeType, some payload⟩) (by simpa using hpayload)
    have hkind : objectKind? s.subprotocol p.subscribeType = some .subscribe := by
      rw [h.subprotocol]
      cases p <;> simp_all [objectKind?, Subprotocol.subscribeType]
    have hmessage := objectMessage_subscribe hparse hkind
    have hpicture := h.withOpen hp hid
    rw [Subprotocol.operationId_of_ne hp] at hpicture
    rw [message_eq_objectMessage (h.subprotocol ▸ hp), Subprotocol.subscribeText_of_ne hp]
    exact ⟨_, hmessage, rfl, hpicture⟩

/-- The client stops an operation. -/
theorem message_stop (h : s.Pictures p ids) (m : Manner) (id : String) :
    ∃ reply, s.message (p.stopText m id) = .ok reply ∧
      reply.value.kind = .complete ∧ reply.session.Pictures p (ids.filter (· ≠ id)) := by
  have hpicture := h.release id
  by_cases hp : p = .absinthe
  · subst hp
    have hparse := ChannelFrame.parse_render
      (f := ⟨m.joinRef, some id, Subprotocol.channelId id, "phx_leave", m.farewell⟩) m.isJson
    rw [message_eq_channelMessage h.subprotocol]
    exact ⟨_, channelMessage_leave hparse rfl rfl rfl, rfl, hpicture⟩
  · have hparse := ObjectFrame.parse_render (f := ⟨id, p.stopType, none⟩) (by simp)
    have hkind : objectKind? s.subprotocol p.stopType = some .complete := by
      rw [h.subprotocol]
      cases p <;> simp_all [objectKind?, Subprotocol.stopType]
    rw [Subprotocol.operationId_of_ne hp] at hpicture
    rw [message_eq_objectMessage (h.subprotocol ▸ hp), Subprotocol.stopText_of_ne hp]
    exact ⟨_, objectMessage_stop hparse hkind, rfl, hpicture⟩

/-! ### What the server sends -/

theorem dataFrame_of_mem (h : s.Pictures p ids) {id : String} (hid : id ∈ ids) (raw : Raw) :
    ∃ frame, s.dataFrame (p.operationId id) raw none = .ok frame := by
  have hopen : p.operationId id ∈ s.opened := (h.mem_iff id).mpr hid
  by_cases hp : s.subprotocol = .absinthe
  · exact ⟨_, channelDataFrame hp hopen raw⟩
  · exact ⟨_, objectDataFrame hp hopen raw⟩

theorem dataFrame_of_notMem (h : s.Pictures p ids) {id : String} (hid : id ∉ ids) (raw : Raw) :
    s.dataFrame (p.operationId id) raw none = .error (.unknownOperation (p.operationId id)) := by
  simp [dataFrame, h.isOpen_eq, hid]

theorem errorsResponse_ok {raw : Raw} {extensions : Option Raw}
    (hraw : ∃ v, Json.parse raw.text = .ok v)
    (hextensions : ∀ x ∈ extensions, ∃ v, Json.parse x.text = .ok v) :
    ∃ response, errorsResponse raw extensions = .ok response := by
  obtain ⟨v, hv⟩ := hraw
  cases extensions with
  | none => simp [errorsResponse, hv]
  | some x =>
    obtain ⟨w, hw⟩ := hextensions x rfl
    simp [errorsResponse, hv, hw]

theorem errorsFrame_of_mem (h : s.Pictures p ids) {id : String} (hid : id ∈ ids) {raw : Raw}
    {extensions : Option Raw} (hraw : ∃ v, Json.parse raw.text = .ok v)
    (hextensions : ∀ x ∈ extensions, ∃ v, Json.parse x.text = .ok v) :
    ∃ frame, s.errorsFrame (p.operationId id) raw extensions = .ok frame := by
  have hs := h.subprotocol
  have hopen : s.isOpen (p.operationId id) = true := by simp [h.isOpen_eq, hid]
  cases p with
  | transport => simp [errorsFrame, hopen, hs]
  | legacy => simp [errorsFrame, hopen, hs]
  | absinthe =>
    -- errors are a reply to the message that asked for the subscription
    have hkey := h.origins rfl _ (isOpen_iff.mp hopen)
    have horigin : s.origin? (Subprotocol.absinthe.operationId id) ≠ none := by
      rw [origin?, ne_eq, List.lookup_eq_none_iff]
      simpa [List.mem_map] using hkey
    obtain ⟨origin, horigin⟩ := Option.ne_none_iff_exists'.mp horigin
    obtain ⟨response, hresponse⟩ := errorsResponse_ok hraw hextensions
    exact ⟨_, by simp only [errorsFrame, hopen, hs, horigin, hresponse]; rfl⟩

theorem errorsFrame_of_notMem (h : s.Pictures p ids) {id : String} (hid : id ∉ ids) (raw : Raw)
    (extensions : Option Raw) :
    s.errorsFrame (p.operationId id) raw extensions =
      .error (.error (.unknownOperation (p.operationId id))) := by
  simp [errorsFrame, h.isOpen_eq, hid]

end Session

/-! ## Conversations that follow an abstract session -/

/-- An open connection on which nothing waits to be read and no fault is planned. -/
structure ScriptedTransport.Calm (t : ScriptedTransport) : Prop where
  inbox : t.inbox = []
  readFaults : t.readFaults = []
  writeFaults : t.writeFaults = []
  closed : t.closed = none

namespace Link

variable {l : Link ScriptedTransport}

theorem send_calm (hcalm : l.transport.Calm) (frame : String) :
    ∃ t, t.Calm ∧ l.send frame = (.ok (), { l with transport := t }) := by
  have hsend : l.transport.send frame =
      (.ok (), { l.transport with sent := frame :: l.transport.sent }) := by
    simp [ScriptedTransport.send, hcalm.writeFaults, ScriptedTransport.deliver, hcalm.closed]
  refine ⟨{ l.transport with sent := frame :: l.transport.sent },
    ⟨hcalm.inbox, hcalm.readFaults, hcalm.writeFaults, hcalm.closed⟩, ?_⟩
  rw [send]
  show (match l.transport.send frame with
    | (result, transport) => (result, { l with transport })) = _
  rw [hsend]

theorem sendAll_calm (hcalm : l.transport.Calm) (frames : List String) :
    ∃ t, t.Calm ∧ l.sendAll frames = (.ok (), { l with transport := t }) := by
  induction frames generalizing l with
  | nil => exact ⟨l.transport, hcalm, rfl⟩
  | cons frame frames ih =>
    obtain ⟨t, ht, hsend⟩ := send_calm hcalm frame
    obtain ⟨t', ht', hrest⟩ := ih (l := { l with transport := t }) ht
    exact ⟨t', ht', by simp only [sendAll, hsend, hrest]⟩

/-- A text on a calm connection is read and answered as it is decoded. -/
theorem converse_calm {α : Type} (hcalm : l.transport.Calm) (text : String)
    (decode : Session → String → Except ProtocolError (Session.Reply α)) :
    ∃ t, t.Calm ∧
      Link.converse { l with transport := l.transport.push text } decode =
        match decode l.session text with
        | .error e => (.error e, { l with transport := t })
        | .ok reply => (.ok reply.value, ⟨reply.session, t⟩) := by
  have hreceive : Link.receive { l with transport := l.transport.push text } = (.ok text, l) := by
    obtain ⟨session, inbox, readFaults, writeFaults, sent, closed⟩ := l
    obtain ⟨rfl, rfl, rfl, rfl⟩ := hcalm
    rfl
  simp only [converse, hreceive]
  cases decode l.session text with
  | error e => exact ⟨l.transport, hcalm, rfl⟩
  | ok reply =>
    obtain ⟨t, ht, hsend⟩ := sendAll_calm hcalm reply.frames
    exact ⟨t, ht, by simp only [settle, hsend]⟩

end Link

namespace Conversation

/-- A conversation over a calm connection whose session pictures an abstract one. -/
structure Follows (c : Conversation) (p : Subprotocol) (ids : Ids) : Prop where
  calm : c.link.transport.Calm
  pictures : c.link.session.Pictures p ids

variable {c : Conversation} {p : Subprotocol} {ids : Ids}

theorem hear_message (h : c.Follows p ids) {text : String} {reply : Session.Reply Message}
    (hmessage : c.link.session.message text = .ok reply) {ids' : Ids}
    (hpictures : reply.session.Pictures p ids') :
    (c.hear text).1 = .message reply.value ∧ (c.hear text).2.Follows p ids' := by
  obtain ⟨t, ht, hconverse⟩ := Link.converse_calm h.calm text Session.message
  rw [hmessage] at hconverse
  have hread : Link.read { c.link with transport := c.link.transport.push text } =
      (.ok reply.value, ⟨reply.session, t⟩) := by
    rw [Link.read, if_pos h.pictures.initialized, hconverse]
  have hhear : c.hear text = (c.script (·.push text)).2.step .read := rfl
  rw [hhear]
  simp only [script, step, hread]
  exact ⟨trivial, ht, hpictures⟩

theorem step_data (h : c.Follows p ids) (id : String) (raw : Raw) :
    (c.step (.data (p.operationId id) raw none)).1.upshot =
        (if id ∈ ids then .ok else .unknownOperation) ∧
      (c.step (.data (p.operationId id) raw none)).2.Follows p ids := by
  by_cases hid : id ∈ ids
  · obtain ⟨frame, hframe⟩ := Session.dataFrame_of_mem h.pictures hid raw
    obtain ⟨t, ht, hsend⟩ := Link.send_calm h.calm frame
    simp only [step, Link.writeData, hframe, hsend, after, ofResult, if_pos hid]
    exact ⟨rfl, ht, h.pictures⟩
  · have hframe := Session.dataFrame_of_notMem h.pictures hid raw
    simp only [step, Link.writeData, hframe, after, ofResult, if_neg hid]
    exact ⟨rfl, h⟩

theorem step_errors (h : c.Follows p ids) (id : String) {raw : Raw} {extensions : Option Raw}
    (hraw : ∃ v, Json.parse raw.text = .ok v)
    (hextensions : ∀ x ∈ extensions, ∃ v, Json.parse x.text = .ok v) :
    (c.step (.errors (p.operationId id) raw extensions)).1.upshot =
        (if id ∈ ids then .ok else .unknownOperation) ∧
      (c.step (.errors (p.operationId id) raw extensions)).2.Follows p ids := by
  by_cases hid : id ∈ ids
  · obtain ⟨frame, hframe⟩ := Session.errorsFrame_of_mem h.pictures hid hraw hextensions
    obtain ⟨t, ht, hsend⟩ := Link.send_calm h.calm frame
    simp only [step, Link.writeErrors, hframe, hsend, if_pos hid]
    exact ⟨rfl, ht, h.pictures⟩
  · have hframe := Session.errorsFrame_of_notMem h.pictures hid raw extensions
    simp only [step, Link.writeErrors, hframe, if_neg hid]
    exact ⟨rfl, h⟩

theorem step_done (h : c.Follows p ids) (id : String) :
    (c.step (.done (p.operationId id))).1.upshot = (if id ∈ ids then .ok else .unknownOperation) ∧
      (c.step (.done (p.operationId id))).2.Follows p (ids.filter (· ≠ id)) := by
  have hopen := h.pictures.isOpen_eq id
  by_cases hid : id ∈ ids
  · -- the operation is closed before the client is told
    obtain ⟨t, ht, hsend⟩ :=
      Link.send_calm (l := { c.link with session := c.link.session.release (p.operationId id) })
        h.calm (c.link.session.doneFrame (p.operationId id))
    simp only [step, Link.done, hopen, hid, decide_true, if_true, hsend, after, ofResult]
    exact ⟨rfl, ht, h.pictures.release id⟩
  · have hsame : ids.filter (· ≠ id) = ids := by
      rw [List.filter_eq_self]
      intro x hx
      simpa using fun heq : x = id => hid (heq ▸ hx)
    simp only [step, Link.done, hopen, hid, decide_false, Bool.false_eq_true, if_false,
      after, ofResult, hsame]
    exact ⟨rfl, h⟩

/-- **One event**: a conversation that follows an abstract session comes to what is expected and
follows on. -/
theorem Follows.happen (h : c.Follows p ids) (m : Manner) {e : Event} (hfit : e.Fit) :
    (e.happen p m c).1.upshot = (e.expected ids).upshot ∧
      (e.happen p m c).2.Follows p (e.expected ids).opened := by
  cases e with
  | subscribe id payload =>
    obtain ⟨hid, hpayload⟩ : id ≠ "" ∧ payload.IsJson := hfit
    obtain ⟨reply, hmessage, hkind, hpictures⟩ :=
      Session.message_subscribe h.pictures m hid hpayload
    obtain ⟨houtcome, hfollows⟩ := hear_message h hmessage hpictures
    refine ⟨?_, hfollows⟩
    simp [Event.happen, houtcome, Outcome.upshot, hkind, Event.expected]
  | stop id =>
    obtain ⟨reply, hmessage, hkind, hpictures⟩ := Session.message_stop h.pictures m id
    obtain ⟨houtcome, hfollows⟩ := hear_message h hmessage hpictures
    refine ⟨?_, hfollows⟩
    simp [Event.happen, houtcome, Outcome.upshot, hkind, Event.expected]
  | data id raw => exact step_data h id raw
  | errors id raw extensions => exact step_errors h id hfit.2.1 hfit.2.2
  | done id => exact step_done h id

/-- What is seen of a conversation is what is expected, up to the names of the operations. -/
structure Matches (p : Subprotocol) (seen expected : Sight) : Prop where
  upshot : seen.upshot = expected.upshot
  opened : ∀ x, x ∈ seen.opened ↔ ∃ id ∈ expected.opened, p.operationId id = x
  exact : p ≠ .absinthe → seen.opened = expected.opened

/-- **A whole script**, event by event. -/
theorem Follows.sights (h : c.Follows p ids) (m : Manner) {script : List Event}
    (hfit : ∀ e ∈ script, e.Fit) :
    List.Forall₂ (Matches p) (c.sights p m script) (Event.expectedAll ids script) := by
  induction script generalizing c ids with
  | nil => exact .nil
  | cons e script ih =>
    obtain ⟨he, hscript⟩ := List.forall_mem_cons.mp hfit
    obtain ⟨hupshot, hfollows⟩ := h.happen m he
    have hopened := hfollows.pictures
    exact .cons ⟨hupshot, hopened.opened, hopened.exact⟩ (ih hfollows hscript)

theorem Matches.eq {seen expected : Sight} (h : Matches p seen expected) (hp : p ≠ .absinthe) :
    seen = expected := by
  obtain ⟨upshot, opened⟩ := seen
  obtain ⟨rfl, -, hexact⟩ := h
  rw [show opened = expected.opened from hexact hp]

/-- After a handshake that succeeded nothing is open. -/
theorem follows_greet {hello : String} {payload : Option Raw}
    (h : (greet p hello).1 = .payload payload) : (greet p hello).2.Follows p [] := by
  have hcalm : (start p).link.transport.Calm := ⟨rfl, rfl, rfl, rfl⟩
  obtain ⟨t, ht, hconverse⟩ := Link.converse_calm hcalm hello Session.handshake
  have hhandshake :
      Link.handshake { (start p).link with transport := (start p).link.transport.push hello } =
        Link.converse { (start p).link with transport := (start p).link.transport.push hello }
          Session.handshake := by
    rw [Link.handshake, if_neg (by simp [start, Link.fresh])]
  have hgreet : greet p hello = ((start p).script (·.push hello)).2.step .handshake := rfl
  rw [hgreet] at h ⊢
  simp only [script, step, hhandshake, hconverse] at h ⊢
  -- a handshake only notes that it took place
  cases hreply : (start p).link.session.handshake hello with
  | error e => simp [hreply] at h
  | ok reply =>
    refine ⟨ht, ?_⟩
    show reply.session.Pictures p []
    rw [(Session.handshake_reply hreply).1]
    exact ⟨rfl, rfl, by simp [start, Link.fresh], fun _ => rfl, by simp [start, Link.fresh]⟩

/-- What is seen of a conversation from its handshake on. -/
def played (p : Subprotocol) (m : Manner) (hello : String) (script : List Event) : List Sight :=
  (greet p hello).2.sights p m script

/-- **The three subprotocols agree.** Whatever the client and the server do to operations with ids
that are not empty, in any order and with ids reused at will, all three conversations come event by
event to the same upshots, those of the abstract session. The two object protocols have the same
operations open after each event, and on a channel those operations are open under their derived
names, and no others. -/
theorem subprotocols_agree (m : Manner) (hello : Subprotocol → String)
    (hhello : ∀ p, ∃ payload, (greet p (hello p)).1 = .payload payload) {script : List Event}
    (hfit : ∀ e ∈ script, e.Fit) :
    played .transport m (hello .transport) script = Event.expectedAll [] script ∧
      played .legacy m (hello .legacy) script = played .transport m (hello .transport) script ∧
      List.Forall₂
        (fun channel object => channel.upshot = object.upshot ∧
          ∀ x, x ∈ channel.opened ↔ ∃ id ∈ object.opened, Subprotocol.channelId id = x)
        (played .absinthe m (hello .absinthe) script)
        (played .transport m (hello .transport) script) := by
  have hfollows (p : Subprotocol) : (greet p (hello p)).2.Follows p [] := by
    obtain ⟨payload, hpayload⟩ := hhello p
    exact follows_greet hpayload
  have hobject (p : Subprotocol) (hp : p ≠ .absinthe) :
      played p m (hello p) script = Event.expectedAll [] script := by
    have hsame := ((hfollows p).sights m hfit).imp fun _ _ hmatches => hmatches.eq hp
    exact List.forall₂_eq_eq_eq ▸ hsame
  rw [hobject .transport (by simp), hobject .legacy (by simp)]
  refine ⟨rfl, rfl, ?_⟩
  exact ((hfollows .absinthe).sights m hfit).imp fun _ _ hmatches =>
    ⟨hmatches.upshot, hmatches.opened⟩

/-- An operation is started twice, used, ended and started again, and another one was never
started. -/
def reuse : List Event :=
  [.data "1" ⟨"\x7b\x7d"⟩, .subscribe "1" ⟨"\x7b\x7d"⟩, .subscribe "1" ⟨"null"⟩, .data "1" ⟨"null"⟩,
    .errors "1" ⟨"[]"⟩ none, .done "1", .done "1", .stop "2", .subscribe "1" ⟨"[]"⟩, .stop "1"]

theorem fit_reuse : ∀ e ∈ reuse, e.Fit := by
  have hobject : (⟨"\x7b\x7d"⟩ : Raw).IsJson := by decide +kernel
  have hnull : (⟨"null"⟩ : Raw).IsJson := by decide +kernel
  have hlist : (⟨"[]"⟩ : Raw).IsJson := by decide +kernel
  have hparse : ∃ v, Json.parse "[]" = .ok v := ⟨.arr [], rfl⟩
  simp [reuse, Event.Fit, Event.id, hobject, hnull, hlist, hparse]

/-- A client that says hello in each subprotocol. -/
def greeting : Subprotocol → String
  | .absinthe => "[\"1\",\"1\",\"__absinthe__:control\",\"phx_join\",\x7b\x7d]"
  | _ => "\x7b\"type\":\"connection_init\"\x7d"

theorem greeted (p : Subprotocol) : ∃ payload, (greet p (greeting p)).1 = .payload payload := by
  cases p with
  | transport => exact ⟨none, rfl⟩
  | legacy => exact ⟨none, rfl⟩
  | absinthe => exact ⟨some ⟨"\x7b\x7d"⟩, rfl⟩

/-- How a client of channels usually goes about it. -/
def controlChannel : Manner := ⟨some "1", "__absinthe__:control", ⟨"\x7b\x7d"⟩, by decide +kernel⟩

theorem subprotocols_agree_reuse :
    (∀ e ∈ reuse, e.Fit) ∧
      (∀ p, ∃ payload, (greet p (greeting p)).1 = .payload payload) ∧
      played .transport controlChannel (greeting .transport) reuse =
        [⟨.unknownOperation, []⟩, ⟨.subscribe, ["1"]⟩, ⟨.subscribe, ["1"]⟩, ⟨.ok, ["1"]⟩,
          ⟨.ok, ["1"]⟩, ⟨.ok, []⟩, ⟨.unknownOperation, []⟩, ⟨.complete, []⟩, ⟨.subscribe, ["1"]⟩,
          ⟨.complete, []⟩] ∧
      played .legacy controlChannel (greeting .legacy) reuse =
        played .transport controlChannel (greeting .transport) reuse ∧
      List.Forall₂
        (fun channel object => channel.upshot = object.upshot ∧
          ∀ x, x ∈ channel.opened ↔ ∃ id ∈ object.opened, Subprotocol.channelId id = x)
        (played .absinthe controlChannel (greeting .absinthe) reuse)
        (played .transport controlChannel (greeting .transport) reuse) := by
  obtain ⟨htransport, hlegacy, habsinthe⟩ :=
    subprotocols_agree controlChannel greeting greeted fit_reuse
  exact ⟨fit_reuse, greeted, htransport.trans (by decide), hlegacy, habsinthe⟩

end Conversation

end StreamGateway
