import StreamGateway.Proofs.Json.Returning
import StreamGateway.Proofs.Protocol.Agreement
import StreamGateway.Proofs.Protocol.Link

/-! # Where the operations of a channel were asked for

On a channel an operation is called after the reference of the document that asked for it, while
errors are answered to the document itself: under its join reference, its reference and its topic. A
session therefore keeps a table of where its open operations came from. The table is compared with
the history of a link: which document took which operation from closed to open (`openings`). A
second document for an open operation opens nothing, so it does not count, and a document that
reopens an operation counts from then on. -/
namespace StreamGateway

open Json (Raw)
open Subprotocol (channelId)

/-! ## Answers to documents -/

namespace ChannelFrame

/-- The frame tells the sender of a document which operation it has registered. -/
def Registers (frame : String) (doc : ChannelFrame) (id : String) : Prop :=
  ∃ response, Answers frame ⟨doc.joinRef, doc.ref, doc.topic⟩ "ok" response ∧
    Json.parse response.text = .ok (.obj [("subscriptionId", .str id)])

theorem registers_channelReply (doc : ChannelFrame) (id : String) :
    Registers
      (Session.channelReply doc.joinRef doc.ref doc.topic "ok"
        (.obj [("subscriptionId", .str id)])) doc id := by
  have htidy : (Json.obj [("subscriptionId", .str id)]).Tidy :=
    .obj (List.pairwise_singleton _ _) (by simpa using Json.Tidy.str id)
  have hrecoverable : (Json.obj [("subscriptionId", .str id)]).Recoverable Json.deepest :=
    .obj (by simp [Json.embeddedKey]) (by simpa using Json.Recoverable.str id)
  exact ⟨_, answers_channelReply doc.origin "ok" _, (Json.parse_render_iff htidy).mpr hrecoverable⟩

end ChannelFrame

/-! ## Sessions -/

namespace Session

/-- What a text on a channel does to the operations and to where they come from. -/
theorem channelMessage_cases {s : Session} {text : String} {reply : Reply Message}
    (h : s.channelMessage text = .ok reply) :
    ∃ f, ChannelFrame.parse text = .ok f ∧
      (reply.session = s ∨
        (f.event = "doc" ∧ reply.session = s.openFrom (channelId (f.ref.getD "")) f.origin) ∨
        ∃ id, reply.session = s.release id) := by
  rw [channelMessage] at h
  split at h
  · cases h
  · rename_i f hparse
    refine ⟨f, hparse, ?_⟩
    dsimp only at h
    split at h
    · cases h
      exact Or.inl rfl
    · rename_i hevent
      cases h
      exact Or.inr (Or.inl ⟨hevent, rfl⟩)
    · cases h
      exact Or.inr (Or.inr ⟨_, rfl⟩)
    · cases h

/-- A document is answered with the name of its operation. -/
theorem channelMessage_document {s : Session} {text : String} {doc : ChannelFrame}
    (hparse : ChannelFrame.parse text = .ok doc) (hevent : doc.event = "doc") :
    s.channelMessage text = .ok
      ⟨[channelReply doc.joinRef doc.ref doc.topic "ok"
          (.obj [("subscriptionId", .str (channelId (doc.ref.getD "")))])],
        s.openFrom (channelId (doc.ref.getD "")) doc.origin,
        ⟨channelId (doc.ref.getD ""), .subscribe, some doc.payload⟩⟩ := by
  simp only [channelMessage, hparse, hevent]
  rfl

/-- An operation that is released is not known any more, if only open ones were known. -/
theorem origin?_release {s : Session} {released : String}
    (hknown : s.origin? released ≠ none → released ∈ s.opened) (id : String) :
    (s.release released).origin? id = if id = released then none else s.origin? id := by
  by_cases hopen : released ∈ s.opened
  · rw [origin?, origins_release hopen]
    exact lookup_filter_ne s.origins released id
  · rw [release_of_notMem hopen]
    split <;> rename_i hid
    · rw [hid]
      exact Classical.byContradiction fun hsome => hopen (hknown hsome)
    · rfl

theorem origin?_openFrom {s : Session} {opened : String} (hclosed : opened ∉ s.opened)
    (origin : Origin) (id : String) :
    (s.openFrom opened origin).origin? id = if id = opened then some origin else s.origin? id := by
  rw [openFrom, if_neg (by simpa using hclosed)]
  exact lookup_cons opened origin s.origins id

/-- The object of the values of errors and of extensions, if there are any. -/
inductive Reported (errors : Raw) : Option Raw → Json → Prop where
  | errors {e : Json} (he : Json.parse errors.text = .ok e) :
      Reported errors none (.obj [("errors", e)])
  | both {e x : Json} {extensions : Raw} (he : Json.parse errors.text = .ok e)
      (hx : Json.parse extensions.text = .ok x) :
    Reported errors (some extensions) (.obj [("errors", e), ("extensions", x)])

theorem errorsResponse_eq_ok_iff {errors : Raw} {extensions : Option Raw} {response : Json} :
    errorsResponse errors extensions = .ok response ↔ Reported errors extensions response := by
  constructor
  · intro h
    rw [errorsResponse] at h
    split at h <;> rename_i herrors hextensions
    · obtain rfl := Option.map_eq_none_iff.mp hextensions
      cases h
      exact .errors herrors
    · obtain ⟨raw, rfl, hraw⟩ := Option.map_eq_some_iff.mp hextensions
      cases h
      exact .both herrors hraw
    · cases h
  · rintro (he | ⟨he, hx⟩)
    · rw [errorsResponse, he]
      rfl
    · rw [errorsResponse, he, Option.map_some, hx]

theorem Reported.tidy {errors : Raw} {extensions : Option Raw} {response : Json}
    (h : Reported errors extensions response) : response.Tidy := by
  cases h with
  | errors he => exact .obj (List.pairwise_singleton _ _) (by simpa using Json.tidy_parse he)
  | both he hx =>
    exact .obj (List.pairwise_pair.mpr (by dsimp only; decide))
      (by simpa using ⟨Json.tidy_parse he, Json.tidy_parse hx⟩)

/-- The open operations of a channel come from the documents that are listed for them first. -/
structure Traced (s : Session) (openings : List (String × ChannelFrame)) : Prop where
  channel : s.subprotocol = .absinthe
  known : ∀ id, s.origin? id ≠ none → id ∈ s.opened
  origin : ∀ id ∈ s.opened, ∃ doc, openings.lookup id = some doc ∧ doc.event = "doc" ∧
    id = channelId (doc.ref.getD "") ∧ s.origin? id = some doc.origin

theorem Traced.release {s : Session} {openings : List (String × ChannelFrame)}
    (h : s.Traced openings) (released : String) : (s.release released).Traced openings := by
  have hcloses := s.release_closes released
  refine ⟨(s.release_subprotocol _).trans h.channel, fun id horigin => ?_, fun id hid => ?_⟩
  · rw [origin?_release (h.known released)] at horigin
    split at horigin <;> rename_i hne
    · exact absurd rfl horigin
    · exact (hcloses id).mpr ⟨h.known id horigin, hne⟩
  · obtain ⟨hopen, hne⟩ := (hcloses id).mp hid
    rw [origin?_release (h.known released), if_neg hne]
    exact h.origin id hopen

theorem Traced.openFrom {s : Session} {openings : List (String × ChannelFrame)}
    (h : s.Traced openings) {doc : ChannelFrame} (hevent : doc.event = "doc")
    (hclosed : channelId (doc.ref.getD "") ∉ s.opened) :
    (s.openFrom (channelId (doc.ref.getD "")) doc.origin).Traced
      ((channelId (doc.ref.getD ""), doc) :: openings) := by
  have hopens := s.openFrom_opens (channelId (doc.ref.getD "")) doc.origin
  refine ⟨by simpa using h.channel, fun id horigin => ?_, fun id hid => ?_⟩
  · rw [origin?_openFrom hclosed] at horigin
    split at horigin <;> rename_i hname
    · exact (hopens id).mpr (Or.inl ⟨hname, Subprotocol.channelId_ne_empty _⟩)
    · exact (hopens id).mpr (Or.inr (h.known id horigin))
  · rw [origin?_openFrom hclosed, lookup_cons]
    by_cases hname : id = channelId (doc.ref.getD "")
    · rw [if_pos hname, if_pos hname]
      exact ⟨doc, rfl, hevent, hname, rfl⟩
    · rw [if_neg hname, if_neg hname]
      have hopen : id ∈ s.opened := ((hopens id).mp hid).resolve_left fun hnew => hname hnew.1
      exact h.origin id hopen

end Session

namespace Link

variable {τ : Type} [Transport τ]

/-! ## Histories -/

/-- What is done with a link as a whole. -/
inductive Call (τ : Type) where
  /-- The connection changes by itself: texts come in, or writes begin or cease to fail. -/
  | stir (f : τ → τ)
  | handshake
  | read
  | pong (ping : Message)
  | data (id : String) (data : Raw) (extensions : Option Raw)
  | errors (id : String) (errors : Raw) (extensions : Option Raw)
  | done (id : String)
  | close (code : UInt16) (reason : String)

def perform (l : Link τ) : Call τ → Link τ
  | .stir f => { l with transport := f l.transport }
  | .handshake => l.handshake.2
  | .read => l.read.2
  | .pong ping => (l.pong ping).2
  | .data id data extensions => (l.writeData id data extensions).2
  | .errors id errors extensions => (l.writeErrors id errors extensions).2
  | .done id => (l.done id).2
  | .close code reason => (l.close code reason).2

/-- The link after a sequence of calls. -/
def performAll (l : Link τ) (calls : List (Call τ)) : Link τ := calls.foldl perform l

/-- The message that lies before the next read. -/
def incoming? (l : Link τ) : Option ChannelFrame :=
  match l.receive.1 with
  | .ok text => (ChannelFrame.parse text).toOption
  | .error _ => none

/-- The operation that a call takes from closed to open, with the message that it reads. -/
def opening? (l : Link τ) : Call τ → Option (String × ChannelFrame)
  | .read => do
    let id ← l.read.2.session.opened.find? fun id => !l.session.isOpen id
    let message ← l.incoming?
    return (id, message)
  | _ => none

/-- The operations that were opened in the course of some calls, the last one first. -/
def openings (l : Link τ) : List (Call τ) → List (String × ChannelFrame)
  | [] => []
  | call :: calls => (l.perform call).openings calls ++ (l.opening? call).toList

/-! ## The table and the history -/

theorem opening?_read_eq_none {l : Link τ}
    (h : ∀ id ∈ l.read.2.session.opened, id ∈ l.session.opened) : l.opening? .read = none := by
  have hfind : (l.read.2.session.opened.find? fun id => !l.session.isOpen id) = none := by
    simpa using h
  rw [opening?, hfind]
  rfl

theorem opening?_read_eq_some {l : Link τ} {id : String} {message : ChannelFrame}
    (hclosed : id ∉ l.session.opened) (hid : id ∈ l.read.2.session.opened)
    (hopens : ∀ x ∈ l.read.2.session.opened, x = id ∨ x ∈ l.session.opened)
    (hmessage : l.incoming? = some message) : l.opening? .read = some (id, message) := by
  have hfind : (l.read.2.session.opened.find? fun x => !l.session.isOpen x) = some id := by
    cases hx : l.read.2.session.opened.find? fun x => !l.session.isOpen x with
    | none =>
      have hall := List.find?_eq_none.mp hx id hid
      exact absurd hclosed (by simpa using hall)
    | some x =>
      have hnew : x ∉ l.session.opened := by simpa [Session.isOpen] using List.find?_some hx
      have hname := (hopens x (List.mem_of_find?_eq_some hx)).resolve_right hnew
      rw [hname]
  rw [opening?, hfind, hmessage]
  rfl

/-- A read lists the document that opens an operation. -/
theorem traced_read {l : Link τ} {openings : List (String × ChannelFrame)}
    (h : l.session.Traced openings) :
    l.read.2.session.Traced ((l.opening? .read).toList ++ openings) := by
  -- all reads but one that opens an operation
  have hstays {t : Session} (hread : l.read.2.session = t)
      (hopened : ∀ id ∈ t.opened, id ∈ l.session.opened) (ht : t.Traced openings) :
      l.read.2.session.Traced ((l.opening? .read).toList ++ openings) := by
    rw [opening?_read_eq_none (hread ▸ hopened), hread]
    exact ht
  by_cases hinit : l.session.initialized = true
  · rcases l.converse_cases Session.message with
      ⟨_, -, hsession⟩ | ⟨text, reply, hreceive, hdecode, -, hsession⟩ <;>
      rw [show l.converse Session.message = l.read by rw [read, if_pos hinit]] at hsession
    · exact hstays hsession (fun _ => id) h
    · rw [Session.message_eq_channelMessage h.channel] at hdecode
      obtain ⟨f, hparse, hsame | ⟨hevent, hopened⟩ | ⟨id, hreleased⟩⟩ :=
        Session.channelMessage_cases hdecode
      · exact hstays (hsession.trans hsame) (fun _ => id) h
      · by_cases hopen : channelId (f.ref.getD "") ∈ l.session.opened
        · -- a second document for an open operation
          have hsame : l.read.2.session = l.session := by
            rw [hsession, hopened, Session.openFrom, if_pos (Session.isOpen_iff.mpr hopen)]
          exact hstays hsame (fun _ => id) h
        · have hmessage : l.incoming? = some f := by
            rw [incoming?, hreceive]
            simp [hparse, Except.toOption]
          have hopens := l.session.openFrom_opens (channelId (f.ref.getD "")) f.origin
          rw [← hopened, ← hsession] at hopens
          have hname := Subprotocol.channelId_ne_empty (f.ref.getD "")
          have hopening := opening?_read_eq_some hopen ((hopens _).mpr (Or.inl ⟨rfl, hname⟩))
            (fun x hx => ((hopens x).mp hx).imp_left And.left) hmessage
          rw [hopening, hsession, hopened]
          exact h.openFrom hevent hopen
      · exact hstays (hsession.trans hreleased)
          (fun x hx => ((l.session.release_closes id x).mp hx).1) (h.release id)
  · have hsame : l.read.2.session = l.session := by rw [read, if_neg hinit]
    exact hstays hsame (fun _ => id) h

/-- A call other than a read opens nothing. -/
theorem traced_perform {l : Link τ} {openings : List (String × ChannelFrame)}
    (h : l.session.Traced openings) (call : Call τ) :
    (l.perform call).session.Traced ((l.opening? call).toList ++ openings) := by
  cases call with
  | read => exact traced_read h
  | handshake =>
    rcases l.handshake_cases with ⟨_, -, hsession⟩ | ⟨_, -, -, hsession⟩
    · rw [perform, hsession]
      exact h
    · rw [perform, hsession]
      exact ⟨h.channel, h.known, h.origin⟩
  | done id =>
    rw [perform, done_session]
    split
    · exact h.release id
    · exact h
  | stir f => exact h
  | pong ping => exact h
  | data id data extensions =>
    rw [perform, writeData_session]
    exact h
  | errors id errors extensions =>
    rw [perform, writeErrors_session]
    exact h
  | close code reason => exact h

theorem traced_performAll {l : Link τ} {before : List (String × ChannelFrame)}
    (h : l.session.Traced before) (calls : List (Call τ)) :
    (l.performAll calls).session.Traced (l.openings calls ++ before) := by
  induction calls generalizing l before with
  | nil => exact h
  | cons call calls ih =>
    rw [openings, List.append_assoc]
    exact ih (traced_perform h call)

/-! ## What goes out about an operation -/

/-- What a link says about an open operation goes by the document that asked for it. -/
structure Serves (l : Link τ) (id : String) (doc : ChannelFrame) : Prop where
  asked : doc.event = "doc"
  named : id = channelId (doc.ref.getD "")
  origin : l.session.origin? id = some ⟨doc.joinRef, doc.ref, doc.topic⟩
  /-- Errors are answered to the document. -/
  errors : ∀ errors extensions value, Session.Reported errors extensions value →
    ∃ frame response, l.writeErrors id errors extensions =
        ((l.send frame).1.mapError Failure.error, (l.send frame).2) ∧
      ChannelFrame.Answers frame ⟨doc.joinRef, doc.ref, doc.topic⟩ "error" response ∧
      response.Shows value
  /-- The operation is never unknown, unless the connection itself were to say so. -/
  known : ∀ errors extensions unknown,
    (l.writeErrors id errors extensions).1 = .error (.error (.unknownOperation unknown)) →
    ∃ frame, (l.send frame).1 = .error (.unknownOperation unknown)
  data : ∀ data extensions result, data.IsJson →
    Payload.withExtensions data extensions = .ok result →
    ∃ frame payload, l.writeData id data extensions = l.send frame ∧
      ChannelFrame.parse frame = .ok { topic := id, event := "subscription:data", payload } ∧
      ChannelResult.parse payload.text = .ok { result, subscriptionId := id }
  completion : ∃ frame,
    l.done id = ({ l with session := l.session.release id } : Link τ).send frame ∧
      ChannelFrame.parse frame = .ok
        { topic := id, event := "phx_close", payload := ⟨"\x7b\x7d"⟩ }

/-- The next read finds the document, names its operation after it, and tells so in an answer to
it. -/
def Welcomes (l : Link τ) (doc : ChannelFrame) : Prop :=
  let id := channelId (doc.ref.getD "")
  ∃ frame, l.read.1 = (l.receive.2.send frame).1.map (fun _ => ⟨id, .subscribe, some doc.payload⟩) ∧
    ChannelFrame.Registers frame doc id

theorem writeErrors_of_origin {l : Link τ} {id : String} {origin : Origin} {errors : Raw}
    {extensions : Option Raw} {response : Json} (hp : l.session.subprotocol = .absinthe)
    (hid : id ∈ l.session.opened) (horigin : l.session.origin? id = some origin)
    (hresponse : Session.errorsResponse errors extensions = .ok response) :
    let sent := l.send (Session.channelReply origin.joinRef origin.ref origin.topic
      "error" response)
    l.writeErrors id errors extensions = (sent.1.mapError Failure.error, sent.2) := by
  have hopen : l.session.isOpen id = true := Session.isOpen_iff.mpr hid
  have hframe : l.session.errorsFrame id errors extensions =
      .ok (Session.channelReply origin.joinRef origin.ref origin.topic "error" response) := by
    simp only [Session.errorsFrame, hopen, hp, horigin, hresponse]
    rfl
  intro sent
  rw [writeErrors, hframe]
  dsimp only
  split <;> rename_i hsend
  · exact Prod.ext (congrArg (·.1.mapError Failure.error) hsend).symm (congrArg (·.2) hsend).symm
  · exact Prod.ext (congrArg (·.1.mapError Failure.error) hsend).symm (congrArg (·.2) hsend).symm

/-- Errors of an open operation that cannot be built break the call; they are not taken for
unknown. -/
theorem writeErrors_of_not_values {l : Link τ} {id : String} {origin : Origin} {errors : Raw}
    {extensions : Option Raw} {f : Failure} (hp : l.session.subprotocol = .absinthe)
    (hid : id ∈ l.session.opened) (horigin : l.session.origin? id = some origin)
    (hresponse : Session.errorsResponse errors extensions = .error f) :
    l.writeErrors id errors extensions = (.error .crash, l) := by
  have hcrash : f = .crash := by
    rw [Session.errorsResponse] at hresponse
    split at hresponse <;> cases hresponse
    rfl
  have hopen : l.session.isOpen id = true := Session.isOpen_iff.mpr hid
  have hframe : l.session.errorsFrame id errors extensions = .error .crash := by
    simp only [Session.errorsFrame, hopen, hp, horigin, hresponse, hcrash]
    rfl
  rw [writeErrors, hframe]

theorem withExtensions_isJson {data result : Raw} {extensions : Option Raw} (hdata : data.IsJson)
    (h : Payload.withExtensions data extensions = .ok result) : result.IsJson := by
  cases extensions with
  | none =>
    cases h
    exact hdata
  | some extensions =>
    rw [Payload.withExtensions] at h
    cases hmembers : Json.parseMembers data.text with
    | error _ =>
      rw [hmembers] at h
      cases h
    | ok members =>
      cases hvalue : Json.parse extensions.text with
      | error _ =>
        rw [hmembers, hvalue] at h
        cases h
      | ok value =>
        rw [hmembers, hvalue] at h
        cases h
        exact Json.render_isJson _

theorem serves_of_traced {l : Link τ} {openings : List (String × ChannelFrame)}
    (h : l.session.Traced openings) {id : String} (hid : id ∈ l.session.opened) :
    ∃ doc, openings.lookup id = some doc ∧ l.Serves id doc := by
  obtain ⟨doc, hlookup, hevent, hname, horigin⟩ := h.origin id hid
  have hopen : l.session.isOpen id = true := Session.isOpen_iff.mpr hid
  refine ⟨doc, hlookup, hevent, hname, horigin, ?_, ?_, ?_, ?_⟩
  · intro errors extensions value hvalue
    have hresponse := Session.errorsResponse_eq_ok_iff.mpr hvalue
    exact ⟨_, _, writeErrors_of_origin h.channel hid horigin hresponse,
      ChannelFrame.answers_channelReply doc.origin "error" value, Json.shows_render hvalue.tidy⟩
  · intro errors extensions unknown hunknown
    cases hresponse : Session.errorsResponse errors extensions with
    | error f =>
      rw [writeErrors_of_not_values h.channel hid horigin hresponse] at hunknown
      cases hunknown
    | ok response =>
      rw [writeErrors_of_origin h.channel hid horigin hresponse] at hunknown
      -- the error can only be one of the connection, whatever frame it was given
      generalize Session.channelReply _ _ _ _ _ = frame at hunknown
      refine ⟨frame, ?_⟩
      cases hsend : (l.send frame).1 with
      | ok _ =>
        rw [hsend] at hunknown
        cases hunknown
      | error e =>
        rw [hsend] at hunknown
        cases hunknown
        rfl
  · intro data extensions result hdata hresult
    have hframe : l.session.dataFrame id data extensions = .ok (ChannelFrame.render
        { topic := id, event := "subscription:data"
          payload := ChannelResult.payload ⟨result, id⟩ }) := by
      simp [Session.dataFrame, hopen, hresult, h.channel, ChannelResult.payload]
    have hjson : result.IsJson := withExtensions_isJson hdata hresult
    refine ⟨_, ChannelResult.payload ⟨result, id⟩, ?_, ChannelFrame.parse_render
      (ChannelResult.payload_isJson hjson), ChannelResult.parse_payload hjson⟩
    rw [writeData, hframe]
  · refine ⟨l.session.doneFrame id, by rw [done, if_pos hopen], ?_⟩
    simp only [Session.doneFrame, h.channel]
    exact ChannelFrame.parse_render (Payload.objectOf_isJson (by simp))

theorem welcomes_document {l : Link τ} (hp : l.session.subprotocol = .absinthe)
    (hinit : l.session.initialized = true) {doc : ChannelFrame} (hdoc : l.incoming? = some doc)
    (hevent : doc.event = "doc") : l.Welcomes doc := by
  rw [incoming?] at hdoc
  split at hdoc
  · rename_i text hreceive
    have hparse : ChannelFrame.parse text = .ok doc := by
      cases hframe : ChannelFrame.parse text with
      | error _ =>
        rw [hframe] at hdoc
        cases hdoc
      | ok f =>
        rw [hframe] at hdoc
        cases hdoc
        rfl
    have hdecode : l.session.message text = .ok _ :=
      (Session.message_eq_channelMessage hp text).trans
        (Session.channelMessage_document hparse hevent)
    refine ⟨_, ?_, ChannelFrame.registers_channelReply doc _⟩
    rw [read, if_pos hinit, converse_ok hreceive hdecode, settle_one]
  · cases hdoc

omit [Transport τ] in
theorem traced_fresh (transport : τ) : (fresh .absinthe transport).session.Traced [] :=
  ⟨rfl, fun _ h => absurd rfl h, fun _ h => absurd h List.not_mem_nil⟩

theorem mem_origins_iff {s : Session} {id : String} :
    id ∈ s.origins.map Prod.fst ↔ s.origin? id ≠ none := by
  rw [Session.origin?, ne_eq, List.lookup_eq_none_iff]
  simp [List.mem_map]

/-- **Operations answer to their documents.** Whatever calls were made on a channel, and whichever
of its reads and writes failed, the table lists exactly the open operations, each with the place of
the document that opened it last. So errors go to that document and no open operation is unknown,
while results and the end of an operation go out under its name, which is also what the document is
answered with. -/
theorem origins_follow_documents (transport : τ) (calls : List (Call τ)) :
    let l := (fresh .absinthe transport).performAll calls
    (∀ id, id ∈ l.session.origins.map Prod.fst ↔ id ∈ l.session.opened) ∧
      (∀ id ∈ l.session.opened, ∃ doc,
        ((fresh .absinthe transport).openings calls).lookup id = some doc ∧ l.Serves id doc) ∧
      ∀ doc, l.session.initialized = true → l.incoming? = some doc → doc.event = "doc" →
        l.Welcomes doc := by
  intro l
  have htraced : l.session.Traced ((fresh .absinthe transport).openings calls ++ []) :=
    traced_performAll (traced_fresh transport) calls
  rw [List.append_nil] at htraced
  refine ⟨fun id => ?_, fun id hid => serves_of_traced htraced hid, ?_⟩
  · rw [mem_origins_iff]
    refine ⟨htraced.known id, fun hid => ?_⟩
    obtain ⟨doc, -, -, -, horigin⟩ := htraced.origin id hid
    rw [horigin]
    exact Option.some_ne_none _
  · intro doc hinit hdoc hevent
    exact welcomes_document htraced.channel hinit hdoc hevent

/-! ### An operation that is opened again -/

/-- A document for the operation with reference `7`. -/
def document (joinRef topic : String) : ChannelFrame :=
  { joinRef := some joinRef, ref := some "7", topic, event := "doc", payload := ⟨"\x7b\x7d"⟩ }

/-- A document comes in and is read. -/
def asks (joinRef topic : String) : List (Call ScriptedTransport) :=
  [.stir (·.push (document joinRef topic).render), .read]

/-- A document, a second one while its operation is open, and a third one once the operation is
done. -/
def reopening : List (Call ScriptedTransport) :=
  [.stir (·.push (Conversation.greeting .absinthe)), .handshake] ++ asks "1" "a" ++ asks "2" "b" ++
    [.done (channelId "7")] ++ asks "3" "c"

theorem performAll_asks {l : Link ScriptedTransport} (hp : l.session.subprotocol = .absinthe)
    (hinit : l.session.initialized = true) (hcalm : l.transport.Calm) (joinRef topic : String) :
    ∃ t, t.Calm ∧ l.performAll (asks joinRef topic) =
      ⟨l.session.openFrom (channelId "7") (document joinRef topic).origin, t⟩ := by
  have hparse : ChannelFrame.parse (document joinRef topic).render = .ok (document joinRef topic) :=
    ChannelFrame.parse_render (by simp only [document]; decide +kernel)
  have hmessage := (Session.message_eq_channelMessage hp (document joinRef topic).render).trans
    (Session.channelMessage_document hparse rfl)
  obtain ⟨t, ht, hconverse⟩ :=
    converse_calm hcalm (document joinRef topic).render Session.message
  rw [hmessage] at hconverse
  refine ⟨t, ht, ?_⟩
  have hread : (Link.read {
      l with transport := l.transport.push (document joinRef topic).render }).2 =
      ⟨l.session.openFrom (channelId "7") (document joinRef topic).origin, t⟩ := by
    rw [read, if_pos hinit, hconverse]
    rfl
  exact hread

theorem performAll_append (l : Link τ) (calls calls' : List (Call τ)) :
    l.performAll (calls ++ calls') = (l.performAll calls).performAll calls' := List.foldl_append

/-- The third document finds the operation ended. -/
theorem session_reopening :
    ∃ ended : Session, channelId "7" ∉ ended.opened ∧
      ((fresh .absinthe ({} : ScriptedTransport)).performAll reopening).session =
        ended.openFrom (channelId "7") (document "3" "c").origin := by
  let greeted : Session := { subprotocol := .absinthe, initialized := true }
  let first := greeted.openFrom (channelId "7") (document "1" "a").origin
  have hopen : channelId "7" ∈ first.opened :=
    (greeted.openFrom_opens _ _ _).mpr (Or.inl ⟨rfl, Subprotocol.channelId_ne_empty _⟩)
  obtain ⟨t₀, ht₀, hgreeted⟩ : ∃ t, t.Calm ∧ (fresh .absinthe ({} : ScriptedTransport)).performAll
      [.stir (·.push (Conversation.greeting .absinthe)), .handshake] = ⟨greeted, t⟩ :=
    ⟨_, ⟨rfl, rfl, rfl, rfl⟩, rfl⟩
  obtain ⟨t₁, ht₁, hfirst⟩ :=
    performAll_asks (l := ⟨greeted, t₀⟩) rfl rfl ht₀ "1" "a"
  obtain ⟨t₂, ht₂, hsecond⟩ :=
    performAll_asks (l := ⟨first, t₁⟩) (by simp [first, greeted])
      (by simp [first, greeted]) ht₁ "2" "b"
  have hsame : first.openFrom (channelId "7") (document "2" "b").origin = first := by
    rw [Session.openFrom, if_pos (Session.isOpen_iff.mpr hopen)]
  rw [hsame] at hsecond
  obtain ⟨t₃, ht₃, hsend⟩ := send_calm (l := ⟨first.release (channelId "7"), t₂⟩) ht₂
    (first.doneFrame (channelId "7"))
  have hdone : (⟨first, t₂⟩ : Link ScriptedTransport).performAll [.done (channelId "7")] =
      ⟨first.release (channelId "7"), t₃⟩ := by
    show (Link.done ⟨first, t₂⟩ (channelId "7")).2 = _
    rw [done, if_pos (Session.isOpen_iff.mpr hopen), hsend]
  obtain ⟨t₄, -, hthird⟩ := performAll_asks (l := ⟨first.release (channelId "7"), t₃⟩)
    (by simp [first, greeted]) (by simp [first, greeted]) ht₃ "3" "c"
  refine ⟨first.release (channelId "7"), fun hmem => ((first.release_closes _ _).mp hmem).2 rfl, ?_⟩
  rw [reopening, performAll_append, performAll_append, performAll_append,
    performAll_append, hgreeted, hfirst, hsecond, hdone, hthird]

theorem origins_follow_documents_reopened :
    channelId "7" ∈
        ((fresh .absinthe ({} : ScriptedTransport)).performAll reopening).session.opened ∧
      ∃ doc,
        ((fresh .absinthe ({} : ScriptedTransport)).openings reopening).lookup (channelId "7") =
          some doc ∧
        doc.joinRef = some "3" ∧ doc.topic = "c" ∧
        ((fresh .absinthe ({} : ScriptedTransport)).performAll reopening).Serves
          (channelId "7") doc := by
  obtain ⟨-, hserves, -⟩ := origins_follow_documents ({} : ScriptedTransport) reopening
  obtain ⟨ended, hended, hsession⟩ := session_reopening
  generalize (fresh .absinthe ({} : ScriptedTransport)).performAll reopening =
    l at hserves hsession ⊢
  have hopen : channelId "7" ∈ l.session.opened := by
    rw [hsession]
    exact (ended.openFrom_opens _ _ _).mpr (Or.inl ⟨rfl, Subprotocol.channelId_ne_empty _⟩)
  obtain ⟨doc, hlookup, hdoc⟩ := hserves (channelId "7") hopen
  have horigin : l.session.origin? (channelId "7") = some (document "3" "c").origin := by
    rw [hsession, Session.origin?_openFrom hended, if_pos rfl]
  have hsame := Option.some.inj (hdoc.origin.symm.trans horigin)
  exact ⟨hopen, doc, hlookup, congrArg Origin.joinRef hsame, congrArg Origin.topic hsame, hdoc⟩

end Link
end StreamGateway
