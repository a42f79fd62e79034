import StreamGateway.Proofs.Protocol.Logs

/-! # Calls that fail leave no trace

A call on a link can fail in many ways: there is nothing to read, a text cannot be decoded or asks
for something unknown, the answer to a document cannot be sent, extensions cannot be merged, an
operation is not open, or the connection refuses a frame. Whichever it is, a read or a write that
fails has moved nothing (`read_error`, `writeData_error`, `writeErrors_error`). A write looks for
its operation first, so whether an operation is unknown does not depend on what is to be written.
Only the end of an operation goes ahead without the client. -/
namespace StreamGateway

open Json (Raw)

/-! ## Frames -/

namespace Session

variable {s : Session}

/-- A message is answered by one frame at most. -/
theorem message_frames {text : String} {reply : Reply Message} (h : s.message text = .ok reply) :
    reply.frames.length ≤ 1 := by
  have hobject (h : s.objectMessage text = .ok reply) : reply.frames.length ≤ 1 := by
    rw [objectMessage] at h
    split at h
    · cases h
    · split at h <;> cases h
      exact Nat.zero_le 1
  rw [message] at h
  split at h
  · exact hobject h
  · exact hobject h
  · rw [channelMessage] at h
    split at h
    · cases h
    · dsimp only at h
      split at h <;> cases h
      · exact Nat.zero_le 1
      · exact Nat.le_refl 1
      · exact Nat.zero_le 1

theorem dataFrame_of_closed {id : String} (hid : id ∉ s.opened) (data : Raw)
    (extensions : Option Raw) : s.dataFrame id data extensions = .error (.unknownOperation id) := by
  have hclosed : s.isOpen id = false := by simpa [isOpen] using hid
  rw [dataFrame, hclosed]
  rfl

theorem errorsFrame_of_closed {id : String} (hid : id ∉ s.opened) (errors : Raw)
    (extensions : Option Raw) :
    s.errorsFrame id errors extensions = .error (.error (.unknownOperation id)) := by
  have hclosed : s.isOpen id = false := by simpa [isOpen] using hid
  rw [errorsFrame, hclosed]
  rfl

/-- There is no result frame of an open operation only if its extensions cannot be merged. -/
theorem dataFrame_of_open {id : String} (hid : id ∈ s.opened) {data : Raw} {extensions : Option Raw}
    {e : ProtocolError} (h : s.dataFrame id data extensions = .error e) :
    ∃ problem, e = .malformed problem := by
  rw [dataFrame, isOpen_iff.mpr hid, if_neg (by decide)] at h
  split at h
  · cases h
    exact ⟨_, rfl⟩
  · split at h <;> cases h

/-- There is no errors frame of an open operation only if the call breaks down. -/
theorem errorsFrame_of_open {id : String} (hid : id ∈ s.opened)
    (horigin : s.subprotocol = .absinthe → ∃ origin, s.origin? id = some origin) {errors : Raw}
    {extensions : Option Raw} {f : Failure} (h : s.errorsFrame id errors extensions = .error f) :
    f = .crash := by
  rw [errorsFrame, isOpen_iff.mpr hid, if_neg (by decide)] at h
  split at h <;> rename_i hp
  · cases h
  · cases h
  · obtain ⟨origin, horigin⟩ := horigin hp
    rw [horigin] at h
    dsimp only at h
    rw [errorsResponse] at h
    split at h <;> cases h
    rfl

end Session

/-! ## Calls -/

namespace Link

variable {τ : Type} [Transport τ] {log : τ → List String} {l : Link τ}

theorem read_error (hlog : Transport.Logs log) {e : ProtocolError} (h : l.read.1 = .error e) :
    l.Unmoved log l.read.2 := by
  rw [read] at h ⊢
  split at h <;> rename_i hinit
  · rw [if_pos hinit]
    exact converse_error hlog (fun _ _ => Session.message_frames) h
  · rw [if_neg hinit]
    exact .refl log l

theorem writeData_error (hlog : Transport.Logs log) {id : String} {data : Raw}
    {extensions : Option Raw} {e : ProtocolError}
    (h : (l.writeData id data extensions).1 = .error e) :
    l.Unmoved log (l.writeData id data extensions).2 := by
  rw [writeData] at h ⊢
  split at h
  · exact .refl log l
  · exact unmoved_send hlog h

/-- A frame with errors goes out as any other frame does. -/
theorem writeErrors_of_frame {id frame : String} {errors : Raw} {extensions : Option Raw}
    (h : l.session.errorsFrame id errors extensions = .ok frame) :
    l.writeErrors id errors extensions =
      ((l.send frame).1.mapError Failure.error, (l.send frame).2) := by
  rw [writeErrors, h]
  dsimp only
  split <;> rename_i hsend <;> rw [hsend] <;> rfl

theorem writeErrors_error (hlog : Transport.Logs log) {id : String} {errors : Raw}
    {extensions : Option Raw} {f : Failure}
    (h : (l.writeErrors id errors extensions).1 = .error f) :
    l.Unmoved log (l.writeErrors id errors extensions).2 := by
  cases hframe : l.session.errorsFrame id errors extensions with
  | error f =>
    rw [writeErrors, hframe]
    exact .refl log l
  | ok frame =>
    rw [writeErrors_of_frame hframe] at h ⊢
    cases hsend : (l.send frame).1 with
    | error e => exact unmoved_send hlog hsend
    | ok _ =>
      rw [hsend] at h
      cases h

/-! ### Unknown operations -/

/-- The connection itself refuses a frame with the words for an unknown operation. -/
def Denies (l : Link τ) (id : String) : Prop :=
  ∃ frame, (l.send frame).1 = .error (.unknownOperation id)

theorem writeData_of_open {id : String} (hid : id ∈ l.session.opened) {data : Raw}
    {extensions : Option Raw} {x : String}
    (h : (l.writeData id data extensions).1 = .error (.unknownOperation x)) : l.Denies x := by
  rw [writeData] at h
  split at h <;> rename_i hframe
  · cases h
    obtain ⟨problem, hproblem⟩ := Session.dataFrame_of_open hid hframe
    cases hproblem
  · exact ⟨_, h⟩

theorem writeErrors_of_open {id : String} (hid : id ∈ l.session.opened)
    (horigin : l.session.subprotocol = .absinthe → ∃ origin, l.session.origin? id = some origin)
    {errors : Raw} {extensions : Option Raw} {x : String}
    (h : (l.writeErrors id errors extensions).1 = .error (.error (.unknownOperation x))) :
    l.Denies x := by
  cases hframe : l.session.errorsFrame id errors extensions with
  | error f =>
    rw [writeErrors, hframe] at h
    cases h
    cases Session.errorsFrame_of_open hid horigin hframe
  | ok frame =>
    rw [writeErrors_of_frame hframe] at h
    refine ⟨frame, ?_⟩
    cases hsend : (l.send frame).1 with
    | ok _ =>
      rw [hsend] at h
      cases h
    | error e =>
      rw [hsend] at h
      cases h
      rfl

/-! ### Ending an operation -/

/-- An operation is ended whether or not the client can be told: it is closed, as are no others, it
is forgotten where it came from, and the frame that says so has gone out if the call succeeds. -/
structure Ends (log : τ → List String) (l : Link τ) (id : String) : Prop where
  closes : l.session.Closes id (l.done id).2.session
  forgets : ∀ x, (l.done id).2.session.origin? x = if x = id then none else l.session.origin? x
  keeps : (l.done id).2.session.initialized = l.session.initialized
  told : (l.done id).1 = .ok () →
    log (l.done id).2.transport = log l.transport ++ [l.session.doneFrame id]
  untold : ∀ e, (l.done id).1 = .error e → log (l.done id).2.transport = log l.transport

theorem ends_of_open (hlog : Transport.Logs log) {id : String} (hid : id ∈ l.session.opened) :
    l.Ends log id := by
  have hdone : l.done id =
      ({ l with session := l.session.release id } : Link τ).send (l.session.doneFrame id) := by
    rw [done, if_pos (Session.isOpen_iff.mpr hid)]
  constructor
  · rw [hdone]
    exact l.session.release_closes id
  · rw [hdone]
    exact Session.origin?_release fun _ => hid
  · rw [hdone]
    exact l.session.release_initialized id
  · rw [hdone]
    exact hlog.sent l.transport _
  · rw [hdone]
    exact hlog.unsent l.transport _

/-! ## Every link -/

/-- The calls of a link do all that they are for, or nothing. -/
structure Atomic (log : τ → List String) (l : Link τ) : Prop where
  read : ∀ e, l.read.1 = .error e → l.Unmoved log l.read.2
  data : ∀ id data extensions e, (l.writeData id data extensions).1 = .error e →
    l.Unmoved log (l.writeData id data extensions).2
  errors : ∀ id errors extensions f, (l.writeErrors id errors extensions).1 = .error f →
    l.Unmoved log (l.writeErrors id errors extensions).2
  /-- All three calls look for the operation before anything else. -/
  unknown : ∀ id, id ∉ l.session.opened →
    (∀ data extensions, l.writeData id data extensions = (.error (.unknownOperation id), l)) ∧
      (∀ errors extensions,
        l.writeErrors id errors extensions = (.error (.error (.unknownOperation id)), l)) ∧
      l.done id = (.error (.unknownOperation id), l)
  /-- An open operation is unknown at most to the connection. -/
  known : ∀ id ∈ l.session.opened, ∀ x,
    (∀ data extensions, (l.writeData id data extensions).1 = .error (.unknownOperation x) →
        l.Denies x) ∧
      ∀ errors extensions,
        (l.writeErrors id errors extensions).1 = .error (.error (.unknownOperation x)) → l.Denies x
  ends : ∀ id ∈ l.session.opened, l.Ends log id

theorem atomic_of_sourced (hlog : Transport.Logs log)
    (horigin : l.session.subprotocol = .absinthe →
      ∀ id ∈ l.session.opened, ∃ origin, l.session.origin? id = some origin) : l.Atomic log where
  read _ h := read_error hlog h
  data _ _ _ _ h := writeData_error hlog h
  errors _ _ _ _ h := writeErrors_error hlog h
  unknown id hid := by
    refine ⟨fun data extensions => ?_, fun errors extensions => ?_, ?_⟩
    · rw [writeData, Session.dataFrame_of_closed hid]
    · rw [writeErrors, Session.errorsFrame_of_closed hid]
    · rw [done, if_neg fun hopen => hid (Session.isOpen_iff.mp hopen)]
  known id hid x :=
    ⟨fun _ _ h => writeData_of_open hid h,
      fun _ _ h => writeErrors_of_open hid (fun hp => horigin hp id hid) h⟩
  ends id hid := ends_of_open hlog hid

/-- **Calls are atomic on error.** In every state that a link over any connection can come to, in
any subprotocol and whichever reads and writes have failed before, a read or a write that fails
leaves the log of the connection and the whole session as they were. A write says that an operation
is unknown exactly if it is not open, whatever is to be written, provided that the connection does
not say so of its own accord. Ending an operation that is not open does nothing; ending an open one
closes it even if the client cannot be told. -/
theorem calls_atomic_on_error (hlog : Transport.Logs log) (p : Subprotocol) (transport : τ)
    (calls : List (Call τ)) :
    let l := (fresh p transport).performAll calls
    l.Atomic log ∧
      ((∀ x, ¬l.Denies x) → ∀ id,
        (∀ data extensions,
          (∃ x, (l.writeData id data extensions).1 = .error (.unknownOperation x)) ↔
            id ∉ l.session.opened) ∧
        ∀ errors extensions,
          (∃ x, (l.writeErrors id errors extensions).1 = .error (.error (.unknownOperation x))) ↔
            id ∉ l.session.opened) := by
  intro l
  have hsubprotocol : l.session.subprotocol = p := performAll_subprotocol (fresh p transport) calls
  have hatomic : l.Atomic log :=
    atomic_of_sourced hlog fun hp _ hid => exists_origin (hsubprotocol.symm.trans hp) hid
  refine ⟨hatomic, fun hdenies id => ⟨fun data extensions => ⟨?_, fun hid => ?_⟩,
    fun errors extensions => ⟨?_, fun hid => ?_⟩⟩⟩
  · rintro ⟨x, hx⟩ hid
    exact hdenies x ((hatomic.known id hid x).1 data extensions hx)
  · exact ⟨id, by rw [(hatomic.unknown id hid).1]⟩
  · rintro ⟨x, hx⟩ hid
    exact hdenies x ((hatomic.known id hid x).2 errors extensions hx)
  · exact ⟨id, by rw [(hatomic.unknown id hid).2.1]⟩

/-- A client has subscribed as operation 1, and the connection has broken since. -/
def broken : List (Call ScriptedTransport) :=
  [.stir (·.push (Conversation.greeting .transport)), .handshake,
    .stir (·.push "\x7b\"id\":\"1\",\"type\":\"subscribe\"\x7d"), .read,
    .stir (·.failWrite 0 { kind := .brokenPipe })]

theorem calls_atomic_on_error_broken :
    Transport.Logs ScriptedTransport.log ∧
      let l := (fresh .transport ({} : ScriptedTransport)).performAll broken
      (l.writeData "1" ⟨"null"⟩ none).1 = .error (.fault { kind := .brokenPipe }) ∧
        l.Unmoved ScriptedTransport.log (l.writeData "1" ⟨"null"⟩ none).2 ∧
        (l.done "1").1 = .error (.fault { kind := .brokenPipe }) ∧
          l.Ends ScriptedTransport.log "1" := by
  obtain ⟨hatomic, -⟩ := calls_atomic_on_error ScriptedTransport.logs .transport {} broken
  have hopen : "1" ∈ ((fresh .transport ({} : ScriptedTransport)).performAll
      broken).session.opened := by
    decide +kernel
  have hdata : (((fresh .transport ({} : ScriptedTransport)).performAll broken).writeData "1"
      ⟨"null"⟩ none).1 = .error (.fault { kind := .brokenPipe }) := by
    decide +kernel
  exact ⟨ScriptedTransport.logs, hdata, hatomic.data _ _ _ _ hdata, by decide +kernel,
    hatomic.ends "1" hopen⟩

end Link
end StreamGateway
