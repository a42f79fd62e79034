import StreamGateway.Proofs.Protocol.Operations
import StreamGateway.Protocol.Link

/-! # What a call leaves of the session

The calls of a link over any connection, seen from the session. Sending never touches it; a text
that was read moves it on exactly when its answer could be sent; ending an operation closes it
whether or not the client could be told. -/
namespace StreamGateway.Link

open Json (Raw)

variable {τ : Type} [Transport τ]

@[simp] theorem send_session (l : Link τ) (frame : String) : (l.send frame).2.session = l.session :=
  rfl

@[simp] theorem sendAll_session (l : Link τ) (frames : List String) :
    (l.sendAll frames).2.session = l.session := by
  induction frames generalizing l with
  | nil => rfl
  | cons frame frames ih =>
    rw [sendAll]
    split <;> rename_i hsend
    · rw [ih, ← congrArg (·.2.session) hsend, send_session]
    · rw [← congrArg (·.2.session) hsend, send_session]

/-! ### Reading -/

/-- A text that was read and could be decoded and answered. -/
theorem converse_cases {α : Type} (l : Link τ)
    (decode : Session → String → Except ProtocolError (Session.Reply α)) :
    (∃ e, (l.converse decode).1 = .error e ∧ (l.converse decode).2.session = l.session) ∨
      ∃ text reply, l.receive.1 = .ok text ∧ decode l.session text = .ok reply ∧
        (l.converse decode).1 = .ok reply.value ∧
        (l.converse decode).2.session = reply.session := by
  rw [converse]
  split <;> rename_i hreceive
  · exact Or.inl ⟨_, rfl, congrArg (·.2.session) hreceive.symm⟩
  · rename_i text l'
    have hsession : l'.session = l.session := congrArg (·.2.session) hreceive.symm
    split <;> rename_i hdecode
    · exact Or.inl ⟨_, rfl, hsession⟩
    · rename_i reply
      rw [settle]
      split <;> rename_i hsend
      · exact Or.inr ⟨text, reply, congrArg (·.1) hreceive, hsession ▸ hdecode, rfl, rfl⟩
      · refine Or.inl ⟨_, rfl, ?_⟩
        rw [← congrArg (·.2.session) hsend, sendAll_session, hsession]

/-- A text that can be decoded is answered. -/
theorem converse_ok {α : Type} {l : Link τ} {text : String} {reply : Session.Reply α}
    {decode : Session → String → Except ProtocolError (Session.Reply α)}
    (hreceive : l.receive.1 = .ok text) (hdecode : decode l.session text = .ok reply) :
    l.converse decode = l.receive.2.settle reply := by
  have hpair : l.receive = (.ok text, l.receive.2) := Prod.ext hreceive rfl
  have hsession : l.receive.2.session = l.session := rfl
  rw [converse, hpair]
  dsimp only
  rw [hsession, hdecode]

/-- A text that cannot be decoded is only read. -/
theorem converse_refused {α : Type} {l : Link τ} {text : String} {e : ProtocolError}
    {decode : Session → String → Except ProtocolError (Session.Reply α)}
    (hreceive : l.receive.1 = .ok text) (hdecode : decode l.session text = .error e) :
    l.converse decode = (.error e, l.receive.2) := by
  have hpair : l.receive = (.ok text, l.receive.2) := Prod.ext hreceive rfl
  have hsession : l.receive.2.session = l.session := rfl
  rw [converse, hpair]
  dsimp only
  rw [hsession, hdecode]

/-- With one frame to send, a text is answered as far as this frame gets out. -/
theorem settle_one {α : Type} (l : Link τ) (frame : String) (session : Session) (value : α) :
    (l.settle ⟨[frame], session, value⟩).1 = (l.send frame).1.map fun _ => value := by
  rw [settle, sendAll]
  split <;> rename_i hsend <;> split at hsend <;> rename_i hframe
  · rw [hframe]
    rfl
  · cases hsend
  · cases hsend
  · cases hsend
    rw [hframe]
    rfl

/-- A handshake either fails and leaves the session, or marks it. -/
theorem handshake_cases (l : Link τ) :
    (∃ e, l.handshake.1 = .error e ∧ l.handshake.2.session = l.session) ∨
      ∃ payload, l.session.initialized = false ∧ l.handshake.1 = .ok payload ∧
        l.handshake.2.session = { l.session with initialized := true } := by
  rw [handshake]
  split
  · exact Or.inl ⟨_, rfl, rfl⟩
  · rename_i hinit
    rcases l.converse_cases Session.handshake with herror | ⟨_, reply, -, hdecode, hvalue, hsession⟩
    · exact Or.inl herror
    · refine Or.inr ⟨reply.value, by simpa using hinit, hvalue, ?_⟩
      rw [hsession, (Session.handshake_reply hdecode).1]

/-- A read either fails and leaves the session, or gives a message that the session has heeded. -/
theorem read_cases (l : Link τ) :
    (∃ e, l.read.1 = .error e ∧ l.read.2.session = l.session) ∨
      ∃ reply, l.session.initialized = true ∧ l.session.Read reply ∧ l.read.1 = .ok reply.value ∧
        l.read.2.session = reply.session := by
  rw [read]
  split
  · rename_i hinit
    rcases l.converse_cases Session.message with herror | ⟨_, reply, -, hdecode, hvalue, hsession⟩
    · exact Or.inl herror
    · exact Or.inr ⟨reply, hinit, Session.read_message hdecode, hvalue, hsession⟩
  · exact Or.inl ⟨_, rfl, rfl⟩

/-! ### Writing -/

@[simp] theorem writeData_session (l : Link τ) (id : String) (data : Raw)
    (extensions : Option Raw) : (l.writeData id data extensions).2.session = l.session := by
  rw [writeData]
  split
  · rfl
  · exact send_session l _

@[simp] theorem writeErrors_session (l : Link τ) (id : String) (errors : Raw)
    (extensions : Option Raw) : (l.writeErrors id errors extensions).2.session = l.session := by
  rw [writeErrors]
  split
  · rfl
  · split <;> rename_i hsend <;> exact congrArg (·.2.session) hsend.symm

theorem done_session (l : Link τ) (id : String) :
    (l.done id).2.session = if id ∈ l.session.opened then l.session.release id else l.session := by
  rw [done]
  split <;> rename_i hopen
  · rw [if_pos (Session.isOpen_iff.mp hopen)]
    rfl
  · rw [if_neg fun hmem => hopen (Session.isOpen_iff.mpr hmem)]

end StreamGateway.Link
