import StreamGateway.Protocol.Session

/-! # What a session does to its operations

Which operations are open after each of the things that can happen to a session, and in which order
they are kept. A message that was read opens the operation it subscribes to, closes the one it
completes and leaves all others alone, in all three conversations, and the frames that answer it are
about no operation (`read_message`). A frame about an operation is only ever made for one that is
open (`dataFrame_ok`, `errorsFrame_ok`). -/
namespace StreamGateway

open Json (Raw)

/-! ## Tables -/

section

variable {β : Type}

theorem lookup_cons (key : String) (value : β) (xs : List (String × β)) (x : String) :
    ((key, value) :: xs).lookup x = if x = key then some value else xs.lookup x := by
  by_cases hx : x = key
  · simp [hx]
  · rw [List.lookup_cons, beq_eq_false_iff_ne.mpr hx, if_neg hx]

theorem lookup_filter_ne (xs : List (String × β)) (key x : String) :
    (xs.filter (·.1 ≠ key)).lookup x = if x = key then none else xs.lookup x := by
  induction xs with
  | nil => simp
  | cons y ys ih =>
    obtain ⟨other, value⟩ := y
    by_cases hother : other = key
    · subst hother
      rw [List.filter_cons_of_neg (by simp), ih, lookup_cons]
      by_cases hx : x = other <;> simp [hx]
    · rw [List.filter_cons_of_pos (by simpa using hother), lookup_cons, lookup_cons, ih]
      by_cases hx : x = other
      · subst hx
        simp [hother]
      · simp [hx]

end

/-! ## Frames -/

/-- What a frame tells the client. -/
inductive Notice where
  /-- The answer to a handshake, a message or a ping; it is about no operation. -/
  | answer
  | data (id : String)
  | errors (id : String)
  | completion (id : String)
deriving DecidableEq

/-- The operation that a frame is about. -/
def Notice.id? : Notice → Option String
  | .answer => none
  | .data id | .errors id | .completion id => some id

/-- How the conversations write what they tell. -/
def Notice.Writes (p : Subprotocol) (frame : String) : Notice → Prop
  | .answer =>
    match p with
    | .transport =>
      frame = ObjectFrame.render { type := "connection_ack" } ∨
        ∃ payload, frame = ObjectFrame.render { type := "pong", payload }
    | .legacy =>
      frame = ObjectFrame.render { type := "connection_ack" } ∨
        frame = ObjectFrame.render { type := "ka" }
    | .absinthe =>
      ∃ joinRef ref topic response, frame = Session.channelReply joinRef ref topic "ok" response
  | .data id =>
    match p with
    | .transport => ∃ payload, frame = ObjectFrame.render { id, type := "next", payload }
    | .legacy => ∃ payload, frame = ObjectFrame.render { id, type := "data", payload }
    | .absinthe =>
      ∃ result : Raw, frame = ChannelFrame.render
        { topic := id, event := "subscription:data"
          payload := Payload.objectOf
            [("result", result.text), ("subscriptionId", Json.render (.str id))] }
  | .errors id =>
    match p with
    | .transport => ∃ payload, frame = ObjectFrame.render { id, type := "error", payload }
    | .legacy =>
      ∃ errors extensions, frame = ObjectFrame.render
        { id, type := "data", payload := some (Payload.ofErrors errors extensions) }
    | .absinthe =>
      ∃ joinRef ref topic response, frame = Session.channelReply joinRef ref topic "error" response
  | .completion id =>
    match p with
    | .transport | .legacy => frame = ObjectFrame.render { id, type := "complete" }
    | .absinthe =>
      frame = ChannelFrame.render
        { topic := id, event := "phx_close", payload := Payload.objectOf [] }

/-! ## Ids in order -/

namespace Ids

theorem mem_insert {id x : String} {xs : Ids} : x ∈ insert id xs ↔ x = id ∨ x ∈ xs := by
  induction xs with
  | nil => simp [insert]
  | cons y ys ih =>
    rw [insert]
    split
    · exact List.mem_cons
    · split
      · rename_i heq
        subst heq
        simp
      · rw [List.mem_cons, ih, List.mem_cons]
        exact or_left_comm

theorem pairwise_insert {id : String} {xs : Ids} (h : xs.Pairwise (· < ·)) :
    (insert id xs).Pairwise (· < ·) := by
  induction xs with
  | nil => exact List.pairwise_singleton _ _
  | cons y ys ih =>
    obtain ⟨hy, hys⟩ := List.pairwise_cons.mp h
    rw [insert]
    split
    · rename_i hlt
      refine List.pairwise_cons.mpr ⟨fun z hz => ?_, h⟩
      rcases List.mem_cons.mp hz with rfl | hz
      · exact hlt
      · exact String.lt_trans hlt (hy z hz)
    · rename_i hnlt
      split
      · exact h
      · rename_i hne
        -- neither smaller nor equal: the order is total
        have hgt : y < id :=
          String.not_le.mp fun hle => hne (String.le_antisymm hle (String.not_lt.mp hnlt))
        refine List.pairwise_cons.mpr ⟨fun z hz => ?_, ih hys⟩
        rcases mem_insert.mp hz with rfl | hz
        · exact hgt
        · exact hy z hz

end Ids

namespace Session

/-! ## Opening and closing -/

/-- The open operations are in increasing order. -/
def InOrder (s : Session) : Prop := s.opened.Pairwise (· < ·)

/-- After `t` the operation is open, unless it has no id, and all others are as in `s`. -/
def Opens (s : Session) (id : String) (t : Session) : Prop :=
  ∀ x, x ∈ t.opened ↔ (x = id ∧ id ≠ "") ∨ x ∈ s.opened

/-- After `t` the operation is not open, and all others are as in `s`. -/
def Closes (s : Session) (id : String) (t : Session) : Prop :=
  ∀ x, x ∈ t.opened ↔ x ∈ s.opened ∧ x ≠ id

@[simp] theorem isOpen_iff {s : Session} {id : String} : s.isOpen id = true ↔ id ∈ s.opened :=
  List.contains_iff_mem

theorem withOpen_opens (s : Session) (id : String) : s.Opens id (s.withOpen id) := by
  intro x
  rw [withOpen]
  split
  · rename_i hempty
    simp [hempty]
  · rename_i hne
    rw [Ids.mem_insert]
    simp [hne]

theorem openFrom_opens (s : Session) (id : String) (origin : Origin) :
    s.Opens id (s.openFrom id origin) := by
  intro x
  rw [openFrom]
  split
  · rename_i hopen
    refine ⟨Or.inr, ?_⟩
    rintro (⟨rfl, -⟩ | hx)
    · exact isOpen_iff.mp hopen
    · exact hx
  · exact withOpen_opens s id x

theorem release_of_notMem {s : Session} {id : String} (h : id ∉ s.opened) : s.release id = s :=
  if_neg (by simpa using h)

theorem opened_release (s : Session) (id : String) :
    (s.release id).opened = s.opened.filter (· ≠ id) := by
  by_cases hopen : id ∈ s.opened
  · rw [release, if_pos (isOpen_iff.mpr hopen)]
  · rw [release_of_notMem hopen]
    refine (List.filter_eq_self.mpr fun x hx => ?_).symm
    exact decide_eq_true fun heq => hopen (heq ▸ hx)

theorem origins_release {s : Session} {id : String} (h : id ∈ s.opened) :
    (s.release id).origins = s.origins.filter (·.1 ≠ id) := by
  rw [release, if_pos (isOpen_iff.mpr h)]

theorem release_closes (s : Session) (id : String) : s.Closes id (s.release id) := by
  intro x
  simp [opened_release]

theorem InOrder.withOpen {s : Session} (h : s.InOrder) (id : String) : (s.withOpen id).InOrder := by
  rw [Session.withOpen]
  split
  · exact h
  · exact Ids.pairwise_insert h

theorem InOrder.openFrom {s : Session} (h : s.InOrder) (id : String) (origin : Origin) :
    (s.openFrom id origin).InOrder := by
  rw [Session.openFrom]
  split
  · exact h
  · exact InOrder.withOpen h id

theorem InOrder.release {s : Session} (h : s.InOrder) (id : String) : (s.release id).InOrder := by
  rw [InOrder, opened_release]
  exact List.Pairwise.filter _ h

@[simp] theorem withOpen_initialized (s : Session) (id : String) :
    (s.withOpen id).initialized = s.initialized := by
  rw [withOpen]; split <;> rfl

@[simp] theorem withOpen_subprotocol (s : Session) (id : String) :
    (s.withOpen id).subprotocol = s.subprotocol := by
  rw [withOpen]; split <;> rfl

@[simp] theorem openFrom_initialized (s : Session) (id : String) (origin : Origin) :
    (s.openFrom id origin).initialized = s.initialized := by
  rw [openFrom]; split <;> simp

@[simp] theorem openFrom_subprotocol (s : Session) (id : String) (origin : Origin) :
    (s.openFrom id origin).subprotocol = s.subprotocol := by
  rw [openFrom]; split <;> simp

@[simp] theorem release_initialized (s : Session) (id : String) :
    (s.release id).initialized = s.initialized := by
  rw [release]; split <;> rfl

@[simp] theorem release_subprotocol (s : Session) (id : String) :
    (s.release id).subprotocol = s.subprotocol := by
  rw [release]; split <;> rfl

/-! ## Reading -/

/-- What a message asks of the operations is what happened between two sessions. -/
def Heeds (s : Session) (m : Message) (t : Session) : Prop :=
  match m.kind with
  | .subscribe => s.Opens m.id t
  | .complete => s.Closes m.id t
  | .ping | .pong | .terminate => t = s

/-- What a text that was read leaves of a session: its conversation, its order and whether its
operations are about the message. -/
structure Read (s : Session) (reply : Reply Message) : Prop where
  subprotocol : reply.session.subprotocol = s.subprotocol
  initialized : reply.session.initialized = s.initialized
  inOrder : s.InOrder → reply.session.InOrder
  heeds : s.Heeds reply.value reply.session
  answers : ∀ frame ∈ reply.frames, Notice.answer.Writes s.subprotocol frame

theorem read_objectMessage {s : Session} {text : String} {reply : Reply Message}
    (h : s.objectMessage text = .ok reply) : s.Read reply := by
  rw [objectMessage] at h
  split at h
  · cases h
  · rename_i f _
    split at h
    · cases h
    · rename_i kind _
      cases h
      cases kind with
      | subscribe =>
        exact ⟨by simp, by simp, fun hs => hs.withOpen f.id, withOpen_opens s f.id, by simp⟩
      | complete =>
        exact ⟨by simp, by simp, fun hs => hs.release f.id, release_closes s f.id, by simp⟩
      | ping | pong | terminate => exact ⟨rfl, rfl, id, rfl, by simp⟩

theorem read_channelMessage {s : Session} {text : String} {reply : Reply Message}
    (hp : s.subprotocol = .absinthe) (h : s.channelMessage text = .ok reply) : s.Read reply := by
  rw [channelMessage] at h
  split at h
  · cases h
  · dsimp only at h
    split at h
    · cases h
      exact ⟨rfl, rfl, id, rfl, by simp⟩
    · cases h
      refine ⟨by simp, by simp, fun hs => hs.openFrom _ _, openFrom_opens s _ _, ?_⟩
      intro frame hframe
      rw [List.mem_singleton.mp hframe, hp]
      exact ⟨_, _, _, _, rfl⟩
    · cases h
      exact ⟨by simp, by simp, fun hs => hs.release _, release_closes s _, by simp⟩
    · cases h

theorem read_message {s : Session} {text : String} {reply : Reply Message}
    (h : s.message text = .ok reply) : s.Read reply := by
  rw [message] at h
  split at h
  · exact read_objectMessage h
  · exact read_objectMessage h
  · exact read_channelMessage ‹_› h

theorem objectHandshake_reply {s : Session} {text : String} {reply : Reply (Option Raw)}
    (hp : s.subprotocol ≠ .absinthe) (h : s.objectHandshake text = .ok reply) :
    reply.session = { s with initialized := true } ∧
      ∀ frame ∈ reply.frames, Notice.answer.Writes s.subprotocol frame := by
  rw [objectHandshake] at h
  split at h
  · cases h
  · split at h
    · cases h
    · cases h
      refine ⟨rfl, fun frame hframe => ?_⟩
      cases hs : s.subprotocol with
      | transport => exact Or.inl (by simpa [hs] using hframe)
      | legacy => simpa [hs, Notice.Writes] using hframe
      | absinthe => exact absurd hs hp

theorem channelHandshake_reply {s : Session} {text : String} {reply : Reply (Option Raw)}
    (hp : s.subprotocol = .absinthe) (h : s.channelHandshake text = .ok reply) :
    reply.session = { s with initialized := true } ∧
      ∀ frame ∈ reply.frames, Notice.answer.Writes s.subprotocol frame := by
  rw [channelHandshake] at h
  split at h
  · cases h
  · split at h
    · cases h
    · cases h
      refine ⟨rfl, fun frame hframe => ?_⟩
      rw [List.mem_singleton.mp hframe, hp]
      exact ⟨_, _, _, _, rfl⟩

/-- A handshake that succeeds changes nothing but that it has succeeded, and its frames answer
it. -/
theorem handshake_reply {s : Session} {text : String} {reply : Reply (Option Raw)}
    (h : s.handshake text = .ok reply) :
    reply.session = { s with initialized := true } ∧
      ∀ frame ∈ reply.frames, Notice.answer.Writes s.subprotocol frame := by
  rw [handshake] at h
  split at h
  · exact objectHandshake_reply (by simp [*]) h
  · exact objectHandshake_reply (by simp [*]) h
  · exact channelHandshake_reply ‹_› h

/-! ## Writing -/

theorem pong_writes (s : Session) (ping : Message) :
    Notice.answer.Writes s.subprotocol (s.pong ping) := by
  rw [pong]
  split <;> rename_i hp <;> rw [hp]
  · exact Or.inr ⟨_, rfl⟩
  · exact Or.inr rfl
  · exact ⟨_, _, _, _, rfl⟩

theorem dataFrame_ok {s : Session} {id frame : String} {data : Raw} {extensions : Option Raw}
    (h : s.dataFrame id data extensions = .ok frame) :
    id ∈ s.opened ∧ (Notice.data id).Writes s.subprotocol frame := by
  rw [dataFrame] at h
  split at h
  · cases h
  · rename_i hopen
    refine ⟨isOpen_iff.mp (by simpa using hopen), ?_⟩
    split at h
    · cases h
    · split at h <;> rename_i hp <;> cases h <;> rw [hp] <;> exact ⟨_, rfl⟩

theorem errorsFrame_ok {s : Session} {id frame : String} {errors : Raw} {extensions : Option Raw}
    (h : s.errorsFrame id errors extensions = .ok frame) :
    id ∈ s.opened ∧ (Notice.errors id).Writes s.subprotocol frame := by
  rw [errorsFrame] at h
  split at h
  · cases h
  · rename_i hopen
    refine ⟨isOpen_iff.mp (by simpa using hopen), ?_⟩
    split at h
    · rename_i hp
      cases h
      rw [hp]
      exact ⟨_, rfl⟩
    · rename_i hp
      cases h
      rw [hp]
      exact ⟨_, _, rfl⟩
    · rename_i hp
      split at h
      · cases h
      · cases hresponse : errorsResponse errors extensions with
        | error f =>
          rw [hresponse] at h
          cases h
        | ok response =>
          rw [hresponse] at h
          cases h
          rw [hp]
          exact ⟨_, _, _, _, rfl⟩

theorem doneFrame_writes (s : Session) (id : String) :
    (Notice.completion id).Writes s.subprotocol (s.doneFrame id) := by
  rw [doneFrame]
  split <;> rename_i hp <;> rw [hp] <;> rfl

end Session
end StreamGateway
