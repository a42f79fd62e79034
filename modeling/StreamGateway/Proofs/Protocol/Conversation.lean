import StreamGateway.Proofs.Protocol.Link
import StreamGateway.Proofs.Text.ByteOrder
import StreamGateway.Simulation.Conversation

/-! # What is open in a conversation, and what is told about it

A conversation over a scripted connection leaves a trace: the handshake that succeeded, the
subscriptions and completions that were read, the operations that were ended, and the frames that
went out, each with what it tells. The open operations can be read off the trace alone
(`Law.mem_opened`), and a frame about an operation never goes out when the trace says that it is not
open (`Law.told`). Every step of a conversation is one of five turns (`turn_step`), and each turn
keeps the law (`Law.turn`), so the law holds of every run. -/
namespace StreamGateway

open Json (Raw)

/-! ## What goes out -/

namespace ScriptedTransport

theorem receive_sent (t : ScriptedTransport) : t.receive.2.sent = t.sent := by
  rw [receive]
  split
  · rfl
  · split
    · rfl
    · split <;> rfl

theorem deliver_sent (t : ScriptedTransport) (text : String) :
    (t.deliver text).2.sent = t.sent ∨ (t.deliver text).2.sent = text :: t.sent := by
  rw [deliver]
  split
  · exact Or.inl rfl
  · exact Or.inr rfl

theorem send_sent (t : ScriptedTransport) (text : String) :
    (t.send text).2.sent = t.sent ∨ (t.send text).2.sent = text :: t.sent := by
  rw [send]
  split
  · exact deliver_sent t text
  · exact Or.inl rfl
  · exact deliver_sent _ text

end ScriptedTransport

namespace Link

/-- What went out from one state of a link to another, in order. -/
def Sends (l : Link ScriptedTransport) (out : List String) (l' : Link ScriptedTransport) : Prop :=
  l'.transport.sent = out.reverse ++ l.transport.sent

/-- The frames that a link has sent beyond those of an earlier state, in order. -/
def sentSince (l l' : Link ScriptedTransport) : List String :=
  (l'.transport.sent.take (l'.transport.sent.length - l.transport.sent.length)).reverse

theorem sentSince_eq {l l' : Link ScriptedTransport} {out : List String} (h : l.Sends out l') :
    l.sentSince l' = out := by
  rw [sentSince, h]
  simp

theorem sends_nil {l l' : Link ScriptedTransport} (h : l'.transport.sent = l.transport.sent) :
    l.Sends [] l' := h

theorem Sends.trans {l m n : Link ScriptedTransport} {xs ys : List String} (h : l.Sends xs m)
    (h' : m.Sends ys n) : l.Sends (xs ++ ys) n := by
  rw [Sends, h', h, List.reverse_append, List.append_assoc]

theorem sends_receive (l : Link ScriptedTransport) : l.Sends [] l.receive.2 :=
  ScriptedTransport.receive_sent l.transport

theorem sends_send (l : Link ScriptedTransport) (frame : String) :
    l.Sends [] (l.send frame).2 ∨ l.Sends [frame] (l.send frame).2 :=
  ScriptedTransport.send_sent l.transport frame

theorem sends_sendAll (l : Link ScriptedTransport) (frames : List String) :
    ∃ out, l.Sends out (l.sendAll frames).2 ∧ ∀ frame ∈ out, frame ∈ frames := by
  induction frames generalizing l with
  | nil => exact ⟨[], sends_nil rfl, by simp⟩
  | cons frame frames ih =>
    have hout : ∃ out, l.Sends out (l.send frame).2 ∧ ∀ f ∈ out, f = frame := by
      rcases l.sends_send frame with h | h
      · exact ⟨[], h, by simp⟩
      · exact ⟨[frame], h, by simp⟩
    obtain ⟨out, hsends, hframe⟩ := hout
    rw [sendAll]
    split <;> rename_i hsend
    · rename_i l'
      rw [hsend] at hsends
      obtain ⟨rest, hrest, hframes⟩ := ih l'
      refine ⟨out ++ rest, hsends.trans hrest, fun f hf => ?_⟩
      rcases List.mem_append.mp hf with hf | hf
      · exact List.mem_cons.mpr (Or.inl (hframe f hf))
      · exact List.mem_cons_of_mem _ (hframes f hf)
    · rw [hsend] at hsends
      exact ⟨out, hsends, fun f hf => List.mem_cons.mpr (Or.inl (hframe f hf))⟩

/-- Whatever goes out when a text is read is part of what answers it. -/
theorem sends_converse {α : Type} (l : Link ScriptedTransport)
    (decode : Session → String → Except ProtocolError (Session.Reply α)) :
    ∃ out, l.Sends out (l.converse decode).2 ∧
      ∀ frame ∈ out, ∃ text reply, decode l.session text = .ok reply ∧ frame ∈ reply.frames := by
  rw [converse]
  have hnone := l.sends_receive
  split <;> rename_i hreceive <;> rw [hreceive] at hnone
  · exact ⟨[], hnone, by simp⟩
  · rename_i text l'
    have hsession : l'.session = l.session := congrArg (·.2.session) hreceive.symm
    split <;> rename_i hdecode
    · exact ⟨[], hnone, by simp⟩
    · rename_i reply
      obtain ⟨out, hout, hframes⟩ := l'.sends_sendAll reply.frames
      refine ⟨out, ?_, fun f hf => ⟨text, reply, hsession ▸ hdecode, hframes f hf⟩⟩
      rw [settle]
      split <;> rename_i hsend <;> rw [hsend] at hout <;> exact hnone.trans hout

theorem sends_handshake (l : Link ScriptedTransport) :
    ∃ out, l.Sends out l.handshake.2 ∧
      ∀ frame ∈ out, Notice.answer.Writes l.session.subprotocol frame := by
  rw [handshake]
  split
  · exact ⟨[], sends_nil rfl, by simp⟩
  · obtain ⟨out, hout, hframes⟩ := l.sends_converse Session.handshake
    refine ⟨out, hout, fun frame hframe => ?_⟩
    obtain ⟨text, reply, hdecode, hmem⟩ := hframes frame hframe
    exact (Session.handshake_reply hdecode).2 frame hmem

theorem sends_read (l : Link ScriptedTransport) :
    ∃ out, l.Sends out l.read.2 ∧
      ∀ frame ∈ out, Notice.answer.Writes l.session.subprotocol frame := by
  rw [read]
  split
  · obtain ⟨out, hout, hframes⟩ := l.sends_converse Session.message
    refine ⟨out, hout, fun frame hframe => ?_⟩
    obtain ⟨text, reply, hdecode, hmem⟩ := hframes frame hframe
    exact (Session.read_message hdecode).answers frame hmem
  · exact ⟨[], sends_nil rfl, by simp⟩

end Link

/-! ## The trace of a conversation -/

/-- What happens in a conversation. -/
inductive Happening where
  /-- The handshake has succeeded. -/
  | accepted
  /-- A subscription was read. -/
  | subscribed (id : String)
  /-- A completion was read. -/
  | completed (id : String)
  /-- The server has ended an operation that was open. -/
  | ended (id : String)
  /-- A frame went out. -/
  | sent (notice : Notice) (frame : String)
deriving DecidableEq

namespace Happening

/-- The frame that went out. -/
def frame? : Happening → Option String
  | .sent _ frame => some frame
  | _ => none

/-- What it means that a message was read. -/
def ofMessage (m : Message) : List Happening :=
  match m.kind with
  | .subscribe => [.subscribed m.id]
  | .complete => [.completed m.id]
  | .ping | .pong | .terminate => []

end Happening

/-- The last thing that happened to the operation is its subscription, and it has an id. -/
def OpenAfter (id : String) (trace : List Happening) : Prop :=
  id ≠ "" ∧ ∃ before since, trace = before ++ .subscribed id :: since ∧
    .completed id ∉ since ∧ .ended id ∉ since

/-- Where an element of two lists one after the other stands. -/
theorem append_eq_append_cons {α : Type} {xs ys before after : List α} {x : α}
    (h : xs ++ ys = before ++ x :: after) :
    (∃ rest, xs = before ++ x :: rest ∧ after = rest ++ ys) ∨
      ∃ between, before = xs ++ between ∧ ys = between ++ x :: after := by
  rcases List.append_eq_append_iff.mp h with ⟨between, hbefore, hys⟩ | ⟨rest, hxs, hafter⟩
  · exact Or.inr ⟨between, hbefore, hys⟩
  · cases rest with
    | nil => exact Or.inr ⟨[], by simpa using hxs.symm, by simpa using hafter.symm⟩
    | cons y rest =>
      obtain ⟨rfl, rfl⟩ := List.cons.inj hafter
      exact Or.inl ⟨rest, hxs, rfl⟩

namespace OpenAfter

theorem concat_iff {id : String} {trace : List Happening} {h : Happening} :
    OpenAfter id (trace ++ [h]) ↔
      (h = .subscribed id ∧ id ≠ "") ∨
        (OpenAfter id trace ∧ h ≠ .completed id ∧ h ≠ .ended id) := by
  constructor
  · rintro ⟨hid, before, since, htrace, hcompleted, hended⟩
    rcases append_eq_append_cons htrace with ⟨rest, hold, rfl⟩ | ⟨between, -, hnew⟩
    · refine Or.inr ⟨⟨hid, before, rest, hold, ?_, ?_⟩, ?_, ?_⟩
      · exact fun hmem => hcompleted (List.mem_append_left _ hmem)
      · exact fun hmem => hended (List.mem_append_left _ hmem)
      · rintro rfl
        exact hcompleted (by simp)
      · rintro rfl
        exact hended (by simp)
    · have hmem : Happening.subscribed id ∈ [h] := hnew ▸ by simp
      exact Or.inl ⟨(List.mem_singleton.mp hmem).symm, hid⟩
  · rintro (⟨rfl, hid⟩ | ⟨⟨hid, before, since, rfl, hcompleted, hended⟩, hnc, hne⟩)
    · exact ⟨hid, trace, [], rfl, by simp, by simp⟩
    · refine ⟨hid, before, since ++ [h], by simp, ?_, ?_⟩
      · simpa [hcompleted] using hnc.symm
      · simpa [hended] using hne.symm

/-- Frames that go out open and close nothing. -/
theorem append_frames_iff {id : String} {trace : List Happening} {notice : Notice}
    {out : List String} : OpenAfter id (trace ++ out.map (.sent notice)) ↔ OpenAfter id trace := by
  induction out generalizing trace with
  | nil => simp
  | cons frame out ih =>
    rw [List.map_cons, List.append_cons, ih, concat_iff]
    simp

/-- An operation that was closed can only be open again after another subscription. -/
theorem subscribed_since {id : String} {xs ys : List Happening} {h : Happening}
    (hopen : OpenAfter id (xs ++ h :: ys)) (hclose : h = .completed id ∨ h = .ended id) :
    .subscribed id ∈ ys := by
  obtain ⟨-, before, since, htrace, hcompleted, hended⟩ := hopen
  rcases append_eq_append_cons htrace with ⟨rest, -, rfl⟩ | ⟨between, -, hys⟩
  · rcases hclose with rfl | rfl
    · exact absurd (by simp) hcompleted
    · exact absurd (by simp) hended
  · cases between with
    | nil =>
      obtain ⟨rfl, -⟩ := List.cons.inj hys
      rcases hclose with hclose | hclose <;> cases hclose
    | cons b between =>
      obtain ⟨-, rfl⟩ := List.cons.inj hys
      simp

end OpenAfter

namespace Conversation

/-- What happens in a step. Its frames come first; when the server ends an operation, the frame that
says so goes out for an operation that is still open. -/
def happenings (c : Conversation) (s : Step) : List Happening :=
  let (outcome, c') := c.step s
  let frames (notice : Notice) := (c.link.sentSince c'.link).map (.sent notice)
  match s, outcome with
  | .handshake, .payload _ => frames .answer ++ [.accepted]
  | .read, .message m => frames .answer ++ Happening.ofMessage m
  | .data id _ _, _ => frames (.data id)
  | .errors id _ _, _ => frames (.errors id)
  | .done id, _ =>
    frames (.completion id) ++ if c.link.session.isOpen id then [.ended id] else []
  | _, _ => frames .answer

/-- The conversation after some steps. -/
def run (c : Conversation) : List Step → Conversation
  | [] => c
  | s :: steps => run (c.step s).2 steps

/-- What happens in some steps. -/
def trace (c : Conversation) : List Step → List Happening
  | [] => []
  | s :: steps => c.happenings s ++ trace (c.step s).2 steps


/-! ## The turns of a conversation -/

/-- What a session has heard, if anything. -/
inductive News (s : Session) : List Happening → Session → Prop where
  | nothing : News s [] s
  | handshake (hinit : s.initialized = false) : News s [.accepted] { s with initialized := true }
  | message (reply : Session.Reply Message) (hinit : s.initialized = true) (hread : s.Read reply) :
      News s (Happening.ofMessage reply.value) reply.session

/-- What a step can do, with what happens in it: hear something and answer, tell about an open
operation, or end one. -/
inductive Turn (c c' : Conversation) : List Happening → Prop where
  | hears (out : List String) (news : List Happening) (hout : c.link.Sends out c'.link)
      (hwrites : ∀ frame ∈ out, Notice.answer.Writes c.link.session.subprotocol frame)
      (hnews : News c.link.session news c'.link.session) :
      Turn c c' (out.map (.sent .answer) ++ news)
  | tells (id : String) (notice : Notice) (frame : String) (hout : c.link.Sends [frame] c'.link)
      (hnotice : notice = .data id ∨ notice = .errors id) (hopen : id ∈ c.link.session.opened)
      (hwrites : notice.Writes c.link.session.subprotocol frame)
      (hsession : c'.link.session = c.link.session) : Turn c c' [.sent notice frame]
  | ends (id frame : String) (out : List String) (hout : c.link.Sends out c'.link)
      (hframe : out = [] ∨ out = [frame]) (hopen : id ∈ c.link.session.opened)
      (hwrites : (Notice.completion id).Writes c.link.session.subprotocol frame)
      (hsession : c'.link.session = c.link.session.release id) :
      Turn c c' (out.map (.sent (.completion id)) ++ [.ended id])

/-- An answer goes out, and nothing is heard. -/
theorem Turn.answers {c c' : Conversation} {out : List String} (hout : c.link.Sends out c'.link)
    (hwrites : ∀ frame ∈ out, Notice.answer.Writes c.link.session.subprotocol frame)
    (hsession : c'.link.session = c.link.session) : Turn c c' (out.map (.sent .answer)) := by
  have hturn := Turn.hears out [] hout hwrites (hsession ▸ .nothing)
  rwa [List.append_nil] at hturn

/-- Nothing goes out and nothing happens. -/
theorem Turn.silent {c c' : Conversation} (notice : Notice)
    (hout : c'.link.transport.sent = c.link.transport.sent)
    (hsession : c'.link.session = c.link.session) :
    Turn c c' ((c.link.sentSince c'.link).map (.sent notice)) := by
  rw [Link.sentSince_eq (Link.sends_nil hout)]
  have hsends : c.link.Sends [] c'.link := Link.sends_nil hout
  exact .answers hsends (by simp) hsession

theorem turn_handshake (c : Conversation) :
    Turn c (c.step .handshake).2 (c.happenings .handshake) := by
  obtain ⟨out, hout, hwrites⟩ := c.link.sends_handshake
  rcases c.link.handshake_cases with ⟨e, hresult, hsession⟩ | ⟨payload, hinit, hresult, hsession⟩
  · simp only [happenings, step, hresult, Link.sentSince_eq hout]
    exact .answers hout hwrites hsession
  · simp only [happenings, step, hresult, Link.sentSince_eq hout]
    exact .hears out _ hout hwrites (hsession ▸ .handshake hinit)

theorem turn_read (c : Conversation) : Turn c (c.step .read).2 (c.happenings .read) := by
  obtain ⟨out, hout, hwrites⟩ := c.link.sends_read
  rcases c.link.read_cases with ⟨e, hresult, hsession⟩ | ⟨reply, hinit, hread, hresult, hsession⟩
  · simp only [happenings, step, hresult, Link.sentSince_eq hout]
    exact .answers hout hwrites hsession
  · simp only [happenings, step, hresult, Link.sentSince_eq hout]
    exact .hears out _ hout hwrites (hsession ▸ .message reply hinit hread)

/-- A single frame that goes out, or does not, and tells nothing about an operation. -/
theorem turn_pong (c : Conversation) (ping : Message) :
    Turn c { c with link := (c.link.pong ping).2 }
      ((c.link.sentSince (c.link.pong ping).2).map (.sent .answer)) := by
  have hwrites := c.link.session.pong_writes ping
  rcases c.link.sends_send (c.link.session.pong ping) with hout | hout
  · exact .silent _ hout rfl
  · rw [Link.pong, Link.sentSince_eq hout]
    exact .answers hout (by simpa using hwrites) rfl

theorem turn_data (c : Conversation) (id : String) (data : Raw) (extensions : Option Raw) :
    Turn c { c with link := (c.link.writeData id data extensions).2 }
      ((c.link.sentSince (c.link.writeData id data extensions).2).map (.sent (.data id))) := by
  rw [Link.writeData]
  split <;> rename_i hframe
  · exact .silent _ rfl rfl
  · obtain ⟨hopen, hwrites⟩ := Session.dataFrame_ok hframe
    rcases c.link.sends_send _ with hout | hout
    · exact .silent _ hout rfl
    · rw [Link.sentSince_eq hout]
      exact .tells id _ _ hout (Or.inl rfl) hopen hwrites rfl

theorem turn_errors (c : Conversation) (id : String) (errors : Raw) (extensions : Option Raw) :
    Turn c { c with link := (c.link.writeErrors id errors extensions).2 }
      ((c.link.sentSince (c.link.writeErrors id errors extensions).2).map
        (.sent (.errors id))) := by
  rw [Link.writeErrors]
  split <;> rename_i hframe
  · exact .silent _ rfl rfl
  · rename_i frame
    obtain ⟨hopen, hwrites⟩ := Session.errorsFrame_ok hframe
    have hturn : Turn c { c with link := (c.link.send frame).2 }
        ((c.link.sentSince (c.link.send frame).2).map (.sent (.errors id))) := by
      rcases c.link.sends_send frame with hout | hout
      · exact .silent _ hout rfl
      · rw [Link.sentSince_eq hout]
        exact .tells id _ _ hout (Or.inr rfl) hopen hwrites rfl
    split <;> rename_i hsend <;> rw [hsend] at hturn <;> exact hturn

theorem turn_done (c : Conversation) (id : String) :
    Turn c (c.step (.done id)).2 (c.happenings (.done id)) := by
  simp only [happenings, step, after, Link.done]
  split <;> rename_i hopen
  · have hopen := Session.isOpen_iff.mp hopen
    let l : Link ScriptedTransport := ⟨c.link.session.release id, c.link.transport⟩
    have hsends : c.link.Sends [] (l.send (c.link.session.doneFrame id)).2 ∨
        c.link.Sends [c.link.session.doneFrame id] (l.send (c.link.session.doneFrame id)).2 :=
      l.sends_send _
    rcases hsends with hout | hout
    · rw [Link.sentSince_eq hout]
      exact .ends id _ [] hout (Or.inl rfl) hopen (c.link.session.doneFrame_writes id) rfl
    · rw [Link.sentSince_eq hout]
      exact .ends id _ [_] hout (Or.inr rfl) hopen (c.link.session.doneFrame_writes id) rfl
  · rw [List.append_nil]
    exact .silent _ rfl rfl

theorem turn_step (c : Conversation) (s : Step) : Turn c (c.step s).2 (c.happenings s) := by
  cases s with
  | push text | failRead f | failWrite n f | close code reason =>
    simp only [happenings, step, script, after]
    exact .silent _ rfl rfl
  | handshake => exact turn_handshake c
  | read => exact turn_read c
  | pong ping => exact turn_pong c ping
  | pongLast =>
    simp only [happenings, step]
    split
    · exact .silent _ rfl rfl
    · exact turn_pong c _
  | data id data extensions => exact turn_data c id data extensions
  | errors id errors extensions =>
    have := turn_errors c id errors extensions
    simp only [happenings, step]
    split <;> rename_i hwrite <;> rw [hwrite] at this <;> exact this
  | done id => exact turn_done c id

theorem News.frame?_eq_none {s t : Session} {news : List Happening} (h : News s news t) :
    ∀ x ∈ news, x.frame? = none := by
  cases h with
  | nothing => simp
  | handshake => simp [Happening.frame?]
  | message reply =>
    rw [Happening.ofMessage]
    split <;> simp [Happening.frame?]

theorem News.inOrder {s t : Session} {news : List Happening} (h : News s news t) (hs : s.InOrder) :
    t.InOrder := by
  cases h with
  | nothing => exact hs
  | handshake => exact hs
  | message reply hinit hread => exact hread.inOrder hs

theorem News.subprotocol {s t : Session} {news : List Happening} (h : News s news t) :
    t.subprotocol = s.subprotocol := by
  cases h with
  | nothing | handshake => rfl
  | message reply hinit hread => exact hread.subprotocol

theorem News.initialized {s t : Session} {news : List Happening} (h : News s news t) :
    t.initialized = true ↔ s.initialized = true ∨ .accepted ∈ news := by
  cases h with
  | nothing => simp
  | handshake => simp
  | message reply hinit hread => simp [hread.initialized, hinit]

/-- Before the handshake nothing is heard. -/
theorem News.eq_of_uninitialized {s t : Session} {news : List Happening} (h : News s news t)
    (hinit : t.initialized = false) : t = s := by
  cases h with
  | nothing => rfl
  | handshake => cases hinit
  | message reply htrue hread =>
    rw [hread.initialized, htrue] at hinit
    cases hinit

namespace Turn

variable {c c' : Conversation} {new : List Happening}

theorem subprotocol (ht : Turn c c' new) :
    c'.link.session.subprotocol = c.link.session.subprotocol := by
  cases ht with
  | hears out news hout hwrites hnews => exact hnews.subprotocol
  | tells id notice frame hout hnotice hopen hwrites hsession => rw [hsession]
  | ends id frame out hout hframe hopen hwrites hsession =>
    rw [hsession, Session.release_subprotocol]

theorem inOrder (ht : Turn c c' new) (h : c.link.session.InOrder) : c'.link.session.InOrder := by
  cases ht with
  | hears out news hout hwrites hnews => exact hnews.inOrder h
  | tells id notice frame hout hnotice hopen hwrites hsession => exact hsession ▸ h
  | ends id frame out hout hframe hopen hwrites hsession => exact hsession ▸ h.release id

/-- What goes out in a turn is what its trace says. -/
theorem log (ht : Turn c c' new) : c.link.Sends (new.filterMap Happening.frame?) c'.link := by
  have hframes (notice : Notice) (out : List String) (rest : List Happening)
      (hrest : ∀ x ∈ rest, x.frame? = none) :
      (out.map (Happening.sent notice) ++ rest).filterMap Happening.frame? = out := by
    rw [List.filterMap_append, List.filterMap_map, List.filterMap_eq_nil_iff.mpr hrest,
      List.append_nil]
    exact List.filterMap_some
  cases ht with
  | hears out news hout hwrites hnews =>
    rw [hframes _ _ _ hnews.frame?_eq_none]
    exact hout
  | tells id notice frame hout => exact hout
  | ends id frame out hout =>
    rw [hframes _ _ _ (by simp [Happening.frame?])]
    exact hout

/-- A frame that is about an operation is the first thing that happens in its turn, and the
operation is open then. -/
theorem told (ht : Turn c c' new) {between after : List Happening} {notice : Notice}
    {frame : String} (hnew : new = between ++ .sent notice frame :: after) :
    notice.Writes c.link.session.subprotocol frame ∧
      ∀ id, notice.id? = some id → between = [] ∧ id ∈ c.link.session.opened := by
  have hmem : .sent notice frame ∈ new := hnew ▸ by simp
  cases ht with
  | hears out news hout hwrites hnews =>
    rcases List.mem_append.mp hmem with hmem | hmem
    · obtain ⟨f, hf, ⟨⟩⟩ := List.mem_map.mp hmem
      exact ⟨hwrites _ hf, nofun⟩
    · cases hnews.frame?_eq_none _ hmem
  | tells id n f hout hnotice hopen hwrites =>
    obtain ⟨rfl, rfl⟩ : notice = n ∧ frame = f := by simpa using hmem
    refine ⟨hwrites, fun i hi => ⟨?_, ?_⟩⟩
    · cases between with
      | nil => rfl
      | cons b between => simp at hnew
    · rcases hnotice with rfl | rfl <;> cases hi <;> exact hopen
  | ends id f out hout hframe hopen hwrites =>
    rcases hframe with rfl | rfl
    · simp at hmem
    · obtain ⟨rfl, rfl⟩ : notice = .completion id ∧ frame = f := by simpa using hmem
      refine ⟨hwrites, fun i hi => ⟨?_, ?_⟩⟩
      · cases between with
        | nil => rfl
        | cons b between =>
          -- only one frame goes out, so it cannot stand behind another
          have hrest : [Happening.ended id] = between ++ .sent (.completion id) frame :: after :=
            (List.cons.inj hnew).2
          have : Happening.sent (.completion id) frame ∈ [Happening.ended id] := hrest ▸ by simp
          simp at this
      · cases hi
        exact hopen

/-- An operation whose end was told is ended next. -/
theorem ended (ht : Turn c c' new) {between after : List Happening} {id frame : String}
    (hnew : new = between ++ .sent (.completion id) frame :: after) :
    ∃ rest, after = .ended id :: rest := by
  have hmem : .sent (.completion id) frame ∈ new := hnew ▸ by simp
  cases ht with
  | hears out news hout hwrites hnews =>
    rcases List.mem_append.mp hmem with hmem | hmem
    · obtain ⟨f, -, ⟨⟩⟩ := List.mem_map.mp hmem
    · cases hnews.frame?_eq_none _ hmem
  | tells i n f hout hnotice =>
    rcases hnotice with rfl | rfl <;> simp at hmem
  | ends i f out hout hframe hopen hwrites hsession =>
    obtain ⟨rfl, -⟩ := (told (.ends i f out hout hframe hopen hwrites hsession) hnew).2 id rfl
    rcases hframe with rfl | rfl
    · simp at hmem
    · obtain ⟨hsent, rfl⟩ := List.cons.inj hnew
      cases hsent
      exact ⟨[], rfl⟩

end Turn

/-! ## The law -/

/-- What holds of a conversation and its trace. -/
structure Law (c : Conversation) (trace : List Happening) : Prop where
  inOrder : c.link.session.InOrder
  mem_opened : ∀ id, id ∈ c.link.session.opened ↔ OpenAfter id trace
  initialized : c.link.session.initialized = true ↔ .accepted ∈ trace
  opened_nil : c.link.session.initialized = false → c.link.session.opened = []
  log : trace.filterMap Happening.frame? = c.link.transport.sent.reverse
  told : ∀ before notice frame after, trace = before ++ .sent notice frame :: after →
    notice.Writes c.link.session.subprotocol frame ∧
      ∀ id, notice.id? = some id → OpenAfter id before
  ended : ∀ before id frame after, trace = before ++ .sent (.completion id) frame :: after →
    ∃ rest, after = .ended id :: rest

namespace Law

theorem start (p : Subprotocol) : Law (start p) [] where
  inOrder := List.Pairwise.nil
  mem_opened id := by simp [Conversation.start, Link.fresh, OpenAfter]
  initialized := by simp [Conversation.start, Link.fresh]
  opened_nil _ := rfl
  log := rfl
  told before notice frame after h := by simp at h
  ended before id frame after h := by simp at h

theorem mem_opened_of_news {s t : Session} {news trace : List Happening} (hnews : News s news t)
    (h : ∀ id, id ∈ s.opened ↔ OpenAfter id trace) (id : String) :
    id ∈ t.opened ↔ OpenAfter id (trace ++ news) := by
  cases hnews with
  | nothing => rw [List.append_nil, h]
  | handshake hinit => simp [OpenAfter.concat_iff, h]
  | message reply hinit hread =>
    have hheeds := hread.heeds
    rw [Session.Heeds] at hheeds
    rw [Happening.ofMessage]
    cases hkind : reply.value.kind with
    | subscribe =>
      simp only [hkind] at hheeds ⊢
      rw [hheeds id, OpenAfter.concat_iff, h]
      by_cases hid : id = reply.value.id
      · simp [hid]
      · simp [hid, Ne.symm hid]
    | complete =>
      simp only [hkind] at hheeds ⊢
      rw [hheeds id, OpenAfter.concat_iff, h]
      by_cases hid : id = reply.value.id
      · simp [hid]
      · simp [hid, Ne.symm hid]
    | ping | pong | terminate =>
      simp only [hkind] at hheeds ⊢
      rw [List.append_nil, hheeds, h]

variable {c c' : Conversation} {trace new : List Happening}

theorem mem_opened_turn (h : Law c trace) (ht : Turn c c' new) (id : String) :
    id ∈ c'.link.session.opened ↔ OpenAfter id (trace ++ new) := by
  cases ht with
  | hears out news hout hwrites hnews =>
    rw [← List.append_assoc]
    refine mem_opened_of_news hnews (fun x => ?_) id
    rw [OpenAfter.append_frames_iff, h.mem_opened]
  | tells i notice frame hout hnotice hopen hwrites hsession =>
    rw [hsession, h.mem_opened, OpenAfter.concat_iff]
    simp
  | ends i frame out hout hframe hopen hwrites hsession =>
    rw [hsession, Session.release_closes, h.mem_opened, ← List.append_assoc, OpenAfter.concat_iff,
      OpenAfter.append_frames_iff]
    by_cases hid : id = i
    · simp [hid]
    · simp [hid, Ne.symm hid]

theorem initialized_turn (h : Law c trace) (ht : Turn c c' new) :
    c'.link.session.initialized = true ↔ .accepted ∈ trace ++ new := by
  cases ht with
  | hears out news hout hwrites hnews =>
    rw [hnews.initialized, h.initialized]
    simp
  | tells i notice frame hout hnotice hopen hwrites hsession => simp [hsession, h.initialized]
  | ends i frame out hout hframe hopen hwrites hsession => simp [hsession, h.initialized]

theorem opened_nil_turn (h : Law c trace) (ht : Turn c c' new)
    (hinit : c'.link.session.initialized = false) : c'.link.session.opened = [] := by
  cases ht with
  | hears out news hout hwrites hnews =>
    have hold := hnews.eq_of_uninitialized hinit
    rw [hold] at hinit ⊢
    exact h.opened_nil hinit
  | tells i notice frame hout hnotice hopen hwrites hsession =>
    rw [hsession] at hinit ⊢
    exact h.opened_nil hinit
  | ends i frame out hout hframe hopen hwrites hsession =>
    -- before the handshake there is nothing to end
    rw [hsession, Session.release_initialized] at hinit
    rw [h.opened_nil hinit] at hopen
    cases hopen

/-- A turn keeps the law. -/
theorem turn (h : Law c trace) (ht : Turn c c' new) : Law c' (trace ++ new) where
  inOrder := ht.inOrder h.inOrder
  mem_opened := h.mem_opened_turn ht
  initialized := h.initialized_turn ht
  opened_nil := h.opened_nil_turn ht
  log := by
    have hsent : c'.link.transport.sent = _ := ht.log
    rw [List.filterMap_append, h.log, hsent, List.reverse_append, List.reverse_reverse]
  told before notice frame after htrace := by
    rw [ht.subprotocol]
    rcases append_eq_append_cons htrace with ⟨rest, hold, -⟩ | ⟨between, rfl, hnew⟩
    · exact h.told before notice frame rest hold
    · obtain ⟨hwrites, hopen⟩ := ht.told hnew
      refine ⟨hwrites, fun id hid => ?_⟩
      -- the frame is the first of its turn, so the trace before it is the old one
      obtain ⟨rfl, hmem⟩ := hopen id hid
      rw [List.append_nil]
      exact (h.mem_opened id).mp hmem
  ended before id frame after htrace := by
    rcases append_eq_append_cons htrace with ⟨rest, hold, rfl⟩ | ⟨between, -, hnew⟩
    · obtain ⟨rest', rfl⟩ := h.ended before id frame rest hold
      exact ⟨rest' ++ new, rfl⟩
    · exact ht.ended hnew

theorem run (h : Law c trace) (steps : List Step) :
    Law (c.run steps) (trace ++ c.trace steps) := by
  induction steps generalizing c trace with
  | nil => simpa [Conversation.run, Conversation.trace] using h
  | cons s steps ih =>
    rw [Conversation.run, Conversation.trace, ← List.append_assoc]
    exact ih (h.turn (turn_step c s))

theorem subscribed_between (h : Law c trace) {xs ys zs : List Happening} {x : Happening}
    {notice : Notice} {id frame : String}
    (htrace : trace = xs ++ x :: ys ++ .sent notice frame :: zs)
    (hclose : x = .completed id ∨ x = .ended id) (hid : notice.id? = some id) :
    .subscribed id ∈ ys :=
  ((h.told _ notice frame zs htrace).2 id hid).subscribed_since hclose

end Law

theorem run_subprotocol (c : Conversation) (steps : List Step) :
    (c.run steps).link.session.subprotocol = c.link.session.subprotocol := by
  induction steps generalizing c with
  | nil => rfl
  | cons s steps ih => rw [run, ih, (turn_step c s).subprotocol]

/-- **What is open, and what is told, in every run of a conversation.** The open operations are kept
in the order of their bytes; they are those whose last happening is their subscription, and there
are none before the handshake. The frames of the trace are those that were sent. A frame is written
as what it tells, and one about an operation goes out only while the operation is open, so not
between its end and its next subscription; and an operation whose completion was sent has been ended
and opened again before another completion is sent. -/
theorem operations_and_frames (p : Subprotocol) (steps : List Step) :
    (((start p).run steps).link.session.opened.Pairwise
        fun a b => Text.Utf8.encode a < Text.Utf8.encode b) ∧
      (∀ id, id ∈ ((start p).run steps).link.session.opened ↔
        OpenAfter id ((start p).trace steps)) ∧
      (.accepted ∉ (start p).trace steps → ((start p).run steps).link.session.opened = []) ∧
      ((start p).trace steps).filterMap Happening.frame? =
        ((start p).run steps).link.transport.sent.reverse ∧
      (∀ before notice frame after,
        (start p).trace steps = before ++ .sent notice frame :: after →
          notice.Writes p frame ∧ ∀ id, notice.id? = some id → OpenAfter id before) ∧
      (∀ xs x ys notice frame zs id,
        (start p).trace steps = xs ++ x :: ys ++ .sent notice frame :: zs →
          x = .completed id ∨ x = .ended id → notice.id? = some id → .subscribed id ∈ ys) ∧
      ∀ xs ys zs id frame frame',
        (start p).trace steps =
            xs ++ .sent (.completion id) frame :: ys ++ .sent (.completion id) frame' :: zs →
          ∃ us vs, ys = .ended id :: us ++ .subscribed id :: vs := by
  have h : Law ((start p).run steps) ((start p).trace steps) := (Law.start p).run steps
  have hp : ((start p).run steps).link.session.subprotocol = p := run_subprotocol (start p) steps
  refine ⟨h.inOrder.imp Text.Utf8.encode_lt_encode, h.mem_opened, fun hnot => ?_, h.log, ?_, ?_, ?_⟩
  · refine h.opened_nil (Bool.eq_false_iff.mpr fun hinit => ?_)
    exact hnot (h.initialized.mp hinit)
  · intro before notice frame after htrace
    have htold := h.told before notice frame after htrace
    rwa [hp] at htold
  · intro xs x ys notice frame zs id htrace hclose hid
    exact h.subscribed_between htrace hclose hid
  · intro xs ys zs id frame frame' htrace
    -- the first completion is followed by the end of the operation, which the second one cannot
    -- share
    obtain ⟨rest, hrest⟩ := h.ended xs id frame (ys ++ .sent (.completion id) frame' :: zs)
      (by simpa using htrace)
    cases ys with
    | nil => simp at hrest
    | cons y ys =>
      obtain ⟨rfl, -⟩ := List.cons.inj hrest
      have hboth : (start p).trace steps = (xs ++ [.sent (.completion id) frame]) ++
          .ended id :: ys ++
          .sent (.completion id) frame' :: zs := by simpa using htrace
      have hmem : .subscribed id ∈ ys := h.subscribed_between hboth (Or.inr rfl) rfl
      obtain ⟨us, vs, rfl⟩ := List.append_of_mem hmem
      exact ⟨us, vs, rfl⟩

example :
    (start .transport).trace
      [.push "\x7b\"type\":\"connection_init\"\x7d", .handshake,
        .push "\x7b\"id\":\"1\",\"type\":\"subscribe\"\x7d", .read, .data "1" ⟨"null"⟩ none,
        .done "1", .done "1"] =
      [.sent .answer "\x7b\"type\":\"connection_ack\"\x7d", .accepted, .subscribed "1",
        .sent (.data "1") "\x7b\"id\":\"1\",\"type\":\"next\",\"payload\":null\x7d",
        .sent (.completion "1") "\x7b\"id\":\"1\",\"type\":\"complete\"\x7d", .ended "1"] := by
  decide +kernel

end Conversation
end StreamGateway
