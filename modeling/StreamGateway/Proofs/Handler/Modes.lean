import StreamGateway.Proofs.Handler.Standing
import StreamGateway.Simulation.ScriptedTransport

/-! # Two ways to serve a client

With a poller, a client is served by drains: each handles what has come in and ends when nothing
more can be read. Without one, a reader of its own reads on and waits again whenever nothing came in
time. The two ways judge a failure at different places. A drain looks at the read alone and takes
any other failure for the end; a reader looks at the whole turn, so that an answer that could not be
written in time counts as waiting, too. This is the only difference (`turn_eq_patientTurn`,
`parting`): both ways come to the same handlers and ends exactly as long as no answer to a message
times out (`modes_agree_iff`). -/
namespace StreamGateway

variable {τ : Type} [Transport τ]

/-! ## Connections -/

/-- Connections on which a missing text can be told from a late answer: a read that times out would
block, and a write never would block, though it may time out. -/
structure Transport.Candid (P : τ → Prop) : Prop where
  receive : ∀ t, P t → P (Transport.receive t).2
  send : ∀ t frame, P t → P (Transport.send t frame).2
  isWouldBlock_of_receive : ∀ t e, P t → (Transport.receive t).1 = .error e →
    e.isTimeout = true → e.isWouldBlock = true
  isWouldBlock_of_send : ∀ t frame e, P t → (Transport.send t frame).1 = .error e →
    e.isWouldBlock = false

theorem ProtocolError.isTimeout_of_isWouldBlock {e : ProtocolError} (h : e.isWouldBlock = true) :
    e.isTimeout = true := by
  cases e with
  | fault f => simpa [isTimeout, isWouldBlock] using Or.inl h
  | _ => cases h

theorem ProtocolError.not_isWouldBlock {e : ProtocolError} (h : e.isTimeout = false) :
    e.isWouldBlock = false := by
  cases hblock : e.isWouldBlock with
  | false => rfl
  | true =>
    rw [isTimeout_of_isWouldBlock hblock] at h
    cases h

/-- A text that cannot be decoded is no time-out. -/
theorem Session.isTimeout_of_message {s : Session} {text : String} {e : ProtocolError}
    (h : s.message text = .error e) : e.isTimeout = false := by
  have hobject (h : s.objectMessage text = .error e) : e.isTimeout = false := by
    rw [objectMessage] at h
    split at h
    · cases h
      rfl
    · split at h <;> cases h
      rfl
  have hchannel (h : s.channelMessage text = .error e) : e.isTimeout = false := by
    rw [channelMessage] at h
    split at h
    · cases h
      rfl
    · dsimp only at h
      split at h <;> cases h
      rfl
  rw [message] at h
  split at h
  · exact hobject h
  · exact hobject h
  · exact hchannel h

namespace Link

variable {P : τ → Prop} {l : Link τ}

theorem candid_sendAll (hP : Transport.Candid P) (hl : P l.transport) (frames : List String) :
    P (l.sendAll frames).2.transport ∧
      ∀ e, (l.sendAll frames).1 = .error e → e.isWouldBlock = false := by
  induction frames generalizing l with
  | nil => exact ⟨hl, fun _ he => by cases he⟩
  | cons frame frames ih =>
    have hsent : P (l.send frame).2.transport := hP.send l.transport frame hl
    rw [sendAll]
    split <;> rename_i hsend <;> rw [hsend] at hsent
    · exact ih hsent
    · refine ⟨hsent, fun e he => ?_⟩
      cases he
      exact hP.isWouldBlock_of_send l.transport frame _ hl (congrArg (·.1) hsend)

/-- Where the error of a read comes from. -/
theorem candid_read (hP : Transport.Candid P) (hl : P l.transport) :
    P l.read.2.transport ∧
      (∀ m, l.read.1 = .ok m → ∃ text, l.receive.1 = .ok text) ∧
      ∀ e, l.read.1 = .error e → l.receive.1 = .error e ∨
        e.isWouldBlock = false ∧ (e.isTimeout = true → ∃ text, l.receive.1 = .ok text) := by
  rw [read]
  split
  · have hreceived : P l.receive.2.transport := hP.receive l.transport hl
    rw [converse]
    split <;> rename_i hreceive <;> rw [hreceive] at hreceived ⊢
    · refine ⟨hreceived, fun m hm => (by cases hm), fun e he => Or.inl ?_⟩
      cases he
      rfl
    · rename_i text l'
      have htext : ∃ text', (Except.ok text : Except ProtocolError String) = .ok text' :=
        ⟨text, rfl⟩
      split <;> rename_i hdecode
      · refine ⟨hreceived, fun m hm => (by cases hm), fun e he => Or.inr ⟨?_, fun _ => htext⟩⟩
        cases he
        exact ProtocolError.not_isWouldBlock (Session.isTimeout_of_message hdecode)
      · rename_i reply
        obtain ⟨hsent, herror⟩ := candid_sendAll hP hreceived reply.frames
        rw [settle]
        split <;> rename_i hsend <;> rw [hsend] at hsent herror
        · exact ⟨hsent, fun _ _ => htext, fun e he => by cases he⟩
        · refine ⟨hsent, fun m hm => (by cases hm), fun e he => Or.inr ⟨?_, fun _ => htext⟩⟩
          cases he
          exact herror _ rfl
  · refine ⟨hl, fun m hm => (by cases hm), fun e he => Or.inr ?_⟩
    cases he
    exact ⟨rfl, fun htime => by cases htime⟩

end Link

namespace Handler

variable {P : τ → Prop} {h : Handler τ}

/-! ## One turn -/

omit [Transport τ] in
theorem subscribe_link (h : Handler τ) (m : Message) : (h.subscribe m).2.link = h.link := by
  rw [subscribe]
  split
  · rfl
  · split <;> rfl

omit [Transport τ] in
theorem forget_link (h : Handler τ) (operationId : String) :
    (h.forget operationId).link = h.link := by
  rw [forget]
  split <;> rfl

theorem candid_requestError (hP : Transport.Candid P) (hh : P h.link.transport) (e : GatewayError) :
    P (h.requestError e).2.link.transport := by
  rw [requestError]
  split
  · exact hh
  · exact hP.send h.link.transport e.message hh

theorem candid_handle (hP : Transport.Candid P) (hh : P h.link.transport) (m : Message) :
    P (h.handle m).2.link.transport := by
  rw [handle]
  split
  · exact hh
  · have hpong : P (h.withLink (h.link.pong m)).2.link.transport := hP.send h.link.transport _ hh
    split <;> rename_i hlink <;> rw [hlink] at hpong <;> exact hpong
  · exact hh
  · have hsubscribe : P (h.subscribe m).2.link.transport := by rwa [subscribe_link]
    split <;> rename_i heq <;> rw [heq] at hsubscribe <;> exact hsubscribe
  · rw [complete]
    split
    · exact candid_requestError hP hh _
    · show P (h.forget m.id).link.transport
      rwa [forget_link]

theorem candid_readOne (hP : Transport.Candid P) (hh : P h.link.transport) :
    P h.readOne.2.link.transport := by
  have hread : P h.readMessage.2.link.transport := (Link.candid_read hP hh).1
  rw [readOne]
  split <;> rename_i hmessage <;> rw [hmessage] at hread
  · exact hread
  · exact candid_handle hP hread _

/-- There is a text to read, but it cannot be answered in time. -/
def AnswerTimesOut (h : Handler τ) : Prop :=
  (∃ text, h.link.receive.1 = .ok text) ∧
    ∃ e, h.readOne.1 = .error (.protocol e) ∧ e.isTimeout = true

theorem turn_eq_patientTurn (hP : Transport.Candid P) (hh : P h.link.transport)
    (hanswer : ¬ h.AnswerTimesOut) : h.turn = h.patientTurn := by
  obtain ⟨-, hok, herror⟩ := Link.candid_read hP hh
  rw [turn, patientTurn]
  split <;> rename_i hmessage
  · rename_i e h'
    have hone : h.readOne = (.error (.protocol e), h') := by rw [readOne, hmessage]
    -- the drain asks the one and the reader the other
    have hsame : e.isWouldBlock = e.isTimeout := by
      rcases herror e (congrArg (·.1) hmessage) with hreceive | ⟨hblock, htext⟩
      · rw [Bool.eq_iff_iff]
        exact ⟨ProtocolError.isTimeout_of_isWouldBlock, hP.isWouldBlock_of_receive _ e hh hreceive⟩
      · rw [hblock]
        by_cases htime : e.isTimeout = true
        · exact absurd ⟨htext htime, e, by rw [hone], htime⟩ hanswer
        · exact (Bool.eq_false_iff.mpr htime).symm
    rw [hone, hsame]
  · rename_i m h'
    have hone : h.readOne = h'.handle m := by rw [readOne, hmessage]
    rw [hone]
    cases hhandle : h'.handle m with
    | mk result h'' =>
      cases result with
      | ok _ => rfl
      | error e =>
        cases e with
        | protocol e =>
          have htime : e.isTimeout ≠ true := fun htime =>
            hanswer ⟨hok m (congrArg (·.1) hmessage), e, by rw [hone, hhandle], htime⟩
          simp [htime]
        | _ => rfl

/-- Where the two ways part. -/
theorem parting (hP : Transport.Candid P) (hh : P h.link.transport) (hanswer : h.AnswerTimesOut) :
    ∃ e, e.isTimeout = true ∧ h.turn = (.failed (.protocol e), h.readOne.2) ∧
      h.patientTurn = (.idle, h.readOne.2) := by
  obtain ⟨⟨text, htext⟩, e, hone, htime⟩ := hanswer
  obtain ⟨-, -, herror⟩ := Link.candid_read hP hh
  refine ⟨e, htime, ?_, ?_⟩
  · rw [turn]
    split <;> rename_i hmessage
    · rename_i e' h'
      have hpair : h.readOne = (.error (.protocol e'), h') := by rw [readOne, hmessage]
      rw [hpair] at hone ⊢
      cases hone
      rcases herror e (congrArg (·.1) hmessage) with hreceive | ⟨hblock, -⟩
      · rw [htext] at hreceive
        cases hreceive
      · simp [hblock]
    · rename_i m h'
      have hpair : h.readOne = h'.handle m := by rw [readOne, hmessage]
      rw [hpair] at hone ⊢
      split <;> rename_i hhandle <;> rw [hhandle] at hone ⊢ <;> cases hone
      rfl
  · have hpair : h.readOne = (.error (.protocol e), h.readOne.2) := Prod.ext hone rfl
    rw [patientTurn, hpair]
    simp [htime]

/-! ## Serving -/

/-- Drains one after the other, each for a number of turns at most, until one of them fails. -/
def drains : List Nat → Handler τ → Option GatewayError × Handler τ
  | [], h => (none, h)
  | turns :: more, h =>
    match drain turns h with
    | (.failed e, h) => (some e, h)
    | (_, h) => drains more h

/-- Turns one after the other, until one of them fails. -/
def turns (one : Handler τ → Turn × Handler τ) : Nat → Handler τ → Option GatewayError × Handler τ
  | 0, h => (none, h)
  | n + 1, h =>
    match one h with
    | (.failed e, h) => (some e, h)
    | (_, h) => turns one n h

/-- A reader of its own, for a number of turns. -/
def attends : Nat → Handler τ → Option GatewayError × Handler τ := turns patientTurn

/-- A drain is a number of turns, and what comes behind it comes behind them. -/
theorem turns_drain (n : Nat) (h : Handler τ) :
    ∃ spent, ∀ more, turns turn (spent + more) h =
      match drain n h with
      | (.failed e, h) => (some e, h)
      | (_, h) => turns turn more h := by
  induction n generalizing h with
  | zero => exact ⟨0, fun more => by rw [Nat.zero_add, drain]⟩
  | succ n ih =>
    rw [drain]
    cases hturn : h.turn with
    | mk ended h' =>
      cases ended with
      | handled =>
        obtain ⟨spent, hspent⟩ := ih h'
        refine ⟨spent + 1, fun more => ?_⟩
        rw [Nat.add_right_comm, turns, hturn]
        exact hspent more
      | idle =>
        refine ⟨1, fun more => ?_⟩
        rw [Nat.add_comm, turns, hturn]
      | failed e =>
        refine ⟨1, fun more => ?_⟩
        rw [Nat.add_comm, turns, hturn]

theorem drains_eq_turns (calls : List Nat) (h : Handler τ) :
    ∃ n, drains calls h = turns turn n h := by
  induction calls generalizing h with
  | nil => exact ⟨0, rfl⟩
  | cons n calls ih =>
    obtain ⟨spent, hspent⟩ := turns_drain n h
    rw [drains]
    cases hdrain : drain n h with
    | mk ended h' =>
      rw [hdrain] at hspent
      obtain ⟨more, hmore⟩ := ih h'
      refine ⟨spent + more, ?_⟩
      rw [hspent]
      cases ended with
      | failed e => rfl
      | handled => exact hmore
      | idle => exact hmore

theorem turns_eq_drains (n : Nat) (h : Handler τ) : turns turn n h = drains (.replicate n 1) h := by
  induction n generalizing h with
  | zero => rfl
  | succ n ih =>
    rw [turns, List.replicate_succ, drains, drain]
    cases hturn : h.turn with
    | mk ended h' =>
      cases ended with
      | failed e => rfl
      | handled => exact ih h'
      | idle => exact ih h'

/-- The reader is at work after a number of turns, and its next answer comes too late. -/
def Lapses (h : Handler τ) (n : Nat) : Prop :=
  (attends n h).1 = none ∧ (attends n h).2.AnswerTimesOut

omit [Transport τ] in
theorem turns_add (one : Handler τ → Turn × Handler τ) (n more : Nat) (h : Handler τ) :
    turns one (n + more) h =
      match turns one n h with
      | (some e, h) => (some e, h)
      | (none, h) => turns one more h := by
  induction n generalizing h with
  | zero => rw [Nat.zero_add, turns]
  | succ n ih =>
    rw [Nat.add_right_comm, turns, turns]
    cases hone : one h with
    | mk ended h' =>
      cases ended with
      | failed e => rfl
      | handled => exact ih h'
      | idle => exact ih h'

theorem attends_add (n more : Nat) (h : Handler τ) :
    attends (n + more) h =
      match attends n h with
      | (some e, h) => (some e, h)
      | (none, h) => attends more h := turns_add patientTurn n more h

theorem attends_one (h : Handler τ) :
    attends 1 h =
      match h.patientTurn with
      | (.failed e, h) => (some e, h)
      | (_, h) => (none, h) := rfl

theorem candid_attends (hP : Transport.Candid P) (hh : P h.link.transport) (n : Nat) :
    P (attends n h).2.link.transport := by
  induction n generalizing h with
  | zero => exact hh
  | succ n ih =>
    have hkept : P h.patientTurn.2.link.transport := by
      rw [patientTurn_snd]
      exact candid_readOne hP hh
    rw [attends, turns]
    split <;> rename_i hturn <;> rw [hturn] at hkept
    · exact hkept
    · exact ih hkept

/-- A reader does not stop at a time-out. -/
theorem isTimeout_of_attends {n : Nat} {e : ProtocolError} (h : Handler τ)
    (hstop : (attends n h).1 = some (.protocol e)) : e.isTimeout = false := by
  induction n generalizing h with
  | zero => cases hstop
  | succ n ih =>
    rw [attends, turns] at hstop
    split at hstop <;> rename_i hturn
    · cases hstop
      rw [patientTurn] at hturn
      split at hturn
      · cases hturn
      · split at hturn <;> rename_i htime <;> cases hturn
        exact Bool.eq_false_iff.mpr htime
      · rename_i hother _
        cases hturn
        exact absurd rfl (hother e)
    · exact ih _ hstop

/-- Before the first answer that comes too late the two ways do not differ. -/
theorem turns_eq_attends (hP : Transport.Candid P) (hh : P h.link.transport) {n : Nat}
    (hbefore : ∀ k < n, ¬ h.Lapses k) : turns turn n h = attends n h := by
  induction n with
  | zero => rfl
  | succ n ih =>
    have hsame : turns turn n h = attends n h := ih fun k hk => hbefore k (Nat.lt_succ_of_lt hk)
    rw [turns_add, attends_add, hsame]
    cases hattends : attends n h with
    | mk stopped h' =>
      cases stopped with
      | some e => rfl
      | none =>
        have hkept : P h'.link.transport := by simpa [hattends] using candid_attends hP hh n
        have hanswer : ¬ h'.AnswerTimesOut := fun hlate =>
          hbefore n (Nat.lt_succ_self n) ⟨by rw [hattends], by rw [hattends]; exact hlate⟩
        simp only [turns, attends_one, turn_eq_patientTurn hP hkept hanswer]

/-- At the first answer that comes too late the drains stop with a time-out, and the reader goes
on. -/
theorem part_at_lapse (hP : Transport.Candid P) (hh : P h.link.transport) {n : Nat}
    (hbefore : ∀ k < n, ¬ h.Lapses k) (hlapse : h.Lapses n) :
    ∃ e h', e.isTimeout = true ∧ turns turn (n + 1) h = (some (.protocol e), h') ∧
      attends (n + 1) h = (none, h') := by
  obtain ⟨hgoing, hanswer⟩ := hlapse
  obtain ⟨e, htime, hturn, hpatient⟩ := parting hP (candid_attends hP hh n) hanswer
  have hpair : attends n h = (none, (attends n h).2) := Prod.ext hgoing rfl
  refine ⟨e, (attends n h).2.readOne.2, htime, ?_, ?_⟩
  · rw [turns_add, turns_eq_attends hP hh hbefore, hpair]
    simp only [turns, hturn]
  · rw [attends_add, hpair]
    simp only [attends_one, hpatient]

/-- **The two ways agree as long as no answer times out.** On every connection on which a missing
text can be told from a late answer, drains and a reader of its own bring the handler through the
same states, with the same frames sent and the same work for the engine, and to the same end,
exactly if the reader never meets a text that it cannot answer in time. Where it first meets one,
the drain stops with this time-out, and the reader goes on. -/
theorem modes_agree_iff (hP : Transport.Candid P) (hh : P h.link.transport) :
    (((∀ calls, ∃ n, drains calls h = attends n h) ∧ ∀ n, ∃ calls, drains calls h = attends n h) ↔
      ∀ n, ¬ h.Lapses n) ∧
    ∀ n, (∀ k < n, ¬ h.Lapses k) → h.Lapses n →
      ∃ calls e h', e.isTimeout = true ∧ drains calls h = (some (.protocol e), h') ∧
        attends (n + 1) h = (none, h') := by
  have hpart : ∀ n, (∀ k < n, ¬ h.Lapses k) → h.Lapses n →
      ∃ calls e h', e.isTimeout = true ∧ drains calls h = (some (.protocol e), h') ∧
        attends (n + 1) h = (none, h') := by
    intro n hbefore hlapse
    obtain ⟨e, h', htime, hturns, hattends⟩ := part_at_lapse hP hh hbefore hlapse
    rw [turns_eq_drains] at hturns
    exact ⟨_, e, h', htime, hturns, hattends⟩
  refine ⟨⟨?_, ?_⟩, hpart⟩
  · rintro ⟨hdrains, -⟩ n
    -- a drain that stops with a time-out is no match for the reader, so there is no first lapse
    induction n using Nat.strongRecOn with
    | _ n ih =>
      intro hlapse
      obtain ⟨calls, e, h', htime, hcalls, -⟩ := hpart n ih hlapse
      obtain ⟨m, hm⟩ := hdrains calls
      have hstop : (attends m h).1 = some (.protocol e) := by rw [← hm, hcalls]
      rw [isTimeout_of_attends h hstop] at htime
      cases htime
  · intro hnever
    have hsame (n : Nat) : turns turn n h = attends n h :=
      turns_eq_attends hP hh fun k _ => hnever k
    refine ⟨fun calls => ?_, fun n => ⟨_, (turns_eq_drains n h).symm.trans (hsame n)⟩⟩
    obtain ⟨n, hn⟩ := drains_eq_turns calls h
    exact ⟨n, hn.trans (hsame n)⟩

end Handler

/-! ## A client that is slow to take answers -/

namespace ScriptedTransport

/-- Reads fail in any way but a time-out, and writes in any way but that they would block. -/
def Plain (t : ScriptedTransport) : Prop :=
  (∀ f ∈ t.readFaults, f.kind ≠ .timedOut) ∧ ∀ w ∈ t.writeFaults, w.2.kind ≠ .wouldBlock

instance (t : ScriptedTransport) : Decidable t.Plain := inferInstanceAs (Decidable (_ ∧ _))

theorem deliver_faults (t : ScriptedTransport) (text : String) :
    (t.deliver text).2.readFaults = t.readFaults ∧ (t.deliver text).2.writeFaults = t.writeFaults ∧
      ∀ e, (t.deliver text).1 = .error e → e.isWouldBlock = false := by
  rw [deliver]
  split
  · exact ⟨rfl, rfl, fun e he => by cases he; rfl⟩
  · exact ⟨rfl, rfl, fun e he => by cases he⟩

/-- Reading consumes a planned fault, or tells that nothing is there, or that all is over. -/
theorem receive_plain {t : ScriptedTransport} (ht : t.Plain) :
    t.receive.2.Plain ∧
      ∀ e, t.receive.1 = .error e → e.isTimeout = true → e.isWouldBlock = true := by
  obtain ⟨hreads, hwrites⟩ := ht
  rw [receive]
  split
  · rename_i f rest hfaults
    rw [hfaults] at hreads
    obtain ⟨hf, hrest⟩ := List.forall_mem_cons.mp hreads
    refine ⟨⟨hrest, hwrites⟩, fun e he htime => ?_⟩
    cases he
    simpa [ProtocolError.isTimeout, ProtocolError.isWouldBlock, hf] using htime
  · split
    · exact ⟨⟨hreads, hwrites⟩, fun e he htime => by cases he; cases htime⟩
    · split
      · exact ⟨⟨hreads, hwrites⟩, fun e he _ => by cases he; rfl⟩
      · exact ⟨⟨hreads, hwrites⟩, fun e he => by cases he⟩

theorem send_plain {t : ScriptedTransport} (ht : t.Plain) (text : String) :
    (t.send text).2.Plain ∧ ∀ e, (t.send text).1 = .error e → e.isWouldBlock = false := by
  obtain ⟨hreads, hwrites⟩ := ht
  rw [send]
  split
  · obtain ⟨hreadFaults, hwriteFaults, herror⟩ := t.deliver_faults text
    exact ⟨⟨hreadFaults ▸ hreads, hwriteFaults ▸ hwrites⟩, herror⟩
  · rename_i f rest hfaults
    rw [hfaults] at hwrites
    obtain ⟨hf, hrest⟩ := List.forall_mem_cons.mp hwrites
    refine ⟨⟨hreads, hrest⟩, fun e he => ?_⟩
    cases he
    simpa [ProtocolError.isWouldBlock] using hf
  · rename_i n f rest hfaults
    rw [hfaults] at hwrites
    obtain ⟨hf, hrest⟩ := List.forall_mem_cons.mp hwrites
    obtain ⟨hreadFaults, hwriteFaults, herror⟩ :=
      deliver_faults { t with writeFaults := (n, f) :: rest } text
    refine ⟨⟨?_, ?_⟩, herror⟩
    · rw [hreadFaults]
      exact hreads
    · rw [hwriteFaults]
      exact List.forall_mem_cons.mpr ⟨hf, hrest⟩

theorem candid_plain : Transport.Candid Plain where
  receive _ ht := (receive_plain ht).1
  send _ text ht := (send_plain ht text).1
  isWouldBlock_of_receive _ e ht he htime := (receive_plain ht).2 e he htime
  isWouldBlock_of_send _ text e ht he := (send_plain ht text).2 e he

end ScriptedTransport

namespace Handler

/-- A client of channels that has joined, sends a document and a heartbeat, and takes the answer to
the document too late. -/
def hurried : Handler ScriptedTransport :=
  (fresh 1 .absinthe
    { inbox := ["[\"1\",\"1\",\"c\",\"phx_join\",\x7b\x7d]", "[\"1\",\"2\",\"c\",\"doc\",\x7b\x7d]",
        "[null,\"3\",\"phoenix\",\"heartbeat\",\x7b\x7d]"]
      writeFaults := [(1, { kind := .timedOut })] }).handshake.2

theorem modes_agree_iff_hurried :
    Transport.Candid ScriptedTransport.Plain ∧ hurried.link.transport.Plain ∧
      ((((∀ calls, ∃ n, drains calls hurried = attends n hurried) ∧
          ∀ n, ∃ calls, drains calls hurried = attends n hurried) ↔ ∀ n, ¬ hurried.Lapses n) ∧
        ∀ n, (∀ k < n, ¬ hurried.Lapses k) → hurried.Lapses n →
          ∃ calls e h', e.isTimeout = true ∧ drains calls hurried = (some (.protocol e), h') ∧
            attends (n + 1) hurried = (none, h')) := by
  have hplain : hurried.link.transport.Plain := by decide +kernel
  exact ⟨ScriptedTransport.candid_plain, hplain,
    modes_agree_iff ScriptedTransport.candid_plain hplain⟩

/-- The drain stops at the document, while the reader goes on and answers the heartbeat, so the two
ways do not serve every client alike. -/
theorem reader_outlasts_drain :
    (drains [3] hurried).1 = some (.protocol (.fault { kind := .timedOut })) ∧
      (drains [3] hurried).2.link.transport.sent.length = 1 ∧
      (attends 3 hurried).1 = none ∧
      (attends 3 hurried).2.link.transport.sent.length = 2 ∧
      ∀ n, drains [3] hurried ≠ attends n hurried := by
  have hstop : (drains [3] hurried).1 = some (.protocol (.fault { kind := .timedOut })) := by
    decide +kernel
  refine ⟨hstop, by decide +kernel, by decide +kernel, by decide +kernel, fun n hn => ?_⟩
  rw [hn] at hstop
  exact absurd (isTimeout_of_attends hurried hstop) (by decide)

end Handler
end StreamGateway
