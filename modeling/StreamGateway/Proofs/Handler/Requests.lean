import StreamGateway.Proofs.Handler.Refusals
import StreamGateway.Proofs.Protocol.Shapes

/-! # The requests of a connection

What a connection asks of the engine over its whole life. A message is read first and handled then,
and between the two the engine may end operations; so a connection is a handler that holds at most
one message (`Desk`). One act of it makes at most one entry in its ledger (`Desk.ledger_step`), and
so its requests are exactly the subscriptions that could be started when they were handled, in the
order of their texts, numbered from one without a gap (`requests_trace`). Each carries the id and
the payload that stand in its text, and the payload of the handshake. -/
namespace StreamGateway

open Json (Raw)

/-! ## Texts that ask for a subscription -/

/-- The text asks for a subscription under an id, with a payload. On a channel the id is derived
from the reference. -/
inductive Subprotocol.Asks : Subprotocol → String → String → Option Raw → Prop where
  | transport {text : String} {f : ObjectFrame} :
    f.StandsIn text → f.type = "subscribe" → Asks .transport text f.id f.payload
  | legacy {text : String} {f : ObjectFrame} :
    f.StandsIn text → f.type = "start" → Asks .legacy text f.id f.payload
  | absinthe {text : String} {f : ChannelFrame} :
    f.StandsIn text → f.event = "doc" → Asks .absinthe text (channelId (f.ref.getD ""))
      (some f.payload)

namespace Session

theorem asks_of_objectMessage {s : Session} (hp : s.subprotocol ≠ .absinthe) {text : String}
    {reply : Reply Message} (h : s.objectMessage text = .ok reply)
    (hkind : reply.value.kind = .subscribe) :
    s.subprotocol.Asks text reply.value.id reply.value.payload := by
  rw [objectMessage] at h
  split at h
  · cases h
  · rename_i f hparse
    have hf := ObjectFrame.standsIn_of_parse hparse
    split at h
    · cases h
    · rename_i kind htype
      cases h
      obtain rfl : kind = .subscribe := hkind
      cases hs : s.subprotocol with
      | absinthe => exact absurd hs hp
      | transport =>
        rw [hs] at htype
        unfold objectKind? at htype
        dsimp only at htype
        split at htype <;> cases htype
        exact .transport hf ‹_›
      | legacy =>
        rw [hs] at htype
        unfold objectKind? at htype
        dsimp only at htype
        split at htype <;> cases htype
        exact .legacy hf ‹_›

theorem asks_of_channelMessage {s : Session} (hp : s.subprotocol = .absinthe) {text : String}
    {reply : Reply Message} (h : s.channelMessage text = .ok reply)
    (hkind : reply.value.kind = .subscribe) :
    s.subprotocol.Asks text reply.value.id reply.value.payload := by
  rw [hp]
  rw [channelMessage] at h
  split at h
  · cases h
  · rename_i f hparse
    dsimp only at h
    split at h
    · cases h
      cases hkind
    · cases h
      exact .absinthe (ChannelFrame.standsIn_of_parse hparse) ‹_›
    · cases h
      cases hkind
    · cases h

/-- A text that is read as a subscription asks for it. -/
theorem asks_of_message {s : Session} {text : String} {reply : Reply Message}
    (h : s.message text = .ok reply) (hkind : reply.value.kind = .subscribe) :
    s.subprotocol.Asks text reply.value.id reply.value.payload := by
  by_cases hp : s.subprotocol = .absinthe
  · rw [message_eq_channelMessage hp] at h
    exact asks_of_channelMessage hp h hkind
  · rw [message_eq_objectMessage hp] at h
    exact asks_of_objectMessage hp h hkind

end Session

namespace Handler

/-! ## A connection at work -/

/-- A text of the client, and the message that was read from it. -/
structure Letter where
  text : String
  message : Message
deriving DecidableEq

/-- A handler, with the letter that was read and not handled yet. -/
structure Desk (τ : Type) where
  handler : Handler τ
  held : Option Letter := none

/-- What can happen to a connection. -/
inductive Act (τ : Type) where
  /-- The next message is read, unless one is held. -/
  | take
  /-- The message that is held is handled. -/
  | serve
  /-- Something else happens to the handler. -/
  | aside (m : Move τ) (hm : m ≠ .read)

/-- The handshake, as something that happens to the handler. -/
def Act.handshake {τ : Type} : Act τ := .aside .handshake nofun

variable {τ : Type} [Transport τ]

/-- What a read brings. -/
def hear (h : Handler τ) : Option Letter :=
  match h.link.receive.1, h.readMessage.1 with
  | .ok text, .ok message => some ⟨text, message⟩
  | _, _ => none

/-- The message asks for a subscription that can be started: it has an id, and nothing runs under
it. -/
def Startable (h : Handler τ) (m : Message) : Prop :=
  m.kind = .subscribe ∧ m.id ≠ "" ∧ h.number? m.id = none

instance (h : Handler τ) (m : Message) : Decidable (h.Startable m) :=
  inferInstanceAs (Decidable (_ ∧ _ ∧ _))

namespace Desk

def step (d : Desk τ) : Act τ → Desk τ
  | .take =>
    if d.held.isSome then d else { handler := d.handler.readMessage.2, held := d.handler.hear }
  | .serve =>
    match d.held with
    | none => d
    | some letter => { handler := (d.handler.handle letter.message).2 }
  | .aside m _ => { d with handler := d.handler.move m }

def run (d : Desk τ) (acts : List (Act τ)) : Desk τ := acts.foldl step d

/-- The letter that an act accepts: it is handled, and its subscription can be started. -/
def accepts (d : Desk τ) : Act τ → Option Letter
  | .serve => d.held.filter fun letter => d.handler.Startable letter.message
  | _ => none

/-- The letters that are accepted, in order. -/
def accepted (d : Desk τ) : List (Act τ) → List Letter
  | [] => []
  | a :: acts => (d.accepts a).toList ++ (d.step a).accepted acts

/-- The act takes the operation off the running ones, if it is one of them: the client completes it,
the engine ends it, the client hears that the engine refuses it, or all operations are dropped. -/
def Drops (d : Desk τ) (op : String) : Act τ → Prop
  | .take => False
  | .serve => ∃ letter ∈ d.held, letter.message.kind = .complete ∧ letter.message.id = op
  | .aside (.complete sink) _ => sink.operationId = op
  | .aside (.resolve (.reporting sink e) _) _ =>
    sink.operationId = op ∧ d.handler.Tells sink.operationId e.message
  | .aside .forgetAll _ => True
  | .aside _ _ => False

end Desk

theorem hear_of_error {h : Handler τ} {e : ProtocolError} (he : h.readMessage.1 = .error e) :
    h.hear = none := by
  simp [hear, he]

/-- A message that is read comes from a text. -/
theorem hear_of_ok {h : Handler τ} {m : Message} (hm : h.readMessage.1 = .ok m) :
    ∃ text reply, h.link.session.message text = .ok reply ∧ reply.value = m ∧
      h.hear = some ⟨text, m⟩ := by
  have hread : h.link.read.1 = .ok m := hm
  rw [Link.read] at hread
  split at hread
  · obtain ⟨e, herror, -⟩ | ⟨text, reply, htext, hdecode, hvalue, -⟩ :=
      h.link.converse_cases Session.message
    · rw [herror] at hread
      cases hread
    · rw [hvalue] at hread
      exact ⟨text, reply, hdecode, Except.ok.inj hread, by simp [hear, htext, hm]⟩
  · cases hread

/-! ## The ledger -/

/-- The request in a job, if there is one. -/
def request? : Job → Option SubscribeRequest
  | .subscribe request => some request
  | .unsubscribe _ => none

/-- The requests that a handler has put in line, in order. -/
def requests (h : Handler τ) : List SubscribeRequest := h.submitted.filterMap request?

/-- What a handler has asked for, and what it goes by when it asks again. -/
structure Ledger where
  id : Nat
  initialPayload : Option Raw
  lastNumber : Nat
  requests : List SubscribeRequest
  /-- The operation runs under the number. -/
  Runs : String → Nat → Prop

def ledger (h : Handler τ) : Ledger :=
  ⟨h.id, h.initialPayload, h.lastNumber, h.requests, fun op n => h.number? op = some n⟩

namespace Ledger

/-- One more request is made, and its operation runs. -/
def enter (b : Ledger) (m : Message) : Ledger :=
  { b with
    lastNumber := b.lastNumber + 1
    requests := b.requests ++ [⟨⟨b.id, b.lastNumber + 1⟩, m.id, m.payload, b.initialPayload⟩]
    Runs := fun op n => (m.id = op ∧ n = b.lastNumber + 1) ∨ b.Runs op n }

/-- Some operations do not run any more. -/
def strike (b : Ledger) (P : String → Prop) : Ledger :=
  { b with Runs := fun op n => b.Runs op n ∧ ¬P op }

/-- Nothing changes if none of these operations runs. -/
theorem strike_of_idle {b : Ledger} {P : String → Prop} (h : ∀ op n, b.Runs op n → ¬P op) :
    b.strike P = b := by
  have hruns : (fun op n => b.Runs op n ∧ ¬P op) = b.Runs := by
    funext op n
    exact propext ⟨And.left, fun hop => ⟨hop, h op n hop⟩⟩
  rw [strike, hruns]

end Ledger

omit [Transport τ] in
theorem ledger_forget (h : Handler τ) (op : String) :
    (h.forget op).ledger = h.ledger.strike (op = ·) := by
  have hruns : (fun x n => (h.forget op).number? x = some n) =
      fun x n => h.number? x = some n ∧ ¬op = x := by
    funext x n
    rw [number?_forget]
    split_ifs with hx
    · simp [hx]
    · simp [Ne.symm hx]
  rw [ledger, hruns, forget]
  split <;> rfl

theorem ledger_requestError (h : Handler τ) (e : GatewayError) :
    (h.requestError e).2.ledger = h.ledger := by
  rw [requestError]
  split <;> rfl

theorem ledger_complete (h : Handler τ) (m : Message) :
    (h.complete m).2.ledger = h.ledger.strike (m.id = ·) := by
  rw [complete]
  split <;> rename_i hruns
  · rw [ledger_requestError]
    refine (Ledger.strike_of_idle fun op n hop heq => ?_).symm
    rw [← heq] at hop
    cases hruns.symm.trans hop
  · rw [← ledger_forget]
    simp [ledger, requests, submit, request?, number?]

omit [Transport τ] in
theorem ledger_subscribe (h : Handler τ) {m : Message} (hkind : m.kind = .subscribe) :
    (h.subscribe m).2.ledger = if h.Startable m then h.ledger.enter m else h.ledger := by
  rw [subscribe]
  by_cases hempty : m.id = ""
  · rw [if_pos hempty, if_neg fun hstart => hstart.2.1 hempty]
  · rw [if_neg hempty]
    cases hruns : h.number? m.id with
    | some n =>
      have hbusy : ¬h.Startable m := fun hstart => by
        rw [hstart.2.2] at hruns
        cases hruns
      rw [if_pos Option.isSome_some, if_neg hbusy]
    | none =>
      have hnumber :
          (fun op n => ((m.id, h.lastNumber + 1) :: h.subscriptions).lookup op = some n) =
          fun op n => (m.id = op ∧ n = h.lastNumber + 1) ∨ h.number? op = some n := by
        funext op n
        rw [List.lookup_cons]
        by_cases hop : op = m.id
        · simp [hop, hruns, eq_comm]
        · rw [beq_eq_false_iff_ne.mpr hop]
          simp [Ne.symm hop, number?]
      rw [if_neg (by simp), if_pos ⟨hkind, hempty, hruns⟩]
      simp [ledger, requests, submit, log, count, request?, Ledger.enter, number?, hnumber]

/-- A message makes an entry exactly if it asks for a subscription that can be started. -/
theorem ledger_handle (h : Handler τ) (m : Message) :
    (h.handle m).2.ledger =
      if h.Startable m then h.ledger.enter m
      else h.ledger.strike fun op => m.kind = .complete ∧ m.id = op := by
  by_cases hkind : m.kind = .subscribe
  · rw [Ledger.strike_of_idle (by simp [hkind]), ← ledger_subscribe h hkind, handle, hkind]
    dsimp only
    split <;> rename_i hsubscribe <;> rw [hsubscribe]
    rfl
  · rw [if_neg fun hstart => hkind hstart.1, handle]
    split <;> rename_i hcase
    · exact (Ledger.strike_of_idle (by simp [hcase])).symm
    · have hpong : (h.withLink (h.link.pong m)).2.ledger = h.ledger := rfl
      rw [Ledger.strike_of_idle (by simp [hcase])]
      split <;> rename_i hlink <;> rw [hlink] at hpong <;> exact hpong
    · exact (Ledger.strike_of_idle (by simp [hcase])).symm
    · exact absurd hcase hkind
    · rw [ledger_complete]
      simp only [hcase, true_and]

theorem ledger_finish (h : Handler τ) (op : String) :
    (h.finish op).2.ledger = h.ledger.strike (op = ·) :=
  ledger_forget h op

/-- A refusal ends the operation exactly if the client hears of it. -/
theorem ledger_reject (h : Handler τ) (op message : String) :
    (h.reject op message).2.ledger = h.ledger.strike fun x => op = x ∧ h.Tells op message := by
  by_cases htells : h.Tells op message
  · obtain ⟨link, hfinish⟩ := reject_of_tells htells
    have hlink : ({ h with link } : Handler τ).ledger = h.ledger := rfl
    rw [hfinish, ledger_finish, hlink]
    simp only [htells, and_true]
  · obtain ⟨link, hsame, -⟩ := reject_of_not_tells htells
    rw [Ledger.strike_of_idle (by simp [htells]), hsame]
    rfl

/-- Nothing but a message makes an entry, and only a handshake that succeeds brings a payload. -/
theorem ledger_aside (d : Desk τ) {m : Move τ} (hm : m ≠ .read)
    (hfails : m = .handshake → ∃ e, d.handler.link.handshake.1 = .error e) :
    (d.handler.move m).ledger = d.handler.ledger.strike fun op => d.Drops op (.aside m hm) := by
  have hsame {h : Handler τ} (hledger : h.ledger = d.handler.ledger) :
      h.ledger = d.handler.ledger.strike fun _ => False := by
    rw [Ledger.strike_of_idle (by simp), hledger]
  cases m with
  | stir f => exact hsame rfl
  | handshake =>
    obtain ⟨e, he⟩ := hfails rfl
    refine hsame ?_
    show d.handler.handshake.2.ledger = d.handler.ledger
    rw [handshake]
    simp only [he]
    rfl
  | read => exact absurd rfl hm
  | next sink response =>
    refine hsame ?_
    show (d.handler.respond sink.operationId response).2.ledger = d.handler.ledger
    rw [respond]
    split
    · rfl
    · split <;> rfl
  | complete sink => exact ledger_finish d.handler sink.operationId
  | resolve stage answer =>
    cases stage with
    | reporting sink e =>
      have hreject := ledger_reject d.handler sink.operationId e.message
      show ((Resolver.reporting sink e).step answer d.handler).2.ledger = _
      simp only [Resolver.step]
      split <;> rename_i hout <;> rw [hout] at hreject <;> exact hreject
    | checking | finished => exact hsame rfl
    | subscribing | cancelling | unsubscribing => cases answer <;> exact hsame rfl
  | mark =>
    refine hsame ?_
    show d.handler.markClosed.2.ledger = d.handler.ledger
    rw [markClosed]
    split <;> rfl
  | departed answer => cases answer <;> exact hsame rfl
  | forgetAll =>
    have hnone : (fun op n => d.handler.number? op = some n ∧ ¬True) = fun (_ : String) (n : Nat) =>
        none = some n := by
      simp
    show _ = { d.handler.ledger with Runs := fun op n => d.handler.number? op = some n ∧ ¬True }
    rw [hnone]
    rfl
  | disconnect =>
    have hclose : (d.handler.withLink (d.handler.link.close 1000 "")).2.ledger = d.handler.ledger :=
      rfl
    refine hsame ?_
    show d.handler.disconnect.ledger = d.handler.ledger
    rw [disconnect]
    split <;> rename_i hlink <;> rw [hlink] at hclose <;> exact hclose

/-! ## Steps -/

theorem Called.initialized {l l' : Link τ} (h : Called l l') (hl : l.session.initialized = true) :
    l'.session.initialized = true := by
  obtain ⟨calls, rfl⟩ := h
  exact (l.initialized_performAll calls).mpr (Or.inl hl)

theorem Called.subprotocol {l l' : Link τ} (h : Called l l') :
    l'.session.subprotocol = l.session.subprotocol := by
  obtain ⟨calls, rfl⟩ := h
  exact l.performAll_subprotocol calls

namespace Desk

theorem called_step (d : Desk τ) (a : Act τ) : Called d.handler.link (d.step a).handler.link := by
  cases a with
  | take =>
    rw [step]
    split
    · exact .refl _
    · exact .one d.handler.link .read
  | serve =>
    rw [step]
    split
    · exact .refl _
    · exact called_handle _ _
  | aside m hm => exact called_move d.handler m

theorem called_run (d : Desk τ) (acts : List (Act τ)) :
    Called d.handler.link (d.run acts).handler.link := by
  induction acts generalizing d with
  | nil => exact .refl _
  | cons a acts ih => exact (d.called_step a).trans (ih (d.step a))

/-- The act is no handshake that succeeds. -/
def Plain (d : Desk τ) (a : Act τ) : Prop :=
  a = .handshake → ∃ e, d.handler.link.handshake.1 = .error e

theorem plain_of_initialized {d : Desk τ} (hd : d.handler.link.session.initialized = true)
    (a : Act τ) : d.Plain a :=
  fun _ => ⟨_, congrArg Prod.fst (Link.handshake_of_initialized hd)⟩

/-- An act makes an entry for the letter that it accepts, or else strikes what it drops. -/
theorem ledger_step {d : Desk τ} {a : Act τ} (hplain : d.Plain a) :
    (d.step a).handler.ledger =
      match d.accepts a with
      | some letter => d.handler.ledger.enter letter.message
      | none => d.handler.ledger.strike fun op => d.Drops op a := by
  cases a with
  | take =>
    have hsame : (d.step .take).handler.ledger = d.handler.ledger := by
      rw [step]
      split <;> rfl
    exact hsame.trans (Ledger.strike_of_idle (by simp [Drops])).symm
  | serve =>
    cases hheld : d.held with
    | none => simp [step, accepts, Drops, hheld, Ledger.strike]
    | some letter =>
      have hstep : d.step .serve = { handler := (d.handler.handle letter.message).2 } := by
        rw [step, hheld]
      rw [hstep, ledger_handle, accepts, hheld, Option.filter_some]
      by_cases hstart : d.handler.Startable letter.message
      · simp [hstart]
      · simp [hstart, Drops, hheld]
  | aside m hm =>
    refine ledger_aside d hm fun hshake => ?_
    subst hshake
    exact hplain rfl

omit [Transport τ] in
theorem accepts_serve_iff {d : Desk τ} {letter : Letter} :
    d.accepts .serve = some letter ↔ d.held = some letter ∧ d.handler.Startable letter.message := by
  simp [accepts, Option.filter_eq_some_iff]

/-- An act that accepts a letter drops nothing. -/
theorem not_drops_of_accepts {d : Desk τ} {a : Act τ} {letter : Letter}
    (h : d.accepts a = some letter) (op : String) : ¬d.Drops op a := by
  cases a with
  | take | aside => cases h
  | serve =>
    obtain ⟨hheld, hstart⟩ := accepts_serve_iff.mp h
    rintro ⟨other, hother, hcomplete, -⟩
    cases hheld.symm.trans hother
    cases hstart.1.symm.trans hcomplete

/-- An operation runs after an act if it is started by it, or if it ran before and is not
dropped. -/
theorem number?_step {d : Desk τ} {a : Act τ} (hplain : d.Plain a) (op : String) (n : Nat) :
    (d.step a).handler.number? op = some n ↔
      (∃ letter ∈ d.accepts a, letter.message.id = op ∧ n = d.handler.lastNumber + 1) ∨
        d.handler.number? op = some n ∧ ¬d.Drops op a := by
  have hruns : ((d.step a).handler.number? op = some n) = (d.step a).handler.ledger.Runs op n := rfl
  rw [hruns, ledger_step hplain]
  cases haccepts : d.accepts a with
  | none => simp [Ledger.strike, ledger]
  | some letter =>
    have hkept : ¬d.Drops op a := not_drops_of_accepts haccepts op
    simp [Ledger.enter, ledger, hkept]

/-- The requests of a run, numbered from the last number on. -/
theorem requests_run {d : Desk τ} (hd : d.handler.link.session.initialized = true)
    (acts : List (Act τ)) :
    let b := d.handler.ledger
    (d.run acts).handler.ledger.requests = b.requests ++
      ((d.accepted acts).map Letter.message).mapIdx
        (fun k m => ⟨⟨b.id, b.lastNumber + k + 1⟩, m.id, m.payload, b.initialPayload⟩) ∧
    (d.run acts).handler.ledger.lastNumber = b.lastNumber + (d.accepted acts).length := by
  induction acts generalizing d with
  | nil => simp [run, accepted]
  | cons a acts ih =>
    obtain ⟨hrequests, hlast⟩ := ih (Called.initialized (d.called_step a) hd)
    have hrun : d.run (a :: acts) = (d.step a).run acts := rfl
    rw [hrun, hrequests, hlast, ledger_step (plain_of_initialized hd a), accepted]
    cases d.accepts a with
    | none => simp [Ledger.strike]
    | some letter => simp [Ledger.enter, List.mapIdx_cons, Nat.add_assoc, Nat.add_comm 1]

end Desk

/-! ## Letters -/

namespace Desk

/-- A subscription that a read brings was asked for by its text. -/
theorem asks_of_hear {h : Handler τ} {letter : Letter} (hhear : h.hear = some letter)
    (hkind : letter.message.kind = .subscribe) :
    h.link.session.subprotocol.Asks letter.text letter.message.id letter.message.payload := by
  cases hread : h.readMessage.1 with
  | error e =>
    rw [hear_of_error hread] at hhear
    cases hhear
  | ok m =>
    obtain ⟨text, reply, hdecode, rfl, hletter⟩ := hear_of_ok hread
    rw [hletter] at hhear
    cases hhear
    exact Session.asks_of_message hdecode hkind

/-- The desk speaks a subprotocol, and what it holds was asked for in it. -/
def Faithful (p : Subprotocol) (d : Desk τ) : Prop :=
  d.handler.link.session.subprotocol = p ∧
    ∀ letter ∈ d.held, letter.message.kind = .subscribe →
      p.Asks letter.text letter.message.id letter.message.payload

theorem Faithful.step {p : Subprotocol} {d : Desk τ} (hd : d.Faithful p) (a : Act τ) :
    (d.step a).Faithful p := by
  refine ⟨(Called.subprotocol (d.called_step a)).trans hd.1, ?_⟩
  cases a with
  | take =>
    rw [Desk.step]
    split
    · exact hd.2
    · intro letter hhear hkind
      rw [← hd.1]
      exact asks_of_hear hhear hkind
  | serve =>
    rw [Desk.step]
    split
    · exact hd.2
    · simp
  | aside m hm => exact hd.2

theorem Faithful.run {p : Subprotocol} {d : Desk τ} (hd : d.Faithful p) (acts : List (Act τ)) :
    (d.run acts).Faithful p := by
  induction acts generalizing d with
  | nil => exact hd
  | cons a acts ih => exact ih (hd.step a)

/-- Every letter that is accepted asks for a subscription. -/
theorem Faithful.asks {p : Subprotocol} {d : Desk τ} (hd : d.Faithful p) (acts : List (Act τ)) :
    ∀ letter ∈ d.accepted acts, p.Asks letter.text letter.message.id letter.message.payload := by
  induction acts generalizing d with
  | nil => simp [accepted]
  | cons a acts ih =>
    intro letter hletter
    rw [accepted, List.mem_append, Option.mem_toList] at hletter
    rcases hletter with hnow | hlater
    · cases a with
      | serve =>
        obtain ⟨hheld, hstart⟩ := accepts_serve_iff.mp hnow
        exact hd.2 letter hheld hstart.1
      | take | aside => cases hnow
    · exact ih (hd.step a) letter hlater

/-! ## Before the handshake -/

/-- Nothing was asked for and nothing is held. -/
def Quiet (id : Nat) (d : Desk τ) : Prop :=
  d.handler.ledger = ⟨id, none, 0, [], fun _ _ => False⟩ ∧ d.held = none

theorem Quiet.step {id : Nat} {d : Desk τ} (hd : d.Quiet id) {a : Act τ}
    (hinit : (d.step a).handler.link.session.initialized = false) : (d.step a).Quiet id := by
  obtain ⟨hledger, hheld⟩ := hd
  have hbefore : d.handler.link.session.initialized = false := by
    by_contra hset
    rw [Called.initialized (d.called_step a) (by simpa using hset)] at hinit
    cases hinit
  have hplain : d.Plain a := by
    rintro rfl
    obtain ⟨e, herror, -⟩ | ⟨payload, -, -, hsession⟩ := d.handler.link.handshake_cases
    · exact ⟨e, herror⟩
    · have hlink : (d.step .handshake).handler.link = d.handler.link.handshake.2 :=
        handshake_link d.handler
      rw [hlink, hsession] at hinit
      cases hinit
  refine ⟨?_, ?_⟩
  · have hnone : d.accepts a = none := by
      cases a with
      | serve => simp [accepts, hheld]
      | take | aside => rfl
    rw [ledger_step hplain, hnone, hledger]
    exact Ledger.strike_of_idle fun _ _ hruns => hruns.elim
  · cases a with
    | take =>
      have hhear : d.handler.hear = none :=
        hear_of_error (congrArg Prod.fst (Link.read_of_not_initialized hbefore))
      simp [Desk.step, hheld, hhear]
    | serve => simp [Desk.step, hheld]
    | aside m hm => exact hheld

theorem Quiet.run {id : Nat} {d : Desk τ} (hd : d.Quiet id) {acts : List (Act τ)}
    (hinit : (d.run acts).handler.link.session.initialized = false) : (d.run acts).Quiet id := by
  induction acts generalizing d with
  | nil => exact hd
  | cons a acts ih =>
    refine ih (hd.step ?_) hinit
    by_contra hset
    have hend := Called.initialized ((d.step a).called_run acts) (by simpa using hset)
    have hrun : d.run (a :: acts) = (d.step a).run acts := rfl
    rw [hrun, hend] at hinit
    cases hinit

end Desk

theorem ledger_handshake {h : Handler τ} {payload : Option Raw}
    (hok : h.link.handshake.1 = .ok payload) :
    h.handshake.2.ledger = { h.ledger with initialPayload := payload } := by
  rw [handshake]
  simp only [hok]
  rfl

/-- A connection before anything has happened to it. -/
def Desk.fresh (id : Nat) (p : Subprotocol) (transport : τ) : Desk τ :=
  { handler := Handler.fresh id p transport }

/-- **What a connection asks of the engine.** Take any connection in any subprotocol, whatever
happened to it before its handshake succeeded and whatever happens then. Its requests are the
letters that it has accepted, in order: the `k`-th has the number `k`, the id and the payload of its
message, and the payload of the handshake; and the text of the letter asks for just this id and
payload. A letter is accepted if nothing runs under its id, and an operation runs, under the number
of its request, from when it is accepted until it is dropped. -/
theorem requests_trace (id : Nat) (p : Subprotocol) (transport : τ) (before after : List (Act τ))
    {payload : Option Raw}
    (hshake : ((Desk.fresh id p transport).run before).handler.link.handshake.1 = .ok payload) :
    let start := ((Desk.fresh id p transport).run before).step .handshake
    (start.run after).handler.requests =
      ((start.accepted after).map Letter.message).mapIdx
        (fun k m => ⟨⟨id, k + 1⟩, m.id, m.payload, payload⟩) ∧
    (∀ letter ∈ start.accepted after, p.Asks letter.text letter.message.id letter.message.payload) ∧
    (∀ op, start.handler.number? op = none) ∧
    ∀ acts a op n, ((start.run acts).step a).handler.number? op = some n ↔
      (∃ letter ∈ (start.run acts).accepts a, letter.message.id = op ∧
        n = (start.accepted acts).length + 1) ∨
        (start.run acts).handler.number? op = some n ∧ ¬(start.run acts).Drops op a := by
  intro start
  have hlink : start.handler.link =
      ((Desk.fresh id p transport).run before).handler.link.handshake.2 :=
    handshake_link _
  obtain ⟨e, herror, -⟩ | ⟨_, hinit, -, hsession⟩ := Link.handshake_cases
    ((Desk.fresh id p transport).run before).handler.link
  · rw [hshake] at herror
    cases herror
  have hfresh : (Desk.fresh id p transport).Quiet id := by
    refine ⟨?_, rfl⟩
    simp [ledger, Desk.fresh, Handler.fresh, requests, number?]
  have hledger : start.handler.ledger = ⟨id, payload, 0, [], fun _ _ => False⟩ := by
    refine (ledger_handshake hshake).trans ?_
    rw [(hfresh.run hinit).1]
  have hstart : start.handler.link.session.initialized = true := by rw [hlink, hsession]
  have hunheard : (Desk.fresh id p transport).Faithful p := by
    refine ⟨rfl, fun letter hletter => ?_⟩
    cases hletter
  have hfaithful : start.Faithful p := (hunheard.run before).step _
  refine ⟨?_, hfaithful.asks after, ?_, ?_⟩
  · have hrequests := (Desk.requests_run hstart after).1
    rw [hledger] at hrequests
    simp only [List.nil_append, Nat.zero_add] at hrequests
    exact hrequests
  · intro op
    cases hnumber : start.handler.number? op with
    | none => rfl
    | some n =>
      have hruns : start.handler.ledger.Runs op n := hnumber
      rw [hledger] at hruns
      exact hruns.elim
  · intro acts a op n
    have hlast := (Desk.requests_run hstart acts).2
    rw [hledger, Nat.zero_add] at hlast
    have hinitialized := Called.initialized (start.called_run acts) hstart
    rw [← hlast]
    exact Desk.number?_step (Desk.plain_of_initialized hinitialized a) op n

/-- A client that uses one id three times and forgets it once. -/
def persistent : ScriptedTransport where
  inbox := [
    "\x7b\"type\":\"connection_init\",\"payload\":\x7b\"a\": 1\x7d\x7d",
    "\x7b\"id\":\"1\",\"type\":\"subscribe\",\"payload\":\x7b\"q\" : 1\x7d\x7d",
    "\x7b\"id\":\"1\",\"type\":\"subscribe\"\x7d",
    "\x7b\"type\":\"subscribe\"\x7d",
    "\x7b\"payload\":[ 2 ],\"id\":\"1\",\"type\":\"subscribe\"\x7d"]

/-- The engine ends the first subscription when the last text is read already. -/
def overtaking : List (Act ScriptedTransport) :=
  [.take, .serve, .take, .serve, .take, .serve, .take, .aside (.complete ⟨"1", ⟨7, 1⟩⟩) nofun,
    .serve]

theorem requests_trace_overtaking :
    let d := (Desk.fresh 7 .transport persistent).run [.take]
    d.handler.link.handshake.1 = .ok (some ⟨"\x7b\"a\": 1\x7d"⟩) ∧
      ((d.step .handshake).run overtaking).handler.requests =
        [⟨⟨7, 1⟩, "1", some ⟨"\x7b\"q\" : 1\x7d"⟩, some ⟨"\x7b\"a\": 1\x7d"⟩⟩,
          ⟨⟨7, 2⟩, "1", some ⟨"[ 2 ]"⟩, some ⟨"\x7b\"a\": 1\x7d"⟩⟩] := by
  have hshake : ((Desk.fresh 7 .transport persistent).run [.take]).handler.link.handshake.1 =
      .ok (some ⟨"\x7b\"a\": 1\x7d"⟩) := by decide +kernel
  exact ⟨hshake, (requests_trace 7 .transport persistent [.take] overtaking hshake).1.trans
    (by decide +kernel)⟩

end Handler
end StreamGateway
