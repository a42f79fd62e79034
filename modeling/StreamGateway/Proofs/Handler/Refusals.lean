import StreamGateway.Proofs.Handler.Modes
import StreamGateway.Proofs.Handler.Standing
import StreamGateway.Proofs.Json.ReadBack
import StreamGateway.Proofs.Protocol.Reports

/-! # Subscriptions that the engine refuses

The client is told of a refusal first, and its operation is ended then. If it cannot be told, the
operation is not ended either: it stays among the running ones and stays open, although the engine
has nothing to do with it, and the client cannot use its id again (`refusal_ends_iff`). A write that
fails behind that, when the client is told that the operation is over, does no harm. There are
always errors to send: an operation that runs is open (`Listed`), a channel knows where it was asked
for, and the errors that report a message can be read as a value. -/
namespace StreamGateway

open Json (Raw)

/-! ## The errors of a refusal -/

theorem Response.isValue_errorsOf (message : String) : (errorsOf message).IsValue := by
  have hkey : "message" ≠ Json.embeddedKey := by decide
  have hobject : (Json.obj [("message", .str message)]).Legible 126 :=
    .obj (by simpa using Json.Legible.str message) (by simpa using hkey)
  have hlegible : (Json.arr [.obj [("message", .str message)]]).Legible Json.deepest :=
    .arr (by simpa using hobject)
  exact ⟨_, Json.parse_render_ordered hlegible⟩

/-- There is a frame with the errors of a refusal for every open operation. -/
theorem Session.exists_errorsFrame {s : Session} {id : String} (hid : id ∈ s.opened)
    (horigin : s.subprotocol = .absinthe → ∃ origin, s.origin? id = some origin)
    (message : String) :
    ∃ frame, s.errorsFrame id (Response.errorsOf message) none = .ok frame := by
  by_cases hp : s.subprotocol = .absinthe
  · obtain ⟨origin, horigin⟩ := horigin hp
    obtain ⟨response, hresponse⟩ : ∃ response, errorsResponse (Response.errorsOf message) none =
        .ok response :=
      errorsResponse_ok_iff.mpr ⟨Response.isValue_errorsOf message, by simp⟩
    refine ⟨channelReply origin.joinRef origin.ref origin.topic "error" response, ?_⟩
    rw [errorsFrame, isOpen_iff.mpr hid, hp, horigin, hresponse]
    rfl
  · exact errorsFrame_of_object hp hid _ none

variable {τ : Type} [Transport τ]

theorem Link.writeErrors_ok_iff {l : Link τ} {id : String} {errors : Raw}
    {extensions : Option Raw} :
    (l.writeErrors id errors extensions).1 = .ok () ↔
      ∃ frame, l.session.errorsFrame id errors extensions = .ok frame ∧
        (Transport.send l.transport frame).1 = .ok () := by
  cases hframe : l.session.errorsFrame id errors extensions with
  | error f => simp [writeErrors, hframe]
  | ok frame =>
    have hsend : (l.send frame).1 = (Transport.send l.transport frame).1 := rfl
    rw [writeErrors_of_frame hframe]
    cases hresult : (l.send frame).1 with
    | error e =>
      constructor
      · intro h
        cases h
      · rintro ⟨_, hsame, hsent⟩
        cases hsame
        cases hresult.symm.trans (hsend.trans hsent)
    | ok _ => exact ⟨fun _ => ⟨frame, rfl, hsend.symm.trans hresult⟩, fun _ => rfl⟩

namespace Handler

/-! ## Telling the client -/

/-- The client hears of a refusal: there is a frame for it, and the connection takes the frame. -/
def Tells (h : Handler τ) (op message : String) : Prop :=
  ∃ frame, h.link.session.errorsFrame op (Response.errorsOf message) none = .ok frame ∧
    (Transport.send h.link.transport frame).1 = .ok ()

/-- The operation neither runs nor is open. -/
def Over (h : Handler τ) (op : String) : Prop := h.number? op = none ∧ op ∉ h.link.session.opened

theorem over_finish (h : Handler τ) (op : String) : (h.finish op).2.Over op := by
  have hnumber : (h.finish op).2.number? op = (h.forget op).number? op := rfl
  have hopened : (h.finish op).2.link.session.opened =
      ((h.forget op).link.done op).2.session.opened := rfl
  refine ⟨?_, ?_⟩
  · rw [hnumber, number?_forget, if_pos rfl]
  · rw [hopened, mem_opened_done]
    exact fun hmem => hmem.2 rfl

/-- A refusal that the client hears of finishes the operation, on the link behind the errors. -/
theorem reject_of_tells {h : Handler τ} {op message : String} (htells : h.Tells op message) :
    ∃ link, (h.reject op message).2 = (({ h with link } : Handler τ).finish op).2 := by
  have hsent : (h.sendErrors op (Response.errorsOf message) none).1 = .ok () := by
    show Except.mapError ofFailure (h.link.writeErrors op (Response.errorsOf message) none).1 =
      .ok ()
    rw [Link.writeErrors_ok_iff.mpr htells]
    rfl
  have hpair : h.sendErrors op (Response.errorsOf message) none =
      (.ok (), { h with link := (h.link.writeErrors op (Response.errorsOf message) none).2 }) :=
        Prod.ext hsent rfl
  rw [reject, hpair]
  exact ⟨_, rfl⟩

/-- It ends the operation, whatever becomes of the writes behind it. -/
theorem over_of_tells {h : Handler τ} {op message : String} (htells : h.Tells op message) :
    (h.reject op message).2.Over op := by
  obtain ⟨link, hfinish⟩ := reject_of_tells htells
  rw [hfinish]
  exact over_finish _ op

/-- A refusal that the client does not hear of changes nothing but the connection. -/
theorem reject_of_not_tells {h : Handler τ} {op message : String} (htells : ¬h.Tells op message) :
    ∃ link, (h.reject op message).2 = { h with link } ∧ link.session = h.link.session := by
  obtain ⟨f, hf⟩ : ∃ f, (h.link.writeErrors op (Response.errorsOf message) none).1 = .error f := by
    cases hwrite : (h.link.writeErrors op (Response.errorsOf message) none).1 with
    | error f => exact ⟨f, rfl⟩
    | ok _ => exact absurd (Link.writeErrors_ok_iff.mp hwrite) htells
  have hsend : h.sendErrors op (Response.errorsOf message) none = (.error (ofFailure f),
      { h with link := (h.link.writeErrors op (Response.errorsOf message) none).2 }) := by
    rw [sendErrors]
    dsimp only
    rw [hf]
    rfl
  rw [reject, hsend]
  exact ⟨_, rfl, h.link.writeErrors_session op _ none⟩

/-- The stage at which the client is told, whether or not that works. -/
theorem step_reporting (h : Handler τ) (sink : Sink) (e : EngineError)
    (answer : Except EngineError Unit) :
    ((Resolver.reporting sink e).step answer h).1 = .finished ∧
      ((Resolver.reporting sink e).step answer h).2.subscriptions =
        (h.reject sink.operationId e.message).2.subscriptions ∧
      ((Resolver.reporting sink e).step answer h).2.link =
        (h.reject sink.operationId e.message).2.link := by
  simp only [Resolver.step]
  split <;> rename_i hreject <;> rw [hreject] <;> exact ⟨rfl, rfl, rfl⟩

omit [Transport τ] in
/-- Whether a client can subscribe under an id depends on what runs. -/
theorem subscribe_fst {h : Handler τ} {m : Message} {op : String} (hm : m.id = op) (hop : op ≠ "") :
    (h.number? op = none → (h.subscribe m).1 = .ok ()) ∧
      (h.number? op ≠ none → (h.subscribe m).1 = .error (.duplicateSubscription op)) := by
  rw [subscribe, hm, if_neg hop]
  cases h.number? op <;> simp

/-! ## What runs is open -/

/-- The operations that run are open; there may be others. -/
def Listed (b : Books) : Prop := ∀ op, b.number? op ≠ none → op ∈ b.opened

theorem Listed.change {b b' : Books} (hb : Listed b) (hc : Change b b') : Listed b' := by
  intro x hx
  cases hc with
  | nothing hnumber hlast hjobs hopened =>
    rw [hnumber] at hx
    exact (hopened x).mpr (hb x hx)
  | starts request hid hop hfree hnumber hlast hjobs hopened =>
    rw [hnumber] at hx
    rw [hopened]
    by_cases heq : x = request.operationId
    · exact Or.inl heq
    · rw [if_neg heq] at hx
      exact Or.inr (hb x hx)
  | repeats op hruns hnumber hlast hjobs hopened =>
    rw [hnumber] at hx
    exact (hopened x).mpr (Or.inr (hb x hx))
  | ends op jobs hnumber hlast hjobs hunsubscribe hopened =>
    rw [hnumber] at hx
    by_cases heq : x = op
    · rw [if_pos heq] at hx
      exact absurd rfl hx
    · rw [if_neg heq] at hx
      exact (hopened x).mpr ⟨hb x hx, heq⟩

theorem Listed.moves {h : Handler τ} (hh : Listed h.books) (moves : List (Move τ)) :
    Listed (moves.foldl move h).books := by
  induction moves generalizing h with
  | nil => exact hh
  | cons m moves ih =>
    refine ih ?_
    by_cases hm : m = .forgetAll
    · subst hm
      exact fun op hop => absurd rfl hop
    · exact hh.change (h.change_move hm)

/-! ## The link of a handler -/

/-- From one state of a link to another by calls on it. -/
def Called (l l' : Link τ) : Prop := ∃ calls : List (Link.Call τ), l' = l.performAll calls

theorem Called.refl (l : Link τ) : Called l l := ⟨[], rfl⟩

theorem Called.one (l : Link τ) (call : Link.Call τ) : Called l (l.perform call) := ⟨[call], rfl⟩

theorem Called.trans {l l' l'' : Link τ} (h : Called l l') (h' : Called l' l'') : Called l l'' := by
  obtain ⟨calls, rfl⟩ := h
  obtain ⟨more, rfl⟩ := h'
  exact ⟨calls ++ more, by rw [Link.performAll, Link.performAll, Link.performAll,
    List.foldl_append]⟩

theorem called_handle (h : Handler τ) (m : Message) : Called h.link (h.handle m).2.link := by
  rw [handle]
  split
  · exact .refl _
  · have hpong : Called h.link (h.withLink (h.link.pong m)).2.link := .one h.link (.pong m)
    split <;> rename_i hwith <;> rw [hwith] at hpong <;> exact hpong
  · exact .refl _
  · have hsubscribe : Called h.link (h.subscribe m).2.link := h.subscribe_link m ▸ .refl h.link
    split <;> rename_i hwith <;> rw [hwith] at hsubscribe <;> exact hsubscribe
  · rw [complete]
    split
    · rw [requestError]
      split
      · exact .refl _
      · -- a plain text is no call of its own, but it only touches the connection
        exact .one h.link (.stir fun t => (Transport.send t _).2)
    · show Called h.link (h.forget m.id).link
      rw [forget_link]
      exact .refl _

theorem called_finish (h : Handler τ) (op : String) : Called h.link (h.finish op).2.link := by
  have hdone : Called (h.forget op).link (h.finish op).2.link := .one _ (.done op)
  rwa [forget_link] at hdone

theorem called_reject (h : Handler τ) (op message : String) :
    Called h.link (h.reject op message).2.link := by
  have hsent : Called h.link (h.sendErrors op (Response.errorsOf message) none).2.link :=
    .one h.link (.errors op (Response.errorsOf message) none)
  rw [reject]
  split <;> rename_i hsend <;> rw [hsend] at hsent
  · exact hsent
  · exact hsent.trans (called_finish _ op)

theorem handshake_link (h : Handler τ) : h.handshake.2.link = h.link.handshake.2 := by
  simp only [handshake]
  split <;> rfl

/-- Whatever happens to a handler, its link is only called. -/
theorem called_move (h : Handler τ) (m : Move τ) : Called h.link (h.move m).link := by
  cases m with
  | stir f => exact .one h.link (.stir f)
  | handshake =>
    show Called h.link h.handshake.2.link
    rw [handshake_link]
    exact .one h.link .handshake
  | read =>
    have hread : Called h.link h.readMessage.2.link := .one h.link .read
    show Called h.link h.readOne.2.link
    rw [readOne]
    split <;> rename_i hmessage <;> rw [hmessage] at hread
    · exact hread
    · exact hread.trans (called_handle _ _)
  | next sink response =>
    show Called h.link (h.respond sink.operationId response).2.link
    rw [respond]
    split
    · exact .refl _
    · split
      · exact .one h.link (.errors _ _ _)
      · exact .one h.link (.data _ _ _)
  | complete sink => exact called_finish h sink.operationId
  | resolve stage answer =>
    cases stage with
    | reporting sink e =>
      show Called h.link ((Resolver.reporting sink e).step answer h).2.link
      rw [(step_reporting h sink e answer).2.2]
      exact called_reject h sink.operationId e.message
    | checking | finished => exact .refl _
    | subscribing | cancelling | unsubscribing => cases answer <;> exact .refl _
  | mark =>
    show Called h.link h.markClosed.2.link
    rw [markClosed]
    split <;> exact .refl _
  | departed answer => cases answer <;> exact .refl _
  | forgetAll => exact .refl _
  | disconnect =>
    have hclose : Called h.link (h.withLink (h.link.close 1000 "")).2.link :=
      .one h.link (.close 1000 "")
    show Called h.link h.disconnect.link
    rw [disconnect]
    split <;> rename_i hwith <;> rw [hwith] at hclose <;> exact hclose

theorem called_moves (h : Handler τ) (moves : List (Move τ)) :
    Called h.link (moves.foldl move h).link := by
  induction moves generalizing h with
  | nil => exact .refl _
  | cons m moves ih => exact (h.called_move m).trans (ih (h.move m))

/-- Whatever has happened to a handler, there is a frame with the errors of each operation that
runs. -/
theorem Life.exists_errorsFrame (l : Life τ) {op : String} (hop : l.handler.number? op ≠ none)
    (message : String) :
    ∃ frame, l.handler.link.session.errorsFrame op (Response.errorsOf message) none =
      .ok frame := by
  have hnewborn : Listed (fresh l.id l.subprotocol l.transport).books :=
    fun op hop => absurd rfl hop
  have hopen : op ∈ l.handler.link.session.opened := hnewborn.moves l.moves op hop
  obtain ⟨calls, hcalls⟩ : Called (Link.fresh l.subprotocol l.transport) l.handler.link :=
    called_moves (fresh l.id l.subprotocol l.transport) l.moves
  refine Session.exists_errorsFrame hopen (fun hp => ?_) message
  rw [hcalls] at hp hopen ⊢
  rw [Link.performAll_subprotocol] at hp
  exact Link.exists_origin hp hopen

/-! ## Refusals -/

/-- **A refused subscription is ended exactly if the client can be told.** The engine refuses a
request, anything may happen to the handler meanwhile, and the request still runs when the client is
to be told. The task comes to its end either way. The operation is over behind it exactly if there
is a frame with its errors and the connection takes that frame, whatever becomes of later writes;
then the client can use the id again. Otherwise nothing has changed, and the id is taken. In the
life of a handler there always is such a frame, so that it is up to the connection alone. -/
theorem refusal_ends_iff (before : Handler τ) (request : SubscribeRequest) (e : EngineError)
    (between : List (Move τ)) (answer : Except EngineError Unit) :
    let asked := (Resolver.subscribing request).step (.error e) before
    let h := between.foldl move asked.2
    let told := asked.1.step answer h
    let op := request.operationId
    h.isRunning op request.id.number = true →
      told.1 = .finished ∧
      (told.2.Over op ↔ h.Tells op e.message) ∧
      (∀ m : Message, m.id = op → op ≠ "" → h.Tells op e.message →
        (told.2.subscribe m).1 = .ok ()) ∧
      (¬h.Tells op e.message →
        told.2.subscriptions = h.subscriptions ∧ told.2.link.session = h.link.session ∧
        ∀ m : Message, m.id = op → op ≠ "" →
          (told.2.subscribe m).1 = .error (.duplicateSubscription op)) ∧
      ((∃ l : Life τ, l.handler = before) →
        ∃ frame, h.link.session.errorsFrame op (Response.errorsOf e.message) none = .ok frame) := by
  intro asked h told op hruns
  have hnumber : h.number? op = some request.id.number := isRunning_iff.mp hruns
  obtain ⟨hfinished, hsubscriptions, hlink⟩ := step_reporting h request.sink e answer
  have htold (x : String) : told.2.number? x = (h.reject op e.message).2.number? x :=
    congrArg (List.lookup x) hsubscriptions
  have hover : told.2.Over op ↔ (h.reject op e.message).2.Over op := by
    rw [Over, Over, htold, show told.2.link = (h.reject op e.message).2.link from hlink]
  have huntold (htells : ¬h.Tells op e.message) : told.2.number? op ≠ none := by
    obtain ⟨link, hsame, -⟩ := reject_of_not_tells htells
    have hkept : ({ h with link } : Handler τ).number? op = h.number? op := rfl
    rw [htold, hsame, hkept, hnumber]
    exact Option.some_ne_none _
  refine ⟨hfinished, ⟨fun hended => ?_, fun htells => hover.mpr (over_of_tells htells)⟩, ?_, ?_, ?_⟩
  · by_contra htells
    exact huntold htells hended.1
  · intro m hm hop htells
    exact (subscribe_fst hm hop).1 (hover.mpr (over_of_tells htells)).1
  · intro htells
    obtain ⟨link, hsame, hsession⟩ := reject_of_not_tells htells
    refine ⟨?_, ?_, ?_⟩
    · rw [show told.2.subscriptions = (h.reject op e.message).2.subscriptions from hsubscriptions,
        hsame]
    · rw [show told.2.link = (h.reject op e.message).2.link from hlink, hsame]
      exact hsession
    · intro m hm hop
      exact (subscribe_fst hm hop).2 (huntold htells)
  · rintro ⟨l, rfl⟩
    -- the refusal and what happened meanwhile belong to the life as well
    let later : Life τ :=
      { l with moves := l.moves ++ .resolve (.subscribing request) (.error e) :: between }
    have hlater : later.handler = h := by
      show (l.moves ++ _).foldl move (fresh l.id l.subprotocol l.transport) = h
      rw [List.foldl_append]
      rfl
    rw [← hlater]
    exact later.exists_errorsFrame (by rw [hlater, hnumber]; exact Option.some_ne_none _) e.message

/-- A client has subscribed as operation 1, and the engine is asked to start that. -/
def hopeful : Life ScriptedTransport where
  id := 1
  subprotocol := .transport
  transport := {}
  moves :=
    [.stir (·.push "\x7b\"type\":\"connection_init\"\x7d"), .handshake,
      .stir (·.push "\x7b\"id\":\"1\",\"type\":\"subscribe\"\x7d"), .read]

/-- What the engine was asked for. -/
def hopefulRequest : SubscribeRequest := ⟨⟨1, 1⟩, "1", none, none⟩

/-- The next write times out. -/
def sluggish : List (Move ScriptedTransport) := [.stir (·.failWrite 0 { kind := .timedOut })]

theorem refusal_ends_iff_hopeful :
    let asked := (Resolver.subscribing hopefulRequest).step
      (.error (.rejected "no")) hopeful.handler
    let h := sluggish.foldl move asked.2
    let told := asked.1.step (.ok ()) h
    h.isRunning "1" 1 = true ∧ (told.2.Over "1" ↔ h.Tells "1" "operation rejected: no") ∧
      ∃ frame, h.link.session.errorsFrame "1" (Response.errorsOf "operation rejected: no") none =
        .ok frame := by
  intro asked h told
  have hruns : h.isRunning "1" 1 = true := by decide +kernel
  have hall := refusal_ends_iff hopeful.handler hopefulRequest (.rejected "no") sluggish
    (.ok ()) hruns
  exact ⟨hruns, hall.2.1, hall.2.2.2.2 ⟨hopeful, rfl⟩⟩

/-- **A refusal that is not heard leaves the operation behind.** The write of the errors times out
and the connection goes on. The operation still runs and is still open, and a second attempt under
its id is turned down. -/
theorem unheard_refusal_leaves_operation :
    let asked := (Resolver.subscribing hopefulRequest).step
      (.error (.rejected "no")) hopeful.handler
    let told := asked.1.step (.ok ()) (sluggish.foldl move asked.2)
    told.1 = .finished ∧ told.2.subscriptions = [("1", 1)] ∧ told.2.link.session.opened = ["1"] ∧
      (told.2.link.send "\x7b\x7d").1 = .ok () ∧
      (told.2.subscribe ⟨"1", .subscribe, none⟩).1 = .error (.duplicateSubscription "1") := by
  decide +kernel

end Handler
end StreamGateway
