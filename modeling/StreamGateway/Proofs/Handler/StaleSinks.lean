import StreamGateway.Proofs.Handler.Changes
import StreamGateway.Simulation.ScriptedTransport

/-! # Sinks of subscriptions that have ended

A sink knows the number of its subscription, but it acts on whatever goes by its operation id. A
client may complete an operation and subscribe again under the same id while the engine still has
the sink of the first subscription, so the old sink reaches the new subscription. This module says
exactly when a sink whose subscription does not run any more is harmless: when its operation is
neither open nor taken by a newer subscription (`deeds_untouched_iff`). As long as the running
operations were not dropped all at once, which only closing does, open operations are those that run
(`Life.opened_iff`), and then harmless means that no newer subscription runs under the id. -/
namespace StreamGateway

open Json (Raw)

namespace Handler

/-! ## What an engine does for a subscription -/

/-- What the engine can do on behalf of one subscription. -/
inductive Deed where
  | next (response : Raw)
  | complete
  /-- It refuses to start the subscription. -/
  | refuse (e : EngineError)

section

variable {τ : Type} [Transport τ]

/-- The handler after a deed for the subscription of a sink. -/
def Deed.act (sink : Sink) (h : Handler τ) : Deed → Handler τ
  | .next response => (sink.next h response).2
  | .complete => (sink.complete h).2
  | .refuse e => (h.reject sink.operationId e.message).2

/-- The running operations are the same, and so is the link: nothing was sent, and nothing was
opened or closed. -/
def Untouched (h h' : Handler τ) : Prop :=
  h'.subscriptions = h.subscriptions ∧ h'.link = h.link

omit [Transport τ] in
theorem forget_of_not_running {h : Handler τ} {op : String} (hop : h.number? op = none) :
    h.forget op = h := by
  rw [forget, hop]

theorem respond_of_not_open {h : Handler τ} {op : String} (hop : op ∉ h.link.session.opened)
    (response : Raw) : (h.respond op response).2 = h := by
  have hopen : h.link.session.isOpen op = false :=
    Bool.eq_false_iff.mpr fun hopen => hop (Session.isOpen_iff.mp hopen)
  rw [respond]
  split
  · rfl
  · split
    · simp [sendErrors, Link.writeErrors, Session.errorsFrame, hopen]
    · simp [withLink, Link.writeData, Session.dataFrame, hopen]

theorem finish_of_not_open {h : Handler τ} {op : String} (hop : op ∉ h.link.session.opened)
    (hnumber : h.number? op = none) : (h.finish op).2 = h := by
  have hopen : h.link.session.isOpen op = false :=
    Bool.eq_false_iff.mpr fun hopen => hop (Session.isOpen_iff.mp hopen)
  rw [finish, forget_of_not_running hnumber]
  simp [withLink, Link.done, hopen]

theorem reject_of_not_open {h : Handler τ} {op : String} (hop : op ∉ h.link.session.opened)
    (message : String) : (h.reject op message).2 = h := by
  have hopen : h.link.session.isOpen op = false :=
    Bool.eq_false_iff.mpr fun hopen => hop (Session.isOpen_iff.mp hopen)
  have hsent : h.sendErrors op (Response.errorsOf message) none =
      (.error (.protocol (.unknownOperation op)), h) := by
    simp only [sendErrors, Link.writeErrors, Session.errorsFrame, hopen]
    rfl
  rw [reject, hsent]

/-- A completion closes what goes by its id, whatever its number. -/
theorem not_open_of_complete_untouched {h : Handler τ} {sink : Sink}
    (hu : Untouched h (Deed.complete.act sink h)) :
    sink.operationId ∉ h.link.session.opened ∧ h.number? sink.operationId = none := by
  have hgo : (Deed.complete.act sink h).number? sink.operationId = none := by
    have hbooks : (h.finish sink.operationId).2.number? = (h.forget sink.operationId).number? := rfl
    show (h.finish sink.operationId).2.number? sink.operationId = none
    rw [hbooks, number?_forget, if_pos rfl]
  have hopened : sink.operationId ∉ (Deed.complete.act sink h).link.session.opened := fun hmem =>
    ((mem_opened_done (h.forget sink.operationId).link _ _).mp hmem).2 rfl
  rw [hu.2] at hopened
  rw [number?, hu.1] at hgo
  exact ⟨hopened, hgo⟩

/-- **When the engine's deeds for a subscription touch nothing**: its operation is neither open nor
running. -/
theorem deeds_untouched_iff (h : Handler τ) (sink : Sink) :
    (∀ deed : Deed, Untouched h (deed.act sink h)) ↔
      sink.operationId ∉ h.link.session.opened ∧ h.number? sink.operationId = none := by
  refine ⟨fun hall => not_open_of_complete_untouched (hall .complete), ?_⟩
  rintro ⟨hopen, hnumber⟩ deed
  have hsame : deed.act sink h = h := by
    cases deed with
    | next response => exact respond_of_not_open hopen response
    | complete => exact finish_of_not_open hopen hnumber
    | refuse e => exact reject_of_not_open hopen e.message
  rw [hsame]
  exact ⟨rfl, rfl⟩

/-! ## The life of a handler -/

/-- What can happen to a handler in one go. -/
inductive Move (τ : Type) where
  /-- The connection changes by itself: input comes in, or the client leaves. -/
  | stir (f : τ → τ)
  | handshake
  /-- A message is read and handled. -/
  | read
  | next (sink : Sink) (response : Raw)
  | complete (sink : Sink)
  /-- A task that calls the engine goes on. -/
  | resolve (stage : Resolver) (answer : Except EngineError Unit)
  | mark
  | departed (answer : Except EngineError Unit)
  | forgetAll
  | disconnect

def move (h : Handler τ) : Move τ → Handler τ
  | .stir f => { h with link := { h.link with transport := f h.link.transport } }
  | .handshake => h.handshake.2
  | .read => h.readOne.2
  | .next sink response => (sink.next h response).2
  | .complete sink => (sink.complete h).2
  | .resolve stage answer => (stage.step answer h).2
  | .mark => h.markClosed.2
  | .departed answer => h.clientUnsubscribed answer
  | .forgetAll => h.forgetAll
  | .disconnect => h.disconnect

/-- How a handler began, and what has happened to it. Its work is never picked up, so it remembers
every subscription it has started. -/
structure Life (τ : Type) where
  id : Nat
  subprotocol : Subprotocol
  transport : τ
  moves : List (Move τ)

/-- The handler at the end. -/
def Life.handler (l : Life τ) : Handler τ :=
  l.moves.foldl move (.fresh l.id l.subprotocol l.transport)

/-- The sink belongs to a subscription that the handler has started. -/
def Started (h : Handler τ) (sink : Sink) : Prop :=
  ∃ request, .subscribe request ∈ h.submitted ∧ request.sink = sink

/-- A move that does not drop all operations is one go, except that it may mark the handler. -/
theorem change_move (h : Handler τ) {m : Move τ} (hm : m ≠ .forgetAll) :
    Change h.books (h.move m).books := by
  cases m with
  | stir f => exact (Go.refl h.books).change
  | handshake => exact h.go_handshake.change
  | read => exact h.go_readOne.change
  | next sink response =>
    show Change h.books (h.respond sink.operationId response).2.books
    rw [books_respond]
    exact (Go.refl h.books).change
  | complete sink => exact (h.go_finish sink.operationId).change
  | resolve stage answer => exact (h.go_resolver stage answer).change
  | mark =>
    show Change h.books h.markClosed.2.books
    rw [books_markClosed]
    exact .nothing rfl rfl rfl fun _ => Iff.rfl
  | departed answer =>
    show Change h.books (h.clientUnsubscribed answer).books
    rw [books_clientUnsubscribed]
    exact (Go.refl h.books).change
  | forgetAll => exact absurd rfl hm
  | disconnect =>
    show Change h.books h.disconnect.books
    rw [books_disconnect]
    exact (Go.refl h.books).change

/-! ## Numbers only grow -/

/-- Of all subscriptions that were started under an id, the one that runs is the last. -/
structure Numbered (b : Books) : Prop where
  running_le : ∀ op n, b.number? op = some n → n ≤ b.lastNumber
  started_le : ∀ request, .subscribe request ∈ b.submitted → request.id.number ≤ b.lastNumber
  started_le_running : ∀ op n, b.number? op = some n → ∀ request, .subscribe request ∈ b.submitted →
    request.operationId = op → request.id.number ≤ n

/-- It is enough that nothing runs and nothing was started that did not before. -/
theorem Numbered.of_subset {b b' : Books} (hb : Numbered b) (hlast : b'.lastNumber = b.lastNumber)
    (hnumber : ∀ op n, b'.number? op = some n → b.number? op = some n)
    (hstarted : ∀ request, .subscribe request ∈ b'.submitted → .subscribe request ∈ b.submitted) :
    Numbered b' := by
  constructor
  · intro op n hn
    rw [hlast]
    exact hb.running_le op n (hnumber op n hn)
  · intro request hrequest
    rw [hlast]
    exact hb.started_le request (hstarted request hrequest)
  · intro op n hn request hrequest hop
    exact hb.started_le_running op n (hnumber op n hn) request (hstarted request hrequest) hop

theorem Numbered.change {b b' : Books} (hb : Numbered b) (hc : Change b b') : Numbered b' := by
  cases hc with
  | nothing hnumber hlast hjobs hopened =>
    exact hb.of_subset hlast (fun _ _ hn => hnumber ▸ hn) fun _ hr => hjobs ▸ hr
  | repeats op hruns hnumber hlast hjobs hopened =>
    exact hb.of_subset hlast (fun _ _ hn => hnumber ▸ hn) fun _ hr => hjobs ▸ hr
  | starts request hid hop hfree hnumber hlast hjobs hopened =>
    have hnew : request.id.number = b.lastNumber + 1 := congrArg SubscriptionId.number hid
    have hstarted (r : SubscribeRequest) (hr : .subscribe r ∈ b'.submitted) :
        r = request ∨ .subscribe r ∈ b.submitted := by
      rw [hjobs] at hr
      rcases List.mem_append.mp hr with hr | hr
      · exact Or.inr hr
      · cases List.mem_singleton.mp hr
        exact Or.inl rfl
    constructor
    · intro op n hn
      rw [hnumber] at hn
      rw [hlast]
      split at hn
      · cases hn
        exact Nat.le_refl _
      · exact Nat.le_succ_of_le (hb.running_le op n hn)
    · intro r hr
      rw [hlast]
      rcases hstarted r hr with rfl | hr
      · exact Nat.le_of_eq hnew
      · exact Nat.le_succ_of_le (hb.started_le r hr)
    · intro op n hn r hr hrop
      rw [hnumber] at hn
      split at hn <;> rename_i heq
      · -- the new number exceeds all that were given before
        cases hn
        rcases hstarted r hr with rfl | hr
        · exact Nat.le_of_eq hnew
        · exact Nat.le_succ_of_le (hb.started_le r hr)
      · rcases hstarted r hr with rfl | hr
        · exact absurd hrop.symm heq
        · exact hb.started_le_running op n hn r hr hrop
  | ends op jobs hnumber hlast hjobs hunsubscribe hopened =>
    refine hb.of_subset hlast (fun x n hn => ?_) fun r hr => ?_
    · rw [hnumber] at hn
      split at hn
      · cases hn
      · exact hn
    · rw [hjobs] at hr
      rcases List.mem_append.mp hr with hr | hr
      · exact hr
      · -- the engine is only asked to stop something
        obtain ⟨n, hn, -⟩ := hunsubscribe _ hr
        cases hn

theorem Numbered.forgetAll {b : Books} (hb : Numbered b) :
    Numbered { b with number? := fun _ => none } :=
  ⟨nofun, hb.started_le, nofun⟩

/-! ## What runs is what is open -/

/-- The open operations are those that run. -/
def Matched (b : Books) : Prop := ∀ op, op ∈ b.opened ↔ b.number? op ≠ none

theorem Matched.change {b b' : Books} (hb : Matched b) (hc : Change b b') : Matched b' := by
  intro x
  cases hc with
  | nothing hnumber hlast hjobs hopened => rw [hopened, hb, hnumber]
  | starts request hid hop hfree hnumber hlast hjobs hopened =>
    rw [hopened, hb, hnumber]
    by_cases hx : x = request.operationId
    · simp [hx]
    · simp [hx]
  | repeats op hruns hnumber hlast hjobs hopened =>
    -- the operation runs already, so opening it once more adds nothing
    rw [hopened, hb, hnumber]
    refine ⟨?_, Or.inr⟩
    rintro (rfl | hx)
    · exact hruns
    · exact hx
  | ends op jobs hnumber hlast hjobs hunsubscribe hopened =>
    rw [hopened, hb, hnumber]
    by_cases hx : x = op
    · simp [hx]
    · simp [hx]

theorem numbered_moves {h : Handler τ} (hh : Numbered h.books) (moves : List (Move τ)) :
    Numbered (moves.foldl move h).books := by
  induction moves generalizing h with
  | nil => exact hh
  | cons m moves ih =>
    refine ih ?_
    by_cases hm : m = .forgetAll
    · subst hm
      exact hh.forgetAll
    · exact hh.change (h.change_move hm)

theorem matched_moves {h : Handler τ} (hh : Matched h.books) {moves : List (Move τ)}
    (hmoves : .forgetAll ∉ moves) : Matched (moves.foldl move h).books := by
  induction moves generalizing h with
  | nil => exact hh
  | cons m moves ih =>
    have hm : .forgetAll ≠ m := List.ne_of_not_mem_cons hmoves
    exact ih (hh.change (h.change_move hm.symm)) (List.not_mem_of_not_mem_cons hmoves)

namespace Life

theorem numbered (l : Life τ) : Numbered l.handler.books := by
  refine numbered_moves ?_ l.moves
  constructor <;> simp

theorem matched (l : Life τ) (hl : .forgetAll ∉ l.moves) : Matched l.handler.books :=
  matched_moves (fun op => by simp) hl

/-- A subscription that does not run any more and whose operation does has been followed by a newer
one. -/
theorem lt_of_stale (l : Life τ) {sink : Sink} (hstarted : Started l.handler sink)
    (hstale : l.handler.isRunning sink.operationId sink.id.number = false) {n : Nat}
    (hn : l.handler.number? sink.operationId = some n) : sink.id.number < n := by
  obtain ⟨request, hmem, rfl⟩ := hstarted
  have hle : request.id.number ≤ n := l.numbered.started_le_running _ n hn request hmem rfl
  refine Nat.lt_of_le_of_ne hle ?_
  rintro rfl
  exact Bool.eq_false_iff.mp hstale (isRunning_iff.mpr hn)

/-- **When a subscription that has ended touches nothing.** Whatever has happened to a handler, the
deeds of the engine for a subscription that was started and does not run any more touch nothing
exactly when its operation is not open and no newer subscription runs under its id; unless all
operations were dropped at once, the latter is enough. -/
theorem stale_deeds_untouched_iff (l : Life τ) (sink : Sink) (hstarted : Started l.handler sink)
    (hstale : l.handler.isRunning sink.operationId sink.id.number = false) :
    ((∀ deed : Deed, Untouched l.handler (deed.act sink l.handler)) ↔
        sink.operationId ∉ l.handler.link.session.opened ∧
          ∀ n, sink.id.number < n → l.handler.number? sink.operationId ≠ some n) ∧
      (.forgetAll ∉ l.moves →
        ((∀ deed : Deed, Untouched l.handler (deed.act sink l.handler)) ↔
          ∀ n, sink.id.number < n → l.handler.number? sink.operationId ≠ some n)) := by
  have hnewer : l.handler.number? sink.operationId = none ↔
      ∀ n, sink.id.number < n → l.handler.number? sink.operationId ≠ some n := by
    refine ⟨fun hnone n _ hn => ?_, fun hall => ?_⟩
    · rw [hnone] at hn
      cases hn
    · cases hn : l.handler.number? sink.operationId with
      | none => rfl
      | some n => exact absurd hn (hall n (l.lt_of_stale hstarted hstale hn))
  rw [deeds_untouched_iff, hnewer]
  refine ⟨Iff.rfl, fun hl => ⟨And.right, fun hall => ⟨?_, hall⟩⟩⟩
  -- an open operation runs, and by then under a newer number
  have hmatched := l.matched hl sink.operationId
  exact fun hopen => hmatched.mp hopen (hnewer.mpr hall)

end Life
end

/-! ## A client that subscribes twice under one id -/

/-- A client subscribes, completes and subscribes again, each time as operation 1. -/
def resubscribed : Life ScriptedTransport where
  id := 1
  subprotocol := .transport
  transport := {}
  moves :=
    [.stir (·.push "\x7b\"type\":\"connection_init\"\x7d"), .handshake] ++
      ["subscribe", "complete", "subscribe"].flatMap fun type =>
        [.stir (·.push ("\x7b\"id\":\"1\",\"type\":\"" ++ type ++ "\"\x7d")), .read]

/-- The sink of its first subscription. -/
def firstSink : Sink := ⟨"1", ⟨1, 1⟩⟩

theorem started_firstSink : Started resubscribed.handler firstSink :=
  ⟨⟨⟨1, 1⟩, "1", none, none⟩, by decide +kernel, rfl⟩

theorem stale_firstSink :
    resubscribed.handler.isRunning firstSink.operationId firstSink.id.number = false := by
  decide +kernel

theorem stale_deeds_untouched_iff_resubscribed :
    Started resubscribed.handler firstSink ∧
      resubscribed.handler.isRunning firstSink.operationId firstSink.id.number = false ∧
      ((∀ deed : Deed, Untouched resubscribed.handler (deed.act firstSink resubscribed.handler)) ↔
        firstSink.operationId ∉ resubscribed.handler.link.session.opened ∧
          ∀ n, firstSink.id.number < n →
            resubscribed.handler.number? firstSink.operationId ≠ some n) :=
  ⟨started_firstSink, stale_firstSink,
    (resubscribed.stale_deeds_untouched_iff firstSink started_firstSink stale_firstSink).1⟩

/-- **An old sink reaches the new subscription.** The first subscription is over and the second one
runs; a result of the first is sent to the client as one of the second, and its completion, or its
refusal, ends the second. -/
theorem firstSink_reaches_second :
    Started resubscribed.handler firstSink ∧
      resubscribed.handler.isRunning firstSink.operationId firstSink.id.number = false ∧
      resubscribed.handler.subscriptions = [("1", 2)] ∧
      resubscribed.handler.link.session.opened = ["1"] ∧
      ((Deed.next ⟨"\x7b\x7d"⟩).act firstSink resubscribed.handler).link.transport.sent =
        "\x7b\"id\":\"1\",\"type\":\"next\",\"payload\":\x7b\x7d\x7d" ::
          resubscribed.handler.link.transport.sent ∧
      (Deed.complete.act firstSink resubscribed.handler).subscriptions = [] ∧
      (Deed.complete.act firstSink resubscribed.handler).link.session.opened = [] ∧
      ((Deed.refuse (.rejected "no")).act firstSink resubscribed.handler).subscriptions = [] :=
  ⟨started_firstSink, stale_firstSink, by decide +kernel⟩

end Handler
end StreamGateway
