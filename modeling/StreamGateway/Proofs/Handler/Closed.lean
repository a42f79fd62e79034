import StreamGateway.Proofs.Handler.Standing
import StreamGateway.Simulation.ScriptedTransport

/-! # Messages to a handler that is closed

Closing a handler stops everything that runs and sets a mark. A drain that has read a message before
may still hand it over afterwards. The mark keeps a handler from being closed twice, but no message
asks for it (`handleAll_withMark`): a closed handler deals with messages as an open one does on
which nothing runs. So it stays idle exactly as long as nobody subscribes (`idle_iff_quiet`), and
what is started then is stopped by no close. -/
namespace StreamGateway

/-- The message asks for no subscription that could be started. -/
def Message.Quiet (m : Message) : Prop := m.kind = .subscribe → m.id = ""

namespace Handler

variable {τ : Type} [Transport τ]

/-- The handler after messages that are handed over one after the other, whatever comes of each. -/
def handleAll (h : Handler τ) (ms : List Message) : Handler τ :=
  ms.foldl (fun h m => (h.handle m).2) h

/-! ## The mark -/

/-- The handler with the mark set or taken off. -/
def withMark (h : Handler τ) (closed : Bool) : Handler τ := { h with closed }

theorem complete_withMark (h : Handler τ) (closed : Bool) (m : Message) :
    (h.withMark closed).complete m = ((h.complete m).1, (h.complete m).2.withMark closed) := by
  have hnumber : (h.withMark closed).number? m.id = h.number? m.id := rfl
  rw [complete, complete, hnumber]
  cases hruns : h.number? m.id with
  | none =>
    simp only [requestError]
    cases hp : h.link.session.subprotocol <;> simp [withMark, log, hp, withLink]
  | some number =>
    have hforget : (h.withMark closed).forget m.id = (h.forget m.id).withMark closed := by
      rw [forget, forget, hnumber, hruns]
      rfl
    dsimp only
    rw [hforget]
    rfl

/-- What becomes of a message does not depend on the mark, and no message changes it. -/
theorem handle_withMark (h : Handler τ) (closed : Bool) (m : Message) :
    (h.withMark closed).handle m = ((h.handle m).1, (h.handle m).2.withMark closed) := by
  rw [handle, handle]
  cases m.kind with
  | terminate => rfl
  | pong => rfl
  | complete => exact complete_withMark h closed m
  | ping =>
    simp only [withLink, withMark]
    cases (h.link.pong m).1 <;> rfl
  | subscribe =>
    have hnumber : (h.withMark closed).number? m.id = h.number? m.id := rfl
    simp only [subscribe, hnumber]
    by_cases hid : m.id = ""
    · simp only [if_pos hid]
      rfl
    · by_cases hruns : (h.number? m.id).isSome = true
      · simp only [if_neg hid, if_pos hruns]
        rfl
      · simp only [if_neg hid, if_neg hruns]
        rfl

theorem handleAll_withMark (h : Handler τ) (closed : Bool) (ms : List Message) :
    (h.withMark closed).handleAll ms = (h.handleAll ms).withMark closed := by
  induction ms generalizing h with
  | nil => rfl
  | cons m ms ih =>
    have hstep : (h.withMark closed).handleAll (m :: ms) =
        ((h.withMark closed).handle m).2.handleAll ms := rfl
    rw [hstep, handle_withMark, ih]
    rfl

theorem closed_handleAll (h : Handler τ) (ms : List Message) :
    (h.handleAll ms).closed = h.closed := by
  -- setting the mark to what it is changes nothing
  have hmark := congrArg closed (handleAll_withMark h h.closed ms)
  exact hmark

/-! ## Idle handlers -/

/-- Nothing runs on a handler that is idle, so only a message that starts something can change
that. -/
theorem handle_quiet {h : Handler τ} (hidle : h.subscriptions = []) {m : Message} (hm : m.Quiet) :
    (h.handle m).2.subscriptions = [] ∧ (h.handle m).2.submitted = h.submitted := by
  have hnumber : h.number? m.id = none := by rw [number?, hidle]; rfl
  rw [handle]
  cases hkind : m.kind with
  | terminate => exact ⟨hidle, rfl⟩
  | pong => exact ⟨hidle, rfl⟩
  | ping =>
    simp only [withLink]
    cases (h.link.pong m).1 <;> exact ⟨hidle, rfl⟩
  | subscribe =>
    simp only [subscribe, if_pos (hm hkind)]
    exact ⟨hidle, rfl⟩
  | complete =>
    simp only [complete, hnumber, requestError]
    split <;> exact ⟨hidle, rfl⟩

/-- A subscription that is asked for while nothing runs is started. -/
theorem handle_starts {h : Handler τ} (hidle : h.subscriptions = []) {m : Message}
    (hkind : m.kind = .subscribe) (hid : m.id ≠ "") :
    (h.handle m).2.subscriptions = [(m.id, h.lastNumber + 1)] ∧
      (h.handle m).2.submitted = h.submitted ++
        [.subscribe ⟨⟨h.id, h.lastNumber + 1⟩, m.id, m.payload, h.initialPayload⟩] := by
  have hnumber : h.number? m.id = none := by rw [number?, hidle]; rfl
  rw [handle, hkind]
  simp only [subscribe, hid, hnumber]
  refine ⟨?_, rfl⟩
  show (m.id, h.lastNumber + 1) :: h.subscriptions = _
  rw [hidle]

theorem handleAll_quiet {h : Handler τ} (hidle : h.subscriptions = []) {ms : List Message}
    (hms : ∀ m ∈ ms, m.Quiet) :
    (h.handleAll ms).subscriptions = [] ∧ (h.handleAll ms).submitted = h.submitted := by
  induction ms generalizing h with
  | nil => exact ⟨hidle, rfl⟩
  | cons m ms ih =>
    obtain ⟨hm, hms⟩ := List.forall_mem_cons.mp hms
    obtain ⟨hnext, hjobs⟩ := handle_quiet hidle hm
    obtain ⟨hrest, hrestJobs⟩ := ih hnext hms
    exact ⟨hrest, hrestJobs.trans hjobs⟩

theorem quiet_of_idle {h : Handler τ} (hidle : h.subscriptions = []) {ms : List Message}
    (hms : ∀ before, before <+: ms → (h.handleAll before).subscriptions = []) :
    ∀ m ∈ ms, m.Quiet := by
  induction ms generalizing h with
  | nil => exact nofun
  | cons m ms ih =>
    -- the first message alone is a sequence too, and behind it the handler is idle again
    have hnext : (h.handle m).2.subscriptions = [] := hms [m] (List.prefix_append [m] ms)
    refine List.forall_mem_cons.mpr ⟨fun hkind => ?_, ih hnext fun before hbefore =>
      hms (m :: before) (List.cons_prefix_cons.mpr ⟨rfl, hbefore⟩)⟩
    by_cases hid : m.id = ""
    · exact hid
    · rw [(handle_starts hidle hkind hid).1] at hnext
      cases hnext

/-! ## Closed handlers -/

theorem subscriptions_disconnect (h : Handler τ) :
    h.disconnect.subscriptions = h.subscriptions := by
  rw [disconnect]
  simp only [withLink]
  cases (h.link.close 1000 "").1 <;> rfl

/-- Closing leaves a mark, and nothing that runs. -/
theorem close_idle {h : Handler τ} (hopen : h.closed = false) (answer : Except EngineError Unit) :
    (h.close answer).2.closed = true ∧ (h.close answer).2.subscriptions = [] := by
  have hmark : h.markClosed = (false, h.markClosed.2) := by
    rw [markClosed, hopen]
    rfl
  have hclose : (h.close answer).2 =
      ((h.markClosed.2.clientUnsubscribed answer).forgetAll).disconnect := by
    rw [close, hmark]
  rw [hclose]
  refine ⟨?_, subscriptions_disconnect _⟩
  have hbooks := books_disconnect (h.markClosed.2.clientUnsubscribed answer).forgetAll
  rw [books_forgetAll, books_clientUnsubscribed, books_markClosed] at hbooks
  exact congrArg Books.closed hbooks

theorem close_again {h : Handler τ} (hclosed : h.closed = true) (answer : Except EngineError Unit) :
    h.close answer = (false, h) := by
  rw [close, markClosed, if_pos hclosed]

/-- **A closed handler is idle as long as nobody subscribes.** For every handler, whatever runs on
it when it is closed and whatever messages are handed over afterwards: nothing runs on it and the
engine is asked to start nothing, at any time, exactly if none of the messages subscribes under an
id. The mark of being closed stays, so that no further close does anything; but it has no influence
on any message. -/
theorem idle_iff_quiet (h : Handler τ) (hopen : h.closed = false) (answer : Except EngineError Unit)
    (ms : List Message) :
    let c := (h.close answer).2
    ((∀ before, before <+: ms → (c.handleAll before).subscriptions = [] ∧
        ∀ request, Job.subscribe request ∈ (c.handleAll before).submitted →
          Job.subscribe request ∈ c.submitted) ↔
      ∀ m ∈ ms, m.Quiet) ∧
    (c.handleAll ms).closed = true ∧
    (∀ answer', (c.handleAll ms).close answer' = (false, c.handleAll ms)) ∧
    (c.withMark false).handleAll ms = (c.handleAll ms).withMark false := by
  intro c
  obtain ⟨hclosed, hidle⟩ := close_idle hopen answer
  have hstays : (c.handleAll ms).closed = true := (closed_handleAll c ms).trans hclosed
  refine ⟨⟨fun hrests => ?_, fun hquiet before hbefore => ?_⟩, hstays, close_again hstays,
    handleAll_withMark c false ms⟩
  · exact quiet_of_idle hidle fun before hbefore => (hrests before hbefore).1
  · obtain ⟨hsubscriptions, hjobs⟩ := handleAll_quiet hidle fun m hm => hquiet m (hbefore.subset hm)
    exact ⟨hsubscriptions, fun request hrequest => hjobs ▸ hrequest⟩

/-- A client has said hello and subscribed as operation 1. -/
def busy : Handler ScriptedTransport :=
  (fresh 1 .transport ({} : ScriptedTransport)).performAll
    [.stir (·.push "\x7b\"type\":\"connection_init\"\x7d"), .handshake,
      .stir (·.push "\x7b\"id\":\"1\",\"type\":\"subscribe\"\x7d"), .readOne]

/-- What a drain may still have in hand: a ping, the end of an operation, a subscription without an
id. -/
def leftovers : List Message := [⟨"", .ping, none⟩, ⟨"1", .complete, none⟩, ⟨"", .subscribe, none⟩]

theorem idle_iff_quiet_leftovers :
    busy.closed = false ∧ busy.subscriptions = [("1", 1)] ∧
      let c := (busy.close (.ok ())).2
      (c.handleAll leftovers).subscriptions = [] ∧ (c.handleAll leftovers).closed = true := by
  have hopen : busy.closed = false := rfl
  obtain ⟨hiff, hclosed, -⟩ := idle_iff_quiet busy hopen (.ok ()) leftovers
  have hquiet : ∀ m ∈ leftovers, m.Quiet := by
    simp [leftovers, Message.Quiet]
  exact ⟨hopen, by decide +kernel, (hiff.mpr hquiet leftovers (List.prefix_refl _)).1, hclosed⟩

/-- A subscription that comes in behind a close is started, the engine keeps it, and closing once
more does not stop it. -/
theorem subscription_outlives_close :
    let c := (busy.close (.ok ())).2
    let h := (c.handle ⟨"2", .subscribe, none⟩).2
    let request : SubscribeRequest := ⟨⟨1, 2⟩, "2", none, none⟩
    c.closed = true ∧ c.subscriptions = [] ∧
      h.closed = true ∧ h.subscriptions = [("2", 2)] ∧
        h.submitted = c.submitted ++ [.subscribe request] ∧
      ((Resolver.subscribing request).through h [.ok (), .ok ()]).1 = .finished ∧
      h.close (.ok ()) = (false, h) :=
  ⟨by decide +kernel, by decide +kernel, by decide +kernel, by decide +kernel, by decide +kernel,
    by decide +kernel, close_again (by decide +kernel) _⟩

end Handler
end StreamGateway
