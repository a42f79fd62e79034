import StreamGateway.Proofs.Handler.StaleSinks

/-! # The operations that run are the open ones

A handler keeps its running subscriptions in one table and its session keeps the open operations in
another. Both change in many places: a message that is read moves the session before the handler has
looked at it, and a write that fails may leave either of them half way. Nevertheless the two tables
never list different operations between two whole operations of a handler that is not being closed.
A whole operation is a sequence of moves (`moved_perform`), a drain one for each message and a task
one for each stage, and each move keeps the tables in step (`matched_moves`). -/
namespace StreamGateway

open Json (Raw)

variable {τ : Type} [Transport τ]

namespace Resolver

/-- A task with the engine's answers, one for each stage that it goes through. -/
def through (stage : Resolver) (h : Handler τ) :
    List (Except EngineError Unit) → Resolver × Handler τ
  | [] => (stage, h)
  | answer :: answers =>
    let (stage, h) := stage.step answer h
    stage.through h answers

end Resolver

namespace Handler

/-- What is done with a handler as a whole, short of closing it. The requests and sinks may be any,
not only those that the handler has given out. -/
inductive Operation (τ : Type) where
  /-- The connection changes by itself: texts come in, or writes begin or cease to fail. -/
  | stir (f : τ → τ)
  | handshake
  | readOne
  | drain (turns : Nat)
  | next (sink : Sink) (response : Raw)
  | complete (sink : Sink)
  /-- The engine is asked to start a subscription, and to stop it again if it is not wanted any
  more. -/
  | start (request : SubscribeRequest) (answer stopped : Except EngineError Unit)
  /-- The engine is asked to stop a subscription that the client has ended. -/
  | stop (id : SubscriptionId) (answer : Except EngineError Unit)

def perform (h : Handler τ) : Operation τ → Handler τ
  | .stir f => { h with link := { h.link with transport := f h.link.transport } }
  | .handshake => h.handshake.2
  | .readOne => h.readOne.2
  | .drain turns => (drain turns h).2
  | .next sink response => (sink.next h response).2
  | .complete sink => (sink.complete h).2
  | .start request answer stopped =>
    ((Resolver.subscribing request).through h [answer, .ok (), stopped]).2
  | .stop id answer => ((Resolver.unsubscribing id).through h [answer]).2

/-- From one state of a handler to another by moves none of which drops all operations. -/
def Moved (h h' : Handler τ) : Prop :=
  ∃ moves : List (Move τ), .forgetAll ∉ moves ∧ h' = moves.foldl move h

theorem Moved.refl (h : Handler τ) : Moved h h := ⟨[], by simp, rfl⟩

theorem Moved.one (h : Handler τ) {m : Move τ} (hm : m ≠ .forgetAll) : Moved h (h.move m) :=
  ⟨[m], by simpa using hm.symm, rfl⟩

theorem Moved.cons {h h' : Handler τ} {m : Move τ} (hm : m ≠ .forgetAll)
    (hmoved : Moved (h.move m) h') : Moved h h' := by
  obtain ⟨moves, hmoves, rfl⟩ := hmoved
  refine ⟨m :: moves, ?_, rfl⟩
  rw [List.mem_cons, not_or]
  exact ⟨hm.symm, hmoves⟩

theorem moved_drain (turns : Nat) (h : Handler τ) : Moved h (drain turns h).2 := by
  induction turns generalizing h with
  | zero => exact .refl h
  | succ turns ih =>
    -- a turn is a read, whether or not the drain goes on behind it
    have hturn : h.turn.2 = h.move .read := h.turn_snd
    rw [drain]
    split <;> rename_i heq
    · rename_i h'
      rw [heq] at hturn
      have hrest : Moved (h.move .read) (drain turns h').2 := hturn ▸ ih h'
      exact hrest.cons (by simp)
    · rw [hturn]
      exact .one h (by simp)

theorem moved_through (stage : Resolver) (h : Handler τ)
    (answers : List (Except EngineError Unit)) : Moved h (stage.through h answers).2 := by
  induction answers generalizing stage h with
  | nil => exact .refl h
  | cons answer answers ih =>
    have hrest : Moved (h.move (.resolve stage answer)) (stage.through h (answer :: answers)).2 :=
      ih (stage.step answer h).1 (stage.step answer h).2
    exact hrest.cons (by simp)

/-- A whole operation is a sequence of moves. -/
theorem moved_perform (h : Handler τ) (o : Operation τ) : Moved h (h.perform o) := by
  cases o with
  | stir f => exact .one h (m := .stir f) (by simp)
  | handshake => exact .one h (m := .handshake) (by simp)
  | readOne => exact .one h (m := .read) (by simp)
  | drain turns => exact moved_drain turns h
  | next sink response => exact .one h (m := .next sink response) (by simp)
  | complete sink => exact .one h (m := .complete sink) (by simp)
  | start request answer stopped => exact moved_through _ h _
  | stop id answer => exact moved_through _ h _

/-- The handler after a sequence of whole operations. -/
def performAll (h : Handler τ) (ops : List (Operation τ)) : Handler τ := ops.foldl perform h

theorem Matched.performAll {h : Handler τ} (hh : Matched h.books) (ops : List (Operation τ)) :
    Matched (h.performAll ops).books := by
  induction ops generalizing h with
  | nil => exact hh
  | cons o ops ih =>
    obtain ⟨moves, hmoves, hperform⟩ := h.moved_perform o
    have hnext : Matched (h.perform o).books := hperform ▸ matched_moves hh hmoves
    exact ih hnext

omit [Transport τ] in
theorem number?_ne_none_iff {h : Handler τ} {op : String} :
    h.number? op ≠ none ↔ op ∈ h.subscriptions.map Prod.fst := by
  rw [number?, ne_eq, List.lookup_eq_none_iff]
  simp [List.mem_map]

/-- **The operations that run are the open ones**, whatever was done with a handler before it is
closed, in any subprotocol and over any connection, so whichever of its reads and writes fail. -/
theorem running_iff_open (id : Nat) (subprotocol : Subprotocol) (transport : τ)
    (ops : List (Operation τ)) (op : String) :
    op ∈ ((fresh id subprotocol transport).performAll ops).subscriptions.map Prod.fst ↔
      op ∈ ((fresh id subprotocol transport).performAll ops).link.session.opened := by
  have hfresh : Matched (fresh id subprotocol transport).books := by
    intro op
    simp
  have hmatched := hfresh.performAll ops op
  rw [← number?_ne_none_iff]
  exact hmatched.symm

end Handler
end StreamGateway
