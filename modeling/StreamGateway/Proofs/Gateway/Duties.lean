import Mathlib.Algebra.Order.Group.Multiset
import StreamGateway.Gateway.Step
import StreamGateway.Proofs.Handler.Changes

/-! # What is left to do

An activity owes its duties to single connections: to finish taking one in, to hand one back to the
poller, to take one down, to close a handler, to go on with a call to the engine. Where an activity
stands says which duties it has (`Activity.duties`), and what the gateway will do is the bag of all
of them (`Gateway.duties`). What it has done shows in its affairs (`Gateway.affairs`): who is live,
who is registered, the books of the handlers and the calls that were answered. -/
namespace StreamGateway

open Handler (Books)

/-! ## Duties -/

/-- Something that an activity has still to do. -/
inductive Duty where
  /-- The connection is taken in and not live yet. -/
  | incoming (c : Nat)
  /-- What has come in on the connection is handled, and then it is handed back to the poller. -/
  | draining (c : Nat)
  | checking (c : Nat)
  | testing (c : Nat)
  | enrolling (c : Nat)
  | rechecking (c : Nat)
  | undoing (c : Nat)
  /-- The connection is to be taken down. -/
  | removal (c : Nat)
  /-- It is off the live ones and is to be taken off the poller. -/
  | deregistering (c : Nat)
  /-- Its handler is to be closed. -/
  | marking (c : Nat)
  /-- The engine is to be told that the client has left. -/
  | departing (c : Nat)
  | forgetting (c : Nat)
  /-- The poller has reported the connection. -/
  | reported (c : Nat)
  /-- A call to the engine is not finished. -/
  | resolving (stage : Resolver)
deriving DecidableEq

def Closing.duties (c : Nat) : Closing → List Duty
  | .marking => [.marking c]
  | .unsubscribing => [.departing c]
  | .forgetting => [.forgetting c]
  | .disconnecting | .closed => []

def Teardown.duties (c : Nat) : Teardown → List Duty
  | .removing => [.removal c]
  | .deregistering => [.deregistering c]
  | .closing stage => stage.duties c

/-- The duties of taking connections down one after the other. -/
def Teardown.dutiesOf (stage : Teardown) : List Nat → List Duty
  | [] => []
  | c :: rest => stage.duties c ++ rest.map .removal

/-- A connection that cannot be handed back is taken down. -/
def Rearm.duties (c : Nat) : Rearm → List Duty
  | .checking => [.checking c]
  | .testing => [.testing c]
  | .enrolling => [.enrolling c]
  | .rechecking => [.rechecking c]
  | .undoing => [.undoing c]
  | .done (.ok ()) => []
  | .done (.error _) => [.removal c]

def Serve.duties (c : Nat) : Serve → List Duty
  | .draining => [.draining c]
  | .rearming stage => stage.duties c
  | .done (.ok ()) => []
  | .done (.error _) => [.removal c]

def Accept.duties : Accept → List Duty
  | .entering | .upgrading | .returned _ => []
  | .handshaking c | .configuring c | .inserting c => [.incoming c]
  | .failing c _ stage => stage.duties c
  | .serving c stage => stage.duties c
  | .removing c _ stage => stage.duties c

def Drain.duties (c : Nat) : Drain → List Duty
  | .serving stage => stage.duties c
  | .removing stage => stage.duties c
  | .finished => []

/-- A reader never ends without taking its connection down. -/
def Reading.duties (c : Nat) : Reading → List Duty
  | .reading => [.removal c]
  | .removing stage => stage.duties c
  | .finished => []

def Polling.duties : Polling → List Duty
  | .taking c _ | .submitting c _ => [.reported c]
  | .closing cs stage => stage.dutiesOf cs
  | .resting | .waiting | .looking _ | .stopped => []

def Shutdown.duties : Shutdown → List Duty
  | .closing cs stage => stage.dutiesOf cs
  | _ => []

def Resolver.duties : Resolver → List Duty
  | .finished => []
  | stage => [.resolving stage]

namespace Activity

def duties : Activity → List Duty
  | .accept _ stage => stage.duties
  | .drain c stage => stage.duties c
  | .reader c stage => stage.duties c
  | .resolver stage => stage.duties
  | .polling stage => stage.duties
  | .shutdown _ stage => stage.duties
  | .leftover _ _ | .listener _ => []

/-- An activity that is over owes nothing. -/
theorem duties_of_isOver {t : Activity} (h : t.isOver = true) : t.duties = [] := by
  cases t with
  | accept listened stage =>
    cases stage with
    | returned result => rfl
    | _ => cases h
  | drain c stage =>
    cases stage with
    | finished => rfl
    | _ => cases h
  | reader c stage =>
    cases stage with
    | finished => rfl
    | _ => cases h
  | resolver stage =>
    cases stage with
    | finished => rfl
    | _ => cases h
  | polling stage =>
    cases stage with
    | stopped => rfl
    | _ => cases h
  | shutdown timeoutMs stage =>
    cases stage with
    | returned drained => rfl
    | _ => cases h
  | leftover | listener => rfl

/-- An activity that can be begun while the gateway is at work; there is one polling, from the
start, and a shutdown begins with its announcement. -/
def isFresh : Activity → Bool
  | .polling _ => false
  | .shutdown _ .announcing => true
  | .shutdown _ _ => false
  | t => !t.isOver

end Activity

/-! ## Affairs -/

/-- What the activities of a gateway have done so far. -/
structure Affairs where
  polling : Bool
  live : List Nat
  /-- The connections that the poller has. -/
  registered : List Descriptor
  book? : Nat → Option Books
  lastConnection : Nat
  history : List (EngineCall × Except EngineError Unit)

namespace Affairs

/-- Nothing has been done yet. -/
def blank (polling : Bool) : Affairs := ⟨polling, [], [], fun _ => none, 0, []⟩

/-- The books of a connection are replaced. -/
def setBook (a : Affairs) (c : Nat) (b : Books) : Affairs :=
  { a with book? := fun x => if x = c then some b else a.book? x }

/-- The books of a connection, if it has any, are changed. -/
def mapBook (a : Affairs) (c : Nat) (f : Books → Books) : Affairs :=
  { a with book? := fun x => if x = c then (a.book? c).map f else a.book? x }

@[simp] theorem book?_setBook_self (a : Affairs) (c : Nat) (b : Books) :
    (a.setBook c b).book? c = some b := if_pos rfl

theorem book?_setBook_of_ne (a : Affairs) {c x : Nat} (b : Books) (h : x ≠ c) :
    (a.setBook c b).book? x = a.book? x := if_neg h

@[simp] theorem mapBook_setBook (a : Affairs) (c : Nat) (b : Books) (f : Books → Books) :
    (a.setBook c b).mapBook c f = a.setBook c (f b) := by
  simp only [setBook, mapBook, if_pos, Option.map_some, Affairs.mk.injEq, true_and, and_true]
  funext x
  by_cases hx : x = c
  · rw [if_pos hx, if_pos hx]
  · rw [if_neg hx, if_neg hx, if_neg hx]

theorem mapBook_of_none {a : Affairs} {c : Nat} (h : a.book? c = none) (f : Books → Books) :
    a.mapBook c f = a := by
  have hbook : (fun x => if x = c then (a.book? c).map f else a.book? x) = a.book? := by
    funext x
    by_cases hx : x = c
    · rw [if_pos hx, h, hx, h, Option.map_none]
    · rw [if_neg hx]
  rw [mapBook, hbook]

end Affairs

namespace Gateway

variable {τ : Type}

def affairs (s : Gateway τ) : Affairs where
  polling := s.isPolling
  live := s.live
  registered := (s.poller.map Poller.conns).getD []
  book? c := (s.handler? c).map Handler.books
  lastConnection := s.lastConnection
  history := s.history

/-- Everything that is left to do. -/
def duties (s : Gateway τ) : Multiset Duty := (s.tasks.flatMap fun (_, t) => t.duties : List Duty)

end Gateway
end StreamGateway
