import StreamGateway.Handler.Resolver
import StreamGateway.Proofs.Protocol.Link

/-! # What can become of a handler's books

A handler keeps three books: the numbers under which operations run, the operations that are open in
its session, and the work it has put in line for the engine. Whatever is done with a handler in one
go, short of closing it, changes them in one of four ways (`Change`): not at all, by starting a
subscription under the next number, by hearing of an operation that runs already, or by ending one
operation. Every function of a handler is shown to be one of these, so that later arguments split
four cases and open no function. -/
namespace StreamGateway.Handler

open Json (Raw)

variable {τ : Type}

/-! ## Running numbers -/

@[simp] theorem isRunning_iff {h : Handler τ} {op : String} {n : Nat} :
    h.isRunning op n = true ↔ h.number? op = some n := by
  simp [isRunning]

theorem number?_forget (h : Handler τ) (op x : String) :
    (h.forget op).number? x = if x = op then none else h.number? x := by
  rw [forget]
  split <;> rename_i hnumber
  · by_cases hx : x = op
    · rw [hx, if_pos rfl, hnumber]
    · rw [if_neg hx]
  · exact lookup_filter_ne h.subscriptions op x

/-! ## Books -/

/-- What a handler keeps about its operations. -/
structure Books where
  id : Nat
  closed : Bool
  /-- The number under which an operation runs. -/
  number? : String → Option Nat
  lastNumber : Nat
  submitted : List Job
  /-- The operations that are open in the session. -/
  opened : Ids

/-- The books of a handler. -/
def books (h : Handler τ) : Books :=
  ⟨h.id, h.closed, h.number?, h.lastNumber, h.submitted, h.link.session.opened⟩

@[simp] theorem fresh_id (id : Nat) (p : Subprotocol) (transport : τ) :
    (fresh id p transport).id = id := rfl

@[simp] theorem books_fresh (id : Nat) (p : Subprotocol) (transport : τ) :
    (fresh id p transport).books = ⟨id, false, fun _ => none, 0, [], []⟩ := rfl

/-- What one go can do to the books. -/
inductive Change (b b' : Books) : Prop where
  | nothing (hnumber : b'.number? = b.number?) (hlast : b'.lastNumber = b.lastNumber)
      (hjobs : b'.submitted = b.submitted) (hopened : ∀ x, x ∈ b'.opened ↔ x ∈ b.opened)
  | starts (request : SubscribeRequest) (hid : request.id = ⟨b.id, b.lastNumber + 1⟩)
      (hop : request.operationId ≠ "") (hfree : b.number? request.operationId = none)
      (hnumber : ∀ x, b'.number? x =
        if x = request.operationId then some (b.lastNumber + 1) else b.number? x)
      (hlast : b'.lastNumber = b.lastNumber + 1)
      (hjobs : b'.submitted = b.submitted ++ [.subscribe request])
      (hopened : ∀ x, x ∈ b'.opened ↔ x = request.operationId ∨ x ∈ b.opened)
  | repeats (op : String) (hruns : b.number? op ≠ none) (hnumber : b'.number? = b.number?)
      (hlast : b'.lastNumber = b.lastNumber) (hjobs : b'.submitted = b.submitted)
      (hopened : ∀ x, x ∈ b'.opened ↔ x = op ∨ x ∈ b.opened)
  | ends (op : String) (jobs : List Job)
      (hnumber : ∀ x, b'.number? x = if x = op then none else b.number? x)
      (hlast : b'.lastNumber = b.lastNumber) (hjobs : b'.submitted = b.submitted ++ jobs)
      (hunsubscribe : ∀ job ∈ jobs, ∃ n, job = .unsubscribe ⟨b.id, n⟩ ∧ b.number? op = some n)
      (hopened : ∀ x, x ∈ b'.opened ↔ x ∈ b.opened ∧ x ≠ op)

/-- One go of a handler that does not close it, seen from its books. -/
structure Go (b b' : Books) : Prop where
  id : b'.id = b.id
  closed : b'.closed = b.closed
  change : Change b b'

theorem Go.refl (b : Books) : Go b b := ⟨rfl, rfl, .nothing rfl rfl rfl fun _ => Iff.rfl⟩

@[simp] theorem books_log (h : Handler τ) (level : Log.Level) (message : String)
    (fields : List (String × Log.Value)) : (h.log level message fields).books = h.books := rfl

/-- The books do not depend on the connection. -/
theorem books_link (h : Handler τ) {l : Link τ} (hl : l.session.opened = h.link.session.opened) :
    ({ h with link := l } : Handler τ).books = h.books := by
  simp only [books, hl]
  rfl

theorem books_forget (h : Handler τ) (op : String) :
    (h.forget op).books =
      { h.books with number? := fun x => if x = op then none else h.number? x } := by
  have hnumber : (h.forget op).number? = fun x => if x = op then none else h.number? x :=
    funext (h.number?_forget op)
  rw [books, hnumber, forget]
  split <;> rfl

/-! ## Messages of the client -/

/-- A subscription that was read: `b` are the books before its id was opened. -/
theorem go_subscribe {h : Handler τ} {b : Books} {m : Message}
    (hbooks : h.books = { b with opened := h.link.session.opened })
    (hopens : ∀ x, x ∈ h.link.session.opened ↔ (x = m.id ∧ m.id ≠ "") ∨ x ∈ b.opened) :
    Go b (h.subscribe m).2.books := by
  have hnumber : h.number? = b.number? := congrArg Books.number? hbooks
  rw [subscribe]
  split <;> rename_i hempty
  · rw [hbooks]
    exact ⟨rfl, rfl, .nothing rfl rfl rfl fun x => by simpa [hempty] using hopens x⟩
  · have hopened (x : String) : x ∈ h.link.session.opened ↔ x = m.id ∨ x ∈ b.opened := by
      simpa [hempty] using hopens x
    split <;> rename_i hruns
    · -- the id is opened a second time, but what runs under it stays
      rw [hbooks]
      rw [hnumber] at hruns
      exact ⟨rfl, rfl, .repeats m.id (Option.isSome_iff_ne_none.mp hruns) rfl rfl rfl hopened⟩
    · have hid : h.id = b.id := congrArg Books.id hbooks
      have hclosed : h.closed = b.closed := congrArg Books.closed hbooks
      have hlast : h.lastNumber = b.lastNumber := congrArg Books.lastNumber hbooks
      have hjobs : h.submitted = b.submitted := congrArg Books.submitted hbooks
      rw [hnumber] at hruns
      refine ⟨hid, hclosed, .starts ⟨⟨h.id, h.lastNumber + 1⟩, m.id, m.payload, h.initialPayload⟩
        (by rw [hid, hlast]) hempty (Option.not_isSome_iff_eq_none.mp hruns) (fun x => ?_)
        (congrArg (· + 1) hlast) (congrArg (· ++ _) hjobs) hopened⟩
      show ((m.id, h.lastNumber + 1) :: h.subscriptions).lookup x = _
      rw [List.lookup_cons, hlast]
      by_cases hx : x = m.id
      · simp [hx]
      · rw [beq_eq_false_iff_ne.mpr hx, if_neg hx]
        exact congrFun hnumber x

variable [Transport τ]

theorem go_handshake (h : Handler τ) : Go h.books h.handshake.2.books := by
  have hopened : h.link.handshake.2.session.opened = h.link.session.opened := by
    rcases h.link.handshake_cases with ⟨e, -, hsession⟩ |
      ⟨payload, -, -, hsession⟩ <;> rw [hsession]
  have hbooks : h.handshake.2.books = h.books := by
    simp only [handshake]
    split <;> exact h.books_link hopened
  rw [hbooks]
  exact .refl _

theorem books_requestError (h : Handler τ) (e : GatewayError) :
    (h.requestError e).2.books = h.books := by
  rw [requestError]
  split
  · rfl
  · exact h.books_link rfl

/-- A completion that was read: `b` are the books before its id was closed. -/
theorem go_complete {h : Handler τ} {b : Books} {m : Message}
    (hbooks : h.books = { b with opened := h.link.session.opened })
    (hcloses : ∀ x, x ∈ h.link.session.opened ↔ x ∈ b.opened ∧ x ≠ m.id) :
    Go b (h.complete m).2.books := by
  have hnumber : h.number? = b.number? := congrArg Books.number? hbooks
  rw [complete]
  split <;> rename_i hruns
  · -- nothing runs under this id, so ending it changes no number
    rw [books_requestError, hbooks]
    refine ⟨rfl, rfl, .ends m.id [] (fun x => ?_) rfl (List.append_nil _).symm (by simp) hcloses⟩
    split <;> rename_i hx
    · rw [hx, ← hnumber, hruns]
    · rfl
  · rename_i number
    let job : Job := .unsubscribe ⟨h.id, number⟩
    have hsubmit : ((h.forget m.id).submit job).books =
        { (h.forget m.id).books with submitted := (h.forget m.id).books.submitted ++ [job] } := rfl
    rw [hsubmit, books_forget, hbooks, hnumber]
    have hended : b.number? m.id = some number := (congrFun hnumber m.id).symm.trans hruns
    refine ⟨rfl, rfl, .ends m.id [job] (fun x => rfl) rfl rfl
      (fun j hj => ⟨number, ?_, hended⟩) hcloses⟩
    rw [List.mem_singleton.mp hj]
    exact congrArg (fun i => Job.unsubscribe ⟨i, number⟩) (congrArg Books.id hbooks)

theorem go_handle {h : Handler τ} {s : Session} {b : Books} {m : Message}
    (hbooks : h.books = { b with opened := h.link.session.opened }) (hs : s.opened = b.opened)
    (hheeds : s.Heeds m h.link.session) : Go b (h.handle m).2.books := by
  rw [Session.Heeds] at hheeds
  rw [handle]
  -- a message about no operation has left the session alone
  have hsame (hsession : h.link.session = s) : h.books = b := by
    rw [hbooks, hsession, hs]
  split <;> rename_i hkind <;> rw [hkind] at hheeds
  · rw [hsame hheeds]
    exact .refl b
  · have hpong : (h.withLink (h.link.pong m)).2.books = b :=
      (h.books_link rfl).trans (hsame hheeds)
    split <;> rename_i hwith <;> rw [hwith] at hpong
    · rw [hpong]
      exact .refl b
    · rw [books_log, hpong]
      exact .refl b
  · rw [hsame hheeds]
    exact .refl b
  · have hgo := go_subscribe hbooks fun x => hs ▸ hheeds x
    split <;> rename_i hsubscribe <;> rw [hsubscribe] at hgo
    · exact hgo
    · rw [books_log]
      exact hgo
  · exact go_complete hbooks fun x => hs ▸ hheeds x

theorem go_readOne (h : Handler τ) : Go h.books h.readOne.2.books := by
  rw [readOne, readMessage]
  rcases h.link.read_cases with ⟨e, hresult, hsession⟩ | ⟨reply, -, hread, hresult, hsession⟩
  · simp only [hresult]
    have hbooks := h.books_link (congrArg Session.opened hsession)
    exact hbooks.symm ▸ .refl h.books
  · simp only [hresult]
    refine go_handle (s := h.link.session) rfl rfl ?_
    show h.link.session.Heeds reply.value h.link.read.2.session
    rw [hsession]
    exact hread.heeds

/-- A turn of a drain does what reading one message does. -/
theorem turn_snd (h : Handler τ) : h.turn.2 = h.readOne.2 := by
  rw [turn, readOne]
  split
  · split <;> rfl
  · split <;> rename_i hhandle <;> exact (congrArg (·.2) hhandle).symm

theorem patientTurn_snd (h : Handler τ) : h.patientTurn.2 = h.readOne.2 := by
  rw [patientTurn]
  split <;> rename_i hread
  · rw [hread]
  · rw [hread]
    split <;> rfl
  · rw [hread]

/-! ## Results of the engine -/

theorem books_sendErrors (h : Handler τ) (op : String) (errors : Raw) (extensions : Option Raw) :
    (h.sendErrors op errors extensions).2.books = h.books :=
  h.books_link (congrArg Session.opened (h.link.writeErrors_session op errors extensions))

theorem books_respond (h : Handler τ) (op : String) (response : Raw) :
    (h.respond op response).2.books = h.books := by
  rw [respond]
  split
  · rfl
  · split
    · exact h.books_sendErrors _ _ _
    · exact h.books_link (congrArg Session.opened (h.link.writeData_session op response none))

theorem mem_opened_done (l : Link τ) (op x : String) :
    x ∈ (l.done op).2.session.opened ↔ x ∈ l.session.opened ∧ x ≠ op := by
  rw [l.done_session op]
  split <;> rename_i hopen
  · exact l.session.release_closes op x
  · refine ⟨fun hx => ⟨hx, ?_⟩, And.left⟩
    rintro rfl
    exact hopen hx

theorem go_finish (h : Handler τ) (op : String) : Go h.books (h.finish op).2.books := by
  have hbooks : (h.finish op).2.books =
      { (h.forget op).books with opened := ((h.forget op).link.done op).2.session.opened } := rfl
  have hlink : (h.forget op).link.session.opened = h.link.session.opened :=
    congrArg Books.opened (h.books_forget op)
  rw [hbooks, books_forget]
  refine ⟨rfl, rfl, .ends op [] (fun x => rfl) rfl (List.append_nil _).symm (by simp) fun x => ?_⟩
  rw [mem_opened_done, hlink]
  rfl

theorem go_reject (h : Handler τ) (op message : String) :
    Go h.books (h.reject op message).2.books := by
  have hbooks := h.books_sendErrors op (Response.errorsOf message) none
  rw [reject]
  split <;> rename_i hsend <;> rw [hsend] at hbooks <;> rw [← hbooks]
  · exact .refl _
  · exact go_finish _ op

theorem go_resolver (h : Handler τ) (stage : Resolver) (answer : Except EngineError Unit) :
    Go h.books (stage.step answer h).2.books := by
  cases stage with
  | reporting sink e =>
    have hgo := h.go_reject sink.operationId e.message
    simp only [Resolver.step]
    split <;> rename_i hreject <;> rw [hreject] at hgo <;> exact hgo
  | checking | finished => exact .refl _
  | subscribing | cancelling | unsubscribing => cases answer <;> exact .refl _

/-! ## Closing -/

omit [Transport τ] in
theorem books_clientUnsubscribed (h : Handler τ) (answer : Except EngineError Unit) :
    (h.clientUnsubscribed answer).books = h.books := by
  cases answer <;> rfl

theorem books_disconnect (h : Handler τ) : h.disconnect.books = h.books := by
  have hbooks : (h.withLink (h.link.close 1000 "")).2.books = h.books := h.books_link rfl
  rw [disconnect]
  split <;> rename_i hclose <;> rw [hclose] at hbooks <;> exact hbooks

omit [Transport τ] in
theorem books_forgetAll (h : Handler τ) :
    h.forgetAll.books = { h.books with number? := fun _ => none } := rfl

omit [Transport τ] in
theorem books_markClosed (h : Handler τ) :
    h.markClosed.2.books = { h.books with closed := true } := by
  rw [markClosed]
  split <;> rename_i hclosed
  · rw [← hclosed]
    rfl
  · rfl

end StreamGateway.Handler
