import StreamGateway.Proofs.Poller.Histories

/-! # Adding while the poller is closed

An addition tests whether the poller is closed before it takes the lock of the registry, and a close
empties the registry after it has set the flag. An addition that has passed the test can therefore
find a registry that has been emptied already: it succeeds, and nobody closes its connection.
Without such a latecomer a close leaves nothing behind, and with one it always does
(`Poller.Contest.nothing_left_iff`). -/
namespace StreamGateway
namespace Poller

/-! ## The steps of the calls -/

/-- Where an addition is. -/
inductive Addition where
  | testing
  | enrolling
  | returned (result : Except PollerError Unit)

/-- Where a close is that closes the connections as well. -/
inductive Closure where
  | shutting
  | draining (before : Bool)
  | releasing (drained : List Descriptor)
  | severing (drained : List Descriptor)
  | returned

def Addition.step (p : Poller) (d : Descriptor) (mode system : Except Fault Unit) :
    Addition → Addition × Poller
  | .testing =>
    if p.closed then (.returned (.error .closed), p)
    else match mode with
      | .error f => (.returned (.error (.nonBlocking d f)), p)
      | .ok () => (.enrolling, p)
  | .enrolling => (.returned (p.enrol d system).1, (p.enrol d system).2)
  | .returned result => (.returned result, p)

/-- Additions and a close on one poller. -/
structure Contest where
  poller : Poller
  additions : List (Descriptor × Addition)
  closure : Closure := .shutting
  /-- The connections that the close has closed. -/
  severed : List Descriptor := []

/-- Whose turn it is, with what the system answers. -/
inductive Turn where
  | addition (i : Nat) (mode system : Except Fault Unit)
  | closure

namespace Contest

/-- The connections `ds` are added while the poller is closed. -/
def start (p : Poller) (ds : List Descriptor) : Contest :=
  { poller := p, additions := ds.map (·, .testing) }

/-- The close goes on. -/
def goOn (s : Contest) : Contest :=
  match s.closure with
  | .shutting => { s with poller := s.poller.shut.2, closure := .draining s.poller.shut.1 }
  | .draining before =>
    if before ∧ s.poller.conns.isEmpty then { s with closure := .returned }
    else { s with poller := s.poller.drain.2, closure := .releasing s.poller.drain.1 }
  | .releasing drained => { s with poller := s.poller.closeBackend, closure := .severing drained }
  | .severing [] => { s with closure := .returned }
  | .severing (d :: rest) => { s with closure := .severing rest, severed := s.severed ++ [d] }
  | .returned => s

def step (s : Contest) : Turn → Contest
  | .addition i mode system =>
    match s.additions[i]? with
    | none => s
    | some (d, a) =>
      { s with
        poller := (a.step s.poller d mode system).2
        additions := s.additions.set i (d, (a.step s.poller d mode system).1) }
  | .closure => s.goOn

def run (s : Contest) (turns : List Turn) : Contest := turns.foldl step s

theorem run_append (s : Contest) (before behind : List Turn) :
    s.run (before ++ behind) = (s.run before).run behind := List.foldl_append

theorem goOn_again {p : Poller} {before : Bool} (h : before = true ∧ p.conns.isEmpty = true)
    (additions : List (Descriptor × Addition)) (severed : List Descriptor) :
    goOn ⟨p, additions, .draining before, severed⟩ = ⟨p, additions, .returned, severed⟩ := if_pos h

theorem goOn_drains {p : Poller} {before : Bool} (h : ¬(before = true ∧ p.conns.isEmpty = true))
    (additions : List (Descriptor × Addition)) (severed : List Descriptor) :
    goOn ⟨p, additions, .draining before, severed⟩ =
      ⟨p.drain.2, additions, .releasing p.conns, severed⟩ := if_neg h

end Contest

/-- Without anything in between, the steps of an addition make up `add`. -/
theorem add_eq_steps (p : Poller) (d : Descriptor) (mode system : Except Fault Unit) :
    let first := Addition.testing.step p d mode system
    first.1.step first.2 d mode system = (.returned (p.add d mode system).1,
      (p.add d mode system).2) := by
  unfold add
  by_cases hclosed : p.closed = true
  · simp only [Addition.step, if_pos hclosed]
  · cases mode with
    | error f => simp only [Addition.step, if_neg hclosed]
    | ok u => simp only [Addition.step, if_neg hclosed]

theorem run_severing (p : Poller) (additions : List (Descriptor × Addition))
    (drained severed : List Descriptor) :
    Contest.run ⟨p, additions, .severing drained, severed⟩
      (List.replicate (drained.length + 1) .closure) =
      ⟨p, additions, .returned, severed ++ drained⟩ := by
  induction drained generalizing severed with
  | nil =>
    rw [List.append_nil]
    rfl
  | cons d rest ih =>
    have hrest := ih (severed ++ [d])
    rw [List.append_assoc] at hrest
    exact hrest

/-- Without anything in between, the steps of a close make up `close`. -/
theorem close_eq_run (p : Poller) (additions : List (Descriptor × Addition)) :
    ∃ n, ({ poller := p, additions } : Contest).run (List.replicate n .closure) =
      { poller := (p.close true).2.1, additions, closure := .returned
        severed := (p.close true).1 } := by
  by_cases hagain : p.closed = true ∧ p.conns.isEmpty = true
  · refine ⟨2, ?_⟩
    have hclose : p.close true = ([], p.shut.2, []) := if_pos hagain
    rw [hclose]
    exact Contest.goOn_again (p := p.shut.2) hagain additions []
  · refine ⟨p.conns.length + 1 + 3, ?_⟩
    obtain ⟨j, hclose⟩ : ∃ j, p.close true = (p.conns, p.shut.2.drain.2.closeBackend, j) :=
      ⟨_, if_neg hagain⟩
    have hthree : ({ poller := p, additions } : Contest).run (List.replicate 3 .closure) =
        ⟨p.shut.2.drain.2.closeBackend, additions, .severing p.conns, []⟩ :=
      congrArg Contest.goOn (Contest.goOn_drains (p := p.shut.2) hagain additions [])
    rw [Nat.add_comm, ← List.replicate_append_replicate, Contest.run_append, hthree,
      run_severing, hclose]
    rfl

/-! ## Latecomers -/

/-- The registry has been emptied, or found empty. -/
def Closure.hasDrained : Closure → Bool
  | .shutting | .draining _ => false
  | _ => true

/-- The connections that are still to be closed. -/
def Closure.toSever : Closure → List Descriptor
  | .releasing drained | .severing drained => drained
  | _ => []

namespace Contest

/-- An addition enters its connection into a registry that has been emptied. -/
def Late (s : Contest) : Turn → Prop
  | .addition i _ system => s.closure.hasDrained = true ∧
      ∃ d, s.additions[i]? = some (d, .enrolling) ∧ (s.poller.enrol d system).1 = .ok ()
  | .closure => False

/-- The addition of this connection has succeeded. -/
def Added (s : Contest) (d : Descriptor) : Prop := (d, .returned (.ok ())) ∈ s.additions

/-- Once the kernel's list is given up, nobody can come late any more. -/
theorem not_late_of_released {s : Contest} (hkernel : s.poller.backend ≠ .pollList)
    (hreleased : s.poller.backendOpen = false) (turn : Turn) : ¬s.Late turn := by
  intro hlate
  cases turn with
  | closure => exact hlate
  | addition i mode system =>
    obtain ⟨-, x, -, hok⟩ := hlate
    unfold enrol at hok
    split at hok
    · cases hok
    · have hwatch : s.poller.watch x system = .error backendClosed := by
        unfold watch
        split <;> rename_i hbackend
        · exact absurd hbackend hkernel
        · rw [hreleased]
          rfl
      rw [hwatch] at hok
      cases hok

/-- No connection that was added has been forgotten: the close is going to close it, or has done
so. -/
structure Kept (s : Contest) : Prop where
  before : s.closure.hasDrained = false → ∀ d, s.Added d → d ∈ s.poller.conns
  empty : s.closure.hasDrained = true → s.poller.conns = []
  behind : s.closure.hasDrained = true → ∀ d, s.Added d → d ∈ s.closure.toSever ∨ d ∈ s.severed

theorem kept_start (p : Poller) (ds : List Descriptor) : (start p ds).Kept := by
  refine ⟨?_, nofun, nofun⟩
  intro _ d hd
  simp [Added, start] at hd

theorem Kept.goOn {s : Contest} (h : s.Kept) : s.goOn.Kept := by
  obtain ⟨p, additions, closure, severed⟩ := s
  cases closure with
  | shutting => exact ⟨fun _ => h.before rfl, nofun, nofun⟩
  | draining before =>
    have hadded := h.before rfl
    by_cases hagain : before = true ∧ p.conns.isEmpty = true
    · have hempty : p.conns = [] := List.isEmpty_iff.mp hagain.2
      rw [goOn_again hagain]
      refine ⟨nofun, fun _ => hempty, ?_⟩
      intro _ d hd
      exact absurd (hempty ▸ hadded d hd) List.not_mem_nil
    · rw [goOn_drains hagain]
      exact ⟨nofun, fun _ => rfl, fun _ d hd => Or.inl (hadded d hd)⟩
  | releasing drained => exact ⟨nofun, h.empty, h.behind⟩
  | severing drained =>
    cases drained with
    | nil => exact ⟨nofun, h.empty, h.behind⟩
    | cons x rest =>
      refine ⟨nofun, h.empty, ?_⟩
      intro _ d hd
      show d ∈ rest ∨ d ∈ severed ++ [x]
      have hadded : d ∈ x :: rest ∨ d ∈ severed := h.behind rfl d hd
      rw [List.mem_append, List.mem_singleton]
      rw [List.mem_cons] at hadded
      grind
  | returned => exact h

/-- What the turn of an addition comes down to: nothing is entered, or a connection is and its
addition has succeeded. -/
inductive Adds (s : Contest) (i : Nat) (system : Except Fault Unit) : Contest → Prop where
  | passes (additions : List (Descriptor × Addition))
      (hadded : ∀ d, (d, .returned (.ok ())) ∈ additions → s.Added d) :
        Adds s i system { s with additions }
  | enters (x : Descriptor) (hx : s.additions[i]? = some (x, .enrolling))
      (hok : (s.poller.enrol x system).1 = .ok ()) (additions : List (Descriptor × Addition))
      (hadded : ∀ d, (d, .returned (.ok ())) ∈ additions → s.Added d ∨ d = x) :
      Adds s i system { s with poller := s.poller.mapLists (· ++ [x]), additions }

theorem adds_step (s : Contest) (i : Nat) (mode system : Except Fault Unit) :
    s.Adds i system (s.step (.addition i mode system)) := by
  rw [step]
  split <;> rename_i hfind
  · exact .passes s.additions fun _ hd => hd
  · rename_i x a
    -- Only an entry that has just become a success can be new among the successes.
    have hset {b : Addition} (hb : b = .returned (.ok ()) → s.Added x) (d : Descriptor)
        (hd : (d, .returned (.ok ())) ∈ s.additions.set i (x, b)) : s.Added d := by
      rcases List.mem_or_eq_of_mem_set hd with hd | hd
      · exact hd
      · cases hd
        exact hb rfl
    cases a with
    | testing =>
      dsimp only [Addition.step]
      split
      · exact .passes _ (hset nofun)
      · split
        · exact .passes _ (hset nofun)
        · exact .passes _ (hset nofun)
    | enrolling =>
      dsimp only [Addition.step]
      rcases s.poller.enrol_outcomes x system with ⟨e, henrol⟩ | ⟨-, henrol⟩
      · rw [henrol]
        exact .passes _ (hset nofun)
      · have hok : (s.poller.enrol x system).1 = .ok () := congrArg Prod.fst henrol
        rw [henrol]
        refine .enters x hfind hok _ ?_
        intro d hd
        rcases List.mem_or_eq_of_mem_set hd with hd | hd
        · exact Or.inl hd
        · cases hd
          exact Or.inr rfl
    | returned result =>
      refine .passes _ (hset ?_)
      intro (hresult : Addition.returned result = .returned (.ok ()))
      rw [hresult] at hfind
      exact List.mem_of_getElem? hfind

theorem Kept.step {s : Contest} {turn : Turn} (h : s.Kept) (hturn : ¬s.Late turn) :
    (s.step turn).Kept := by
  cases turn with
  | closure => exact h.goOn
  | addition i mode system =>
    have hadds := s.adds_step i mode system
    generalize s.step (.addition i mode system) = s' at hadds ⊢
    cases hadds with
    | passes additions hadded =>
      exact ⟨fun hd d hd' => h.before hd d (hadded d hd'), h.empty,
        fun hd d hd' => h.behind hd d (hadded d hd')⟩
    | enters x hx hok additions hadded =>
      have hdrained : s.closure.hasDrained = false := by
        refine eq_false_of_ne_true fun hdrained => hturn ⟨hdrained, x, hx, hok⟩
      refine ⟨?_, ?_, ?_⟩
      · intro _ d hd
        show d ∈ s.poller.conns ++ [x]
        rcases hadded d hd with hd | rfl
        · exact List.mem_append_left _ (h.before hdrained d hd)
        · exact List.mem_append_right _ (List.mem_singleton_self d)
      · intro hd
        exact absurd (hdrained.symm.trans hd) Bool.noConfusion
      · intro hd
        exact absurd (hdrained.symm.trans hd) Bool.noConfusion

/-- A connection that was entered into an emptied registry stays there. -/
structure Haunted (s : Contest) : Prop where
  drained : s.closure.hasDrained = true
  nonempty : s.poller.conns ≠ []

theorem haunted_of_late {s : Contest} {turn : Turn} (h : s.Late turn) : (s.step turn).Haunted := by
  cases turn with
  | closure => exact h.elim
  | addition i mode system =>
    obtain ⟨hdrained, x, hx, hok⟩ := h
    rw [step, hx]
    refine ⟨hdrained, ?_⟩
    show (s.poller.enrol x system).2.conns ≠ []
    rcases s.poller.enrol_outcomes x system with ⟨e, henrol⟩ | ⟨-, henrol⟩
    · rw [henrol] at hok
      cases hok
    · rw [henrol]
      exact List.append_ne_nil_of_right_ne_nil _ (List.cons_ne_nil x [])

theorem Haunted.step {s : Contest} (h : s.Haunted) (turn : Turn) : (s.step turn).Haunted := by
  cases turn with
  | closure =>
    obtain ⟨p, additions, closure, severed⟩ := s
    cases closure with
    | shutting => exact absurd h.drained Bool.noConfusion
    | draining before => exact absurd h.drained Bool.noConfusion
    | releasing drained => exact ⟨rfl, h.nonempty⟩
    | severing drained =>
      cases drained with
      | nil => exact ⟨rfl, h.nonempty⟩
      | cons x rest => exact ⟨rfl, h.nonempty⟩
    | returned => exact h
  | addition i mode system =>
    have hadds := s.adds_step i mode system
    generalize s.step (.addition i mode system) = s' at hadds ⊢
    cases hadds with
    | passes additions hadded => exact ⟨h.drained, h.nonempty⟩
    | enters x hx hok additions hadded =>
      exact ⟨h.drained, List.append_ne_nil_of_right_ne_nil _ (List.cons_ne_nil x [])⟩

theorem Haunted.run {s : Contest} (h : s.Haunted) (turns : List Turn) : (s.run turns).Haunted := by
  induction turns generalizing s with
  | nil => exact h
  | cons turn turns ih => exact ih (h.step turn)

/-- Some addition came too late. -/
def HasLatecomer (s : Contest) (turns : List Turn) : Prop :=
  ∃ before turn behind, turns = before ++ turn :: behind ∧ (s.run before).Late turn

theorem Kept.run {s : Contest} (h : s.Kept) {turns : List Turn} (hturns : ¬s.HasLatecomer turns) :
    (s.run turns).Kept := by
  induction turns generalizing s with
  | nil => exact h
  | cons turn turns ih =>
    have hturn : ¬s.Late turn := fun hlate => hturns ⟨[], turn, turns, rfl, hlate⟩
    refine ih (h.step hturn) ?_
    rintro ⟨before, other, behind, rfl, hlate⟩
    exact hturns ⟨turn :: before, other, behind, rfl, hlate⟩

/-- Once the close has returned, the registry is empty and all that was added has been closed,
exactly if no addition came too late. -/
theorem nothing_left_iff (p : Poller) (ds : List Descriptor) (turns : List Turn)
    (hreturned : ((start p ds).run turns).closure = .returned) :
    (((start p ds).run turns).poller.conns = [] ∧
        ∀ d, ((start p ds).run turns).Added d → d ∈ ((start p ds).run turns).severed) ↔
      ¬(start p ds).HasLatecomer turns := by
  constructor
  · rintro ⟨hempty, -⟩ ⟨before, turn, behind, rfl, hlate⟩
    rw [run_append] at hempty
    exact ((haunted_of_late hlate).run behind).nonempty hempty
  · intro hturns
    have hkept : ((start p ds).run turns).Kept := (kept_start p ds).run hturns
    have hdrained : ((start p ds).run turns).closure.hasDrained = true := by
      rw [hreturned]
      rfl
    refine ⟨hkept.empty hdrained, ?_⟩
    intro d hd
    rcases hkept.behind hdrained d hd with hleft | hsevered
    · rw [hreturned] at hleft
      exact absurd hleft List.not_mem_nil
    · exact hsevered

end Contest

/-- A poller that keeps the only list itself. -/
def listPoller : Poller := { backend := .pollList, timeoutMs := 1000, bufferSize := 128 }

/-- An addition passes the test, and enters its connection after the poller has been closed. -/
def afterwards : List Turn :=
  [.addition 0 (.ok ()) (.ok ()), .closure, .closure, .closure, .closure,
    .addition 0 (.ok ()) (.ok ())]

/-- An addition passes the test, and enters its connection after the registry was emptied and before
the kernel's list is given up. -/
def inBetween : List Turn :=
  [.addition 0 (.ok ()) (.ok ()), .closure, .closure, .addition 0 (.ok ()) (.ok ()),
    .closure, .closure]

/-- With either backend a connection can be added for good while the poller is closed. -/
theorem latecomers_stay :
    (∃ s, s = (Contest.start listPoller [3]).run afterwards ∧ s.closure = .returned ∧ s.Added 3 ∧
      s.poller.conns = [3] ∧ s.severed = []) ∧
    ∃ s, s = (Contest.start kernelPoller [3]).run inBetween ∧ s.closure = .returned ∧ s.Added 3 ∧
      s.poller.conns = [3] ∧ s.severed = [] :=
  ⟨⟨_, rfl, rfl, List.mem_singleton_self _, rfl, rfl⟩,
    ⟨_, rfl, rfl, List.mem_singleton_self _, rfl, rfl⟩⟩

end Poller
end StreamGateway
