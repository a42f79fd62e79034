import StreamGateway.Proofs.Gateway.Duties
import StreamGateway.Proofs.Poller.Histories

/-! # Moves

Every step of a gateway comes down to one move (`Fires`): an activity settles one of its duties,
which changes the affairs in one place and may leave other duties (`Settles`), or it takes on duties
of its own accord (`Begins`). Before that a handler may have gone on and put work in line
(`Handles`). The duties of all other activities are not touched (`Gateway.MovesOnce`). -/
namespace StreamGateway

open Handler (Books Go)
open Json (Raw)

/-! ## One move -/

/-- A handler goes on; the work it puts in line becomes duties. -/
inductive Handles (a : Affairs) : Affairs → List Duty → Prop where
  | nobody : Handles a a []
  | goes (c : Nat) (b b' : Books) (hbook : a.book? c = some b) (hgo : Go b b') :
      Handles a (a.setBook c { b' with submitted := [] })
        (b'.submitted.map fun job => .resolving (.ofJob job))

/-- What it means to settle a duty: what becomes of the affairs, and the duties that are left of
it. -/
inductive Settles (a : Affairs) : Duty → Affairs → List Duty → Prop where
  | fails (c : Nat) : Settles a (.incoming c) a [.marking c]
  | inserts (c : Nat) (hpolling : a.polling = true) :
      Settles a (.incoming c) { a with live := a.live ++ [c] } [.draining c]
  /-- Without a poller, a connection that becomes live gets a reader. -/
  | insertsReader (c : Nat) (hpolling : a.polling = false) :
      Settles a (.incoming c) { a with live := a.live ++ [c] } [.removal c]
  | drains (c : Nat) : Settles a (.draining c) a [.checking c]
  /-- A connection cannot be served any more. -/
  | condemns (c : Nat) : Settles a (.draining c) a [.removal c]
  | checks (c : Nat) : Settles a (.checking c) a [.testing c]
  /-- A connection that is not live is not handed back. -/
  | leaves (c : Nat) (hgone : a.polling = true → c ∉ a.live) : Settles a (.checking c) a []
  | tests (c : Nat) : Settles a (.testing c) a [.enrolling c]
  | failsTest (c : Nat) : Settles a (.testing c) a [.removal c]
  /-- There is no poller to hand it back to. -/
  | skipsTest (c : Nat) (hpolling : a.polling = false) : Settles a (.testing c) a []
  | enrols (c : Nat) :
      Settles a (.enrolling c) { a with registered := a.registered ++ [(c : Descriptor)] }
        [.rechecking c]
  | failsEnrolling (c : Nat) : Settles a (.enrolling c) a [.removal c]
  | skipsEnrolling (c : Nat) (hpolling : a.polling = false) : Settles a (.enrolling c) a []
  | stays (c : Nat) (hlive : c ∈ a.live) : Settles a (.rechecking c) a []
  | rechecks (c : Nat) (hgone : c ∉ a.live) : Settles a (.rechecking c) a [.undoing c]
  | undoes (c : Nat) :
      Settles a (.undoing c) { a with registered := a.registered.filter (· ≠ (c : Descriptor)) } []
  | removes (c : Nat) :
      Settles a (.removal c) { a with live := a.live.filter (· ≠ c) } [.deregistering c]
  | deregisters (c : Nat) :
      Settles a (.deregistering c)
        { a with registered := a.registered.filter (· ≠ (c : Descriptor)) }
        [.marking c]
  | marks (c : Nat) (b : Books) (hbook : a.book? c = some b) (hclosed : b.closed = false) :
      Settles a (.marking c) (a.mapBook c fun b => { b with closed := true }) [.departing c]
  | marked (c : Nat) (hbook : ∀ b, a.book? c = some b → b.closed = true) :
      Settles a (.marking c) a []
  | departs (c : Nat) (answer : Except EngineError Unit) :
      Settles a (.departing c) { a with history := a.history ++ [(.unsubscribeClient c, answer)] }
        [.forgetting c]
  | forgets (c : Nat) :
      Settles a (.forgetting c) (a.mapBook c fun b => { b with number? := fun _ => none }) []
  | takes (c : Nat) :
      Settles a (.reported c) { a with registered := a.registered.filter (· ≠ (c : Descriptor)) }
        [.reported c]
  /-- A connection that is off the poller already is left to the others. -/
  | misses (c : Nat) :
      Settles a (.reported c) { a with registered := a.registered.filter (· ≠ (c : Descriptor)) } []
  | submits (c : Nat) : Settles a (.reported c) a [.draining c]
  /-- The engine has started a subscription. -/
  | starts (request : SubscribeRequest) :
      Settles a (.resolving (.subscribing request))
        { a with history := a.history ++ [(.subscribe request, .ok ())] }
        [.resolving (.checking request.sink)]
  /-- The engine has refused a subscription. -/
  | refuses (request : SubscribeRequest) (e : EngineError) :
      Settles a (.resolving (.subscribing request))
        { a with history := a.history ++ [(.subscribe request, .error e)] }
        [.resolving (.reporting request.sink e)]
  /-- The subscription still runs. -/
  | keeps (sink : Sink) (b : Books) (hbook : a.book? sink.id.connection = some b)
      (hruns : b.number? sink.operationId = some sink.id.number) :
      Settles a (.resolving (.checking sink)) a []
  /-- The subscription does not run any more. -/
  | cancels (sink : Sink) (b : Books) (hbook : a.book? sink.id.connection = some b)
      (hruns : b.number? sink.operationId ≠ some sink.id.number) :
      Settles a (.resolving (.checking sink)) a [.resolving (.cancelling sink.id)]
  | stops (id : SubscriptionId) (answer : Except EngineError Unit) :
      Settles a (.resolving (.cancelling id))
        { a with history := a.history ++ [(.unsubscribe id, answer)] } []
  | unsubscribes (id : SubscriptionId) (answer : Except EngineError Unit) :
      Settles a (.resolving (.unsubscribing id))
        { a with history := a.history ++ [(.unsubscribe id, answer)] } []
  /-- The client was told that the engine has refused a subscription. -/
  | reports (sink : Sink) (e : EngineError) : Settles a (.resolving (.reporting sink e)) a []
  /-- There is no handler to go on with. -/
  | dismisses (stage : Resolver) (c : Nat) (hc : stage.connection? = some c)
      (hbook : a.book? c = none)
      (calls : List (EngineCall × Except EngineError Unit)) :
      Settles a (.resolving stage) { a with history := a.history ++ calls } []

/-- What an activity does unprompted, and the duties that this brings. -/
inductive Begins (a : Affairs) : Affairs → List Duty → Prop where
  | nothing : Begins a a []
  /-- A client has been upgraded. -/
  | takesIn (b : Books) (hid : b.id = a.lastConnection + 1) (hclosed : b.closed = false)
      (hjobs : b.submitted = []) (hnumber : ∀ op, b.number? op = none) :
      Begins a
        { a with
          lastConnection := a.lastConnection + 1
          book? := fun c => (a.book? c).or (if c = a.lastConnection + 1 then some b else none) }
        [.incoming (a.lastConnection + 1)]
  /-- All live connections are to be taken down. -/
  | condemnsAll : Begins a a (a.live.map .removal)
  /-- The poller has reported a connection. -/
  | finds (c : Nat) (hlive : c ∈ a.live) : Begins a a [.reported c]
  /-- The poller is closed. -/
  | empties : Begins a { a with registered := [] } []

/-- One move, seen from all the duties there are. -/
inductive Fires (a : Affairs) : Multiset Duty → Affairs → Multiset Duty → Prop where
  | settles {d : Duty} {a' : Affairs} {new : List Duty} (h : Settles a d a' new)
      (rest : Multiset Duty) :
      Fires a (d ::ₘ rest) a' (new + rest)
  | begins {a' : Affairs} {new : List Duty} (h : Begins a a' new) (rest : Multiset Duty) :
      Fires a rest a' (new + rest)

namespace Fires

variable {a a' : Affairs}

theorem nothing (ds : Multiset Duty) : Fires a ds a ds := by
  have h := Fires.begins (Begins.nothing (a := a)) ds
  rwa [Multiset.coe_nil, zero_add] at h

/-- An activity settles its only duty. -/
theorem only {d : Duty} {new : List Duty} (h : Settles a d a' new) :
    Fires a ([d] : List Duty) a' new := by
  have hfires := Fires.settles h 0
  rwa [add_zero] at hfires

/-- An activity without duties takes some on. -/
theorem first {new : List Duty} (h : Begins a a' new) : Fires a 0 a' new := by
  have hfires := Fires.begins h 0
  rwa [add_zero] at hfires

/-- Duties of others stay. -/
theorem frame {ds ds' : Multiset Duty} (h : Fires a ds a' ds') (others : Multiset Duty) :
    Fires a (ds + others) a' (ds' + others) := by
  cases h with
  | settles h rest =>
    rw [Multiset.cons_add, add_assoc]
    exact .settles h (rest + others)
  | begins h rest =>
    rw [add_assoc]
    exact .begins h (ds + others)

/-- A duty stays, or it is settled. -/
theorem stays_or_settles {ds ds' : Multiset Duty} (h : Fires a ds a' ds') {d : Duty} (hd : d ∈ ds) :
    d ∈ ds' ∨ ∃ new, Settles a d a' new ∧ ∀ e ∈ new, e ∈ ds' := by
  cases h with
  | settles h rest =>
    rcases Multiset.mem_cons.mp hd with rfl | hd
    · exact Or.inr ⟨_, h, fun e he => Multiset.mem_add.mpr (Or.inl he)⟩
    · exact Or.inl (Multiset.mem_add.mpr (Or.inr hd))
  | begins h rest => exact Or.inl (Multiset.mem_add.mpr (Or.inr hd))

/-- Where a duty comes from. -/
theorem stayed_or_arises {ds ds' : Multiset Duty} (h : Fires a ds a' ds') {d : Duty}
    (hd : d ∈ ds') :
    d ∈ ds ∨ (∃ e new, e ∈ ds ∧ Settles a e a' new ∧ d ∈ new) ∨
      ∃ new, Begins a a' new ∧ d ∈ new := by
  cases h with
  | settles h rest =>
    rcases Multiset.mem_add.mp hd with hd | hd
    · exact Or.inr (Or.inl ⟨_, _, Multiset.mem_cons_self _ rest, h, hd⟩)
    · exact Or.inl (Multiset.mem_cons_of_mem hd)
  | begins h rest =>
    rcases Multiset.mem_add.mp hd with hd | hd
    · exact Or.inr (Or.inr ⟨_, h, hd⟩)
    · exact Or.inl hd

/-- What becomes of the affairs. -/
theorem settles_or_begins {ds ds' : Multiset Duty} (h : Fires a ds a' ds') :
    ∃ new, ((∃ d ∈ ds, Settles a d a' new) ∨ Begins a a' new) ∧ ∀ d ∈ new, d ∈ ds' := by
  cases h with
  | settles h rest =>
    exact ⟨_, Or.inl ⟨_, Multiset.mem_cons_self _ rest, h⟩,
      fun d hd => Multiset.mem_add.mpr (Or.inl hd)⟩
  | begins h rest => exact ⟨_, Or.inr h, fun d hd => Multiset.mem_add.mpr (Or.inl hd)⟩

end Fires

/-! ## What the primitives leave -/

namespace Gateway

variable {τ : Type}

/-- Tasks with the numbers that follow `n`. -/
def numbered (n : Nat) : List Activity → List (Nat × Activity)
  | [] => []
  | t :: ts => (n + 1, t) :: numbered (n + 1) ts

/-- Some tasks were begun, and the others are where they were. -/
structure Grows (s s' : Gateway τ) (spawned : List Activity) : Prop where
  tasks : s'.tasks = s.tasks ++ numbered s.lastTask spawned
  lastTask : s'.lastTask = s.lastTask + spawned.length
  fresh : ∀ t ∈ spawned, t.isFresh = true

namespace Grows

theorem refl (s : Gateway τ) : Grows s s [] := ⟨(List.append_nil _).symm, rfl, by simp⟩

/-- One task was begun. -/
theorem one {s s' : Gateway τ} {t : Activity} (ht : t.isFresh = true)
    (htasks : s'.tasks = s.tasks ++ [(s.lastTask + 1, t)]) (hlast : s'.lastTask = s.lastTask + 1) :
    Grows s s' [t] := ⟨htasks, hlast, by simpa using ht⟩

theorem spawn (s : Gateway τ) {t : Activity} (ht : t.isFresh = true) : Grows s (s.spawn t) [t] :=
  .one ht rfl rfl

theorem numbered_append (n : Nat) (xs ys : List Activity) :
    numbered n (xs ++ ys) = numbered n xs ++ numbered (n + xs.length) ys := by
  induction xs generalizing n with
  | nil => rfl
  | cons t ts ih =>
    rw [List.cons_append, numbered, numbered, ih, List.cons_append, List.length_cons]
    congr 3
    omega

theorem trans {s s' s'' : Gateway τ} {xs ys : List Activity} (h : Grows s s' xs)
    (h' : Grows s' s'' ys) : Grows s s'' (xs ++ ys) := by
  constructor
  · rw [h'.tasks, h.tasks, h.lastTask, numbered_append, List.append_assoc]
  · rw [h'.lastTask, h.lastTask, List.length_append, Nat.add_assoc]
  · intro t ht
    exact (List.mem_append.mp ht).elim (h.fresh t) (h'.fresh t)

end Grows

/-- The task of a job. -/
def taskOf (job : Job) : Activity := .resolver (.ofJob job)

theorem grows_spawnAll (s : Gateway τ) (jobs : List Job) :
    Grows s (jobs.foldl spawnResolver s) (jobs.map taskOf) := by
  induction jobs generalizing s with
  | nil => exact .refl s
  | cons job jobs ih =>
    have hone : Grows s (s.spawnResolver job) [taskOf job] := .one (by cases job <;> rfl) rfl rfl
    exact hone.trans (ih (s.spawnResolver job))

theorem affairs_spawnAll (s : Gateway τ) (jobs : List Job) :
    (jobs.foldl spawnResolver s).affairs = s.affairs := by
  induction jobs generalizing s with
  | nil => rfl
  | cons job jobs ih =>
    rw [List.foldl_cons, ih]
    rfl

theorem find?_map_put (hs : List (Handler τ)) (h : Handler τ) (c : Nat) :
    (hs.map fun g => if g.id = h.id then h else g).find? (·.id = c) =
      if c = h.id then (hs.find? (·.id = c)).map fun _ => h else hs.find? (·.id = c) := by
  induction hs with
  | nil => simp
  | cons g gs ih =>
    rw [List.map_cons, List.find?_cons, List.find?_cons, ih]
    by_cases hg : g.id = h.id
    · by_cases hc : c = h.id
      · simp [hg, hc]
      · simp [hg, hc, Ne.symm hc]
    · by_cases hc : c = h.id
      · simp [hg, hc]
      · simp [hg, hc]

theorem handler?_id {s : Gateway τ} {c : Nat} {h : Handler τ} (hh : s.handler? c = some h) :
    h.id = c := by
  simpa using List.find?_some hh

/-- Putting a handler back picks up its work. -/
theorem affairs_put {s : Gateway τ} {c : Nat} {g h : Handler τ} (hg : s.handler? c = some g)
    (hid : h.id = c) : (s.put h).affairs = s.affairs.setBook c
    { h.books with submitted := [] } := by
  rw [put, affairs_spawnAll]
  let h' : Handler τ := { h with submitted := [], journal := [], counted := none }
  have hbook (x : Nat) : ((s.handlers.map fun g => if g.id = h'.id then h' else g).find?
      (·.id = x)).map
      Handler.books = if x = c then some { h.books with submitted := [] }
        else s.affairs.book? x := by
    rw [find?_map_put s.handlers h' x]
    by_cases hx : x = c
    · rw [if_pos (hx.trans hid.symm), if_pos hx, hx]
      show ((s.handler? c).map _).map Handler.books = _
      rw [hg]
      rfl
    · rw [if_neg fun heq => hx (heq.trans hid), if_neg hx]
      rfl
  simp only [affairs, handler?, Affairs.setBook, Affairs.mk.injEq, true_and, and_true]
  exact ⟨rfl, funext hbook⟩

theorem grows_put (s : Gateway τ) (h : Handler τ) : Grows s (s.put h) (h.submitted.map taskOf) := by
  rw [put]
  obtain ⟨htasks, hlast, hfresh⟩ := grows_spawnAll (_ : Gateway τ) h.submitted
  exact ⟨htasks, hlast, hfresh⟩

/-! ## What an activity does -/

/-- Going from one state to another, the owner of the duties `ds` has made one move and is left with
`ds'`; tasks that were begun on the way owe the work of a handler, and what else they owe counts as
the owner's. -/
def MovesOnce (s : Gateway τ) (ds : Multiset Duty) (s' : Gateway τ) (ds' : Multiset Duty) : Prop :=
  ∃ spawned a jobs extra, Grows s s' spawned ∧ Handles s.affairs a jobs ∧
    spawned.flatMap Activity.duties = jobs ++ extra ∧
      Fires a ds s'.affairs (ds' + (extra : List Duty))

namespace MovesOnce

variable {s s' s'' : Gateway τ} {ds ds' : Multiset Duty}

/-- A move without a handler and without new tasks. -/
theorem of_fires (htasks : s'.tasks = s.tasks) (hlast : s'.lastTask = s.lastTask)
    (hfires : Fires s.affairs ds s'.affairs ds') : MovesOnce s ds s' ds' := by
  refine ⟨[], s.affairs, [], [], ⟨?_, hlast, by simp⟩, .nobody, rfl, ?_⟩
  · rw [htasks, numbered, List.append_nil]
  · rwa [Multiset.coe_nil, add_zero]

theorem of_settles {d : Duty} {new : List Duty} (htasks : s'.tasks = s.tasks)
    (hlast : s'.lastTask = s.lastTask) (h : Settles s.affairs d s'.affairs new) :
    MovesOnce s ([d] : List Duty) s' new :=
  .of_fires htasks hlast (.only h)

theorem of_begins {new : List Duty} (htasks : s'.tasks = s.tasks) (hlast : s'.lastTask = s.lastTask)
    (h : Begins s.affairs s'.affairs new) : MovesOnce s 0 s' new :=
  .of_fires htasks hlast (.first h)

/-- A move that begins one task. -/
theorem of_spawn {t : Activity} (hgrows : Grows s s' [t])
    (hfires : Fires s.affairs ds s'.affairs (ds' + (t.duties : List Duty))) :
    MovesOnce s ds s' ds' :=
  ⟨[t], s.affairs, [], t.duties, hgrows, .nobody, by simp, hfires⟩

/-- Nothing that counts has changed. -/
theorem idle (htasks : s'.tasks = s.tasks) (hlast : s'.lastTask = s.lastTask)
    (haffairs : s'.affairs = s.affairs) : MovesOnce s ds s' ds :=
  .of_fires htasks hlast (haffairs ▸ .nothing ds)

/-- What changes neither tasks nor affairs may follow. -/
theorem then_idle (h : MovesOnce s ds s' ds') (htasks : s''.tasks = s'.tasks)
    (hlast : s''.lastTask = s'.lastTask) (haffairs : s''.affairs = s'.affairs) :
    MovesOnce s ds s'' ds' := by
  obtain ⟨spawned, a, jobs, extra, hgrows, hhandles, hduties, hfires⟩ := h
  exact ⟨spawned, a, jobs, extra, ⟨htasks.trans hgrows.tasks, hlast.trans hgrows.lastTask,
    hgrows.fresh⟩, hhandles, hduties, haffairs ▸ hfires⟩

/-- Other duties of the same owner stay. -/
theorem frame (h : MovesOnce s ds s' ds') (others : Multiset Duty) :
    MovesOnce s (ds + others) s' (ds' + others) := by
  obtain ⟨spawned, a, jobs, extra, hgrows, hhandles, hduties, hfires⟩ := h
  refine ⟨spawned, a, jobs, extra, hgrows, hhandles, hduties, ?_⟩
  rw [add_right_comm]
  exact hfires.frame others

end MovesOnce

theorem flatMap_taskOf (jobs : List Job) :
    (jobs.map taskOf).flatMap Activity.duties = jobs.map fun job => .resolving (.ofJob job) := by
  rw [List.flatMap_map]
  induction jobs with
  | nil => rfl
  | cons job jobs ih =>
    rw [List.flatMap_cons, ih, List.map_cons]
    cases job <;> rfl

/-- A handler goes on, and then a move is made; `s₁` differs from `s` in nothing but what the move
changes. -/
theorem movesOnce_put {s s₁ : Gateway τ} {c : Nat} {g h : Handler τ} {b : Books}
    {ds ds' : Multiset Duty} (htasks : s₁.tasks = s.tasks) (hlast : s₁.lastTask = s.lastTask)
    (hg : s.handler? c = some g) (hgo : Go g.books b) (hjobs : h.submitted = b.submitted)
    (hfires : Fires (s.affairs.setBook c { b with submitted := [] }) ds (s₁.put h).affairs ds') :
    MovesOnce s ds (s₁.put h) ds' := by
  have hbook : s.affairs.book? c = some g.books := congrArg (Option.map Handler.books) hg
  obtain ⟨htasks', hlast', hfresh⟩ := s₁.grows_put h
  rw [htasks, hlast] at htasks'
  rw [hlast] at hlast'
  refine ⟨_, _, _, [], ⟨htasks', hlast', hfresh⟩, .goes c g.books b hbook hgo, ?_, ?_⟩
  · rw [flatMap_taskOf, hjobs, List.append_nil]
  · rwa [Multiset.coe_nil, add_zero]

/-- A handler goes on, and its caller makes a move that leaves the affairs alone. -/
theorem movesOnce_go {s : Gateway τ} {c : Nat} {g h : Handler τ} {ds ds' : Multiset Duty}
    (hg : s.handler? c = some g) (hgo : Go g.books h.books) (hfires : ∀ a, Fires a ds a ds') :
    MovesOnce s ds (s.put h) ds' := by
  refine movesOnce_put rfl rfl hg hgo rfl ?_
  rw [affairs_put hg (hgo.id.trans (handler?_id hg))]
  exact hfires _

theorem movesOnce_withHandler {α : Type} {s : Gateway τ} {c : Nat} {absent : α}
    {f : Handler τ → α × Handler τ} {ds ds' : Multiset Duty} (hf : ∀ h, Go h.books (f h).2.books)
    (hfires : ∀ a, Fires a ds a ds') : MovesOnce s ds (s.withHandler c absent f).2 ds' := by
  rw [withHandler]
  split <;> rename_i hh
  · exact .of_fires rfl rfl (hfires s.affairs)
  · exact movesOnce_go hh (hf _) hfires

theorem movesOnce_modifyHandler {s : Gateway τ} {c : Nat} {f : Handler τ → Handler τ}
    (ds : Multiset Duty) (hf : ∀ h, Go h.books (f h).books) :
    MovesOnce s ds (s.modifyHandler c f) ds := by
  rw [modifyHandler]
  split <;> rename_i hh
  · exact .idle rfl rfl rfl
  · exact movesOnce_go hh (hf _) fun _ => .nothing ds

theorem affairs_deregister [Severable τ] (a : Answers τ) (s : Gateway τ) (c : Nat) :
    (s.deregister a c).2.affairs =
      { s.affairs with registered := s.affairs.registered.filter (· ≠ (c : Descriptor)) } := by
  rw [deregister]
  split <;> rename_i hpoller
  · simp [affairs, hpoller]
  · rename_i p
    simp [affairs, hpoller, p.conns_remove, isPolling, handler?]

theorem tasks_deregister [Severable τ] (a : Answers τ) (s : Gateway τ) (c : Nat) :
    (s.deregister a c).2.tasks = s.tasks ∧ (s.deregister a c).2.lastTask = s.lastTask := by
  rw [deregister]
  split <;> exact ⟨rfl, rfl⟩

end Gateway

end StreamGateway
