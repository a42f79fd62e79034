import StreamGateway.Proofs.Gateway.Rights
import StreamGateway.Proofs.Gateway.Withdrawals

/-! # Who deals with a connection

A task deals with few connections: the one that it takes in, serves or reads, or those that the
poller has reported (`Activity.connections`). Apart from these there are the lists of whom to take
down when the gateway shuts down or its poller has failed (`Activity.sweeps`). A task begins others
only for connections that it deals with (`Gateway.begun_advance`), and it comes to deal with a
connection only when a client is upgraded or when the poller reports one
(`Gateway.connections_advance`). What belongs to a connection is changed by those who deal with
it. -/
namespace StreamGateway

open Handler (Books Go)

variable {a a' : Affairs} {ds ds' : Multiset Duty} {c : Nat}

/-! ## Connections of a task -/

section

variable {d : Duty}

theorem Closing.connection?_duties {stage : Closing} (h : d ∈ stage.duties c) :
    d.connection? = some c := by
  cases stage with
  | disconnecting | closed => cases h
  | _ =>
    cases List.mem_singleton.mp h
    rfl

theorem Teardown.connection?_duties {stage : Teardown} (h : d ∈ stage.duties c) :
    d.connection? = some c := by
  cases stage with
  | closing stage => exact Closing.connection?_duties h
  | _ =>
    cases List.mem_singleton.mp h
    rfl

theorem Teardown.connection?_dutiesOf {stage : Teardown} {cs : List Nat}
    (h : d ∈ stage.dutiesOf cs) : ∃ x ∈ cs, d.connection? = some x := by
  cases cs with
  | nil => cases h
  | cons x rest =>
    rcases List.mem_append.mp h with h | h
    · exact ⟨x, List.mem_cons_self, connection?_duties h⟩
    · obtain ⟨y, hy, rfl⟩ := List.mem_map.mp h
      exact ⟨y, List.mem_cons_of_mem x hy, rfl⟩

theorem Serve.connection?_duties {stage : Serve} (h : d ∈ stage.duties c) :
    d.connection? = some c := by
  rcases Serve.mem_duties h with ⟨-, h⟩ | ⟨-, rfl⟩ | rfl | rfl
  · simp only [List.mem_cons, List.not_mem_nil, or_false] at h
    rcases h with rfl | rfl | rfl | rfl <;> rfl
  all_goals rfl

end

namespace Activity

/-- The connection that a task takes in, serves or reads, or those that the poller has reported to
it. Calls to the engine do not count. -/
def connections : Activity → List Nat
  | .accept listened stage => (accept listened stage).connection?.toList
  | .drain c _ | .reader c _ | .leftover c _ => [c]
  | .polling (.looking ready) => ready
  | .polling (.taking c ready) | .polling (.submitting c ready) => c :: ready
  | _ => []

/-- The connections that are taken down one after the other because the gateway shuts down or its
poller has failed. -/
def sweeps : Activity → List Nat
  | .polling (.closing cs _) | .shutdown _ (.closing cs _) => cs
  | _ => []

/-- Who owes something to a connection deals with it, or has it on the list of those to take
down. -/
theorem deals_of_mem {t : Activity} {d : Duty} (h : d ∈ t.duties) (hc : d.connection? = some c)
    (hd : ∀ stage, d ≠ .resolving stage) :
    c ∈ t.connections ∨ c ∈ t.sweeps ∧ d.isTeardown = true := by
  have hone {x : Nat} (hx : d.connection? = some x) : c ∈ [x] :=
    List.mem_singleton.mpr (Option.some.inj (hc.symm.trans hx))
  have hlist {stage : Teardown} {cs : List Nat} (h : d ∈ stage.dutiesOf cs) :
      c ∈ cs ∧ d.isTeardown = true := by
    obtain ⟨x, hx, hdx⟩ := Teardown.connection?_dutiesOf h
    exact ⟨List.mem_singleton.mp (hone hdx) ▸ hx, Teardown.isTeardown_of_mem_dutiesOf h⟩
  cases t with
  | accept listened stage =>
    cases stage with
    | entering | upgrading | returned => cases h
    | handshaking x | configuring x | inserting x =>
      cases List.mem_singleton.mp h
      exact .inl (hone rfl)
    | failing x e stage => exact .inl (hone (Closing.connection?_duties h))
    | serving x stage => exact .inl (hone (Serve.connection?_duties h))
    | removing x e stage => exact .inl (hone (Teardown.connection?_duties h))
  | drain x stage =>
    cases stage with
    | serving stage => exact .inl (hone (Serve.connection?_duties h))
    | removing stage => exact .inl (hone (Teardown.connection?_duties h))
    | finished => cases h
  | reader x stage =>
    cases stage with
    | reading =>
      cases List.mem_singleton.mp h
      exact .inl (hone rfl)
    | removing stage => exact .inl (hone (Teardown.connection?_duties h))
    | finished => cases h
  | resolver stage =>
    cases stage with
    | finished => cases h
    | _ => exact absurd (List.mem_singleton.mp h) (hd _)
  | polling stage =>
    cases stage with
    | taking x ready | submitting x ready =>
      cases List.mem_singleton.mp h
      exact .inl (List.mem_append_left ready (hone rfl))
    | closing cs stage => exact .inr (hlist h)
    | resting | waiting | looking | stopped => cases h
  | shutdown timeoutMs stage =>
    cases stage with
    | closing cs stage => exact .inr (hlist h)
    | _ => cases h
  | leftover | listener => cases h

/-- A task that is begun for a connection. -/
inductive Begun (c : Nat) : Activity → Prop where
  | resolver (job : Job) (h : job.id.connection = c) : Begun c (.resolver (.ofJob job))
  | drain : Begun c (.drain c (.serving .draining))
  | reader : Begun c (.reader c .reading)
  | leftover : Begun c (.leftover c false)

theorem Begun.mem_connections {t : Activity} {x : Nat} (h : t.Begun c) (hx : x ∈ t.connections) :
    x = c := by
  cases h with
  | resolver => cases hx
  | _ => exact List.mem_singleton.mp hx

theorem Begun.unique {t : Activity} {x : Nat} (h : t.Begun x) (h' : t.Begun c) : x = c := by
  cases h with
  | resolver job hjob =>
    generalize hstage : Resolver.ofJob job = stage at h'
    cases h' with
    | resolver job' hjob' =>
      rw [← hjob, ← hjob']
      cases job <;> cases job' <;> cases hstage <;> rfl
  | drain | reader | leftover =>
    cases h'
    rfl

theorem Begun.sweeps {t : Activity} (h : t.Begun c) : t.sweeps = [] := by cases h <;> rfl

theorem Begun.ne_shutdown {t : Activity} (h : t.Begun c) (timeoutMs : Nat) (stage : Shutdown) :
    t ≠ .shutdown timeoutMs stage := by
  rintro rfl
  cases h

end Activity

/-! ## Beginning tasks -/

namespace Handler

variable {τ : Type} [Transport τ]

theorem submitted_finish (h : Handler τ) (op : String) :
    (h.finish op).2.submitted = h.submitted := by
  show (h.forget op).submitted = h.submitted
  rw [forget]
  split <;> rfl

theorem submitted_respond (h : Handler τ) (op : String) (response : Json.Raw) :
    (h.respond op response).2.submitted = h.submitted :=
  congrArg Books.submitted (h.books_respond op response)

theorem submitted_handshake (h : Handler τ) : h.handshake.2.submitted = h.submitted := by
  rw [handshake]
  split
  dsimp only
  split <;> rfl

theorem submitted_reject (h : Handler τ) (op message : String) :
    (h.reject op message).2.submitted = h.submitted := by
  have hsent := congrArg Books.submitted (h.books_sendErrors op (Response.errorsOf message) none)
  rw [reject]
  split <;> rename_i heq <;> rw [heq] at hsent
  · exact hsent
  · exact (submitted_finish _ op).trans hsent

/-- A task that calls the engine puts nothing in line. -/
theorem submitted_resolver (h : Handler τ) (stage : Resolver) (answer : Except EngineError Unit) :
    (stage.step answer h).2.submitted = h.submitted := by
  cases stage with
  | subscribing | cancelling | unsubscribing => cases answer <;> rfl
  | checking | finished => rfl
  | reporting sink e =>
    have hreject := h.submitted_reject sink.operationId e.message
    rw [Resolver.step]
    split <;> rename_i heq <;> rw [heq] at hreject <;> exact hreject

end Handler

/-- The poller reports whom it has. -/
theorem Poller.mem_conns_of_wait {p : Poller} {most : Nat} {system : Readiness}
    {ready : List Descriptor} (h : (p.wait most system).1 = .ok ready) {d : Descriptor}
    (hd : d ∈ ready) : d ∈ p.conns := by
  unfold wait at h
  split at h
  · cases h
  · split at h
    · cases h
    · cases h
      simpa using (List.mem_filter.mp hd).2

/-- After a failed wait the poller is closed. -/
theorem Poller.closed_of_wait {p : Poller} {most : Nat} {system : Readiness} {e : PollerError}
    (h : (p.wait most system).1 = .error e) : (p.wait most system).2.1.closed = true := by
  unfold wait at h ⊢
  split at h <;> rename_i hclosed
  · simpa only [if_pos hclosed] using hclosed
  · rw [if_neg hclosed]
    cases hask : p.ask most system with
    | error => rfl
    | ok =>
      rw [hask] at h
      cases h

namespace Gateway

variable {τ : Type}

/-- The work of all handlers has been picked up. -/
def Collected (s : Gateway τ) : Prop := ∀ c h, s.handler? c = some h → h.submitted = []

theorem tasks_withHandler {α : Type} {s : Gateway τ} (hs : s.Collected) (c : Nat) (absent : α)
    {f : Handler τ → α × Handler τ} (hf : ∀ h, (f h).2.submitted = h.submitted) :
    (s.withHandler c absent f).2.tasks = s.tasks := by
  rw [withHandler]
  split <;> rename_i hh
  · rfl
  · rename_i h
    dsimp only
    rw [put, hf, hs c h hh]
    rfl

theorem tasks_modifyHandler {s : Gateway τ} (hs : s.Collected) (c : Nat) {f : Handler τ → Handler τ}
    (hf : ∀ h, (f h).submitted = h.submitted) : (s.modifyHandler c f).tasks = s.tasks := by
  rw [modifyHandler]
  split <;> rename_i hh
  · rfl
  · rename_i h
    rw [put, hf, hs c h hh]
    rfl

variable [Severable τ]

theorem tasks_closing (a : Answers τ) {s : Gateway τ} (hs : s.Collected) (c : Nat)
    (stage : Closing) : (stage.step a s c).2.tasks = s.tasks := by
  cases stage with
  | marking =>
    exact tasks_withHandler hs c true fun h => congrArg Books.submitted h.books_markClosed
  | unsubscribing =>
    have hanswered : (s.answered (.unsubscribeClient c) a.engine).Collected := hs
    exact tasks_modifyHandler hanswered c fun h => congrArg Books.submitted
      (h.books_clientUnsubscribed a.engine)
  | forgetting => exact tasks_modifyHandler hs c fun h => congrArg Books.submitted h.books_forgetAll
  | disconnecting =>
    exact tasks_modifyHandler hs c fun h => congrArg Books.submitted h.books_disconnect
  | closed => rfl

theorem tasks_teardown (a : Answers τ) {s : Gateway τ} (hs : s.Collected) (c : Nat)
    (stage : Teardown) : (stage.step a s c).2.tasks = s.tasks := by
  cases stage with
  | removing =>
    simp only [Teardown.step]
    split <;> rfl
  | deregistering =>
    have hderegister := (s.tasks_deregister a c).1
    simp only [Teardown.step]
    split <;> exact hderegister
  | closing stage => exact tasks_closing a hs c stage

theorem tasks_rearm (a : Answers τ) (s : Gateway τ) (c : Nat) (stage : Rearm) :
    (stage.step a s c).2.tasks = s.tasks := by
  cases stage with
  | checking | rechecking | done => rfl
  | testing =>
    simp only [Rearm.step]
    split
    · rfl
    · split
      · rfl
      · split <;> rfl
  | enrolling =>
    simp only [Rearm.step]
    split
    · rfl
    · split <;> rfl
  | undoing => exact (s.tasks_deregister a c).1

/-- What becomes of the gateway does not depend on who goes through the stages. -/
theorem rearming_snd (a : Answers τ) (s : Gateway τ) (c : Nat) (stage : Rearm) :
    (Serve.step a s c (.rearming stage)).2 = (stage.step a s c).2 := by
  cases stage <;> rfl

theorem failing_snd (a : Answers τ) (s : Gateway τ) (c : Nat) (e : GatewayError) (stage : Closing) :
    (Accept.step a s (.failing c e stage)).2 = (stage.step a s c).2 := by
  cases stage <;> rfl

theorem serving_snd (a : Answers τ) (s : Gateway τ) (c : Nat) (stage : Serve) :
    (Accept.step a s (.serving c stage)).2 = (stage.step a s c).2 := by
  cases stage with
  | done result => cases result <;> rfl
  | _ => rfl

/-- Reading a message begins calls to the engine. -/
theorem begun_read {α : Type} {s : Gateway τ} (hs : s.Collected) (absent : α)
    {f : Handler τ → α × Handler τ} (hf : ∀ h, (f h).2 = h.readOne.2) {p : Nat × Activity}
    (hp : p ∈ (s.withHandler c absent f).2.tasks) :
    p ∈ s.tasks ∨ ∃ job : Job, job.id.connection = c ∧ p.2 = .resolver (.ofJob job) := by
  rw [withHandler] at hp
  split at hp <;> rename_i hh
  · exact .inl hp
  · rename_i h
    have hp : p ∈ (s.put h.readOne.2).tasks := hf h ▸ hp
    rw [(s.grows_put h.readOne.2).tasks] at hp
    refine (List.mem_append.mp hp).imp_right fun hp => ?_
    obtain ⟨job, hjob, heq⟩ := List.mem_map.mp (snd_of_mem_numbered hp)
    have hid : job.id.connection = c := by
      rw [connection_of_go h.go_readOne (hs c h hh) hjob]
      exact handler?_id hh
    exact ⟨job, hid, heq.symm⟩

theorem begun_serve (a : Answers τ) {s : Gateway τ} (hs : s.Collected) (stage : Serve)
    {p : Nat × Activity} (hp : p ∈ (stage.step a s c).2.tasks) :
    p ∈ s.tasks ∨ ∃ job : Job, job.id.connection = c ∧ p.2 = .resolver (.ofJob job) := by
  cases stage with
  | draining =>
    refine begun_read hs Handler.Turn.idle Handler.turn_snd ?_
    simp only [Serve.step] at hp
    split at hp <;> exact hp
  | rearming stage =>
    rw [rearming_snd, tasks_rearm] at hp
    exact .inl hp
  | done => exact .inl hp

/-- Taking a connection in begins calls to the engine, and a reader if there is no poller. -/
theorem begun_accept (a : Answers τ) {s : Gateway τ} (hs : s.Collected) (stage : Accept)
    {p : Nat × Activity} (hp : p ∈ (stage.step a s).2.tasks) :
    p ∈ s.tasks ∨ (∃ x stage', stage = .serving x stage' ∧
      ∃ job : Job, job.id.connection = x ∧ p.2 = .resolver (.ofJob job)) ∨
      ∃ x, stage = .inserting x ∧ s.isPolling = false ∧ p.2 = .reader x .reading := by
  cases stage with
  | entering =>
    simp only [Accept.step] at hp
    split at hp
    · exact .inl hp
    · split at hp <;> exact .inl hp
  | upgrading =>
    simp only [Accept.step] at hp
    split at hp <;> exact .inl hp
  | handshaking x =>
    have htasks := tasks_withHandler hs x (.error (.connectionGone x)) Handler.submitted_handshake
    simp only [Accept.step] at hp
    split at hp <;> exact .inl (htasks ▸ hp)
  | failing x e stage =>
    rw [failing_snd, tasks_closing a hs] at hp
    exact .inl hp
  | configuring x =>
    simp only [Accept.step] at hp
    split at hp <;> exact .inl hp
  | inserting x =>
    simp only [Accept.step] at hp
    split at hp <;> rename_i hpolling
    · exact .inl hp
    · refine (List.mem_append.mp hp).imp_right fun hp =>
        .inr ⟨x, rfl, Bool.eq_false_iff.mpr hpolling, ?_⟩
      rw [List.mem_singleton.mp hp]
  | serving x stage =>
    rw [serving_snd] at hp
    exact (begun_serve a hs stage hp).imp_right fun hjob => .inl ⟨x, stage, rfl, hjob⟩
  | removing x e stage =>
    simp only [Accept.step] at hp
    split at hp
    · exact .inl hp
    · exact .inl (tasks_teardown a hs x stage ▸ hp)
  | returned => exact .inl hp

theorem tasks_accept (a : Answers τ) (s : Gateway τ) (listened : Bool) (stage : Accept) :
    (s.advance a (.accept listened stage)).2.tasks = (stage.step a s).2.tasks := by
  simp only [advance]
  split <;> rfl

theorem begun_drain (a : Answers τ) {s : Gateway τ} (hs : s.Collected) (stage : Drain)
    {p : Nat × Activity} (hp : p ∈ (stage.step a s c).2.tasks) :
    p ∈ s.tasks ∨ ∃ job : Job, job.id.connection = c ∧ p.2 = .resolver (.ofJob job) := by
  cases stage with
  | serving stage =>
    cases stage with
    | done result =>
      cases result with
      | ok => exact .inl hp
      | error e =>
        simp only [Drain.step, logEnd] at hp
        split at hp <;> exact .inl hp
    | draining => exact begun_serve a hs .draining hp
    | rearming stage => exact begun_serve a hs (.rearming stage) hp
  | removing stage =>
    simp only [Drain.step] at hp
    split at hp
    · exact .inl hp
    · exact .inl (tasks_teardown a hs c stage ▸ hp)
  | finished => exact .inl hp

/-- A reader begins calls to the engine, and a last look when the gateway shuts down. -/
theorem begun_reading (a : Answers τ) {s : Gateway τ} (hs : s.Collected) (stage : Reading)
    {p : Nat × Activity} (hp : p ∈ (stage.step a s c).2.tasks) : p ∈ s.tasks ∨
      (∃ job : Job, job.id.connection = c ∧ p.2 = .resolver (.ofJob job)) ∨
        p.2 = .leftover c false := by
  cases stage with
  | reading =>
    simp only [Reading.step] at hp
    split at hp
    · refine (List.mem_append.mp hp).imp_right fun hp => .inr ?_
      rw [List.mem_singleton.mp hp]
    · have hread (hp : p ∈ (s.withHandler c .idle Handler.patientTurn).2.tasks) :=
        (begun_read hs Handler.Turn.idle Handler.patientTurn_snd hp).imp_right
          (Or.inl (b := p.2 = .leftover c false))
      split at hp
      · exact hread hp
      · exact hread hp
      · simp only [logEnd] at hp
        split at hp <;> exact hread hp
  | removing stage =>
    simp only [Reading.step] at hp
    split at hp
    · exact .inl hp
    · exact .inl (tasks_teardown a hs c stage ▸ hp)
  | finished => exact .inl hp

/-- The polling begins to drain a connection that it has taken off the poller. -/
theorem begun_polling (a : Answers τ) {s : Gateway τ} (hs : s.Collected) (stage : Polling)
    {p : Nat × Activity} (hp : p ∈ (stage.step a s).2.tasks) :
    p ∈ s.tasks ∨ ∃ x ready, stage = .submitting x ready ∧ p.2 = .drain x (.serving .draining) := by
  cases stage with
  | resting =>
    simp only [Polling.step] at hp
    split at hp <;> exact .inl hp
  | waiting =>
    simp only [Polling.step] at hp
    split at hp
    · exact .inl hp
    · split at hp
      · exact .inl hp
      · rw [Polling.failed] at hp
        split at hp
        · exact .inl hp
        · dsimp only at hp
          split at hp <;> exact .inl hp
  | looking ready => cases ready <;> exact .inl hp
  | taking x ready =>
    have htasks := (s.tasks_deregister a x).1
    simp only [Polling.step] at hp
    split at hp <;> rename_i heq <;> rw [heq] at htasks <;> exact .inl (htasks ▸ hp)
  | submitting x ready =>
    refine (List.mem_append.mp hp).imp_right fun hp => ⟨x, ready, rfl, ?_⟩
    rw [List.mem_singleton.mp hp]
  | closing cs stage =>
    cases cs with
    | nil => exact .inl hp
    | cons x rest =>
      simp only [Polling.step] at hp
      split at hp
      · exact .inl hp
      · exact .inl (tasks_teardown a hs x stage ▸ hp)
  | stopped => exact .inl hp

theorem tasks_shutdown (a : Answers τ) {s : Gateway τ} (hs : s.Collected) (timeoutMs : Nat)
    (stage : Shutdown) : (stage.step a s timeoutMs).2.tasks = s.tasks := by
  cases stage with
  | announcing | cancelling | listing | settling | joining | returned | releasing => rfl
  | closing cs stage =>
    cases cs with
    | nil => rfl
    | cons x rest =>
      simp only [Shutdown.step]
      split
      · rfl
      · exact tasks_teardown a hs x stage
  | shutting =>
    simp only [Shutdown.step]
    split <;> rfl
  | draining again =>
    simp only [Shutdown.step]
    split
    · rfl
    · split <;> rfl
  | severing drained =>
    cases drained with
    | nil => rfl
    | cons x rest => exact tasks_modifyHandler hs x fun _ => rfl
  | waiting =>
    simp only [Shutdown.step]
    split
    · rfl
    · split <;> rfl

/-- A step begins tasks only for connections that its task deals with. -/
theorem begun_advance (a : Answers τ) {s : Gateway τ} (hs : s.Collected) (t : Activity)
    {p : Nat × Activity} (hp : p ∈ (s.advance a t).2.tasks) :
    p ∈ s.tasks ∨ ∃ x ∈ t.connections, p.2.Begun x := by
  have hjobs {x : Nat} (hx : x ∈ t.connections)
      (h : ∃ job : Job, job.id.connection = x ∧ p.2 = .resolver (.ofJob job)) :
      ∃ x ∈ t.connections, p.2.Begun x := by
    obtain ⟨job, hjob, heq⟩ := h
    exact ⟨x, hx, heq ▸ .resolver job hjob⟩
  cases t with
  | accept listened stage =>
    rw [tasks_accept] at hp
    rcases begun_accept a hs stage hp with hp | ⟨x, stage, rfl, hjob⟩ | ⟨x, rfl, -, heq⟩
    · exact .inl hp
    · exact .inr (hjobs (List.mem_singleton_self x) hjob)
    · exact .inr ⟨x, List.mem_singleton_self x, heq ▸ .reader⟩
  | drain x stage => exact (begun_drain a hs stage hp).imp_right (hjobs (List.mem_singleton_self x))
  | reader x stage =>
    rcases begun_reading a hs stage hp with hp | hjob | heq
    · exact .inl hp
    · exact .inr (hjobs (List.mem_singleton_self x) hjob)
    · exact .inr ⟨x, List.mem_singleton_self x, heq ▸ .leftover⟩
  | leftover x ended =>
    simp only [advance] at hp
    split at hp
    · exact .inl hp
    · exact (begun_read hs _ (fun _ => rfl) hp).imp_right (hjobs (List.mem_singleton_self x))
  | resolver stage =>
    simp only [advance] at hp
    split at hp
    · exact .inl hp
    · refine .inl ?_
      rw [tasks_withHandler _ _ _ fun h => h.submitted_resolver stage a.engine] at hp
      · split at hp <;> exact hp
      · split <;> exact hs
  | polling stage =>
    rcases begun_polling a hs stage hp with hp | ⟨x, ready, rfl, heq⟩
    · exact .inl hp
    · exact .inr ⟨x, List.mem_cons_self, heq ▸ .drain⟩
  | listener ended =>
    simp only [advance] at hp
    split at hp <;> exact .inl hp
  | shutdown timeoutMs stage => exact .inl (tasks_shutdown a hs timeoutMs stage ▸ hp)

/-! ## Coming to deal with a connection -/

/-- Where the connection comes from that a task takes in. -/
theorem connection?_accept (a : Answers τ) (s : Gateway τ) (listened : Bool)
    (stage : Accept) {x : Nat}
    (hx : x ∈ (Activity.accept listened (stage.step a s).1).connections) :
    x ∈ (Activity.accept listened stage).connections ∨ stage = .upgrading ∧
      x = s.lastConnection + 1 := by
  cases stage with
  | entering =>
    simp only [Accept.step] at hx
    split at hx
    · cases hx
    · split at hx <;> cases hx
  | upgrading =>
    simp only [Accept.step] at hx
    split at hx
    · cases hx
    · exact .inr ⟨rfl, List.mem_singleton.mp hx⟩
  | handshaking y | configuring y =>
    simp only [Accept.step] at hx
    split at hx <;> exact .inl hx
  | failing y e stage =>
    cases stage with
    | closed => cases hx
    | _ => exact .inl hx
  | inserting y =>
    simp only [Accept.step] at hx
    split at hx
    · exact .inl hx
    · cases hx
  | serving y stage =>
    cases stage with
    | done result =>
      cases result with
      | ok => cases hx
      | error => exact .inl hx
    | _ => exact .inl hx
  | removing y e stage =>
    simp only [Accept.step] at hx
    split at hx
    · cases hx
    · exact .inl hx
  | returned => cases hx

/-- Only the poller or an upgrade brings a task a connection to deal with. -/
theorem connections_advance (a : Answers τ) (s : Gateway τ) (t : Activity) {x : Nat}
    (hx : x ∈ (s.advance a t).1.connections) :
    x ∈ t.connections ∨ (∃ d ∈ s.affairs.registered, d.toNat = x) ∨
      (∃ listened, t = .accept listened .upgrading) ∧ x = s.lastConnection + 1 := by
  cases t with
  | accept listened stage =>
    refine (connection?_accept a s listened stage hx).imp_right ?_
    rintro ⟨rfl, hnew⟩
    exact .inr ⟨⟨listened, rfl⟩, hnew⟩
  | drain | reader => exact .inl hx
  | leftover y ended =>
    simp only [advance] at hx
    split at hx <;> exact .inl hx
  | resolver stage =>
    simp only [advance] at hx
    split at hx <;> cases hx
  | listener ended =>
    simp only [advance] at hx
    split at hx <;> cases hx
  | shutdown => cases hx
  | polling stage =>
    cases stage with
    | resting =>
      simp only [advance, Polling.step] at hx
      split at hx <;> cases hx
    | waiting =>
      simp only [advance, Polling.step] at hx
      split at hx <;> rename_i hpoller
      · cases hx
      · split at hx <;> rename_i hwait
        · -- what is reported is registered
          obtain ⟨d, hd, rfl⟩ := List.mem_map.mp hx
          refine .inr (.inl ⟨d, ?_, rfl⟩)
          rw [registered_eq hpoller]
          exact Poller.mem_conns_of_wait hwait hd
        · rw [Polling.failed] at hx
          split at hx
          · cases hx
          · dsimp only at hx
            split at hx <;> cases hx
    | looking ready =>
      cases ready with
      | nil => cases hx
      | cons y ready =>
        simp only [advance, Polling.step] at hx
        split at hx
        · exact .inl hx
        · exact .inl (List.mem_cons_of_mem y hx)
    | taking y ready =>
      simp only [advance, Polling.step] at hx
      split at hx
      · exact .inl hx
      · exact .inl (List.mem_cons_of_mem y hx)
      · exact .inl (List.mem_cons_of_mem y hx)
    | submitting y ready => exact .inl (List.mem_cons_of_mem y hx)
    | closing cs stage =>
      cases cs with
      | nil => cases hx
      | cons y rest =>
        simp only [advance, Polling.step] at hx
        split at hx <;> cases hx
    | stopped => cases hx

omit [Severable τ] in
theorem poller_failed (s : Gateway τ) (e : PollerError) :
    (Polling.failed s e).2.poller = s.poller := by
  rw [Polling.failed]
  split
  · rfl
  · dsimp only
    split <;> rfl

/-- Everybody is taken down by a shutdown, or by the polling when the poller is closed. -/
theorem sweeps_advance (a : Answers τ) (s : Gateway τ) (t : Activity) {x : Nat}
    (hx : x ∈ (s.advance a t).1.sweeps) :
    (∃ timeoutMs stage, t = .shutdown timeoutMs stage) ∨ x ∈ t.sweeps ∨
      (s.advance a t).2.poller.any Poller.closed = true := by
  cases t with
  | shutdown timeoutMs stage => exact .inl ⟨timeoutMs, stage, rfl⟩
  | accept | drain | reader => cases hx
  | leftover | listener | resolver =>
    simp only [advance] at hx
    split at hx <;> cases hx
  | polling stage =>
    refine .inr ?_
    cases stage with
    | resting =>
      simp only [advance, Polling.step] at hx
      split at hx <;> cases hx
    | waiting =>
      simp only [advance, Polling.step] at hx ⊢
      split at hx <;> rename_i hpoller
      · cases hx
      · rename_i p
        split at hx <;> rename_i hwait
        · cases hx
        · rw [poller_failed]
          exact .inr (Poller.closed_of_wait hwait)
    | looking ready =>
      cases ready with
      | nil => cases hx
      | cons y ready =>
        simp only [advance, Polling.step] at hx
        split at hx <;> cases hx
    | taking y ready =>
      simp only [advance, Polling.step] at hx
      split at hx <;> cases hx
    | submitting y ready => cases hx
    | closing cs stage =>
      cases cs with
      | nil => cases hx
      | cons y rest =>
        simp only [advance, Polling.step] at hx
        split at hx
        · exact .inl (List.mem_cons_of_mem y hx)
        · exact .inl hx
    | stopped => cases hx

omit [Severable τ] in
theorem task?_of_mem {s : Gateway τ} (hs : s.WellNumbered) {i : Nat} {t : Activity}
    (h : (i, t) ∈ s.tasks) : s.task? i = some t := by
  obtain ⟨xs, ys, htasks⟩ := List.append_of_mem h
  refine List.lookup_eq_some_iff.mpr ⟨xs, ys, htasks, fun p hp => ?_⟩
  have hnodup := hs.nodup
  rw [htasks, List.map_append, List.map_cons] at hnodup
  have hne := (List.nodup_append.mp hnodup).2.2 p.1 (List.mem_map_of_mem hp) i (by simp)
  simpa using Ne.symm hne

omit [Severable τ] in
theorem mem_setTask {s : Gateway τ} {i : Nat} {t : Activity} {p : Nat × Activity}
    (hp : p ∈ (s.setTask i t).tasks) : p.1 = i ∨ p ∈ s.tasks := by
  rw [setTask_tasks] at hp
  obtain ⟨q, hq, rfl⟩ := List.mem_map.mp hp
  by_cases hi : q.1 = i
  · exact .inl (by simp [hi])
  · exact .inr (by simpa [hi] using hq)

/-- A task stays where it is until it goes on itself. -/
theorem task?_happen {s : Gateway τ} (hs : s.WellNumbered) {e : Event τ} {i : Nat}
    (he : ∀ a, e ≠ .go i a) {t : Activity} (ht : s.task? i = some t) :
    (s.happen e).task? i = some t := by
  refine task?_of_mem (hs.happen e) ?_
  have hmem := mem_tasks_of_task? ht
  rcases s.happen_cases e with ⟨j, a, rfl⟩ | ⟨spawned, -, -, -, hgrows, -⟩
  · have hgo : s.happen (.go j a) = s.step j a := rfl
    rcases s.step_cases j a with hstep | ⟨u, hu, -, -, hstep⟩
    · rwa [hgo, hstep]
    · obtain ⟨spawned, -, -, -, hgrows, -⟩ := s.movesOnce_advance a u
      obtain ⟨xs, ys, htasks, htasks'⟩ := setTask_split hs hu hgrows (s.advance a u).1
      rw [htasks, List.mem_append, List.mem_cons] at hmem
      rw [hgo, hstep, htasks']
      rcases hmem with hmem | heq | hmem
      · simp [hmem]
      · cases heq
        exact absurd rfl (he a)
      · simp [hmem]
  · rw [hgrows.tasks]
    exact List.mem_append_left _ hmem

/-- A task was there before, has just come in from outside, has just gone on, or has just been begun
by who has. -/
theorem mem_tasks_happen_cases {s : Gateway τ} (hs : s.WellNumbered) (hcollected : s.Collected)
    {e : Event τ} {p : Nat × Activity} (hp : p ∈ (s.happen e).tasks) :
    p ∈ s.tasks ∨ ((∃ listened, p.2 = .accept listened .entering) ∨
        ∃ timeoutMs, e = .shutdown timeoutMs ∧ p.2 = .shutdown timeoutMs .announcing) ∨
      ∃ i a t, e = .go i a ∧ s.task? i = some t ∧
        s.happen e = (s.advance a t).2.setTask i (s.advance a t).1 ∧
        (p = (i, (s.advance a t).1) ∨ p ∈ (s.advance a t).2.tasks ∧ p ∉ s.tasks) := by
  cases e with
  | go i a =>
    rcases s.step_cases i a with hstep | ⟨t, ht, -, -, hstep⟩
    · exact .inl (congrArg tasks hstep ▸ hp)
    · by_cases hold : p ∈ s.tasks
      · exact .inl hold
      · refine .inr (.inr ⟨i, a, t, rfl, ht, hstep, ?_⟩)
        obtain ⟨spawned, -, -, -, hgrows, -⟩ := s.movesOnce_advance a t
        obtain ⟨xs, ys, htasks, htasks'⟩ := setTask_split hs ht hgrows (s.advance a t).1
        have hp : p ∈ ((s.advance a t).2.setTask i (s.advance a t).1).tasks :=
          congrArg tasks hstep ▸ hp
        rw [htasks', List.mem_append, List.mem_append, List.mem_cons] at hp
        have hnot (h : p ∈ xs ∨ p ∈ ys) : False :=
          hold (by rcases h with h | h <;> simp [htasks, h])
        rcases hp with (hp | hp | hp) | hp
        · exact (hnot (.inl hp)).elim
        · exact .inl hp
        · exact (hnot (.inr hp)).elim
        · exact .inr ⟨hgrows.tasks ▸ List.mem_append_right _ hp, hold⟩
  | arrive listened =>
    refine (List.mem_append.mp hp).imp_right fun hp => .inl (.inl ⟨listened, ?_⟩)
    rw [List.mem_singleton.mp hp]
  | shutdown timeoutMs =>
    refine (List.mem_append.mp hp).imp_right fun hp => .inl (.inr ⟨timeoutMs, rfl, ?_⟩)
    rw [List.mem_singleton.mp hp]
  | next sink response =>
    exact .inl (tasks_modifyHandler hcollected _ (fun h => h.submitted_respond _ response) ▸ hp)
  | complete sink =>
    exact .inl (tasks_modifyHandler hcollected _ (fun h => h.submitted_finish _) ▸ hp)
  | stir x f =>
    have htasks : (s.happen (.stir x f)).tasks = s.tasks :=
      tasks_modifyHandler hcollected x fun _ => rfl
    exact .inl (htasks ▸ hp)

end Gateway

/-! ## What belongs to a connection -/

/-- Who is registered was so before, or is handed back to the poller now. -/
theorem Fires.mem_registered (h : Fires a ds a' ds') (hc : (c : Descriptor) ∈ a'.registered) :
    (c : Descriptor) ∈ a.registered ∨ .enrolling c ∈ ds := by
  obtain ⟨new, ⟨d, hd, h⟩ | h, -⟩ := h.settles_or_begins
  · cases h with
    | enrols x =>
      refine (List.mem_append.mp hc).imp_right fun hx => ?_
      cases Int.ofNat_inj.mp (List.mem_singleton.mp hx)
      exact hd
    | undoes | deregisters | takes | misses => exact .inl (List.mem_of_mem_filter hc)
    | _ => exact .inl hc
  · cases h with
    | empties => cases hc
    | _ => exact .inl hc

/-- A handler is closed by who is about to mark it. -/
theorem Fires.isClosed_cases (h : Fires a ds a' ds') (hc : a'.isClosed c = true) :
    a.isClosed c = true ∨ .marking c ∈ ds := by
  obtain ⟨new, ⟨d, hd, h⟩ | h, -⟩ := h.settles_or_begins
  · cases h with
    | marks x b hbook hclosed =>
      by_cases hx : c = x
      · exact .inr (hx ▸ hd)
      · exact .inl (by simpa [Affairs.isClosed, Affairs.mapBook, hx] using hc)
    | forgets x =>
      by_cases hx : c = x
      · subst hx
        cases hbook : a.book? c <;> simp [Affairs.isClosed, Affairs.mapBook, hbook] at hc
        exact .inl (by simpa [Affairs.isClosed, hbook] using hc)
      · exact .inl (by simpa [Affairs.isClosed, Affairs.mapBook, hx] using hc)
    | _ => exact .inl hc
  · cases h with
    | takesIn b hid hclosed =>
      cases hbook : a.book? c with
      | some k => exact .inl (by simpa [Affairs.isClosed, hbook] using hc)
      | none =>
        by_cases hx : c = a.lastConnection + 1
        · subst hx
          simp [Affairs.isClosed, hbook, hclosed] at hc
        · simp [Affairs.isClosed, hbook, hx] at hc
    | _ => exact .inl hc

namespace Gateway

variable {τ : Type} {s s' : Gateway τ}

theorem MovesOnce.mem_live (h : MovesOnce s ds s' ds') (hc : c ∈ s'.live) :
    c ∈ s.live ∨ .incoming c ∈ ds := by
  obtain ⟨spawned, b, jobs, extra, -, hhandles, -, hfires⟩ := h
  have hlive : b.live = s.live := hhandles.live
  exact hlive ▸ hfires.mem_live hc

theorem MovesOnce.mem_registered (h : MovesOnce s ds s' ds')
    (hc : (c : Descriptor) ∈ s'.affairs.registered) :
    (c : Descriptor) ∈ s.affairs.registered ∨ .enrolling c ∈ ds := by
  obtain ⟨spawned, b, jobs, extra, -, hhandles, -, hfires⟩ := h
  exact hhandles.registered ▸ hfires.mem_registered hc

theorem MovesOnce.knows (h : MovesOnce s ds s' ds') (hc : s.affairs.book? c ≠ none) :
    s'.affairs.book? c ≠ none := by
  obtain ⟨spawned, b, jobs, extra, -, hhandles, -, hfires⟩ := h
  exact hfires.knows (hhandles.knows hc)

theorem MovesOnce.isClosed (h : MovesOnce s ds s' ds') (hc : s.affairs.isClosed c = true) :
    s'.affairs.isClosed c = true := by
  obtain ⟨spawned, b, jobs, extra, -, hhandles, -, hfires⟩ := h
  refine Affairs.isClosed_of_fires hfires ?_
  rwa [Affairs.isClosed_of_handles hhandles]

theorem MovesOnce.isClosed_cases (h : MovesOnce s ds s' ds') (hc : s'.affairs.isClosed c = true) :
    s.affairs.isClosed c = true ∨ .marking c ∈ ds := by
  obtain ⟨spawned, b, jobs, extra, -, hhandles, -, hfires⟩ := h
  have hcases := hfires.isClosed_cases hc
  rwa [Affairs.isClosed_of_handles hhandles] at hcases

/-- No subscription of the connection runs. -/
def Idle (s : Gateway τ) (c : Nat) : Prop :=
  ∀ k, s.affairs.book? c = some k → ∀ op, k.number? op = none

/-- A subscription starts only together with a task that calls the engine for its connection. -/
theorem Idle.movesOnce (hs : s.WellNumbered) (horder : s.affairs.InOrder s.duties)
    (hidle : s.Idle c) (h : MovesOnce s ds s' ds')
    (hnew : ∀ p ∈ s'.tasks, p ∈ s.tasks ∨ ¬p.2.Begun c) : s'.Idle c := by
  obtain ⟨spawned, b, jobs, extra, hgrows, hhandles, hduties, hfires⟩ := h
  intro k' hk' op
  refine Option.eq_none_iff_forall_ne_some.mpr fun n hn => ?_
  -- the move itself starts nothing
  obtain ⟨k, hk, hkn⟩ : ∃ k, b.book? c = some k ∧ k.number? op = some n := by
    obtain ⟨new, heq | ⟨k, -, heq, -, -, -, -, hnumber⟩ | ⟨k, hold, -, heq, -⟩ | ⟨k, hold, heq⟩,
        -⟩ := hfires.rewrites c
    · exact ⟨k', heq ▸ hk', hn⟩
    all_goals
      rw [heq] at hk'
      cases hk'
    · simp [hnumber] at hn
    · exact ⟨k, hold, hn⟩
    · cases hn
  cases hhandles with
  | nobody => simp [hidle k hk] at hkn
  | goes x old new hbook hgo =>
    by_cases hx : c = x
    · subst hx
      rw [Affairs.book?_setBook_self] at hk
      cases hk
      rcases Handler.runs_of_go hgo hkn with hran | ⟨request, hid, hjob⟩
      · simp [hidle old hbook] at hran
      · have hduty : .resolving (.subscribing request) ∈ spawned.flatMap Activity.duties := by
          rw [hduties]
          exact List.mem_append_left extra (List.mem_map.mpr ⟨_, hjob, rfl⟩)
        rw [← flatMap_numbered s.lastTask] at hduty
        obtain ⟨p, hp, hd⟩ := List.mem_flatMap.mp hduty
        have hmem : p ∈ s'.tasks := hgrows.tasks ▸ List.mem_append_right _ hp
        have hfresh : p ∉ s.tasks := fun hold => by
          have := hs.le_last p hold
          have := (lt_of_mem_numbered hp).1
          omega
        refine (hnew p hmem).resolve_left hfresh ?_
        rw [Activity.eq_resolver hd]
        refine .resolver (.subscribe request) ?_
        show request.id.connection = c
        rw [hid, (horder.book c old hbook).1]
    · rw [Affairs.book?_setBook_of_ne _ _ hx] at hk
      simp [hidle k hk] at hkn

namespace Run

variable [Severable τ]

theorem collected (r : Run τ) (n : Nat) : (r.state n).Collected := fun x h hh =>
  ((r.inOrder n).book x h.books (congrArg (Option.map Handler.books) hh)).2

/-- Who is registered is live or is owed something, so it has a handler. -/
theorem known_of_registered (r : Run τ) (n : Nat) {d : Descriptor}
    (hd : d ∈ (r.state n).affairs.registered) :
    ∃ x : Nat, d = (x : Descriptor) ∧ (r.state n).affairs.book? x ≠ none := by
  obtain ⟨x, rfl, hx⟩ := r.watched n d hd
  refine ⟨x, rfl, ?_⟩
  rcases hx with hlive | hd | hd | hd
  · exact (r.inOrder n).live x hlive
  all_goals exact (r.inOrder n).owed _ hd x rfl

/-- Nobody deals with a connection before it is taken in. -/
theorem connections_le (r : Run τ) (n : Nat) {p : Nat × Activity} (hp : p ∈ (r.state n).tasks)
    {x : Nat} (hx : x ∈ p.2.connections) : x ≤ (r.state n).lastConnection := by
  induction n generalizing p x with
  | zero =>
    have hp : p ∈ r.first.tasks := hp
    rcases (create?_cases r.created).1 with ⟨htasks, -⟩ | ⟨htasks, -⟩ <;> rw [htasks] at hp
    · cases hp
    · rw [List.mem_singleton.mp hp] at hx
      cases hx
  | succ n ih =>
    have hmono : (r.state n).lastConnection ≤ (r.state (n + 1)).lastConnection := by
      obtain ⟨b, jobs, hhandles, hfires⟩ := r.moves n
      have hlast : b.lastConnection = (r.state n).lastConnection := hhandles.lastConnection
      exact hlast ▸ hfires.lastConnection_le
    refine (mem_tasks_happen_cases (r.wellNumbered n) (r.collected n) hp).elim
      (fun hp => (ih hp hx).trans hmono) ?_
    rintro ((⟨listened, heq⟩ | ⟨timeoutMs, -, heq⟩) | ⟨i, a, t, -, ht, hstep, rfl | ⟨hbegun, hnew⟩⟩)
    · rw [heq] at hx
      cases hx
    · rw [heq] at hx
      cases hx
    · rcases (r.state n).connections_advance a t hx with hx | ⟨d, hd, rfl⟩ | ⟨⟨listened, rfl⟩, rfl⟩
      · exact (ih (mem_tasks_of_task? ht) hx).trans hmono
      · obtain ⟨y, rfl, hy⟩ := r.known_of_registered n hd
        exact Nat.le_trans ((r.inOrder n).bound y hy) hmono
      · have hlast : (r.state (n + 1)).lastConnection =
            ((r.state n).advance a (.accept listened .upgrading)).2.lastConnection :=
          congrArg Affairs.lastConnection ((congrArg affairs hstep).trans (affairs_setTask _ i _))
        rw [hlast]
        simp only [advance, Accept.step] at hx ⊢
        split at hx
        · cases hx
        · cases listened <;> exact Nat.le_refl _
    · obtain ⟨y, hy, hbegun⟩ := (begun_advance a (r.collected n) t hbegun).resolve_left hnew
      rw [hbegun.mem_connections hx]
      exact (ih (mem_tasks_of_task? ht) hy).trans hmono

end Run
end Gateway
end StreamGateway
