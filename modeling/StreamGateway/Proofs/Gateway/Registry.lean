import StreamGateway.Proofs.Gateway.Runs

/-! # What is done to the poller

Nobody but the polling, a teardown, a task that hands a connection back and a shutdown touches the
poller, and each step does one thing to it (`Gateway.repolls_advance`). A shutdown closes it first
and empties it later, so an open poller loses connections only one by one and to the others
(`Gateway.Run.registered_or_removed`). -/
namespace StreamGateway

variable {c : Nat}

/-! ## Who does what -/

/-- A shutdown that has closed the poller and is going to empty it. -/
def Activity.hasShut : Activity → Bool
  | .shutdown _ (.draining _) | .shutdown _ (.releasing _) => true
  | _ => false

/-- The task is at the point where it takes the connection off the poller, in a teardown, to undo a
hand-over that came too late, or to have it read. -/
def Activity.TakesOff (c : Nat) (t : Activity) : Prop :=
  .deregistering c ∈ t.duties ∨ .undoing c ∈ t.duties ∨ ∃ ready, t = .polling (.taking c ready)

theorem Activity.hasShut_of_isFresh {t : Activity} (h : t.isFresh = true) : t.hasShut = false := by
  cases t with
  | shutdown timeoutMs stage =>
    cases stage with
    | announcing => rfl
    | _ => cases h
  | _ => rfl

namespace Gateway

variable {τ : Type}

theorem poller_put (s : Gateway τ) (h : Handler τ) : (s.put h).poller = s.poller := by
  have hspawn (jobs : List Job) (s : Gateway τ) :
      (jobs.foldl spawnResolver s).poller = s.poller := by
    induction jobs generalizing s with
    | nil => rfl
    | cons job jobs ih =>
      rw [List.foldl_cons, ih]
      rfl
  rw [put, hspawn]

theorem poller_withHandler {α : Type} (s : Gateway τ) (c : Nat) (absent : α)
    (f : Handler τ → α × Handler τ) : (s.withHandler c absent f).2.poller = s.poller := by
  rw [withHandler]
  split
  · rfl
  · exact s.poller_put _

theorem poller_modifyHandler (s : Gateway τ) (c : Nat) (f : Handler τ → Handler τ) :
    (s.modifyHandler c f).poller = s.poller := by
  rw [modifyHandler]
  split
  · rfl
  · exact s.poller_put _

theorem poller_logEnd (s : Gateway τ) (c : Nat) (e : GatewayError) :
    (s.logEnd c e).poller = s.poller := by
  rw [logEnd]
  split <;> rfl

/-- What a task can do to the poller. -/
inductive Repolls (a : Answers τ) (t : Activity) (before : Option Poller) :
    Option Poller → Prop where
  | same : Repolls a t before before
  | waits (p : Poller) (h : before = some p) (most : Nat) :
      Repolls a t before (some (p.wait most a.ready).2.1)
  | enrols (p : Poller) (h : before = some p) (c : Nat) :
      Repolls a t before (some (p.enrol c a.watch).2)
  | removes (p : Poller) (h : before = some p) (c : Nat) (ht : t.TakesOff c) :
      Repolls a t before (some (p.remove c a.unwatch).2)
  | shuts (p : Poller) (h : before = some p) : Repolls a t before (some p.shut.2)
  | empties (p : Poller) (h : before = some p) (timeoutMs : Nat) (again : Bool)
      (ht : t = .shutdown timeoutMs (.draining again)) : Repolls a t before (some p.drain.2)
  | releases (p : Poller) (h : before = some p) (timeoutMs : Nat) (drained : List Nat)
      (ht : t = .shutdown timeoutMs (.releasing drained)) : Repolls a t before (some p.closeBackend)

namespace Repolls

variable {a : Answers τ} {s s' : Gateway τ} {t u : Activity} {before after : Option Poller}

theorem of_eq (h : after = before) : Repolls a t before after := h ▸ .same

theorem of_deregister (s : Gateway τ) (ht : t.TakesOff c) :
    Repolls a t s.poller (s.deregister a c).2.poller := by
  rw [deregister]
  cases hpoller : s.poller with
  | none => exact .of_eq hpoller
  | some p => exact .removes p rfl c ht

end Repolls

variable [Severable τ]

theorem poller_closing (a : Answers τ) (s : Gateway τ) (c : Nat) (stage : Closing) :
    (stage.step a s c).2.poller = s.poller := by
  cases stage with
  | marking => exact s.poller_withHandler c _ _
  | unsubscribing => exact poller_modifyHandler _ c _
  | forgetting | disconnecting => exact s.poller_modifyHandler c _
  | closed => rfl

theorem repolls_teardown (a : Answers τ) (s : Gateway τ) (c : Nat) (stage : Teardown) {t : Activity}
    (ht : ∀ d ∈ stage.duties c, d ∈ t.duties) :
    Repolls a t s.poller (stage.step a s c).2.poller := by
  cases stage with
  | removing =>
    refine .of_eq ?_
    simp only [Teardown.step]
    split <;> rfl
  | deregistering =>
    have hderegister : Repolls a t s.poller (s.deregister a c).2.poller :=
      .of_deregister s (.inl (ht _ (List.mem_singleton_self _)))
    simp only [Teardown.step]
    split <;> exact hderegister
  | closing stage => exact .of_eq (poller_closing a s c stage)

omit [Severable τ] in
theorem repolls_rearm (a : Answers τ) (s : Gateway τ) (c : Nat) (stage : Rearm) {t : Activity}
    (ht : ∀ d ∈ stage.duties c, d ∈ t.duties) :
    Repolls a t s.poller (stage.step a s c).2.poller := by
  cases stage with
  | checking | rechecking | done => exact .same
  | testing =>
    simp only [Rearm.step]
    split
    · exact .same
    · split
      · exact .same
      · split <;> exact .same
  | enrolling =>
    simp only [Rearm.step]
    split <;> rename_i hpoller
    · exact .same
    · rename_i p
      have henrols : Repolls a t s.poller (some (p.enrol c a.watch).2) := .enrols p hpoller c
      split <;> rename_i henrol <;> rw [henrol] at henrols <;> exact henrols
  | undoing => exact .of_deregister s (.inr (.inl (ht _ (List.mem_singleton_self _))))

theorem repolls_serve (a : Answers τ) (s : Gateway τ) (c : Nat) (stage : Serve) {t : Activity}
    (ht : ∀ d ∈ stage.duties c, d ∈ t.duties) :
    Repolls a t s.poller (stage.step a s c).2.poller := by
  cases stage with
  | draining =>
    simp only [Serve.step]
    split <;> exact .of_eq (s.poller_withHandler c _ _)
  | rearming stage =>
    cases stage with
    | done => exact .same
    | checking => exact repolls_rearm a s c .checking ht
    | testing => exact repolls_rearm a s c .testing ht
    | enrolling => exact repolls_rearm a s c .enrolling ht
    | rechecking => exact repolls_rearm a s c .rechecking ht
    | undoing => exact repolls_rearm a s c .undoing ht
  | done => exact .same

theorem repolls_drain (a : Answers τ) (s : Gateway τ) (c : Nat) (stage : Drain) :
    Repolls a (.drain c stage) s.poller (stage.step a s c).2.poller := by
  cases stage with
  | serving stage =>
    cases stage with
    | done result =>
      cases result with
      | ok => exact .same
      | error e => exact .of_eq (s.poller_logEnd c e)
    | draining => exact repolls_serve a s c .draining fun _ hd => hd
    | rearming stage => exact repolls_serve a s c (.rearming stage) fun _ hd => hd
  | removing stage =>
    simp only [Drain.step]
    split
    · exact .same
    · exact repolls_teardown a s c stage fun _ hd => hd
  | finished => exact .same

theorem repolls_reading (a : Answers τ) (s : Gateway τ) (c : Nat) (stage : Reading) :
    Repolls a (.reader c stage) s.poller (stage.step a s c).2.poller := by
  cases stage with
  | reading =>
    simp only [Reading.step]
    split
    · exact .same
    · split
      · exact .of_eq (s.poller_withHandler c _ _)
      · exact .of_eq (s.poller_withHandler c _ _)
      · exact .of_eq ((poller_logEnd _ c _).trans (s.poller_withHandler c _ _))
  | removing stage =>
    simp only [Reading.step]
    split
    · exact .same
    · exact repolls_teardown a s c stage fun _ hd => hd
  | finished => exact .same

theorem repolls_accept (a : Answers τ) (s : Gateway τ) (listened : Bool) (stage : Accept) :
    Repolls a (.accept listened stage) s.poller (stage.step a s).2.poller := by
  cases stage with
  | entering =>
    simp only [Accept.step]
    split
    · exact .same
    · split <;> exact .same
  | upgrading =>
    simp only [Accept.step]
    split <;> exact .same
  | handshaking c =>
    simp only [Accept.step]
    split <;> exact .of_eq (s.poller_withHandler c _ _)
  | failing c e stage =>
    cases stage with
    | closed => exact .same
    | marking => exact .of_eq (poller_closing a s c .marking)
    | unsubscribing => exact .of_eq (poller_closing a s c .unsubscribing)
    | forgetting => exact .of_eq (poller_closing a s c .forgetting)
    | disconnecting => exact .of_eq (poller_closing a s c .disconnecting)
  | configuring c =>
    simp only [Accept.step]
    split <;> exact .same
  | inserting c =>
    simp only [Accept.step]
    split <;> exact .same
  | serving c stage =>
    cases stage with
    | done result =>
      cases result with
      | ok => exact .same
      | error => exact .same
    | draining => exact repolls_serve a s c .draining fun _ hd => hd
    | rearming stage => exact repolls_serve a s c (.rearming stage) fun _ hd => hd
  | removing c e stage =>
    simp only [Accept.step]
    split
    · exact .same
    · exact repolls_teardown a s c stage fun _ hd => hd
  | returned => exact .same

theorem repolls_polling (a : Answers τ) (s : Gateway τ) (stage : Polling) :
    Repolls a (.polling stage) s.poller (stage.step a s).2.poller := by
  cases stage with
  | resting =>
    simp only [Polling.step]
    split <;> exact .same
  | waiting =>
    simp only [Polling.step]
    split <;> rename_i hpoller
    · exact .same
    · rename_i p
      have hwaits : Repolls a (.polling .waiting) s.poller
          (some (p.wait s.settings.maxEventsPerWait.toNat a.ready).2.1) := .waits p hpoller _
      split
      · exact hwaits
      · rw [Polling.failed]
        split
        · exact hwaits
        · dsimp only
          split <;> exact hwaits
  | looking ready => cases ready <;> exact .same
  | taking c ready =>
    have hderegister : Repolls a (.polling (.taking c ready)) s.poller
        (s.deregister a c).2.poller :=
      .of_deregister s (.inr (.inr ⟨ready, rfl⟩))
    simp only [Polling.step]
    split <;> rename_i heq <;> rw [heq] at hderegister <;> exact hderegister
  | submitting => exact .same
  | closing cs stage =>
    cases cs with
    | nil => exact .same
    | cons c rest =>
      simp only [Polling.step]
      split
      · exact .same
      · exact repolls_teardown a s c stage fun _ hd => List.mem_append_left _ hd
  | stopped => exact .same

theorem repolls_shutdown (a : Answers τ) (s : Gateway τ) (timeoutMs : Nat) (stage : Shutdown) :
    Repolls a (.shutdown timeoutMs stage) s.poller (stage.step a s timeoutMs).2.poller := by
  cases stage with
  | announcing | cancelling | listing | settling | joining | returned => exact .same
  | closing cs stage =>
    cases cs with
    | nil => exact .same
    | cons c rest =>
      simp only [Shutdown.step]
      split
      · exact .same
      · exact repolls_teardown a s c stage fun _ hd => List.mem_append_left _ hd
  | shutting =>
    simp only [Shutdown.step]
    split <;> rename_i hpoller
    · exact .same
    · exact .shuts _ hpoller
  | draining again =>
    simp only [Shutdown.step]
    split <;> rename_i hpoller
    · exact .same
    · split
      · exact .same
      · exact .empties _ hpoller timeoutMs again rfl
  | releasing drained =>
    show Repolls a _ s.poller (s.poller.map Poller.closeBackend)
    cases hpoller : s.poller with
    | none => exact .same
    | some p => exact .releases p rfl timeoutMs drained rfl
  | severing drained =>
    cases drained with
    | nil => exact .same
    | cons c rest => exact .of_eq (s.poller_modifyHandler c _)
  | waiting =>
    simp only [Shutdown.step]
    split
    · exact .same
    · split <;> exact .same

/-- Every step does one thing to the poller at most. -/
theorem repolls_advance (a : Answers τ) (s : Gateway τ) (t : Activity) :
    Repolls a t s.poller (s.advance a t).2.poller := by
  cases t with
  | accept listened stage =>
    have hrepolls := repolls_accept a s listened stage
    simp only [advance]
    split <;> exact hrepolls
  | drain c stage => exact repolls_drain a s c stage
  | reader c stage => exact repolls_reading a s c stage
  | leftover c ended =>
    simp only [advance]
    split
    · exact .same
    · exact .of_eq (s.poller_withHandler c _ _)
  | resolver stage =>
    simp only [advance]
    split
    · exact .same
    · refine .of_eq ((poller_withHandler _ _ _ _).trans ?_)
      split <;> rfl
  | polling stage => exact repolls_polling a s stage
  | listener ended =>
    simp only [advance]
    split <;> exact .same
  | shutdown timeoutMs stage => exact repolls_shutdown a s timeoutMs stage

/-! ## Open pollers -/

omit [Severable τ] in
/-- Where an open poller comes from: it was open before, and unless a shutdown empties it, it has
lost nobody except who was taken off. -/
theorem Repolls.open_cases {a : Answers τ} {t : Activity} {before : Option Poller} {p' : Poller}
    (h : Repolls a t before (some p')) (hopen : p'.closed = false) :
    ∃ p, before = some p ∧ p.closed = false ∧ (t.hasShut = false → p'.backendOpen = p.backendOpen ∧
      ((∀ d ∈ p.conns, d ∈ p'.conns) ∨
        ∃ c : Nat, p' = (p.remove c a.unwatch).2 ∧ t.TakesOff c)) := by
  generalize hafter : some p' = after at h
  cases h with
  | same => exact ⟨p', hafter.symm, hopen, fun _ => ⟨rfl, .inl fun _ hd => hd⟩⟩
  | waits p h most =>
    cases hafter
    rcases p.wait_cases most a.ready with hclosed | ⟨cursor, heq⟩
    · rw [hclosed] at hopen
      cases hopen
    · rw [heq] at hopen ⊢
      exact ⟨p, h, hopen, fun _ => ⟨rfl, .inl fun _ hd => hd⟩⟩
  | enrols p h c =>
    cases hafter
    obtain ⟨hclosed, hbackend, hconns⟩ := p.enrol_cases c a.watch
    exact ⟨p, h, hclosed ▸ hopen, fun _ => ⟨hbackend, .inl hconns⟩⟩
  | removes p h c ht =>
    cases hafter
    obtain ⟨hclosed, hbackend⟩ := p.remove_flags c a.unwatch
    exact ⟨p, h, hclosed ▸ hopen, fun _ => ⟨hbackend, .inr ⟨c, rfl, ht⟩⟩⟩
  | shuts p h =>
    cases hafter
    cases hopen
  -- nothing here says that a shutdown which empties the poller finds it closed: that takes a run
  | empties p h timeoutMs again ht =>
    cases hafter
    subst ht
    exact ⟨p, h, hopen, nofun⟩
  | releases p h timeoutMs drained ht =>
    cases hafter
    subst ht
    exact ⟨p, h, hopen, nofun⟩

omit [Severable τ] in
theorem registered_eq {s : Gateway τ} {p : Poller} (hp : s.poller = some p) :
    s.affairs.registered = p.conns := by
  rw [affairs, hp]
  rfl

omit [Severable τ] in
theorem mem_duties_of_mem {s : Gateway τ} {q : Nat × Activity} (hq : q ∈ s.tasks) {d : Duty}
    (hd : d ∈ q.2.duties) : d ∈ s.duties :=
  List.mem_flatMap.mpr ⟨q, hq, hd⟩

omit [Severable τ] in
theorem exists_mem_duties {s : Gateway τ} {d : Duty} (h : d ∈ s.duties) :
    ∃ q ∈ s.tasks, d ∈ q.2.duties :=
  List.mem_flatMap.mp h

omit [Severable τ] in
theorem poller_setTask (s : Gateway τ) (i : Nat) (t : Activity) :
    (s.setTask i t).poller = s.poller := by
  rw [setTask]
  split <;> rfl

omit [Severable τ] in
theorem mem_tasks_of_task? {s : Gateway τ} {i : Nat} {t : Activity} (h : s.task? i = some t) :
    (i, t) ∈ s.tasks := by
  obtain ⟨xs, ys, htasks, -⟩ := List.lookup_eq_some_iff.mp h
  rw [htasks]
  exact List.mem_append_right xs List.mem_cons_self

omit [Severable τ] in
theorem deregister_ok {a : Answers τ} {s : Gateway τ} {p : Poller} (hp : s.poller = some p)
    (hbackend : p.backendOpen = true) (hunwatch : a.unwatch = .ok ())
    (hc : (c : Descriptor) ∈ p.conns) : (s.deregister a c).1 = .ok () := by
  simp only [deregister, hp, hunwatch]
  exact Poller.remove_ok hbackend hc

/-- A connection that is taken off the poller is submitted next. -/
theorem advance_taking {a : Answers τ} {s : Gateway τ} {ready : List Nat}
    (h : (s.deregister a c).1 = .ok ()) :
    (s.advance a (.polling (.taking c ready))).1 = .polling (.submitting c ready) := by
  simp only [advance, Polling.step]
  split <;> rename_i hderegister
  · rfl
  all_goals
    rw [hderegister] at h
    cases h

/-- A task that has gone on is where it has got to. -/
theorem mem_tasks_setTask {s : Gateway τ} {i : Nat} {t : Activity} (hs : s.WellNumbered)
    (ht : s.task? i = some t) (a : Answers τ) (t' : Activity) :
    (i, t') ∈ ((s.advance a t).2.setTask i t').tasks := by
  obtain ⟨spawned, -, -, -, hgrows, -⟩ := s.movesOnce_advance a t
  obtain ⟨xs, ys, -, htasks'⟩ := setTask_split hs ht hgrows t'
  rw [htasks']
  simp

theorem poller_happen (s : Gateway τ) (e : Event τ) :
    (∃ i a, e = .go i a) ∨ (s.happen e).poller = s.poller := by
  cases e with
  | go i a => exact .inl ⟨i, a, rfl⟩
  | arrive | shutdown => exact .inr rfl
  | next sink | complete sink => exact .inr (s.poller_modifyHandler sink.id.connection _)
  | stir c f => exact .inr (s.poller_modifyHandler c _)

/-- Where an open poller comes from, event by event. -/
theorem happen_open (s : Gateway τ) (e : Event τ) {p' : Poller}
    (hp' : (s.happen e).poller = some p') (hopen : p'.closed = false) :
    ∃ p, s.poller = some p ∧ p.closed = false ∧ ((∀ q ∈ s.tasks, q.2.hasShut = false) →
      p'.backendOpen = p.backendOpen ∧ ((∀ d ∈ p.conns, d ∈ p'.conns) ∨
        ∃ i a t, ∃ c : Nat, e = .go i a ∧ s.task? i = some t ∧
          s.happen e = (s.advance a t).2.setTask i (s.advance a t).1 ∧
            p' = (p.remove c a.unwatch).2 ∧
          t.TakesOff c)) := by
  rcases s.poller_happen e with ⟨i, a, rfl⟩ | hsame
  · rcases s.step_cases i a with hstep | ⟨t, ht, -, -, hstep⟩
    · have hsame : s.poller = some p' := (congrArg poller hstep).symm.trans hp'
      exact ⟨p', hsame, hopen, fun _ => ⟨rfl, .inl fun _ hd => hd⟩⟩
    · have hrepolls := repolls_advance a s t
      have hafter : (s.advance a t).2.poller = some p' := by
        rw [← poller_setTask _ i, ← hstep]
        exact hp'
      rw [hafter] at hrepolls
      obtain ⟨p, hp, hbefore, hcases⟩ := hrepolls.open_cases hopen
      refine ⟨p, hp, hbefore, fun hnone => ?_⟩
      obtain ⟨hbackend, hcases⟩ := hcases (hnone _ (mem_tasks_of_task? ht))
      refine ⟨hbackend, hcases.imp_right ?_⟩
      rintro ⟨c, heq, htakes⟩
      exact ⟨i, a, t, c, rfl, ht, hstep, heq, htakes⟩
  · exact ⟨p', hsame ▸ hp', hopen, fun _ => ⟨rfl, .inl fun _ hd => hd⟩⟩

/-- A shutdown closes the poller before it empties it. -/
theorem hasShut_advance {a : Answers τ} {s : Gateway τ} {t : Activity}
    (h : (s.advance a t).1.hasShut = true) {p' : Poller}
    (hp' : (s.advance a t).2.poller = some p') : t.hasShut = true ∨ p'.closed = true := by
  cases t with
  | shutdown timeoutMs stage =>
    cases stage with
    | shutting =>
      simp only [advance, Shutdown.step] at h hp'
      split at hp' <;> rename_i hpoller
      · rw [hpoller] at hp'
        cases hp'
      · cases hp'
        exact .inr rfl
    | draining | releasing => exact .inl rfl
    | announcing | cancelling | listing | settling | returned => cases h
    | severing drained => cases drained <;> cases h
    | closing cs stage =>
      cases cs with
      | nil =>
        simp only [advance, Shutdown.step] at h
        split at h <;> cases h
      | cons c rest =>
        simp only [advance, Shutdown.step] at h
        split at h <;> cases h
    | waiting =>
      simp only [advance, Shutdown.step] at h
      split at h
      · cases h
      · split at h <;> cases h
    | joining drained =>
      simp only [advance, Shutdown.step] at h
      split at h <;> cases h
  | polling | accept | drain | reader => cases h
  | leftover | listener =>
    rw [advance] at h
    split at h <;> cases h
  | resolver =>
    rw [advance] at h
    split at h <;> cases h

/-- While the poller is open, its backend is open too and no shutdown is about to empty it. -/
def Guarded (s : Gateway τ) : Prop :=
  ∀ p, s.poller = some p → p.closed = false → p.backendOpen = true ∧
    ∀ q ∈ s.tasks, q.2.hasShut = false

theorem Guarded.happen {s : Gateway τ} (hs : s.WellNumbered) (h : s.Guarded) (e : Event τ) :
    (s.happen e).Guarded := by
  intro p' hp' hopen
  obtain ⟨p, hp, hbefore, hcases⟩ := s.happen_open e hp' hopen
  obtain ⟨hbackend, hnone⟩ := h p hp hbefore
  refine ⟨(hcases hnone).1.trans hbackend, fun q hq => ?_⟩
  rcases mem_tasks_happen hs hq with hq | hfresh | ⟨i, a, t, rfl, ht, -, rfl⟩
  · exact hnone q hq
  · exact Activity.hasShut_of_isFresh hfresh
  · rcases s.step_cases i a with hstep | ⟨u, hu, -, -, hstep⟩
    · exact hnone _ (congrArg tasks hstep ▸ hq)
    · cases ht.symm.trans hu
      have hafter : (s.advance a t).2.poller = some p' := by
        rw [← poller_setTask _ i, ← hstep]
        exact hp'
      refine Bool.eq_false_iff.mpr fun hshut => ?_
      -- the shutdown would have come to this point before, or have closed the poller just now
      rcases hasShut_advance hshut hafter with hold | hclosed
      · rw [hnone _ (mem_tasks_of_task? ht)] at hold
        cases hold
      · rw [hopen] at hclosed
        cases hclosed

omit [Severable τ] in
/-- A new poller has an open backend. -/
theorem backendOpen_of_create? {settings : SocketSettings} {s : Gateway τ}
    (h : create? settings = some (.ok s)) {p : Poller} (hp : s.poller = some p) :
    p.backendOpen = true := by
  rw [create?] at h
  split at h
  · cases h
  · split at h
    · cases hpoller : Poller.create? ⟨settings.backend, settings.pollTimeoutMs,
        settings.connectionBufferSize⟩ with
      | none => simp [hpoller] at h
      | some q =>
        have hbackend : q.1.backendOpen = true := by
          rw [Poller.create?] at hpoller
          split at hpoller <;> cases hpoller
          rfl
        cases hpool : (Pool.create? settings.maxConcurrentResolvers.toNat : Option (Pool Nat)) with
        | none => simp [hpoller, hpool] at h
        | some pool =>
          simp only [hpoller, hpool, Option.map_some, Option.bind_eq_bind, Option.bind_some] at h
          cases h
          cases hp
          exact hbackend
    · cases hpool : (Pool.create? settings.maxConcurrentResolvers.toNat : Option (Pool Nat)) with
      | none => simp [hpool] at h
      | some pool =>
        simp only [hpool, Option.bind_eq_bind, Option.bind_some, Option.pure_def] at h
        cases h
        cases hp

namespace Run

variable {r : Run τ}

theorem guarded (r : Run τ) (n : Nat) : (r.state n).Guarded := by
  induction n with
  | zero =>
    intro p hp _
    refine ⟨backendOpen_of_create? r.created hp, fun q hq => ?_⟩
    have hq : q ∈ r.first.tasks := hq
    rcases (create?_cases r.created).1 with ⟨htasks, -⟩ | ⟨htasks, -⟩ <;> rw [htasks] at hq
    · cases hq
    · rw [List.mem_singleton.mp hq]
      rfl
  | succ n ih => exact ih.happen (r.wellNumbered n) (r.event n)

/-- A poller that is open was so all along. -/
theorem open_of_le {m n : Nat} (hmn : m ≤ n) {p : Poller} (hp : (r.state n).poller = some p)
    (hopen : p.closed = false) : ∃ q, (r.state m).poller = some q ∧ q.closed = false := by
  induction n, hmn using Nat.le_induction generalizing p with
  | base => exact ⟨p, hp, hopen⟩
  | succ n hmn ih =>
    obtain ⟨q, hq, hbefore, -⟩ := (r.state n).happen_open (r.event n) hp hopen
    exact ih hq hbefore

/-- An open poller loses a connection to a teardown, to a task that has handed it back too late, or
to the polling, which then has it if the system lets it. -/
theorem registered_or_removed (r : Run τ) {n : Nat} {p' : Poller}
    (hp' : (r.state (n + 1)).poller = some p') (hopen : p'.closed = false) {x : Nat}
    (hx : (x : Descriptor) ∈ (r.state n).affairs.registered) :
    (x : Descriptor) ∈ (r.state (n + 1)).affairs.registered ∨
      .deregistering x ∈ (r.state n).duties ∨ .undoing x ∈ (r.state n).duties ∨
      ∃ i a ready, r.event n = .go i a ∧ (r.state n).task? i = some (.polling (.taking x ready)) ∧
        (a.unwatch = .ok () → (i, .polling (.submitting x ready)) ∈ (r.state (n + 1)).tasks) := by
  obtain ⟨p, hp, hbefore, hcases⟩ := (r.state n).happen_open (r.event n) hp' hopen
  obtain ⟨hbackend, hnone⟩ := r.guarded n p hp hbefore
  rw [registered_eq hp] at hx
  rw [registered_eq hp']
  rcases (hcases hnone).2 with hkept | ⟨i, a, t, c, hevent, ht, hstep, rfl, htakes⟩
  · exact .inl (hkept _ hx)
  by_cases hc : x = c
  · subst hc
    refine .inr ?_
    rcases htakes with hd | hd | ⟨ready, rfl⟩
    · exact .inl (mem_duties_of_mem (mem_tasks_of_task? ht) hd)
    · exact .inr (.inl (mem_duties_of_mem (mem_tasks_of_task? ht) hd))
    · refine .inr (.inr ⟨i, a, ready, hevent, ht, fun hunwatch => ?_⟩)
      have hnext : r.state (n + 1) = _ := hstep
      rw [hnext, advance_taking (deregister_ok hp hbackend hunwatch hx)]
      exact mem_tasks_setTask (r.wellNumbered n) ht a _
  · refine .inl ?_
    rw [p.conns_remove]
    exact List.mem_filter.mpr ⟨hx, by simpa using hc⟩

end Run

end Gateway
end StreamGateway
