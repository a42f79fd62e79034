import StreamGateway.Proofs.Gateway.Moves

/-! # What every stage does

Each stage of each activity makes one move: it settles the duty it stands for and takes on the duty
of the next stage. This module goes through the stages; the result is `Gateway.movesOnce_advance`,
and nothing later looks into a stage again. -/
namespace StreamGateway

open Handler (Books Go)

/-! ## Taking down -/

section

variable {τ : Type} [Severable τ]

open Gateway

/-- Of all who close a handler, only the first goes on to tell the engine. -/
theorem Closing.movesOnce_marking (a : Answers τ) (s : Gateway τ) (c : Nat) :
    MovesOnce s ([.marking c] : List Duty) (Closing.marking.step a s c).2
      ((Closing.marking.step a s c).1.duties c : List Duty) := by
  cases hh : s.handler? c with
  | none =>
    have hbook : s.affairs.book? c = none := congrArg (Option.map Handler.books) hh
    simp only [Closing.step, withHandler, hh]
    exact .of_settles rfl rfl (.marked c fun b hb => by simp [hbook] at hb)
  | some h =>
    simp only [Closing.step, withHandler, hh]
    have hid : h.markClosed.2.id = c :=
      (congrArg Books.id h.books_markClosed).trans (handler?_id hh)
    have hjobs : h.markClosed.2.submitted = h.submitted :=
      congrArg Books.submitted h.books_markClosed
    -- the handler may have calls to hand out; they are collected before it is marked
    refine movesOnce_put rfl rfl hh (.refl h.books) hjobs ?_
    rw [affairs_put hh hid, h.books_markClosed]
    cases hclosed : h.closed with
    | true =>
      have hsame : ({ h.books with closed := true } : Books) = h.books := by
        simp only [Handler.books, hclosed]
      rw [hsame, Handler.markClosed, if_pos hclosed]
      have hmarked (b : Books)
          (hb : (s.affairs.setBook c { h.books with submitted := [] }).book? c = some b) :
          b.closed = true := by
        rw [Affairs.book?_setBook_self] at hb
        cases hb
        exact hclosed
      exact .only (.marked c hmarked)
    | false =>
      rw [Handler.markClosed, if_neg (by simp [hclosed])]
      have hmark := Settles.marks c _
        (s.affairs.book?_setBook_self c { h.books with submitted := [] }) hclosed
      rw [Affairs.mapBook_setBook] at hmark
      exact .only hmark

theorem Closing.movesOnce_step (a : Answers τ) (s : Gateway τ) (c : Nat) (stage : Closing) :
    MovesOnce s (stage.duties c : List Duty) (stage.step a s c).2
      ((stage.step a s c).1.duties c : List Duty) := by
  cases stage with
  | marking => exact Closing.movesOnce_marking a s c
  | unsubscribing =>
    simp only [Closing.step, modifyHandler]
    split <;> rename_i hh
    · exact .of_settles rfl rfl (.departs c a.engine)
    · rename_i h
      have hbooks := h.books_clientUnsubscribed a.engine
      have hid : (h.clientUnsubscribed a.engine).id = c :=
        (congrArg Books.id hbooks).trans (handler?_id hh)
      refine movesOnce_put rfl rfl hh (.refl h.books) (congrArg Books.submitted hbooks) ?_
      rw [affairs_put hh hid, hbooks]
      exact .only (.departs c a.engine)
  | forgetting =>
    simp only [Closing.step, modifyHandler]
    split <;> rename_i hh
    · have hbook : s.affairs.book? c = none := congrArg (Option.map Handler.books) hh
      have hforget := Settles.forgets (a := s.affairs) c
      rw [Affairs.mapBook_of_none hbook] at hforget
      exact .of_settles rfl rfl hforget
    · rename_i h
      refine movesOnce_put rfl rfl hh (.refl h.books) rfl ?_
      have hid : h.forgetAll.id = c := (handler?_id hh : h.id = c)
      have hforget := Settles.forgets (a := s.affairs.setBook c { h.books with submitted := [] }) c
      rw [Affairs.mapBook_setBook] at hforget
      rw [affairs_put hh hid, h.books_forgetAll]
      exact .only hforget
  | disconnecting =>
    refine movesOnce_modifyHandler _ fun h => ?_
    rw [h.books_disconnect]
    exact .refl h.books
  | closed => exact .idle rfl rfl rfl

theorem Teardown.movesOnce_step (a : Answers τ) (s : Gateway τ) (c : Nat) (stage : Teardown) :
    MovesOnce s (stage.duties c : List Duty) (stage.step a s c).2
      ((stage.step a s c).1.duties c : List Duty) := by
  cases stage with
  | removing =>
    have hlive : (Teardown.step a s c .removing).2.affairs =
        { s.affairs with live := s.affairs.live.filter (· ≠ c) } := by
      simp only [Teardown.step]
      split <;> rename_i hmem
      · rfl
      · have hself : s.live.filter (· ≠ c) = s.live := by
          refine List.filter_eq_self.mpr fun x hx => ?_
          have hne : x ≠ c := fun heq => hmem (List.contains_iff_mem.mpr (heq ▸ hx))
          simpa using hne
        simp only [affairs, hself]
    have htasks : (Teardown.step a s c .removing).2.tasks = s.tasks ∧
        (Teardown.step a s c .removing).2.lastTask = s.lastTask := by
      simp only [Teardown.step]
      split <;> exact ⟨rfl, rfl⟩
    refine .of_settles htasks.1 htasks.2 ?_
    rw [hlive]
    exact .removes c
  | deregistering =>
    have hderegister : MovesOnce s (Teardown.duties c .deregistering : List Duty)
        (s.deregister a c).2
        (Teardown.duties c (.closing .marking) : List Duty) := by
      obtain ⟨htasks, hlast⟩ := s.tasks_deregister a c
      refine .of_settles htasks hlast ?_
      rw [affairs_deregister]
      exact .deregisters c
    simp only [Teardown.step]
    split <;> exact hderegister.then_idle rfl rfl rfl
  | closing stage => exact stage.movesOnce_step a s c

/-- One of several connections is taken down, and the others wait. -/
theorem Teardown.movesOnce_stepOf (a : Answers τ) (s : Gateway τ) (c : Nat) (rest : List Nat)
    (stage : Teardown) :
    MovesOnce s (stage.dutiesOf (c :: rest) : List Duty) (stage.step a s c).2
      ((stage.step a s c).1.dutiesOf (c :: rest) : List Duty) := by
  simp only [Teardown.dutiesOf, ← Multiset.coe_add]
  exact (stage.movesOnce_step a s c).frame _

theorem Teardown.duties_of_isOver {stage : Teardown} (h : stage.isOver = true) (c : Nat) :
    stage.duties c = [] := by
  cases stage with
  | closing stage =>
    cases stage with
    | closed => rfl
    | _ => cases h
  | _ => cases h

/-- After one connection comes the next. -/
theorem Teardown.dutiesOf_of_isOver {stage : Teardown} (h : stage.isOver = true) (c : Nat)
    (rest : List Nat) : stage.dutiesOf (c :: rest) = Teardown.removing.dutiesOf rest := by
  rw [Teardown.dutiesOf, duties_of_isOver h, List.nil_append]
  cases rest <;> rfl

/-! ## Serving -/

theorem Rearm.movesOnce_step (a : Answers τ) (s : Gateway τ) (c : Nat) (stage : Rearm) :
    MovesOnce s (stage.duties c : List Duty) (stage.step a s c).2
      ((stage.step a s c).1.duties c : List Duty) := by
  cases stage with
  | checking =>
    simp only [Rearm.step]
    split <;> rename_i hlive
    · exact .of_settles rfl rfl (.checks c)
    · have hgone (hpolling : s.affairs.polling = true) : c ∉ s.affairs.live := fun hmem =>
        hlive (Bool.and_eq_true_iff.mpr ⟨hpolling, List.contains_iff_mem.mpr hmem⟩)
      exact .of_settles rfl rfl (.leaves c hgone)
  | testing =>
    simp only [Rearm.step]
    split <;> rename_i hpoller
    · have hpolling : s.affairs.polling = false := by simp [affairs, isPolling, hpoller]
      exact .of_settles rfl rfl (.skipsTest c hpolling)
    · split
      · exact .of_settles rfl rfl (.failsTest c)
      · split
        · exact .of_settles rfl rfl (.failsTest c)
        · exact .of_settles rfl rfl (.tests c)
  | enrolling =>
    simp only [Rearm.step]
    split <;> rename_i hpoller
    · have hpolling : s.affairs.polling = false := by simp [affairs, isPolling, hpoller]
      exact .of_settles rfl rfl (.skipsEnrolling c hpolling)
    · rename_i p
      split <;> rename_i henrol
      · rename_i p'
        refine .of_settles rfl rfl ?_
        have haffairs : ({ s with poller := some p' } : Gateway τ).affairs =
            { s.affairs with registered := s.affairs.registered ++ [(c : Descriptor)] } := by
          simp [affairs, isPolling, hpoller, handler?, Poller.conns_enrol_ok henrol]
        rw [haffairs]
        exact .enrols c
      · rename_i e p'
        refine .of_settles rfl rfl ?_
        have haffairs : ({ s with poller := some p' } : Gateway τ).affairs = s.affairs := by
          simp [affairs, isPolling, hpoller, handler?, Poller.enrol_error henrol]
        rw [haffairs]
        exact .failsEnrolling c
  | rechecking =>
    simp only [Rearm.step]
    split <;> rename_i hlive
    · exact .of_settles rfl rfl (.stays c (List.contains_iff_mem.mp hlive))
    · refine .of_settles rfl rfl (.rechecks c fun hmem => hlive ?_)
      exact List.contains_iff_mem.mpr hmem
  | undoing =>
    obtain ⟨htasks, hlast⟩ := s.tasks_deregister a c
    refine .of_settles htasks hlast ?_
    show Settles _ _ (s.deregister a c).2.affairs _
    rw [affairs_deregister]
    exact .undoes c
  | done result => exact .idle rfl rfl rfl

theorem Serve.movesOnce_step (a : Answers τ) (s : Gateway τ) (c : Nat) (stage : Serve) :
    MovesOnce s (stage.duties c : List Duty) (stage.step a s c).2
      ((stage.step a s c).1.duties c : List Duty) := by
  cases stage with
  | draining =>
    have hgo (h : Handler τ) : Go h.books h.turn.2.books := h.turn_snd ▸ h.go_readOne
    simp only [Serve.step]
    split
    · exact movesOnce_withHandler hgo fun _ => .nothing _
    · exact movesOnce_withHandler hgo fun _ => .only (.drains c)
    · exact movesOnce_withHandler hgo fun _ => .only (.condemns c)
  | rearming stage =>
    cases stage with
    | done result =>
      cases result with
      | ok u => exact .idle rfl rfl rfl
      | error e => exact .idle rfl rfl rfl
    | checking => exact Rearm.movesOnce_step a s c .checking
    | testing => exact Rearm.movesOnce_step a s c .testing
    | enrolling => exact Rearm.movesOnce_step a s c .enrolling
    | rechecking => exact Rearm.movesOnce_step a s c .rechecking
    | undoing => exact Rearm.movesOnce_step a s c .undoing
  | done result => exact .idle rfl rfl rfl

theorem Drain.movesOnce_step (a : Answers τ) (s : Gateway τ) (c : Nat) (stage : Drain) :
    MovesOnce s (stage.duties c : List Duty) (stage.step a s c).2
      ((stage.step a s c).1.duties c : List Duty) := by
  cases stage with
  | serving stage =>
    cases stage with
    | done result =>
      cases result with
      | ok u => exact .idle rfl rfl rfl
      | error e =>
        simp only [Drain.step, Gateway.logEnd]
        split <;> exact .idle rfl rfl rfl
    | draining => exact Serve.movesOnce_step a s c .draining
    | rearming stage => exact Serve.movesOnce_step a s c (.rearming stage)
  | removing stage =>
    simp only [Drain.step]
    split <;> rename_i hover
    · simp only [Drain.duties, Teardown.duties_of_isOver hover]
      exact .idle rfl rfl rfl
    · exact stage.movesOnce_step a s c
  | finished => exact .idle rfl rfl rfl

theorem Reading.movesOnce_step (a : Answers τ) (s : Gateway τ) (c : Nat) (stage : Reading) :
    MovesOnce s (stage.duties c : List Duty) (stage.step a s c).2
      ((stage.step a s c).1.duties c : List Duty) := by
  cases stage with
  | reading =>
    have hgo (h : Handler τ) : Go h.books h.patientTurn.2.books := h.patientTurn_snd ▸ h.go_readOne
    have hturn : MovesOnce s (Reading.duties c .reading : List Duty)
        (s.withHandler c .idle Handler.patientTurn).2
        (Reading.duties c .reading : List Duty) := movesOnce_withHandler hgo fun _ => .nothing _
    simp only [Reading.step]
    split
    · -- the read that is under way becomes a task of its own, which owes nothing
      exact .of_spawn (.spawn s rfl) (.nothing ([.removal c] : List Duty))
    · split
      · exact hturn
      · exact hturn
      · rw [Gateway.logEnd]
        split <;> exact hturn.then_idle rfl rfl rfl
  | removing stage =>
    simp only [Reading.step]
    split <;> rename_i hover
    · simp only [Reading.duties, Teardown.duties_of_isOver hover]
      exact .idle rfl rfl rfl
    · exact stage.movesOnce_step a s c
  | finished => exact .idle rfl rfl rfl

/-! ## Taking in -/

omit [Severable τ] in
theorem affairs_takeIn (s : Gateway τ) (transport : τ) (subprotocol : Subprotocol) :
    (s.takeIn transport subprotocol).2.affairs =
      { s.affairs with
        lastConnection := s.affairs.lastConnection + 1
        book? := fun c => (s.affairs.book? c).or
          (if c = s.affairs.lastConnection + 1 then
            some ⟨s.affairs.lastConnection + 1, false, fun _ => none, 0, [], []⟩ else none) } := by
  have hbook (c : Nat) : ((s.takeIn transport subprotocol).2.handler? c).map Handler.books =
      ((s.handler? c).map Handler.books).or (if c = s.lastConnection + 1 then
        some ⟨s.lastConnection + 1, false, fun _ => none, 0, [], []⟩ else none) := by
    simp only [takeIn, handler?, List.find?_append]
    cases s.handlers.find? (·.id = c) with
    | some h => rfl
    | none =>
      by_cases hc : c = s.lastConnection + 1
      · simp [hc]
      · simp [hc, Ne.symm hc]
  simp only [affairs, hbook]
  rfl

theorem Accept.movesOnce_step (a : Answers τ) (s : Gateway τ) (stage : Accept) :
    MovesOnce s (stage.duties : List Duty) (stage.step a s).2
      ((stage.step a s).1.duties : List Duty) := by
  cases stage with
  | entering =>
    simp only [Accept.step]
    split
    · exact .idle rfl rfl rfl
    · split <;> exact .idle rfl rfl rfl
  | upgrading =>
    simp only [Accept.step]
    split
    · exact .idle rfl rfl rfl
    · refine .of_begins rfl rfl ?_
      rw [affairs_takeIn]
      exact .takesIn _ rfl rfl rfl fun _ => rfl
  | handshaking c =>
    simp only [Accept.step]
    split
    · exact movesOnce_withHandler Handler.go_handshake fun _ => .nothing _
    · have hfails : MovesOnce s (Accept.duties (.handshaking c) : List Duty)
          (s.withHandler c (.error (.connectionGone c)) Handler.handshake).2
            ([.marking c] : List Duty) :=
        movesOnce_withHandler Handler.go_handshake fun _ => .only (.fails c)
      exact hfails.then_idle rfl rfl rfl
  | failing c e stage =>
    cases stage with
    | closed => exact .idle rfl rfl rfl
    | marking => exact Closing.movesOnce_step a s c .marking
    | unsubscribing => exact Closing.movesOnce_step a s c .unsubscribing
    | forgetting => exact Closing.movesOnce_step a s c .forgetting
    | disconnecting => exact Closing.movesOnce_step a s c .disconnecting
  | configuring c =>
    simp only [Accept.step]
    split
    · exact .idle rfl rfl rfl
    · exact .of_settles rfl rfl (.fails c)
  | inserting c =>
    simp only [Accept.step]
    split <;> rename_i hpolling
    · exact .of_settles rfl rfl (.inserts c hpolling)
    · exact .of_spawn (.one rfl rfl rfl) (.only (.insertsReader c (Bool.eq_false_iff.mpr hpolling)))
  | serving c stage =>
    cases stage with
    | done result =>
      cases result with
      | ok u => exact .idle rfl rfl rfl
      | error e => exact .idle rfl rfl rfl
    | draining => exact Serve.movesOnce_step a s c .draining
    | rearming stage => exact Serve.movesOnce_step a s c (.rearming stage)
  | removing c e stage =>
    simp only [Accept.step]
    split <;> rename_i hover
    · simp only [Accept.duties, Teardown.duties_of_isOver hover]
      exact .idle rfl rfl rfl
    · exact stage.movesOnce_step a s c
  | returned result => exact .idle rfl rfl rfl

/-! ## Polling -/

theorem Teardown.dutiesOf_removing (cs : List Nat) :
    Teardown.removing.dutiesOf cs = cs.map .removal := by
  cases cs <;> rfl

theorem Poller.wait_conns (p : Poller) (most : Nat) (system : Readiness) :
    (p.wait most system).2.1.conns = p.conns := by
  unfold Poller.wait
  split
  · rfl
  · split
    · rfl
    · split
      rfl

omit [Severable τ] in
/-- Another poller with the same connections makes no difference. -/
theorem affairs_poller (s : Gateway τ) {p q : Poller} (hp : s.poller = some p)
    (hq : q.conns = p.conns) : ({ s with poller := some q } : Gateway τ).affairs = s.affairs := by
  simp [affairs, isPolling, hp, hq, handler?]

omit [Severable τ] in
theorem Polling.movesOnce_failed (s : Gateway τ) (e : PollerError) :
    MovesOnce s (0 : Multiset Duty) (Polling.failed s e).2
      ((Polling.failed s e).1.duties : List Duty) := by
  rw [Polling.failed]
  split
  · exact .idle rfl rfl rfl
  · dsimp only
    split
    · show MovesOnce s 0 _ (Teardown.removing.dutiesOf s.live : List Duty)
      rw [Teardown.dutiesOf_removing]
      exact .of_begins rfl rfl .condemnsAll
    · exact .idle rfl rfl rfl

theorem Polling.movesOnce_step (a : Answers τ) (s : Gateway τ) (stage : Polling) :
    MovesOnce s (stage.duties : List Duty) (stage.step a s).2
      ((stage.step a s).1.duties : List Duty) := by
  cases stage with
  | resting =>
    simp only [Polling.step]
    split <;> exact .idle rfl rfl rfl
  | waiting =>
    simp only [Polling.step]
    split <;> rename_i hpoller
    · exact .idle rfl rfl rfl
    · rename_i p
      have haffairs := affairs_poller s hpoller
        (p.wait_conns s.settings.maxEventsPerWait.toNat a.ready)
      split
      · exact .idle rfl rfl haffairs
      · obtain ⟨spawned, b, jobs, extra, hgrows, hhandles, hduties, hfires⟩ :=
          Polling.movesOnce_failed
          ({ s with
            poller := some (p.wait s.settings.maxEventsPerWait.toNat a.ready).2.1
            journal := s.journal ++ (p.wait s.settings.maxEventsPerWait.toNat a.ready).2.2 } :
            Gateway τ) _
        exact ⟨spawned, b, jobs, extra, ⟨hgrows.tasks, hgrows.lastTask, hgrows.fresh⟩,
          haffairs ▸ hhandles, hduties, hfires⟩
  | looking ready =>
    cases ready with
    | nil => exact .idle rfl rfl rfl
    | cons c ready =>
      simp only [Polling.step]
      split <;> rename_i hlive
      · exact .of_begins rfl rfl (.finds c (List.contains_iff_mem.mp hlive))
      · exact .idle rfl rfl rfl
  | taking c ready =>
    obtain ⟨htasks, hlast⟩ := s.tasks_deregister a c
    have haffairs := affairs_deregister a s c
    have htakes (stage : Polling) (hstage : stage.duties = [.reported c] ∨ stage.duties = []) :
        MovesOnce s (Polling.duties (.taking c ready) : List Duty) (s.deregister a c).2
          (stage.duties : List Duty) := by
      refine .of_settles htasks hlast ?_
      rw [haffairs]
      rcases hstage with hstage | hstage <;> rw [hstage]
      · exact .takes c
      · exact .misses c
    simp only [Polling.step]
    -- whatever the poller answers, the connection is off it afterwards
    split <;> rename_i hderegister <;> rw [hderegister] at htakes
    · exact htakes (.submitting c ready) (Or.inl rfl)
    · exact htakes (.looking ready) (Or.inr rfl)
    · exact (htakes (.looking ready) (Or.inr rfl)).then_idle rfl rfl rfl
  | submitting c ready =>
    exact .of_spawn (.one rfl rfl rfl : Grows s (s.spawnDrain c) _) (.only (.submits c))
  | closing cs stage =>
    cases cs with
    | nil => exact .idle rfl rfl rfl
    | cons c rest =>
      simp only [Polling.step]
      split <;> rename_i hover
      · simp only [Polling.duties, Teardown.dutiesOf_of_isOver hover]
        exact .idle rfl rfl rfl
      · exact stage.movesOnce_stepOf a s c rest
  | stopped => exact .idle rfl rfl rfl

/-! ## Shutting down -/

theorem Shutdown.movesOnce_sever (s : Gateway τ) (c : Nat) (ds : Multiset Duty) :
    MovesOnce s ds (Shutdown.sever s c) ds := by
  refine movesOnce_modifyHandler ds fun h => ?_
  exact .refl h.books

theorem Shutdown.movesOnce_step (a : Answers τ) (s : Gateway τ) (timeoutMs : Nat)
    (stage : Shutdown) :
    MovesOnce s (stage.duties : List Duty) (stage.step a s timeoutMs).2
      ((stage.step a s timeoutMs).1.duties : List Duty) := by
  cases stage with
  | announcing | cancelling | settling | returned => exact .idle rfl rfl rfl
  | listing =>
    show MovesOnce s 0 _ (Teardown.removing.dutiesOf s.live : List Duty)
    rw [Teardown.dutiesOf_removing]
    exact .of_begins rfl rfl .condemnsAll
  | closing cs stage =>
    cases cs with
    | nil =>
      simp only [Shutdown.step]
      split <;> exact .idle rfl rfl rfl
    | cons c rest =>
      simp only [Shutdown.step]
      split <;> rename_i hover
      · simp only [Shutdown.duties, Teardown.dutiesOf_of_isOver hover]
        exact .idle rfl rfl rfl
      · exact stage.movesOnce_stepOf a s c rest
  | shutting =>
    simp only [Shutdown.step]
    split <;> rename_i hpoller
    · exact .idle rfl rfl rfl
    · exact .idle rfl rfl (affairs_poller s hpoller rfl)
  | draining before =>
    simp only [Shutdown.step]
    split <;> rename_i hpoller
    · exact .idle rfl rfl rfl
    · rename_i p
      split
      · exact .idle rfl rfl rfl
      · refine .of_begins rfl rfl ?_
        have haffairs : ({ s with poller := some p.drain.2 } : Gateway τ).affairs =
            { s.affairs with registered := [] } := by
          simp [affairs, isPolling, hpoller, handler?, Poller.drain]
        rw [haffairs]
        exact .empties
  | releasing drained =>
    refine .idle rfl rfl ?_
    show ({ s with poller := s.poller.map Poller.closeBackend } : Gateway τ).affairs = s.affairs
    cases hpoller : s.poller with
    | none => simp [affairs, isPolling, hpoller, handler?]
    | some p => exact affairs_poller s hpoller rfl
  | severing drained =>
    cases drained with
    | nil => exact .idle rfl rfl rfl
    | cons c rest => exact Shutdown.movesOnce_sever s c _
  | waiting =>
    simp only [Shutdown.step]
    split
    · exact .idle rfl rfl rfl
    · split <;> exact .idle rfl rfl rfl
  | joining drained =>
    simp only [Shutdown.step]
    split <;> exact .idle rfl rfl rfl

/-! ## Calls to the engine -/

theorem Resolver.movesOnce_step_handler (a : Answers τ) (s : Gateway τ) {stage : Resolver} {c : Nat}
    {h : Handler τ} (hc : stage.connection? = some c) (hh : s.handler? c = some h) :
    MovesOnce s (stage.duties : List Duty) (s.advance a (.resolver stage)).2
      ((s.advance a (.resolver stage)).1.duties : List Duty) := by
  have hgo := h.go_resolver stage a.engine
  have hid : (stage.step a.engine h).2.id = c := hgo.id.trans (handler?_id hh)
  have hh' (call : EngineCall) : (s.answered call a.engine).handler? c = some h := hh
  cases stage with
  | subscribing request =>
    simp only [advance, hc, Resolver.call?, withHandler, hh']
    refine movesOnce_put rfl rfl hh hgo rfl ?_
    rw [affairs_put (hh' _) hid]
    cases hanswer : a.engine with
    | ok u =>
      exact .only (.starts request)
    | error e =>
      exact .only (.refuses request e)
  | checking sink =>
    cases hc
    simp only [advance, Resolver.connection?, Resolver.call?, withHandler, hh]
    refine movesOnce_put rfl rfl hh hgo rfl ?_
    rw [affairs_put hh hid]
    cases hruns : h.isRunning sink.operationId sink.id.number with
    | true =>
      simp only [Resolver.step, hruns, if_true]
      exact .only (.keeps sink _
        (s.affairs.book?_setBook_self sink.id.connection { h.books with submitted := [] })
        (Handler.isRunning_iff.mp hruns))
    | false =>
      simp only [Resolver.step, hruns, Bool.false_eq_true, if_false]
      refine .only (.cancels sink _
        (s.affairs.book?_setBook_self sink.id.connection { h.books with submitted := [] }) ?_)
      exact fun hnumber => Bool.eq_false_iff.mp hruns (Handler.isRunning_iff.mpr hnumber)
  | cancelling id =>
    simp only [advance, hc, Resolver.call?, withHandler, hh']
    have hfinished : (Resolver.step a.engine h (.cancelling id)).1 = .finished := by
      cases a.engine <;> rfl
    refine movesOnce_put rfl rfl hh hgo rfl ?_
    rw [affairs_put (hh' _) hid, hfinished]
    exact .only (.stops id a.engine)
  | reporting sink e =>
    simp only [advance, hc, Resolver.call?, withHandler, hh]
    have hfinished : (Resolver.step a.engine h (.reporting sink e)).1 = .finished := by
      simp only [Resolver.step]
      split <;> rfl
    refine movesOnce_put rfl rfl hh hgo rfl ?_
    rw [affairs_put hh hid, hfinished]
    exact .only (.reports sink e)
  | unsubscribing id =>
    simp only [advance, hc, Resolver.call?, withHandler, hh']
    have hfinished : (Resolver.step a.engine h (.unsubscribing id)).1 = .finished := by
      cases a.engine <;> rfl
    refine movesOnce_put rfl rfl hh hgo rfl ?_
    rw [affairs_put (hh' _) hid, hfinished]
    exact .only (.unsubscribes id a.engine)
  | finished => cases hc

theorem Resolver.movesOnce_step (a : Answers τ) (s : Gateway τ) (stage : Resolver) :
    MovesOnce s (stage.duties : List Duty) (s.advance a (.resolver stage)).2
      ((s.advance a (.resolver stage)).1.duties : List Duty) := by
  cases hc : stage.connection? with
  | none =>
    cases stage with
    | finished => exact .idle rfl rfl rfl
    | _ => cases hc
  | some c =>
    cases hh : s.handler? c with
    | none =>
      have hbook : s.affairs.book? c = none := congrArg (Option.map Handler.books) hh
      have hduties : stage.duties = [.resolving stage] := by
        cases stage with
        | finished => cases hc
        | _ => rfl
      simp only [advance, hc, hduties]
      cases hcall : stage.call? with
      | none =>
        simp only [withHandler, hh]
        have hdismiss := Settles.dismisses stage c hc hbook []
        rw [List.append_nil] at hdismiss
        exact .of_settles rfl rfl hdismiss
      | some call =>
        have hh' : (s.answered call a.engine).handler? c = none := hh
        simp only [withHandler, hh']
        exact .of_settles rfl rfl (.dismisses stage c hc hbook [(call, a.engine)])
    | some h => exact Resolver.movesOnce_step_handler a s hc hh

/-- **Every activity does its duties.** -/
theorem Gateway.movesOnce_advance (a : Answers τ) (s : Gateway τ) (t : Activity) :
    MovesOnce s (t.duties : List Duty) (s.advance a t).2
      ((s.advance a t).1.duties : List Duty) := by
  cases t with
  | accept listened stage =>
    have hmove := stage.movesOnce_step a s
    simp only [advance]
    split
    · exact hmove.then_idle rfl rfl rfl
    · exact hmove
  | drain c stage => exact stage.movesOnce_step a s c
  | reader c stage => exact stage.movesOnce_step a s c
  | leftover c ended =>
    simp only [advance]
    split
    · exact .idle rfl rfl rfl
    · exact movesOnce_withHandler Handler.go_readOne fun _ => .nothing _
  | resolver stage => exact stage.movesOnce_step a s
  | polling stage => exact stage.movesOnce_step a s
  | listener ended =>
    simp only [advance]
    split <;> exact .idle rfl rfl rfl
  | shutdown timeoutMs stage => exact stage.movesOnce_step a s timeoutMs

end
end StreamGateway
