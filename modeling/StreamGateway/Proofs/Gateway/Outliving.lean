import StreamGateway.Proofs.Gateway.Bookkeeping
import StreamGateway.WebSocket.Connection

/-! # Subscriptions that outlive their connection

When the engine has started a subscription, the task that asked for it looks whether it still runs
and has it stopped if not. Closing a handler tells the engine that the client has left, and takes
the subscriptions off the books after that. A subscription whose start is answered between these two
steps is overlooked: the engine was told too early, and the task still finds it running. This module
shows that nothing else is overlooked (`Gateway.Run.stopped_iff`). -/
namespace StreamGateway

open Handler (Books Go)

variable {a a' b : Affairs} {ds ds' : Multiset Duty} {jobs : List Duty} {c n : Nat}

/-! ## Calls of the resolvers -/

/-- A move makes at most one call, and the task that had a subscription started looks after it. -/
theorem Fires.history_cases (horder : a.InOrder ds) (h : Fires a ds a' ds') :
    a'.history = a.history ∨ ∃ x, a'.history = a.history ++ [x] ∧
      ∀ request, x = (.subscribe request, .ok ()) → .resolving (.checking request.sink) ∈ ds' := by
  obtain ⟨new, ⟨d, hd, h⟩ | h, hnew⟩ := h.settles_or_begins
  · cases h with
    | starts request =>
      refine Or.inr ⟨_, rfl, fun request' heq => ?_⟩
      cases heq
      exact hnew _ (List.mem_singleton_self _)
    | departs | refuses | stops | unsubscribes =>
      exact Or.inr ⟨_, rfl, fun request heq => by cases heq⟩
    | dismisses stage c hc hbook => exact absurd hbook (horder.owed _ hd c hc)
    | _ => exact Or.inl rfl
  · cases h <;> exact Or.inl rfl

/-- A task that is to call the engine stays at it until it has made the call. -/
theorem Fires.calls (horder : a.InOrder ds) (h : Fires a ds a' ds') {stage : Resolver}
    {call : EngineCall} (hcall : stage.call? = some call) (hd : .resolving stage ∈ ds) :
    .resolving stage ∈ ds' ∨ ∃ answer, a'.history = a.history ++ [(call, answer)] := by
  refine (h.stays_or_settles hd).imp_right ?_
  rintro ⟨new, hsettles, -⟩
  cases hsettles with
  | starts request | refuses request =>
    cases hcall
    exact ⟨_, rfl⟩
  | stops id answer | unsubscribes id answer =>
    cases hcall
    exact ⟨answer, rfl⟩
  | keeps | cancels | reports => cases hcall
  | dismisses stage c hc hbook => exact absurd hbook (horder.owed _ hd c hc)

section

variable {c : Nat} {stage : Resolver}

theorem Closing.resolving_notMem (s : Closing) : .resolving stage ∉ s.duties c := by
  cases s <;> simp [Closing.duties]

theorem Teardown.resolving_notMem (s : Teardown) : .resolving stage ∉ s.duties c := by
  cases s with
  | closing s => exact s.resolving_notMem
  | _ => simp [Teardown.duties]

theorem Teardown.resolving_notMem_of (s : Teardown) (cs : List Nat) :
    .resolving stage ∉ s.dutiesOf cs := by
  cases cs with
  | nil => simp [Teardown.dutiesOf]
  | cons c cs => simp [Teardown.dutiesOf, s.resolving_notMem]

theorem Serve.resolving_notMem (s : Serve) : .resolving stage ∉ s.duties c := by
  cases s with
  | draining => simp [Serve.duties]
  | rearming s =>
    cases s with
    | done result => cases result <;> simp [Serve.duties, Rearm.duties]
    | _ => simp [Serve.duties, Rearm.duties]
  | done result => cases result <;> simp [Serve.duties]

/-- Only a resolver owes a call. -/
theorem Activity.eq_resolver {t : Activity} (h : .resolving stage ∈ t.duties) :
    t = .resolver stage := by
  cases t with
  | resolver s =>
    cases s with
    | finished => simp [Activity.duties, Resolver.duties] at h
    | _ => simpa [Activity.duties, Resolver.duties, eq_comm] using h
  | accept listened s =>
    cases s with
    | failing c e s => exact absurd h s.resolving_notMem
    | serving c s => exact absurd h s.resolving_notMem
    | removing c e s => exact absurd h s.resolving_notMem
    | _ => simp [Activity.duties, Accept.duties] at h
  | drain c s =>
    cases s with
    | serving s => exact absurd h s.resolving_notMem
    | removing s => exact absurd h s.resolving_notMem
    | finished => cases h
  | reader c s =>
    cases s with
    | reading => simp [Activity.duties, Reading.duties] at h
    | removing s => exact absurd h s.resolving_notMem
    | finished => cases h
  | polling s =>
    cases s with
    | closing cs s => exact absurd h (s.resolving_notMem_of cs)
    | _ => simp [Activity.duties, Polling.duties] at h
  | shutdown timeoutMs s =>
    cases s with
    | closing cs s => exact absurd h (s.resolving_notMem_of cs)
    | _ => cases h
  | leftover | listener => cases h

end

/-! ## Numbers -/

theorem lastNumber_of_go {k k' : Books} (hgo : Go k k') : k.lastNumber ≤ k'.lastNumber := by
  rcases hgo.change with ⟨-, h, -⟩ | ⟨request, -, -, -, -, h, -⟩ | ⟨op, -, -, h, -⟩ |
    ⟨op, jobs, -, h, -⟩
  · exact h.ge
  · omega
  · exact h.ge
  · exact h.ge

/-- What a handler newly has running has a new number. -/
theorem number?_of_go {k k' : Books} (hgo : Go k k') {op : String} {m : Nat}
    (h : k'.number? op = some m) : k.number? op = some m ∨ k.lastNumber < m := by
  rcases hgo.change with ⟨hnumber, -⟩ | ⟨request, -, -, -, hnumber, -⟩ | ⟨x, -, hnumber, -⟩ |
    ⟨x, jobs, hnumber, -⟩
  · exact Or.inl (hnumber ▸ h)
  · rw [hnumber] at h
    split at h
    · cases h
      exact Or.inr (Nat.lt_succ_self _)
    · exact Or.inl h
  · exact Or.inl (hnumber ▸ h)
  · rw [hnumber] at h
    split at h
    · cases h
    · exact Or.inl h

namespace Affairs

variable {id : SubscriptionId} {P : String → Prop}

/-- The subscription was given its number, and it runs at most under operation ids with the
property. -/
def Confined (a : Affairs) (id : SubscriptionId) (P : String → Prop) : Prop :=
  ∃ k, a.book? id.connection = some k ∧ id.number ≤ k.lastNumber ∧
    ∀ op, k.number? op = some id.number → P op

theorem Confined.handles (h : a.Confined id P) (hh : Handles a b jobs) : b.Confined id P := by
  obtain ⟨k, hk, hle, hP⟩ := h
  rcases hh.book?_cases id.connection with heq | ⟨old, new, hold, hgo, heq⟩
  · exact ⟨k, heq.trans hk, hle, hP⟩
  · cases hk.symm.trans hold
    have hlast : k.lastNumber ≤ new.lastNumber := lastNumber_of_go hgo
    refine ⟨_, heq, Nat.le_trans hle hlast, fun op hop => ?_⟩
    rcases number?_of_go hgo hop with hrun | hnew
    · exact hP op hrun
    · omega

theorem Confined.fires (h : a.Confined id P) (hf : Fires a ds a' ds') : a'.Confined id P := by
  obtain ⟨k, hk, hle, hP⟩ := h
  obtain ⟨new, heq | ⟨k', hnone, -⟩ | ⟨k', hold, -, heq, -⟩ | ⟨k', hold, heq⟩, -⟩ :=
    hf.rewrites id.connection
  · exact ⟨k, heq.trans hk, hle, hP⟩
  · cases hk.symm.trans hnone
  · cases hk.symm.trans hold
    exact ⟨_, heq, hle, hP⟩
  · cases hk.symm.trans hold
    exact ⟨_, heq, hle, fun op hop => by cases hop⟩

/-- The number `n` was given to a subscription of the connection. -/
def Given (a : Affairs) (c n : Nat) : Prop := ∃ k, a.book? c = some k ∧ n ≤ k.lastNumber

theorem given_iff_confined : a.Given c n ↔ a.Confined ⟨c, n⟩ fun _ => True := by
  simp only [Given, Confined, implies_true, and_true]

theorem Given.handles (h : a.Given c n) (hh : Handles a b jobs) : b.Given c n :=
  given_iff_confined.mpr ((given_iff_confined.mp h).handles hh)

theorem Given.fires (h : a.Given c n) (hf : Fires a ds a' ds') : a'.Given c n :=
  given_iff_confined.mpr ((given_iff_confined.mp h).fires hf)

/-- Subscriptions that are to be started have been given their numbers. -/
def AllGiven (a : Affairs) (ds : Multiset Duty) : Prop :=
  ∀ request, .resolving (.subscribing request) ∈ ds →
    a.Given request.id.connection request.id.number

theorem AllGiven.handles (horder : a.InOrder ds) (h : a.AllGiven ds) (hh : Handles a b jobs) :
    b.AllGiven (ds + jobs) := by
  intro request hd
  rcases Multiset.mem_add.mp hd with hd | hd
  · exact (h request hd).handles hh
  · cases hh with
    | nobody => cases hd
    | goes x k k' hbook hgo =>
      obtain ⟨job, hjob, heq⟩ := List.mem_map.mp hd
      obtain ⟨hid, hjobs⟩ := horder.book x k hbook
      cases job with
      | unsubscribe id => cases heq
      | subscribe request' =>
        cases heq
        have hx : request.id.connection = x := (connection_of_go hgo hjobs hjob).trans hid
        -- of the changes of a handler only a start hands out a subscription, and it takes the
        -- newest number
        have hlast : request.id.number ≤ k'.lastNumber := by
          rcases hgo.change with ⟨-, -, hsub, -⟩ | ⟨request', hid', -, -, -, hlast, hsub, -⟩ |
            ⟨op, -, -, -, hsub, -⟩ | ⟨op, jobs, -, -, hsub, hunsubscribe, -⟩
          · simp [hsub, hjobs] at hjob
          · simp only [hsub, hjobs, List.nil_append, List.mem_singleton,
              Job.subscribe.injEq] at hjob
            rw [hjob, hid', hlast]
          · simp [hsub, hjobs] at hjob
          · rw [hsub, hjobs, List.nil_append] at hjob
            obtain ⟨m, hm, -⟩ := hunsubscribe _ hjob
            cases hm
        subst hx
        exact ⟨_, a.book?_setBook_self _ _, hlast⟩

theorem AllGiven.fires (h : a.AllGiven ds) (hf : Fires a ds a' ds') : a'.AllGiven ds' := by
  intro request hd
  rcases hf.stayed_or_arises hd with hd | ⟨e, new, -, hsettles, hd⟩ | ⟨new, hbegins, hd⟩
  · exact (h request hd).fires hf
  · cases hsettles <;> simp at hd
  · cases hbegins <;> simp at hd

/-- Once the handler is closed, it has nothing running under the number `n` or an older one, unless
it has still to be taken off the books. -/
def Cleared (a : Affairs) (ds : Multiset Duty) (c n : Nat) : Prop :=
  a.isClosed c = true → .departing c ∈ ds ∨ .forgetting c ∈ ds ∨
    ∀ k, a.book? c = some k → ∀ op m, k.number? op = some m → n < m

theorem Cleared.handles (hgiven : a.Given c n) (h : a.Cleared ds c n) (hh : Handles a b jobs) :
    b.Cleared (ds + jobs) c n := by
  intro hclosed
  obtain ⟨k, hk, hn⟩ := hgiven
  rcases hh.book?_cases c with heq | ⟨old, new, hold, hgo, heq⟩
  · rw [isClosed, heq] at hclosed
    refine (h hclosed).imp (fun hd => Multiset.mem_add.mpr (Or.inl hd)) (Or.imp ?_ ?_)
    · exact fun hd => Multiset.mem_add.mpr (Or.inl hd)
    · exact fun hnumbers k' hk' => hnumbers k' (heq ▸ hk')
  · cases hk.symm.trans hold
    have hclosed' : a.isClosed c = true := by
      simpa [isClosed, heq, hk, hgo.closed] using hclosed
    refine (h hclosed').imp (fun hd => Multiset.mem_add.mpr (Or.inl hd)) (Or.imp ?_ ?_)
    · exact fun hd => Multiset.mem_add.mpr (Or.inl hd)
    · intro hnumbers k' hk' op m hm
      rw [heq] at hk'
      cases hk'
      rcases number?_of_go hgo hm with hm | hm
      · exact hnumbers k hk op m hm
      · -- what has begun since then has a later number
        omega

theorem Cleared.fires (hgiven : a.Given c n) (h : a.Cleared ds c n) (hf : Fires a ds a' ds') :
    a'.Cleared ds' c n := by
  intro hclosed
  obtain ⟨k, hk, -⟩ := hgiven
  obtain ⟨new, heq | ⟨k', hnone, -⟩ | ⟨k', hold, -, -, howed⟩ | ⟨k', hold, heq⟩, hnew⟩ :=
    hf.rewrites c
  · rw [isClosed, heq] at hclosed
    rcases h hclosed with hd | hd | hnumbers
    · rcases hf.stays_or_settles hd with hd | ⟨new, hsettles, hnew⟩
      · exact Or.inl hd
      · cases hsettles
        exact Or.inr (Or.inl (hnew _ (List.mem_singleton_self _)))
    · rcases hf.stays_or_settles hd with hd | ⟨new, hsettles, hnew⟩
      · exact Or.inr (Or.inl hd)
      · cases hsettles
        refine Or.inr (Or.inr fun k' hk' op m hm => ?_)
        simp only [mapBook, if_pos, hk, Option.map_some, Option.some.injEq] at hk'
        simp [← hk'] at hm
    · exact Or.inr (Or.inr fun k' hk' => hnumbers k' (heq ▸ hk'))
  · cases hk.symm.trans hnone
  · -- whoever closes the handler has yet to tell the engine
    exact Or.inl (hnew _ howed)
  · refine Or.inr (Or.inr fun k' hk' op m hm => ?_)
    rw [heq] at hk'
    cases hk'
    cases hm

end Affairs

namespace Gateway

variable {τ : Type}

/-- Whether the handler of a connection is closed, if it has one. -/
def closed? (s : Gateway τ) (c : Nat) : Option Bool := (s.handler? c).map Handler.closed

theorem isClosed_of_closed? {s : Gateway τ} {closed : Bool} (h : s.closed? c = some closed) :
    s.affairs.isClosed c = closed := by
  cases hg : s.handler? c with
  | none => simp [closed?, hg] at h
  | some g => simpa [closed?, hg, Affairs.isClosed, affairs, Handler.books] using h

/-- The subscription of a sink runs. -/
def runs (s : Gateway τ) (sink : Sink) : Bool :=
  (s.handler? sink.id.connection).any fun h => h.isRunning sink.operationId sink.id.number

theorem book?_of_runs {s : Gateway τ} {sink : Sink} (h : s.runs sink = true) :
    ∃ k, s.affairs.book? sink.id.connection = some k ∧
      k.number? sink.operationId = some sink.id.number := by
  cases hg : s.handler? sink.id.connection with
  | none => simp [runs, hg] at h
  | some g =>
    rw [runs, hg, Option.any_some] at h
    exact ⟨g.books, congrArg (Option.map Handler.books) hg, Handler.isRunning_iff.mp h⟩

theorem handler?_of_book? {s : Gateway τ} (h : s.affairs.book? c ≠ none) :
    ∃ g, s.handler? c = some g := by
  cases hh : s.handler? c with
  | none => exact absurd (congrArg (Option.map Handler.books) hh) h
  | some g => exact ⟨g, rfl⟩

variable [Severable τ]

/-- The task that has had a subscription started still has to look at it, has found that it does not
run, or finds now that it does. -/
theorem checking_happen {s : Gateway τ} (hs : s.WellNumbered) (horder : s.affairs.InOrder s.duties)
    {sink : Sink} (hd : .resolving (.checking sink) ∈ s.duties) (e : Event τ) :
    .resolving (.checking sink) ∈ (s.happen e).duties ∨
      .resolving (.cancelling sink.id) ∈ (s.happen e).duties ∨
      ∃ i answers, e = .go i answers ∧ s.task? i = some (.resolver (.checking sink)) ∧
        s.waits i = false ∧ s.runs sink = true := by
  by_cases hstays : .resolving (.checking sink) ∈ (s.happen e).duties
  · exact Or.inl hstays
  · obtain ⟨i, answers, t, he, ht, hwaits, hdt, hnew⟩ := settles_happen hs hd hstays
    cases Activity.eq_resolver hdt
    obtain ⟨g, hg⟩ := handler?_of_book? (horder.owed _ hd sink.id.connection rfl)
    cases hruns : g.isRunning sink.operationId sink.id.number with
    | true => exact Or.inr (Or.inr ⟨i, answers, he, ht, hwaits, by simpa [runs, hg] using hruns⟩)
    | false =>
      refine Or.inr (Or.inl (hnew _ ?_))
      simp [advance, Resolver.connection?, Resolver.call?, withHandler, hg, Resolver.step, hruns,
        Activity.duties, Resolver.duties]

namespace Run

/-! ## What becomes of a subscription that was started -/

theorem history_next (r : Run τ) (n : Nat) :
    (r.state (n + 1)).history = (r.state n).history ∨
      ∃ x, (r.state (n + 1)).history = (r.state n).history ++ [x] ∧
        ∀ request, x = (.subscribe request, .ok ()) →
          .resolving (.checking request.sink) ∈ (r.state (n + 1)).duties := by
  obtain ⟨b, jobs, hhandles, hfires⟩ := r.moves n
  have hcases := hfires.history_cases ((r.inOrder n).handles hhandles)
  rwa [hhandles.history] at hcases

theorem history_mono (r : Run τ) {m n : Nat} (h : m ≤ n) :
    (r.state m).history <+: (r.state n).history := by
  induction n, h using Nat.le_induction with
  | base => exact List.prefix_refl _
  | succ n hmn ih =>
    rcases r.history_next n with heq | ⟨x, heq, -⟩
    · rwa [heq]
    · rw [heq]
      exact ih.trans (List.prefix_append _ _)

/-- At moment `m` the task that had the subscription started finds that it still runs. -/
def Passes (r : Run τ) (sink : Sink) (m : Nat) : Prop :=
  ∃ i answers, r.event m = .go i answers ∧ (r.state m).task? i = some (.resolver (.checking sink)) ∧
    (r.state m).waits i = false ∧ (r.state m).runs sink = true

/-- A subscription that was started by the call behind `before` is still looked after, was stopped
by a call among `after`, or has been found running. -/
def LookedAfter (r : Run τ) (n : Nat) (request : SubscribeRequest)
    (before after : List (EngineCall × Except EngineError Unit)) : Prop :=
  .resolving (.checking request.sink) ∈ (r.state n).duties ∨
    .resolving (.cancelling request.id) ∈ (r.state n).duties ∨
    (∃ answer, (.unsubscribe request.id, answer) ∈ after) ∨
    ∃ m < n, r.Passes request.sink m ∧
      before ++ [(.subscribe request, .ok ())] <+: (r.state m).history

variable {r : Run τ} {request : SubscribeRequest}
  {before after more : List (EngineCall × Except EngineError Unit)}

theorem LookedAfter.next (h : r.LookedAfter n request before after)
    (hhistory : (r.state n).history = before ++ (.subscribe request, .ok ()) :: after)
    (hmore : (r.state (n + 1)).history = (r.state n).history ++ more) :
    r.LookedAfter (n + 1) request before (after ++ more) := by
  rcases h with hchecking | hcancelling | ⟨answer, hmem⟩ | ⟨m, hm, hpasses, hbefore⟩
  · rcases checking_happen (r.wellNumbered n) (r.inOrder n) hchecking (r.event n) with
      hd | hd | hpasses
    · exact Or.inl hd
    · exact Or.inr (Or.inl hd)
    · refine Or.inr (Or.inr (Or.inr ⟨n, Nat.lt_succ_self n, hpasses, ?_⟩))
      exact ⟨after, by rw [hhistory, List.append_assoc, List.singleton_append]⟩
  · -- the only call of this move is the one that stops the subscription
    obtain ⟨b, jobs, hhandles, hfires⟩ := r.moves n
    rcases hfires.calls ((r.inOrder n).handles hhandles) rfl
      (Multiset.mem_add.mpr (Or.inl hcancelling))
      with hd | ⟨answer, hcall⟩
    · exact Or.inr (Or.inl hd)
    · have hsame : (r.state n).history ++ more = (r.state n).history ++
          [(.unsubscribe request.id, answer)] :=
        hmore.symm.trans (hcall.trans (congrArg (· ++ _) hhandles.history))
      rw [List.append_cancel_left hsame]
      exact Or.inr (Or.inr (Or.inl ⟨answer, by simp⟩))
  · exact Or.inr (Or.inr (Or.inl ⟨answer, List.mem_append_left more hmem⟩))
  · exact Or.inr (Or.inr (Or.inr ⟨m, Nat.lt_succ_of_lt hm, hpasses, hbefore⟩))

theorem lookedAfter (r : Run τ) (n : Nat) {request : SubscribeRequest}
    {before after : List (EngineCall × Except EngineError Unit)}
    (h : (r.state n).history = before ++ (.subscribe request, .ok ()) :: after) :
    r.LookedAfter n request before after := by
  induction n generalizing after with
  | zero =>
    have hempty : (r.state 0).history = [] := congrArg Affairs.history r.affairs_zero
    rw [hempty] at h
    simp at h
  | succ n ih =>
    rcases r.history_next n with heq | ⟨x, heq, hstarts⟩
    · have hold := heq ▸ h
      have hmore : (r.state (n + 1)).history = (r.state n).history ++ [] := by
        rw [heq, List.append_nil]
      have hnext := (ih hold).next hold hmore
      rwa [List.append_nil] at hnext
    · rcases List.eq_nil_or_concat after with rfl | ⟨older, y, rfl⟩
      · -- the call has just been answered
        have hx : x = (.subscribe request, .ok ()) := by
          rw [heq] at h
          exact List.singleton_inj.mp (List.append_inj_right' h rfl)
        exact Or.inl (hstarts request hx)
      · rw [heq, List.concat_eq_append, ← List.cons_append, ← List.append_assoc] at h
        obtain ⟨hold, hy⟩ := List.append_inj' h rfl
        rw [List.concat_eq_append, ← hy]
        exact (ih hold).next hold heq

theorem allGiven (r : Run τ) (n : Nat) : (r.state n).affairs.AllGiven (r.state n).duties :=
  r.always (fun _ request hd => by simp at hd) (fun horder h hh => h.handles horder hh)
    (fun _ h hf => h.fires hf) n

/-- What was given a number while the handler was open is off the books once the handler is
closed. -/
theorem cleared (r : Run τ) {m n : Nat} (hmn : m ≤ n) {c k : Nat}
    (hgiven : (r.state m).affairs.Given c k) (hopen : (r.state m).affairs.isClosed c = false) :
    (r.state n).affairs.Given c k ∧ (r.state n).affairs.Cleared (r.state n).duties c k := by
  induction n, hmn using Nat.le_induction with
  | base => exact ⟨hgiven, fun hclosed => by simp [hopen] at hclosed⟩
  | succ n hmn ih =>
    obtain ⟨hgiven, hcleared⟩ := ih
    obtain ⟨b, jobs, hhandles, hfires⟩ := r.moves n
    exact ⟨(hgiven.handles hhandles).fires hfires,
      (hcleared.handles hgiven hhandles).fires (hgiven.handles hhandles) hfires⟩

/-- The engine is told that a client has left only once its handler is closed. -/
theorem closed_of_departed (r : Run τ) {n c : Nat} {answer : Except EngineError Unit}
    (h : (.unsubscribeClient c, answer) ∈ (r.state n).history) :
    (r.state n).affairs.isClosed c = true ∧ .departing c ∉ (r.state n).duties := by
  have htold := r.told n c
  have hpos : 0 < (r.state n).affairs.departures c :=
    List.countP_pos_iff.mpr ⟨_, h, by simp⟩
  rw [Affairs.Told] at htold
  cases hclosed : (r.state n).affairs.isClosed c with
  | false =>
    rw [hclosed, Bool.toNat_false] at htold
    omega
  | true =>
    rw [hclosed, Bool.toNat_true] at htold
    exact ⟨rfl, Multiset.count_eq_zero.mp (by omega)⟩

theorem departed_of_closed (r : Run τ) {n c : Nat} (hclosed : (r.state n).affairs.isClosed c = true)
    (htold : .departing c ∉ (r.state n).duties) :
    ∃ answer, (.unsubscribeClient c, answer) ∈ (r.state n).history := by
  have hone := r.told n c
  rw [Affairs.Told, hclosed, Multiset.count_eq_zero.mpr htold, Nat.add_zero] at hone
  have hpos : 0 < (r.state n).affairs.departures c := by simp [hone]
  obtain ⟨⟨call, answer⟩, hmem, hcall⟩ := List.countP_pos_iff.mp hpos
  exact ⟨answer, of_decide_eq_true hcall ▸ hmem⟩

/-! ## Who is overlooked -/

/-- The handler is closed and the engine has been told, and no call for the connection is left to be
made. -/
structure AtRest (s : Gateway τ) (c : Nat) : Prop where
  closed : s.closed? c = some true
  told : .departing c ∉ s.duties
  resolved : ∀ stage, .resolving stage ∈ s.duties → stage.connection? ≠ some c

/-- There was a task to start the subscription while its handler was open. -/
def Dispatched (r : Run τ) (n : Nat) (request : SubscribeRequest) : Prop :=
  ∃ m ≤ n, .resolving (.subscribing request) ∈ (r.state m).duties ∧
    (r.state m).closed? request.id.connection = some false

/-- The engine has ended the subscription through its sink. -/
def EndedBySink (r : Run τ) (n : Nat) (sink : Sink) : Prop :=
  ∃ m < n, (r.event m).completed? = some sink

/-- The engine has started the subscription after it was told that the client has left, and the
subscription was found running because the handler had not been cleared yet. -/
def Overlooked (r : Run τ) (n : Nat) (request : SubscribeRequest)
    (before : List (EngineCall × Except EngineError Unit)) : Prop :=
  (∃ answer, (.unsubscribeClient request.id.connection, answer) ∈ before) ∧
    ∃ m < n, r.Passes request.sink m ∧ .forgetting request.id.connection ∈ (r.state m).duties ∧
      before ++ [(.subscribe request, .ok ())] <+: (r.state m).history

theorem given_of_dispatched {r : Run τ} {n : Nat} {request : SubscribeRequest}
    (h : r.Dispatched n request) :
    ∃ m ≤ n, (r.state m).affairs.Given request.id.connection request.id.number ∧
      (r.state m).affairs.isClosed request.id.connection = false := by
  obtain ⟨m, hm, hduty, hclosed⟩ := h
  exact ⟨m, hm, r.allGiven m request hduty, isClosed_of_closed? hclosed⟩

/-- A subscription that is found running after the engine was told about the client is found before
the books are cleared. -/
theorem forgetting_of_passes {r : Run τ} {m n : Nat} {request : SubscribeRequest}
    {answer : Except EngineError Unit} (hdispatched : r.Dispatched n request)
    (hpasses : r.Passes request.sink m)
    (hdeparted : (.unsubscribeClient request.id.connection, answer) ∈ (r.state m).history) :
    .forgetting request.id.connection ∈ (r.state m).duties := by
  obtain ⟨k, -, hgiven, hopen⟩ := given_of_dispatched hdispatched
  obtain ⟨hclosed, hnot⟩ := r.closed_of_departed hdeparted
  rcases Nat.le_total k m with hkm | hmk
  · rcases (r.cleared hkm hgiven hopen).2 hclosed with hd | hd | hnumbers
    · exact absurd hd hnot
    · exact hd
    · obtain ⟨i, answers, -, -, -, hruns⟩ := hpasses
      obtain ⟨b, hb, hnumber⟩ := book?_of_runs hruns
      exact absurd (hnumbers b hb _ _ hnumber) (Nat.lt_irrefl _)
  · -- the handler cannot have been closed before it was open
    have hlater := (r.history_mono hmk).subset hdeparted
    rw [(r.closed_of_departed hlater).1] at hopen
    cases hopen

/-- **Nothing outlives its connection except what is overlooked.** When a connection is at rest, a
subscription that the engine has started was ended by its sink or stopped by a later call, unless it
was started after the engine was told that the client has left and was found running before the
handler was cleared. -/
theorem stopped_iff (r : Run τ) (n : Nat) (request : SubscribeRequest)
    (before after : List (EngineCall × Except EngineError Unit))
    (hdispatched : r.Dispatched n request) (hrest : AtRest (r.state n) request.id.connection)
    (hstarted : (r.state n).history = before ++ (.subscribe request, .ok ()) :: after) :
    (r.EndedBySink n request.sink ∨ (∃ answer, (.unsubscribe request.id, answer) ∈ after) ∨
        ∃ answer, (.unsubscribeClient request.id.connection, answer) ∈ after) ↔
      (r.Overlooked n request before →
        r.EndedBySink n request.sink ∨ ∃ answer, (.unsubscribe request.id, answer) ∈ after) := by
  have hclosed := isClosed_of_closed? hrest.closed
  constructor
  · rintro (hsink | hstop | ⟨answer, hleft⟩) ⟨⟨answer', hbefore⟩, -⟩
    · exact Or.inl hsink
    · exact Or.inr hstop
    · -- the engine would have been told twice
      have htold := r.told n request.id.connection
      have hone : 0 < before.countP fun p => p.1 = .unsubscribeClient request.id.connection :=
        List.countP_pos_iff.mpr ⟨_, hbefore, by simp⟩
      have hother : 0 < after.countP fun p => p.1 = .unsubscribeClient request.id.connection :=
        List.countP_pos_iff.mpr ⟨_, hleft, by simp⟩
      have hboth : (r.state n).affairs.departures request.id.connection =
          (before ++ (.subscribe request, .ok ()) :: after).countP
            fun p => p.1 = .unsubscribeClient request.id.connection :=
              congrArg (List.countP _) hstarted
      rw [List.countP_append, List.countP_cons] at hboth
      rw [Affairs.Told, hclosed, Bool.toNat_true] at htold
      omega
  · intro h
    rcases r.lookedAfter n hstarted with hd | hd | hstop | ⟨m, hm, hpasses, hprefix⟩
    · exact absurd rfl (hrest.resolved _ hd)
    · exact absurd rfl (hrest.resolved _ hd)
    · exact Or.inr (Or.inl hstop)
    · obtain ⟨answer, hdeparted⟩ := r.departed_of_closed hclosed hrest.told
      rw [hstarted, List.mem_append, List.mem_cons] at hdeparted
      rcases hdeparted with hbefore | heq | hafter
      · have hdeparted : (.unsubscribeClient request.id.connection, answer) ∈ (r.state m).history :=
          hprefix.subset (List.mem_append_left _ hbefore)
        have hforgetting := forgetting_of_passes hdispatched hpasses hdeparted
        exact (h ⟨⟨answer, hbefore⟩, m, hm, hpasses, hforgetting, hprefix⟩).imp_right Or.inl
      · cases heq
      · exact Or.inr (Or.inr ⟨answer, hafter⟩)

/-- A client that subscribes right after the handshake. -/
def hasty : WebSocket where
  inbox := [.ofText "\x7b\"type\":\"connection_init\"\x7d",
    .ofText "\x7b\"id\":\"1\",\"type\":\"subscribe\"\x7d"]

/-- The client goes away at once. Task 1 has taken it in, task 2 reads the connection and takes it
down, and task 3 has the subscription started: this is answered when the engine has just been told
that the client has left. -/
def hastyRun : Run WebSocket :=
  .ofScript { enablePoller := false } (by decide +kernel) <| List.flatten
    [[.arrive true, .go 1 {}, .go 1 { upgrade := .ok (hasty, .transport) }], Event.turns 1 3,
      Event.turns 2 1, [.stir 1 WebSocket.clientDrop], Event.turns 2 5, Event.turns 3 2,
      Event.turns 2 3]

def hastyRequest : SubscribeRequest := ⟨⟨1, 1⟩, "1", none, none⟩

theorem dispatched_hastyRun : hastyRun.Dispatched 18 hastyRequest :=
  ⟨7, by decide, by decide +kernel, by decide +kernel⟩

theorem atRest_hastyRun : AtRest (hastyRun.state 18) 1 := by
  have hduties : (hastyRun.state 18).duties = 0 := by decide +kernel
  refine ⟨by decide +kernel, ?_, fun stage hd => ?_⟩
  · rw [hduties]
    exact Multiset.notMem_zero _
  · rw [hduties] at hd
    exact absurd hd (Multiset.notMem_zero _)

theorem history_hastyRun : (hastyRun.state 18).history =
    [(.unsubscribeClient 1, .ok ())] ++ (.subscribe hastyRequest, .ok ()) :: [] := by
  decide +kernel

theorem stopped_iff_hastyRun :
    hastyRun.Dispatched 18 hastyRequest ∧ AtRest (hastyRun.state 18) 1 ∧
      ((hastyRun.EndedBySink 18 hastyRequest.sink ∨
          (∃ answer, (.unsubscribe ⟨1, 1⟩, answer) ∈
            ([] : List (EngineCall × Except EngineError Unit))) ∨
          ∃ answer, (.unsubscribeClient 1, answer) ∈
            ([] : List (EngineCall × Except EngineError Unit))) ↔
        (hastyRun.Overlooked 18 hastyRequest [(.unsubscribeClient 1, .ok ())] →
          hastyRun.EndedBySink 18 hastyRequest.sink ∨
            ∃ answer, (.unsubscribe ⟨1, 1⟩, answer) ∈
              ([] : List (EngineCall × Except EngineError Unit)))) :=
  ⟨dispatched_hastyRun, atRest_hastyRun,
    hastyRun.stopped_iff 18 hastyRequest _ [] dispatched_hastyRun atRest_hastyRun history_hastyRun⟩

/-- **A subscription outlives its connection.** Nothing was called after the engine has started it,
and it was not ended by its sink. -/
theorem hasty_outlives :
    hastyRun.Dispatched 18 hastyRequest ∧ AtRest (hastyRun.state 18) 1 ∧
      (hastyRun.state 18).history =
        [(.unsubscribeClient 1, .ok ()), (.subscribe hastyRequest, .ok ())] ∧
      ¬hastyRun.EndedBySink 18 hastyRequest.sink := by
  refine ⟨dispatched_hastyRun, atRest_hastyRun, history_hastyRun, ?_⟩
  have hevents : ∀ m < 18, (hastyRun.event m).completed? ≠ some hastyRequest.sink := by
    decide +kernel
  exact fun ⟨m, hm, heq⟩ => hevents m hm heq

end Run
end Gateway
end StreamGateway
