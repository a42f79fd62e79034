import StreamGateway.Proofs.Gateway.Outliving

/-! # Subscriptions that the client gives up

A client may complete an operation at any moment after it has subscribed: before the engine is asked
to start the subscription, while the engine is at it, between the engine's answer and the look that
is taken at the books then, or later. It may use the operation id again at once. Two tasks see to it
that the engine is asked to stop the subscription: the one that had it started, if it finds that the
number does not run any more, and the one that the completion puts in line. Neither is enough alone,
since the first may have taken its look already, and the second may call before the engine has
started anything. Together they cover every order of events, and they leave alone what still
runs. -/
namespace StreamGateway

open Handler (Books Go)

/-! ## Numbers -/

namespace Handler

/-- No number is given twice: those that run differ, and the next one is new. -/
structure Distinct (k : Books) : Prop where
  le_last : ∀ op n, k.number? op = some n → n ≤ k.lastNumber
  inj : ∀ op op' n, k.number? op = some n → k.number? op' = some n → op = op'

variable {k k' : Books}

theorem Distinct.of_subset (h : Distinct k) (hlast : k'.lastNumber = k.lastNumber)
    (hnumber : ∀ op n, k'.number? op = some n → k.number? op = some n) : Distinct k' := by
  constructor
  · intro op n hn
    rw [hlast]
    exact h.le_last op n (hnumber op n hn)
  · intro op op' n hn hn'
    exact h.inj op op' n (hnumber op n hn) (hnumber op' n hn')

theorem Distinct.go (h : Distinct k) (hgo : Go k k') : Distinct k' := by
  cases hgo.change with
  | nothing hnumber hlast => exact h.of_subset hlast fun op n hn => hnumber ▸ hn
  | repeats op hruns hnumber hlast => exact h.of_subset hlast fun op n hn => hnumber ▸ hn
  | ends op jobs hnumber hlast =>
    refine h.of_subset hlast fun x n hn => ?_
    rw [hnumber] at hn
    split at hn
    · cases hn
    · exact hn
  | starts request hid hop hfree hnumber hlast =>
    have hcases {op : String} {n : Nat} (hn : k'.number? op = some n) :
        (op = request.operationId ∧ n = k.lastNumber + 1) ∨
          (k.number? op = some n ∧ n ≤ k.lastNumber) := by
      rw [hnumber] at hn
      split at hn <;> rename_i hx
      · cases hn
        exact Or.inl ⟨hx, rfl⟩
      · exact Or.inr ⟨hn, h.le_last op n hn⟩
    constructor
    · intro op n hn
      rw [hlast]
      rcases hcases hn with ⟨-, rfl⟩ | ⟨-, hle⟩ <;> omega
    · intro op op' n hn hn'
      rcases hcases hn with ⟨rfl, hnew⟩ | ⟨hold, hle⟩ <;> rcases hcases hn' with ⟨rfl, hnew'⟩ |
        ⟨hold', hle'⟩
      · rfl
      · omega
      · omega
      · exact h.inj op op' n hold hold'

/-- A subscription that is put in line runs under its operation id and no other. -/
theorem Distinct.of_subscribe (h : Distinct k) (hgo : Go k k') (hjobs : k.submitted = [])
    {request : SubscribeRequest} (hjob : .subscribe request ∈ k'.submitted) :
    request.id.number = k'.lastNumber ∧
      ∀ op, k'.number? op = some request.id.number → op = request.operationId := by
  cases hgo.change with
  | nothing hnumber hlast hsub => simp [hsub, hjobs] at hjob
  | repeats op hruns hnumber hlast hsub => simp [hsub, hjobs] at hjob
  | ends op jobs hnumber hlast hsub hunsubscribe =>
    rw [hsub, hjobs, List.nil_append] at hjob
    obtain ⟨n, hn, -⟩ := hunsubscribe _ hjob
    cases hn
  | starts request' hid hop hfree hnumber hlast hsub =>
    simp only [hsub, hjobs, List.nil_append, List.mem_singleton, Job.subscribe.injEq] at hjob
    subst hjob
    have hnew : request.id.number = k.lastNumber + 1 := congrArg SubscriptionId.number hid
    rw [hnew, hlast]
    refine ⟨rfl, fun op hop => ?_⟩
    rw [hnumber] at hop
    by_contra hne
    rw [if_neg hne] at hop
    -- the number is newer than all that ran before
    have hle := h.le_last op _ hop
    omega

/-- What the engine is to be asked to stop does not run any more. -/
theorem Distinct.of_unsubscribe (h : Distinct k) (hgo : Go k k') (hjobs : k.submitted = [])
    {id : SubscriptionId} (hjob : .unsubscribe id ∈ k'.submitted) :
    id.number ≤ k'.lastNumber ∧ ∀ op, k'.number? op ≠ some id.number := by
  cases hgo.change with
  | nothing hnumber hlast hsub => simp [hsub, hjobs] at hjob
  | repeats op hruns hnumber hlast hsub => simp [hsub, hjobs] at hjob
  | starts request hid hop hfree hnumber hlast hsub => simp [hsub, hjobs] at hjob
  | ends op jobs hnumber hlast hsub hunsubscribe =>
    rw [hsub, hjobs, List.nil_append] at hjob
    obtain ⟨n, hn, hended⟩ := hunsubscribe _ hjob
    cases hn
    refine ⟨hlast ▸ h.le_last op n hended, fun x hx => ?_⟩
    rw [hnumber] at hx
    split at hx <;> rename_i hne
    · cases hx
    · exact hne (h.inj x op n hx hended)

/-- What runs after one go ran before, or has just been put in line. -/
theorem runs_of_go (hgo : Go k k') {op : String} {n : Nat} (hn : k'.number? op = some n) :
    k.number? op = some n ∨ ∃ request, request.id = ⟨k.id, n⟩ ∧
      .subscribe request ∈ k'.submitted := by
  cases hgo.change with
  | nothing hnumber => exact Or.inl (hnumber ▸ hn)
  | repeats op hruns hnumber => exact Or.inl (hnumber ▸ hn)
  | ends x jobs hnumber =>
    rw [hnumber] at hn
    split at hn
    · cases hn
    · exact Or.inl hn
  | starts request hid hop hfree hnumber hlast hsub =>
    rw [hnumber] at hn
    split at hn
    · cases hn
      exact Or.inr ⟨request, hid, by rw [hsub]; simp⟩
    · exact Or.inl hn

end Handler

/-! ## Accounts -/

namespace Affairs

variable {a a' b : Affairs} {ds ds' : Multiset Duty} {jobs : List Duty}

/-- Every subscription is accounted for: what runs is about to be started or has been answered, what
is about to be started or looked at runs under its own operation id if at all, and what was or will
be stopped does not run. -/
structure Accounted (a : Affairs) (ds : Multiset Duty) : Prop where
  distinct : ∀ c k, a.book? c = some k → Handler.Distinct k
  running : ∀ c k op n, a.book? c = some k → k.number? op = some n →
    ∃ request, request.id = ⟨c, n⟩ ∧
    (.resolving (.subscribing request) ∈ ds ∨ ∃ answer, (.subscribe request, answer) ∈ a.history)
  subscribing : ∀ request, .resolving (.subscribing request) ∈ ds →
    a.Confined request.id (· = request.operationId)
  checking : ∀ sink, .resolving (.checking sink) ∈ ds → a.Confined sink.id (· = sink.operationId)
  cancelling : ∀ id, .resolving (.cancelling id) ∈ ds → a.Confined id fun _ => False
  unsubscribing : ∀ id, .resolving (.unsubscribing id) ∈ ds → a.Confined id fun _ => False
  stopped : ∀ id answer, (.unsubscribe id, answer) ∈ a.history → a.Confined id fun _ => False

theorem Accounted.blank (polling : Bool) : (blank polling).Accounted 0 where
  distinct c k hk := by cases hk
  running c k op n hk := by cases hk
  subscribing request hd := by simp at hd
  checking sink hd := by simp at hd
  cancelling id hd := by simp at hd
  unsubscribing id hd := by simp at hd
  stopped id answer h := by cases h

/-- Where a call that waits comes from when a handler has gone on. -/
theorem mem_add_jobs (horder : a.InOrder ds) (hh : Handles a b jobs) {stage : Resolver}
    (hd : .resolving stage ∈ ds + (jobs : Multiset Duty)) :
    .resolving stage ∈ ds ∨ ∃ c k k' job, a.book? c = some k ∧ Go k k' ∧ k.id = c ∧
      k.submitted = [] ∧
      b.book? c = some { k' with submitted := [] } ∧ job ∈ k'.submitted ∧ job.id.connection = c ∧
      stage = .ofJob job := by
  rcases Multiset.mem_add.mp hd with hd | hd
  · exact Or.inl hd
  · cases hh with
    | nobody => cases hd
    | goes c k k' hbook hgo =>
      obtain ⟨job, hjob, heq⟩ := List.mem_map.mp hd
      obtain ⟨hid, hjobs⟩ := horder.book c k hbook
      have hc : job.id.connection = c := (connection_of_go hgo hjobs hjob).trans hid
      cases heq
      exact Or.inr ⟨c, k, k', job, hbook, hgo, hid, hjobs, a.book?_setBook_self c _, hjob, hc, rfl⟩

theorem Accounted.handles (horder : a.InOrder ds) (h : a.Accounted ds) (hh : Handles a b jobs) :
    b.Accounted (ds + jobs) where
  distinct c k hk := by
    rcases hh.book?_cases c with heq | ⟨old, new, hold, hgo, heq⟩
    · exact h.distinct c k (heq ▸ hk)
    · rw [heq] at hk
      cases hk
      exact ⟨((h.distinct c old hold).go hgo).le_last, ((h.distinct c old hold).go hgo).inj⟩
  running c k op n hk hn := by
    have hlift {request : SubscribeRequest} : (.resolving (.subscribing request) ∈ ds ∨
        ∃ answer, (.subscribe request, answer) ∈ a.history) →
        (.resolving (.subscribing request) ∈ ds + (jobs : Multiset Duty) ∨
          ∃ answer, (.subscribe request, answer) ∈ b.history) := by
      rw [hh.history]
      exact Or.imp_left fun hd => Multiset.mem_add.mpr (Or.inl hd)
    cases hh with
    | nobody =>
      obtain ⟨request, hid, hrequest⟩ := h.running c k op n hk hn
      exact ⟨request, hid, hlift hrequest⟩
    | goes x old new hbook hgo =>
      by_cases hc : c = x
      · subst hc
        rw [book?_setBook_self] at hk
        cases hk
        rcases Handler.runs_of_go hgo hn with hrun | ⟨request, hid, hjob⟩
        · obtain ⟨request, hid, hrequest⟩ := h.running c old op n hbook hrun
          exact ⟨request, hid, hlift hrequest⟩
        · refine ⟨request, by rw [hid, (horder.book c old hbook).1], Or.inl ?_⟩
          exact Multiset.mem_add.mpr (Or.inr (List.mem_map.mpr ⟨.subscribe request, hjob, rfl⟩))
      · rw [book?_setBook_of_ne a _ hc] at hk
        obtain ⟨request, hid, hrequest⟩ := h.running c k op n hk hn
        exact ⟨request, hid, hlift hrequest⟩
  subscribing request hd := by
    obtain hd | ⟨c, k, k', job, hk, hgo, hid, hjobs, hbook, hjob, hc, hstage⟩ :=
      mem_add_jobs horder hh hd
    · exact (h.subscribing request hd).handles hh
    · cases job with
      | unsubscribe id => cases hstage
      | subscribe request' =>
        cases hstage
        obtain ⟨hnumber, hop⟩ := (h.distinct c k hk).of_subscribe hgo hjobs hjob
        subst hc
        exact ⟨_, hbook, hnumber.le, hop⟩
  checking sink hd := by
    obtain hd | ⟨c, k, k', job, hk, hgo, hid, hjobs, hbook, hjob, hc, hstage⟩ :=
      mem_add_jobs horder hh hd
    · exact (h.checking sink hd).handles hh
    · cases job <;> cases hstage
  cancelling id hd := by
    obtain hd | ⟨c, k, k', job, hk, hgo, hid, hjobs, hbook, hjob, hc, hstage⟩ :=
      mem_add_jobs horder hh hd
    · exact (h.cancelling id hd).handles hh
    · cases job <;> cases hstage
  unsubscribing id hd := by
    obtain hd | ⟨c, k, k', job, hk, hgo, hid, hjobs, hbook, hjob, hc, hstage⟩ :=
      mem_add_jobs horder hh hd
    · exact (h.unsubscribing id hd).handles hh
    · cases job with
      | subscribe request => cases hstage
      | unsubscribe id' =>
        cases hstage
        obtain ⟨hle, hop⟩ := (h.distinct c k hk).of_unsubscribe hgo hjobs hjob
        subst hc
        exact ⟨_, hbook, hle, hop⟩
  stopped id answer hcall := (h.stopped id answer (hh.history ▸ hcall)).handles hh

/-- The calls of a move are those of tasks that were at them. -/
theorem mem_history_fires (horder : a.InOrder ds) (hf : Fires a ds a' ds') {call : EngineCall}
    {answer : Except EngineError Unit} (h : (call, answer) ∈ a'.history) :
    (call, answer) ∈ a.history ∨ (∃ c, call = .unsubscribeClient c) ∨
      ∃ stage, .resolving stage ∈ ds ∧ stage.call? = some call := by
  obtain ⟨new, ⟨d, hd, hsettles⟩ | hbegins, -⟩ := hf.settles_or_begins
  · cases hsettles with
    | departs c =>
      refine (List.mem_append.mp h).imp_right fun h => ?_
      cases List.mem_singleton.mp h
      exact Or.inl ⟨c, rfl⟩
    | starts | refuses | stops | unsubscribes =>
      refine (List.mem_append.mp h).imp_right fun h => ?_
      cases List.mem_singleton.mp h
      exact Or.inr ⟨_, hd, rfl⟩
    | dismisses stage c hc hbook => exact absurd hbook (horder.owed _ hd c hc)
    | _ => exact Or.inl h
  · cases hbegins <;> exact Or.inl h

theorem Accounted.fires (horder : a.InOrder ds) (h : a.Accounted ds) (hf : Fires a ds a' ds') :
    a'.Accounted ds' where
  distinct c k hk := by
    obtain ⟨new, heq | ⟨b, -, heq, -, -, -, -, hnumber⟩ | ⟨b, hold, -, heq, -⟩ |
        ⟨b, hold, heq⟩, -⟩ :=
      hf.rewrites c
    · exact h.distinct c k (heq ▸ hk)
    all_goals
      rw [heq] at hk
      cases hk
    · exact ⟨fun op n hn => by simp [hnumber] at hn, fun op op' n hn => by simp [hnumber] at hn⟩
    · exact ⟨(h.distinct c b hold).le_last, (h.distinct c b hold).inj⟩
    · constructor
      · intro op n hn
        cases hn
      · intro op op' n hn
        cases hn
  running c k op n hk hn := by
    -- moves start no subscription, so what runs ran before
    have hold : ∃ k, a.book? c = some k ∧ k.number? op = some n := by
      obtain ⟨new, heq | ⟨b, -, heq, -, -, -, -, hnumber⟩ | ⟨b, hold, -, heq, -⟩ |
          ⟨b, hold, heq⟩, -⟩ :=
        hf.rewrites c
      · exact ⟨k, heq ▸ hk, hn⟩
      all_goals
        rw [heq] at hk
        cases hk
      · simp [hnumber] at hn
      · exact ⟨b, hold, hn⟩
      · cases hn
    obtain ⟨k, hk, hn⟩ := hold
    obtain ⟨request, hid, hd | ⟨answer, hcall⟩⟩ := h.running c k op n hk hn
    · refine ⟨request, hid, (hf.calls horder rfl hd).imp_right ?_⟩
      rintro ⟨answer, hhistory⟩
      exact ⟨answer, by rw [hhistory]; simp⟩
    · refine ⟨request, hid, Or.inr ⟨answer, ?_⟩⟩
      rcases hf.history_cases horder with hhistory | ⟨x, hhistory, -⟩
      · rwa [hhistory]
      · rw [hhistory]
        exact List.mem_append_left _ hcall
  subscribing request hd := by
    rcases hf.stayed_or_arises hd with hd | ⟨e, new, he, hsettles, hd⟩ | ⟨new, hbegins, hd⟩
    · exact (h.subscribing request hd).fires hf
    · cases hsettles <;> simp at hd
    · cases hbegins <;> simp at hd
  checking sink hd := by
    rcases hf.stayed_or_arises hd with hd | ⟨e, new, he, hsettles, hd⟩ | ⟨new, hbegins, hd⟩
    · exact (h.checking sink hd).fires hf
    · cases hsettles with
      | starts request =>
        cases List.mem_singleton.mp hd
        exact (h.subscribing request he).fires hf
      | _ => simp at hd
    · cases hbegins <;> simp at hd
  cancelling id hd := by
    rcases hf.stayed_or_arises hd with hd | ⟨e, new, he, hsettles, hd⟩ | ⟨new, hbegins, hd⟩
    · exact (h.cancelling id hd).fires hf
    · cases hsettles with
      | cancels sink b hbook hruns =>
        cases List.mem_singleton.mp hd
        -- it runs at most under the sink's operation id, and there something else runs or nothing
        obtain ⟨k, hk, hle, hop⟩ := h.checking sink he
        cases hbook.symm.trans hk
        refine Confined.fires ⟨b, hk, hle, fun op hn => ?_⟩ hf
        exact hruns (hop op hn ▸ hn)
      | _ => simp at hd
    · cases hbegins <;> simp at hd
  unsubscribing id hd := by
    rcases hf.stayed_or_arises hd with hd | ⟨e, new, he, hsettles, hd⟩ | ⟨new, hbegins, hd⟩
    · exact (h.unsubscribing id hd).fires hf
    · cases hsettles <;> simp at hd
    · cases hbegins <;> simp at hd
  stopped id answer hcall := by
    refine Confined.fires ?_ hf
    rcases mem_history_fires horder hf hcall with hcall | ⟨c, hcall⟩ | ⟨stage, hd, hstage⟩
    · exact h.stopped id answer hcall
    · cases hcall
    · cases stage with
      | cancelling id' =>
        cases hstage
        exact h.cancelling id hd
      | unsubscribing id' =>
        cases hstage
        exact h.unsubscribing id hd
      | _ => cases hstage

end Affairs

/-! ## Completions -/

/-- The number of the subscription that the next message ends: it is a completion of something that
runs. -/
def Handler.withdrawn? {τ : Type} [Transport τ] (h : Handler τ) : Option Nat :=
  match h.link.read.1 with
  | .ok m => if m.kind = .complete then h.number? m.id else none
  | .error _ => none

/-- The engine is to be asked to stop what a completion has ended. -/
theorem Handler.readOne_withdraws {τ : Type} [Transport τ] {h : Handler τ} {n : Nat}
    (hn : h.withdrawn? = some n) :
    (∃ op, h.number? op = some n) ∧ .unsubscribe ⟨h.id, n⟩ ∈ h.readOne.2.submitted := by
  rw [withdrawn?] at hn
  split at hn <;> rename_i hread
  · rename_i m
    split at hn <;> rename_i hkind
    · refine ⟨⟨m.id, hn⟩, ?_⟩
      have hjob (g : Handler τ) (hid : g.id = h.id) (hg : g.number? m.id = some n) :
          .unsubscribe ⟨h.id, n⟩ ∈ (g.complete m).2.submitted := by
        rw [complete, hg, ← hid]
        exact List.mem_append_right _ (List.mem_singleton_self _)
      simp only [readOne, readMessage, hread, handle, hkind]
      exact hjob _ rfl hn
    · cases hn
  · cases hn

namespace Gateway

variable {τ : Type} [Severable τ]

/-- The connection of which the task reads a message when it goes on. -/
def reads? (s : Gateway τ) (a : Answers τ) : Activity → Option Nat
  | .accept _ (.serving c .draining) | .drain c (.serving .draining) | .leftover c false => some c
  | .reader c .reading => if s.shuttingDown && a.noticed then none else some c
  | _ => none

/-- The subscription that a client gives up by an event: a task reads a completion of something that
runs. -/
def withdrawn? (s : Gateway τ) : Event τ → Option SubscriptionId
  | .go i a =>
    if s.waits i then none
    else do
      let t ← s.task? i
      let c ← s.reads? a t
      let h ← s.handler? c
      let number ← h.withdrawn?
      return ⟨c, number⟩
  | _ => none

/-- Every task for the connection that calls the engine is over. -/
def isResolved (s : Gateway τ) (c : Nat) : Bool :=
  s.tasks.all fun (_, t) => match t with
    | .resolver stage => stage.connection? ≠ some c
    | _ => true

omit [Severable τ] in
theorem not_mem_of_isResolved {s : Gateway τ} {c : Nat} (h : s.isResolved c = true)
    {stage : Resolver} (hc : stage.connection? = some c) : .resolving stage ∉ s.duties := by
  intro hd
  obtain ⟨⟨i, t⟩, hmem, ht⟩ := List.mem_flatMap.mp hd
  cases Activity.eq_resolver ht
  have hstage := List.all_eq_true.mp h _ hmem
  simp [hc] at hstage

omit [Severable τ] in
theorem withHandler_eq {α : Type} {s : Gateway τ} {c : Nat} {h : Handler τ}
    (hh : s.handler? c = some h) (absent : α) (f : Handler τ → α × Handler τ) :
    s.withHandler c absent f = ((f h).1, s.put (f h).2) := by
  rw [withHandler, hh]

theorem serve_draining_snd {s : Gateway τ} {c : Nat} {h : Handler τ} (hh : s.handler? c = some h)
    (a : Answers τ) : (Serve.step a s c .draining).2 = s.put h.readOne.2 := by
  rw [Serve.step, withHandler_eq hh, h.turn_snd]
  dsimp only
  split <;> rfl

/-- A task that reads begins tasks for the work of the handler, and for nothing else. -/
theorem grows_reads {s : Gateway τ} {a : Answers τ} {t : Activity} {c : Nat} {h : Handler τ}
    (ht : s.reads? a t = some c) (hh : s.handler? c = some h) :
    Grows s (s.advance a t).2 (h.readOne.2.submitted.map taskOf) := by
  have hgrows := s.grows_put h.readOne.2
  unfold reads? at ht
  split at ht
  · rename_i listened d
    cases ht
    rw [← serve_draining_snd hh a] at hgrows
    cases listened <;> exact hgrows
  · cases ht
    rw [← serve_draining_snd hh a] at hgrows
    exact hgrows
  · cases ht
    simp only [advance, Bool.false_eq_true, if_false, withHandler_eq hh]
    exact hgrows
  · split at ht <;> rename_i hnoticed
    · cases ht
    · cases ht
      simp only [advance, Reading.step, if_neg hnoticed, withHandler_eq hh, h.patientTurn_snd]
      split
      · exact hgrows
      · exact hgrows
      · -- the end of the connection is only logged
        simp only [logEnd]
        split <;> exact ⟨hgrows.tasks, hgrows.lastTask, hgrows.fresh⟩
  · cases ht

omit [Severable τ] in
theorem not_isOver_of_reads? {s : Gateway τ} {a : Answers τ} {t : Activity} {c : Nat}
    (h : s.reads? a t = some c) : t.isOver = false := by
  unfold reads? at h
  split at h
  · rfl
  · rfl
  · rfl
  · rfl
  · cases h

/-- What is taken from a completion: who reads it, and what it finds. -/
theorem withdrawn?_cases {s : Gateway τ} {e : Event τ} {id : SubscriptionId}
    (h : s.withdrawn? e = some id) :
    ∃ i a t g, e = .go i a ∧ s.task? i = some t ∧ s.waits i = false ∧
      s.reads? a t = some id.connection ∧
      s.handler? id.connection = some g ∧ g.withdrawn? = some id.number := by
  cases e with
  | go i a =>
    rw [withdrawn?] at h
    split at h <;> rename_i hwaits
    · cases h
    · simp only [Option.bind_eq_bind, Option.bind_eq_some_iff] at h
      obtain ⟨t, ht, c, hc, g, hg, n, hn, heq⟩ := h
      cases heq
      exact ⟨i, a, t, g, rfl, ht, Bool.eq_false_iff.mpr hwaits, hc, hg, hn⟩
  | _ => cases h

/-- A completion of something that runs puts a task in line that has it stopped. -/
theorem unsubscribing_of_withdrawn {s : Gateway τ} (hs : s.WellNumbered) {e : Event τ}
    {id : SubscriptionId} (h : s.withdrawn? e = some id) :
    .resolving (.unsubscribing id) ∈ (s.happen e).duties := by
  obtain ⟨i, a, t, g, rfl, ht, hwaits, hreads, hg, hn⟩ := withdrawn?_cases h
  have hover := not_isOver_of_reads? hreads
  have hgrows := grows_reads hreads hg
  obtain ⟨xs, ys, -, htasks⟩ := setTask_split hs ht hgrows (s.advance a t).1
  have hjob : .unsubscribe id ∈ g.readOne.2.submitted := by
    have hjob := (Handler.readOne_withdraws hn).2
    rwa [handler?_id hg] at hjob
  have hhappen : s.happen (.go i a) = (s.advance a t).2.setTask i (s.advance a t).1 := by
    show s.step i a = _
    simp [step, ht, hover, hwaits]
  rw [hhappen, duties, htasks, List.flatMap_append, flatMap_numbered, flatMap_taskOf]
  exact Multiset.mem_coe.mpr (List.mem_append_right _ (List.mem_map.mpr ⟨_, hjob, rfl⟩))

namespace Run

/-- The subscription that a client gives up at moment `m`. -/
def withdrawn? (r : Run τ) (m : Nat) : Option SubscriptionId := (r.state m).withdrawn? (r.event m)

variable {r : Run τ} {id : SubscriptionId} {m n : Nat}

theorem accounted (r : Run τ) (n : Nat) : (r.state n).affairs.Accounted (r.state n).duties :=
  r.always Affairs.Accounted.blank (fun horder h hh => h.handles horder hh)
    (fun horder h hf => h.fires horder hf) n

/-- A task that was to call the engine and is not any more has called it in between. -/
theorem called_between (hmn : m ≤ n) {stage : Resolver} {call : EngineCall}
    (hcall : stage.call? = some call) (hd : .resolving stage ∈ (r.state m).duties)
    (hgone : .resolving stage ∉ (r.state n).duties) :
    ∃ answer later, (r.state n).history = (r.state m).history ++ later ∧
      (call, answer) ∈ later := by
  induction n, hmn using Nat.le_induction with
  | base => exact absurd hd hgone
  | succ n hmn ih =>
    by_cases hstill : .resolving stage ∈ (r.state n).duties
    · obtain ⟨later, hlater⟩ := r.history_mono hmn
      obtain ⟨b, jobs, hhandles, hfires⟩ := r.moves n
      have hcalls := hfires.calls ((r.inOrder n).handles hhandles) hcall
        (Multiset.mem_add.mpr (Or.inl hstill))
      obtain ⟨answer, hhistory⟩ := hcalls.resolve_left hgone
      refine ⟨answer, later ++ [(call, answer)], ?_, by simp⟩
      have hnext : (r.state (n + 1)).history = (r.state n).history ++ [(call, answer)] :=
        hhistory.trans (congrArg (· ++ _) hhandles.history)
      rw [hnext, ← hlater, List.append_assoc]
    · obtain ⟨answer, later, hlater, hmem⟩ := ih hstill
      obtain ⟨more, hmore⟩ := r.history_mono (Nat.le_succ n)
      refine ⟨answer, later ++ more, ?_, List.mem_append_left more hmem⟩
      rw [← hmore, hlater, List.append_assoc]

/-- What a client has given up does not run again. -/
theorem confined_of_withdrawn (hw : r.withdrawn? m = some id) (hmn : m < n) :
    (r.state n).affairs.Confined id fun _ => False := by
  have hd := unsubscribing_of_withdrawn (r.wellNumbered m) hw
  by_cases hstill : .resolving (.unsubscribing id) ∈ (r.state n).duties
  · exact (r.accounted n).unsubscribing id hstill
  · obtain ⟨answer, later, hlater, hmem⟩ := called_between hmn rfl hd hstill
    refine (r.accounted n).stopped id answer ?_
    show _ ∈ (r.state n).history
    rw [hlater]
    exact List.mem_append_right _ hmem

/-- What a client gives up was to be started or has been started. -/
theorem subscribed_of_withdrawn (hw : r.withdrawn? m = some id) (hmn : m < n)
    (hresolved : (r.state n).isResolved id.connection = true) :
    ∃ request answer, request.id = id ∧ (.subscribe request, answer) ∈ (r.state n).history := by
  obtain ⟨i, a, t, g, -, -, -, -, hg, hn⟩ := withdrawn?_cases hw
  obtain ⟨op, hop⟩ := (Handler.readOne_withdraws hn).1
  have hbook : (r.state m).affairs.book? id.connection = some g.books :=
    congrArg (Option.map Handler.books) hg
  obtain ⟨request, hid, hd | ⟨answer, hcall⟩⟩ :=
    (r.accounted m).running id.connection g.books op id.number hbook hop
  · have hgone : .resolving (.subscribing request) ∉ (r.state n).duties :=
      not_mem_of_isResolved hresolved (by rw [Resolver.connection?, hid])
    obtain ⟨answer, later, hlater, hmem⟩ := called_between hmn.le rfl hd hgone
    exact ⟨request, answer, hid, hlater ▸ List.mem_append_right _ hmem⟩
  · exact ⟨request, answer, hid, (r.history_mono hmn.le).subset hcall⟩

/-- The engine is asked to stop what it has started after the client has given it up or before. -/
theorem stopped_of_withdrawn (hw : r.withdrawn? m = some id) (hmn : m < n)
    (hresolved : (r.state n).isResolved id.connection = true) {request : SubscribeRequest}
    (hid : request.id = id) {before after : List (EngineCall × Except EngineError Unit)}
    (hstarted : (r.state n).history = before ++ (.subscribe request, .ok ()) :: after) :
    ∃ answer, (.unsubscribe id, answer) ∈ after := by
  subst hid
  rcases r.lookedAfter n hstarted with hd | hd | hstop | ⟨k, hk, hpasses, hprefix⟩
  · exact absurd hd (not_mem_of_isResolved hresolved rfl)
  · exact absurd hd (not_mem_of_isResolved hresolved rfl)
  · exact hstop
  · obtain ⟨i, a, hevent, htask, -, hruns⟩ := hpasses
    rcases Nat.lt_trichotomy k m with hkm | rfl | hmk
    · -- the look was taken before the completion came, so the completion's own call comes after
      -- the start
      have hd := unsubscribing_of_withdrawn (r.wellNumbered m) hw
      have hgone : .resolving (.unsubscribing request.id) ∉ (r.state n).duties :=
        not_mem_of_isResolved hresolved rfl
      obtain ⟨answer, later, hlater, hmem⟩ := called_between hmn rfl hd hgone
      obtain ⟨between, hbetween⟩ := hprefix.trans (r.history_mono (Nat.le_succ_of_le hkm.le))
      have hsplit : before ++ (.subscribe request, .ok ()) :: after =
          before ++ (.subscribe request, .ok ()) :: (between ++ later) := by
        rw [← hstarted, hlater]
        show (r.state (m + 1)).history ++ later = _
        rw [← hbetween]
        simp
      have hafter : after = between ++ later := by simpa using hsplit
      exact ⟨answer, hafter ▸ List.mem_append_right _ hmem⟩
    · -- the task that looks at the books reads no message
      obtain ⟨i', a', t, g, hevent', htask', -, hreads, -⟩ := withdrawn?_cases hw
      cases hevent.symm.trans hevent'
      cases htask.symm.trans htask'
      cases hreads
    · -- the look is taken after the completion, and finds nothing
      obtain ⟨b, hb, hnumber⟩ := book?_of_runs hruns
      obtain ⟨b', hb', -, hnone⟩ := confined_of_withdrawn hw hmk
      cases hb.symm.trans hb'
      exact absurd hnumber (hnone _)

/-- **Giving up a subscription is honoured, and nothing else is stopped.** Take any run, with any
number of subscriptions and completions and operation ids used again at will. Once a completion has
found the number of a subscription running, and all tasks for the connection that call the engine
have come to their end, the engine has answered the call that starts the subscription, and if it has
started it then it was asked to stop it after that. The engine has never been asked to stop a
subscription whose number still runs. -/
theorem withdrawals_honoured (r : Run τ) (n : Nat) (id : SubscriptionId) :
    ((∃ m < n, r.withdrawn? m = some id) → (r.state n).isResolved id.connection = true →
      (∃ request answer, request.id = id ∧ (.subscribe request, answer) ∈ (r.state n).history) ∧
      ∀ request before after, request.id = id →
        (r.state n).history = before ++ (.subscribe request, .ok ()) :: after →
        ∃ answer, (.unsubscribe id, answer) ∈ after) ∧
    ∀ op, (r.state n).runs ⟨op, id⟩ = true →
      ∀ answer, (.unsubscribe id, answer) ∉ (r.state n).history := by
  constructor
  · rintro ⟨m, hmn, hw⟩ hresolved
    refine ⟨subscribed_of_withdrawn hw hmn hresolved, ?_⟩
    intro request before after hid hstarted
    exact stopped_of_withdrawn hw hmn hresolved hid hstarted
  · intro op hruns answer hcall
    obtain ⟨b, hb, hnumber⟩ := book?_of_runs hruns
    obtain ⟨b', hb', -, hnone⟩ := (r.accounted n).stopped id answer hcall
    cases hb.symm.trans hb'
    exact hnone op hnumber

/-- A client that subscribes, completes and subscribes again under one id. -/
def fickle : WebSocket where
  inbox := [.ofText "\x7b\"type\":\"connection_init\"\x7d",
    .ofText "\x7b\"id\":\"1\",\"type\":\"subscribe\"\x7d",
    .ofText "\x7b\"id\":\"1\",\"type\":\"complete\"\x7d",
    .ofText "\x7b\"id\":\"1\",\"type\":\"subscribe\"\x7d"]

theorem created?_readers :
    (created? { enablePoller := false } : Option (Gateway WebSocket)).isSome = true := by
  decide +kernel

/-- Task 1 takes the client in, and task 2 reads all that it sends. Only then are the calls made:
task 4 asks to stop the first subscription, task 3 has it started after that and finds that another
one runs, and task 5 starts this. -/
def fickleRun : Run WebSocket :=
  .ofScript { enablePoller := false } created?_readers <| List.flatten
    [[.arrive true, .go 1 {}, .go 1 { upgrade := .ok (fickle, .transport) }], Event.turns 1 3,
      Event.turns 2 3, Event.turns 4 1, Event.turns 3 3, Event.turns 5 2]

def fickleRequest (number : Nat) : SubscribeRequest := ⟨⟨1, number⟩, "1", none, none⟩

theorem withdrawn?_fickleRun : fickleRun.withdrawn? 7 = some ⟨1, 1⟩ := by decide +kernel

theorem isResolved_fickleRun : (fickleRun.state 15).isResolved 1 = true := by decide +kernel

theorem history_fickleRun : (fickleRun.state 15).history =
    [(.unsubscribe ⟨1, 1⟩, .ok ())] ++ (.subscribe (fickleRequest 1), .ok ()) ::
      [(.unsubscribe ⟨1, 1⟩, .ok ()), (.subscribe (fickleRequest 2), .ok ())] := by
  decide +kernel

theorem runs_fickleRun : (fickleRun.state 15).runs ⟨"1", ⟨1, 2⟩⟩ = true := by decide +kernel

theorem withdrawals_honoured_fickleRun :
    fickleRun.withdrawn? 7 = some ⟨1, 1⟩ ∧ (fickleRun.state 15).isResolved 1 = true ∧
      (∃ answer, (.unsubscribe ⟨1, 1⟩, answer) ∈
        ([(.unsubscribe ⟨1, 1⟩, .ok ()), (.subscribe (fickleRequest 2), .ok ())] :
          List (EngineCall × Except EngineError Unit))) ∧
      (fickleRun.state 15).runs ⟨"1", ⟨1, 2⟩⟩ = true ∧
      ∀ answer, (.unsubscribe ⟨1, 2⟩, answer) ∉ (fickleRun.state 15).history := by
  refine ⟨withdrawn?_fickleRun, isResolved_fickleRun, ?_, runs_fickleRun, ?_⟩
  · have hstopped := (fickleRun.withdrawals_honoured 15 ⟨1, 1⟩).1
      ⟨7, by decide, withdrawn?_fickleRun⟩ isResolved_fickleRun
    exact hstopped.2 (fickleRequest 1) _ _ rfl history_fickleRun
  · exact (fickleRun.withdrawals_honoured 15 ⟨1, 2⟩).2 "1" runs_fickleRun

end Run
end Gateway
end StreamGateway
