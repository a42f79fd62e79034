import StreamGateway.Proofs.Gateway.Rights

/-! # No connection is read twice or forgotten

With a poller, a connection that is served is handed back and forth between the poller, the polling
and the tasks that read it, while others may take it down at any moment. There is never more than
one right to read it (`Gateway.Run.tokens_le_one`). As long as the poller is open and the system
lets connections be taken off it, the right to read a connection is lost only to a task whose next
steps take the connection off the live ones (`Gateway.Run.inCustody`). That a task has the
connection on a list of those to take down is no excuse. -/
namespace StreamGateway

variable {a a' : Affairs} {c : Nat}

/-! ## Keepers -/

namespace Serve

theorem cases_of_keeps {stage : Serve} (h : stage.keeps = true) :
    stage = .draining ∨ stage = .rearming .checking ∨ stage = .rearming .testing ∨
      stage = .rearming .enrolling := by
  unfold keeps at h
  split at h <;> simp_all

theorem cases_of_hasFailed {stage : Serve} (h : stage.hasFailed = true) :
    (∃ e, stage = .rearming (.done (.error e))) ∨ ∃ e, stage = .done (.error e) := by
  unfold hasFailed at h
  split at h
  · exact .inl ⟨_, rfl⟩
  · exact .inr ⟨_, rfl⟩
  · cases h

end Serve

namespace Activity

/-- The task alone may read the connection: the polling has taken it off the poller, or it is read,
is in line to be read or has not been handed back yet. -/
def Keeps (c : Nat) (t : Activity) : Prop :=
  t.hasTaken c = true ∨ ∃ served ∈ t.serves?, served.1 = c ∧ served.2.keeps = true

/-- The task has failed to serve the connection and is about to take it down. -/
def Fails (c : Nat) (t : Activity) : Prop :=
  ∃ served ∈ t.serves?, served.1 = c ∧ served.2.hasFailed = true

/-- The connection that a task is taking down, and how far it is. -/
def tearsDown? : Activity → Option (Nat × Teardown)
  | .accept _ (.removing c _ stage) | .drain c (.removing stage) | .reader c (.removing stage)
  | .polling (.closing (c :: _) stage) | .shutdown _ (.closing (c :: _) stage) => some (c, stage)
  | _ => none

/-- The task takes the connection off the live ones when it goes on. -/
def Removes (c : Nat) (t : Activity) : Prop := t.tearsDown? = some (c, .removing)

instance (c : Nat) (t : Activity) : Decidable (t.Keeps c) :=
  inferInstanceAs (Decidable (_ ∨ ∃ served ∈ t.serves?, served.1 = c ∧ served.2.keeps = true))

instance (c : Nat) (t : Activity) : Decidable (t.Fails c) :=
  inferInstanceAs (Decidable (∃ served ∈ t.serves?, served.1 = c ∧ served.2.hasFailed = true))

/-- The task has nothing to do with connections at the moment. It is over, waits, or calls the
engine. -/
def isIdle (t : Activity) : Bool := t.duties.all fun d => d matches .resolving _

/-- Who takes connections down. -/
theorem cases_of_tearsDown? {t : Activity} {stage : Teardown} (h : t.tearsDown? = some (c, stage)) :
    (∃ listened e, t = .accept listened (.removing c e stage)) ∨ t = .drain c (.removing stage) ∨
      t = .reader c (.removing stage) ∨ (∃ rest, t = .polling (.closing (c :: rest) stage)) ∨
      ∃ timeoutMs rest, t = .shutdown timeoutMs (.closing (c :: rest) stage) := by
  unfold tearsDown? at h
  split at h <;> cases h
  · exact .inl ⟨_, _, rfl⟩
  · exact .inr (.inl rfl)
  · exact .inr (.inr (.inl rfl))
  · exact .inr (.inr (.inr (.inl ⟨_, rfl⟩)))
  · exact .inr (.inr (.inr (.inr ⟨_, _, rfl⟩)))

/-- Who serves connections. -/
theorem cases_of_serves? {t : Activity} {stage : Serve} (h : t.serves? = some (c, stage)) :
    (∃ listened, t = .accept listened (.serving c stage)) ∨ t = .drain c (.serving stage) := by
  unfold serves? at h
  split at h <;> cases h
  · exact .inl ⟨_, rfl⟩
  · exact .inr rfl

theorem duties_of_serves? {t : Activity} {stage : Serve} (h : t.serves? = some (c, stage)) :
    t.duties = stage.duties c := by
  rcases cases_of_serves? h with ⟨listened, rfl⟩ | rfl <;> rfl

theorem Keeps.one_le_rights {t : Activity} (h : t.Keeps c) : 1 ≤ t.rights c := by
  rw [rights]
  rcases h with htaken | ⟨⟨x, stage⟩, hserves, rfl, hkeeps⟩
  · rw [htaken]
    exact Nat.le_add_left 1 _
  · rw [duties_of_serves? hserves, stage.rights_duties, hkeeps]
    exact Nat.le_add_right 1 _

theorem keeps_of_mem {t : Activity} {d : Duty}
    (hd : d ∈ [Duty.draining c, .checking c, .testing c, .enrolling c]) (h : d ∈ t.duties) :
    t.Keeps c := by
  rcases mem_duties h with
    hteardown | ⟨stage, rfl⟩ | ⟨x, rfl⟩ | ⟨x, ready, rfl, -⟩ | ⟨x, stage, h, hserves⟩
  · simp only [List.mem_cons, List.not_mem_nil, or_false] at hd
    rcases hd with rfl | rfl | rfl | rfl <;> cases hteardown
  · simp at hd
  · simp at hd
  · simp at hd
  · rcases Serve.mem_duties h with ⟨hkeeps, h⟩ | ⟨-, rfl⟩ | rfl | rfl
    · have hx : c = x := by
        simp only [List.mem_cons, List.not_mem_nil, or_false] at hd h
        rcases hd with rfl | rfl | rfl | rfl <;> simpa using h
      exact .inr ⟨(x, stage), hserves, hx.symm, hkeeps⟩
    · simp at hd
    · simp at hd
    · simp at hd

/-- Whoever has to do with a connection is not idle. -/
theorem not_idle {t : Activity} (h : t.Keeps c ∨ t.Fails c ∨ t.Removes c) : t.isIdle = false := by
  rcases h with (htaken | ⟨⟨x, stage⟩, hserves, -, hkeeps⟩) | ⟨⟨x, stage⟩, hserves, -, hfailed⟩ |
    hremoves
  · obtain ⟨ready, rfl⟩ := eq_submitting htaken
    rfl
  · rw [isIdle, duties_of_serves? hserves]
    rcases stage.cases_of_keeps hkeeps with rfl | rfl | rfl | rfl <;> rfl
  · rw [isIdle, duties_of_serves? hserves]
    rcases stage.cases_of_hasFailed hfailed with ⟨e, rfl⟩ | ⟨e, rfl⟩ <;> rfl
  · rcases cases_of_tearsDown? hremoves with
      ⟨_, _, rfl⟩ | rfl | rfl | ⟨_, rfl⟩ | ⟨_, _, rfl⟩ <;> rfl

end Activity

/-- Whoever is taken off the poller by a teardown was taken off the live ones before. -/
theorem Settles.eq_removal {d : Duty} {new : List Duty} (h : Settles a d a' new)
    (hnew : .deregistering c ∈ new) : d = .removal c := by
  cases h with
  | removes x =>
    cases List.mem_singleton.mp hnew
    rfl
  | _ => simp at hnew

/-- A hand-over is undone if the connection is not live. -/
theorem Settles.not_live_of_undoing {d : Duty} {new : List Duty} (h : Settles a d a' new)
    (hnew : .undoing c ∈ new) : c ∉ a'.live := by
  cases h with
  | rechecks x hgone =>
    cases List.mem_singleton.mp hnew
    exact hgone
  | _ => simp at hnew

theorem Begins.not_mem {d : Duty} {new : List Duty} (h : Begins a a' new)
    (hd : d = .deregistering c ∨ d = .undoing c) : d ∉ new := by
  rcases hd with rfl | rfl <;> cases h <;> simp

namespace Gateway

variable {τ : Type}

/-- The system lets whoever goes on take a connection off the poller. -/
def Event.unwatches : Event τ → Bool
  | .go _ answers => (answers.unwatch matches .ok ())
  | _ => true

theorem rights_le_tokens {s : Gateway τ} {p : Nat × Activity} (hp : p ∈ s.tasks) (c : Nat) :
    p.2.rights c + s.affairs.registered.count (c : Descriptor) ≤ s.tokens c := by
  obtain ⟨xs, ys, htasks⟩ := List.append_of_mem hp
  rw [tokens, htasks, rightsOf_append, rightsOf_cons]
  omega

/-- Two keepers are one. -/
theorem eq_of_keeps {s : Gateway τ} (hone : s.tokens c ≤ 1) {p q : Nat × Activity}
    (hp : p ∈ s.tasks) (hq : q ∈ s.tasks) (hkp : p.2.Keeps c) (hkq : q.2.Keeps c) : p = q := by
  obtain ⟨xs, ys, htasks⟩ := List.append_of_mem hp
  rw [tokens, htasks, rightsOf_append, rightsOf_cons] at hone
  have hprights := hkp.one_le_rights
  have hqrights := hkq.one_le_rights
  have hother {zs : List (Nat × Activity)} (hq : q ∈ zs) : 1 ≤ rightsOf c zs := by
    obtain ⟨us, vs, rfl⟩ := List.append_of_mem hq
    rw [rightsOf_append, rightsOf_cons]
    omega
  rw [htasks, List.mem_append, List.mem_cons] at hq
  rcases hq with hq | rfl | hq
  · have := hother hq
    omega
  · rfl
  · have := hother hq
    omega

theorem not_registered_of_keeps {s : Gateway τ} (hone : s.tokens c ≤ 1) {p : Nat × Activity}
    (hp : p ∈ s.tasks) (hkeeps : p.2.Keeps c) : (c : Descriptor) ∉ s.affairs.registered := by
  intro hregistered
  have hcount : 0 < s.affairs.registered.count (c : Descriptor) :=
    List.count_pos_iff.mpr hregistered
  have hrights := hkeeps.one_le_rights
  have hle := rights_le_tokens hp c
  omega

/-- The connection is registered, or a task has it, has failed to serve it or is about to take it
down. -/
def InCustody (s : Gateway τ) (c : Nat) : Prop :=
  (c : Descriptor) ∈ s.affairs.registered ∨ ∃ p ∈ s.tasks, p.2.Keeps c ∨ p.2.Fails c ∨ p.2.Removes c

variable [Severable τ]

/-- What the polling submits is in line. -/
theorem draining_of_submitting {s : Gateway τ} (hs : s.WellNumbered) {i : Nat} {ready : List Nat}
    (ht : s.task? i = some (.polling (.submitting c ready))) (a : Answers τ) :
    .draining c ∈ ((s.advance a (.polling (.submitting c ready))).2.setTask i
      (s.advance a (.polling (.submitting c ready))).1).duties := by
  have hgrows : Grows s (s.spawnDrain c) [.drain c (.serving .draining)] := .one rfl rfl rfl
  obtain ⟨xs, ys, -, htasks'⟩ := setTask_split hs ht hgrows (.polling (.looking ready))
  have hmem : (s.lastTask + 1, .drain c (.serving .draining)) ∈
      ((s.spawnDrain c).setTask i (.polling (.looking ready))).tasks := by
    rw [htasks']
    simp [numbered]
  exact mem_duties_of_mem hmem (List.mem_singleton_self _)

/-! ## Steps -/

/-- A connection that has not been handed back is still served, or it has been handed back now,
unless it is not live. -/
theorem serve_step_of_keeps {stage : Serve} (h : stage.keeps = true) (a : Answers τ) {s : Gateway τ}
    (hpolling : s.isPolling = true) (hlive : c ∈ s.live) :
    ((stage.step a s c).1.keeps = true ∨ (stage.step a s c).1.hasFailed = true) ∨
      (c : Descriptor) ∈ (stage.step a s c).2.affairs.registered := by
  obtain ⟨p, hp⟩ := Option.isSome_iff_exists.mp hpolling
  rcases stage.cases_of_keeps h with rfl | rfl | rfl | rfl
  · simp only [Serve.step]
    split
    · exact .inl (.inl rfl)
    · exact .inl (.inl rfl)
    · exact .inl (.inr rfl)
  · have hnext : (Rearm.step a s c .checking).1 = .testing :=
      if_pos (by simp [hpolling, isLive, hlive])
    refine .inl (.inl ?_)
    simp only [Serve.step, hnext]
    rfl
  · simp only [Serve.step, Rearm.step, hp]
    split
    · exact .inl (.inr rfl)
    · split
      · exact .inl (.inr rfl)
      · exact .inl (.inl rfl)
  · simp only [Serve.step, Rearm.step, hp]
    rcases p.enrol_outcomes c a.watch with ⟨e, henrol⟩ | ⟨-, henrol⟩ <;> rw [henrol]
    · exact .inl (.inr rfl)
    · exact .inr (List.mem_append_right p.conns (List.mem_singleton_self _))

/-- A task that serves a connection goes on with it as long as there is something to do. -/
theorem advance_of_serves? {t : Activity} {stage : Serve} (h : t.serves? = some (c, stage))
    (hstage : ∀ result, stage ≠ .done result) (a : Answers τ) (s : Gateway τ) :
    (s.advance a t).1.serves? = some (c, (stage.step a s c).1) ∧
      (s.advance a t).2.affairs = (stage.step a s c).2.affairs := by
  rcases Activity.cases_of_serves? h with ⟨listened, rfl⟩ | rfl
  · cases stage with
    | done result => exact absurd rfl (hstage result)
    | draining | rearming => cases listened <;> exact ⟨rfl, rfl⟩
  · cases stage with
    | done result => exact absurd rfl (hstage result)
    | draining | rearming => exact ⟨rfl, rfl⟩

theorem advance_of_keeps {t : Activity} {stage : Serve} (h : t.serves? = some (c, stage))
    (hkeeps : stage.keeps = true) (a : Answers τ) {s : Gateway τ} (hpolling : s.isPolling = true)
    (hlive : c ∈ s.live) :
    ((s.advance a t).1.Keeps c ∨ (s.advance a t).1.Fails c) ∨
      (c : Descriptor) ∈ (s.advance a t).2.affairs.registered := by
  have hstage (result : Except GatewayError Unit) : stage ≠ .done result := by
    rintro rfl
    cases hkeeps
  obtain ⟨hserves, haffairs⟩ := advance_of_serves? h hstage a s
  rw [haffairs]
  refine (serve_step_of_keeps hkeeps a hpolling hlive).imp_left fun hnext => ?_
  exact hnext.imp (fun hkept => .inr ⟨_, hserves, rfl, hkept⟩) fun hfailed =>
    ⟨_, hserves, rfl, hfailed⟩

/-- Whoever has failed to serve a connection takes it down. -/
theorem advance_of_fails {t : Activity} (h : t.Fails c) (a : Answers τ) (s : Gateway τ) :
    (s.advance a t).1.Fails c ∨ (s.advance a t).1.Removes c := by
  obtain ⟨⟨x, stage⟩, hserves, rfl, hfailed⟩ := h
  rcases stage.cases_of_hasFailed hfailed with ⟨e, rfl⟩ | ⟨e, rfl⟩
  · obtain ⟨hnext, -⟩ := advance_of_serves? hserves (by simp) a s
    exact .inl ⟨_, hnext, rfl, rfl⟩
  · refine .inr ?_
    rcases Activity.cases_of_serves? hserves with ⟨listened, rfl⟩ | rfl <;> rfl

theorem advance_of_removes {t : Activity} (h : t.Removes c) (a : Answers τ) (s : Gateway τ) :
    c ∉ (s.advance a t).2.live := by
  have hteardown : c ∉ (Teardown.step a s c .removing).2.live := by
    simp only [Teardown.step]
    split <;> rename_i hlive
    · simp
    · simpa [isLive] using hlive
  rcases Activity.cases_of_tearsDown? h with ⟨listened, e, rfl⟩ | rfl | rfl | ⟨rest, rfl⟩ |
    ⟨timeoutMs, rest, rfl⟩
  · cases listened <;> exact hteardown
  · exact hteardown
  · exact hteardown
  · exact hteardown
  · exact hteardown

/-- A task is where it was, or it has gone on. -/
theorem stays_or_goes {s : Gateway τ} (hs : s.WellNumbered) {e : Event τ} {p : Nat × Activity}
    (hp : p ∈ s.tasks) :
    p ∈ (s.happen e).tasks ∨ ∃ a, s.task? p.1 = some p.2 ∧
      s.happen e = (s.advance a p.2).2.setTask p.1 (s.advance a p.2).1 := by
  rcases s.happen_cases e with ⟨i, a, rfl⟩ | ⟨spawned, -, -, -, hgrows, -⟩
  · have hgo : s.happen (.go i a) = s.step i a := rfl
    rcases s.step_cases i a with hstep | ⟨t, ht, -, -, hstep⟩
    · rw [hgo, hstep]
      exact .inl hp
    · obtain ⟨spawned, -, -, -, hgrows, -⟩ := s.movesOnce_advance a t
      obtain ⟨xs, ys, htasks, htasks'⟩ := setTask_split hs ht hgrows (s.advance a t).1
      rw [htasks, List.mem_append, List.mem_cons] at hp
      rcases hp with hp | rfl | hp
      · exact .inl (by simp [hgo, hstep, htasks', hp])
      · exact .inr ⟨a, ht, hgo.trans hstep⟩
      · exact .inl (by simp [hgo, hstep, htasks', hp])
  · exact .inl (hgrows.tasks ▸ List.mem_append_left _ hp)

/-- What becomes of a connection that a task has to do with. -/
theorem inCustody_of_task {s : Gateway τ} (hs : s.WellNumbered) (hpolling : s.isPolling = true)
    {e : Event τ} (hlive : c ∈ s.live) (hlive' : c ∈ (s.happen e).live) {p : Nat × Activity}
    (hp : p ∈ s.tasks) (h : p.2.Keeps c ∨ p.2.Fails c ∨ p.2.Removes c) :
    (s.happen e).InCustody c := by
  rcases stays_or_goes hs hp with hp | ⟨a, ht, hnext⟩
  · exact .inr ⟨p, hp, h⟩
  have hmem := mem_tasks_setTask hs ht a (s.advance a p.2).1
  rw [InCustody, hnext, affairs_setTask]
  rcases h with (htaken | ⟨⟨x, stage⟩, hserves, rfl, hkeeps⟩) | hfails | hremoves
  · -- the polling goes on and puts the connection in line
    obtain ⟨ready, hpolls⟩ := Activity.eq_submitting htaken
    rw [hpolls] at ht ⊢
    obtain ⟨q, hq, hd⟩ := exists_mem_duties (draining_of_submitting hs ht a)
    exact .inr ⟨q, hq, .inl (Activity.keeps_of_mem (by simp) hd)⟩
  · rcases advance_of_keeps hserves hkeeps a hpolling hlive with (hkept | hfails) | hregistered
    · exact .inr ⟨_, hmem, .inl hkept⟩
    · exact .inr ⟨_, hmem, .inr (.inl hfails)⟩
    · exact .inl hregistered
  · exact .inr ⟨_, hmem, .inr (advance_of_fails hfails a s)⟩
  · have hgone : c ∉ ((s.advance a p.2).2.setTask p.1 (s.advance a p.2).1).affairs.live := by
      rw [affairs_setTask]
      exact advance_of_removes hremoves a s
    rw [hnext] at hlive'
    exact absurd hlive' hgone

namespace Run

variable {r : Run τ} {n : Nat}

/-- Whoever is to be taken off the poller by others than the polling is off the live ones. -/
theorem not_live_of_mem {d : Duty} (hd : d = .deregistering c ∨ d = .undoing c)
    (h : d ∈ (r.state n).duties) : c ∉ (r.state n).live := by
  induction n with
  | zero =>
    rw [r.duties_zero] at h
    cases Multiset.notMem_zero _ h
  | succ n ih =>
    obtain ⟨b, jobs, hhandles, hfires⟩ := r.moves n
    have hne (stage : Resolver) : d ≠ .resolving stage := by
      rintro rfl
      rcases hd with hd | hd <;> cases hd
    have hserved : d.served? = some c := by rcases hd with rfl | rfl <;> rfl
    rcases hfires.stayed_or_arises h with h | ⟨e, new, he, hsettles, hnew⟩ | ⟨new, hbegins, hnew⟩
    · have hold := hhandles.mem_of_mem_add h hne
      exact not_live_succ (r.inserted_of_served hold hserved) (ih hold)
    · -- the duty arises from a removal, or from finding the connection gone
      rcases hd with rfl | rfl
      · cases hsettles.eq_removal hnew
        exact hsettles.removal
      · exact hsettles.not_live_of_undoing hnew
    · exact absurd hnew (hbegins.not_mem hd)

/-- What becomes of a connection that the poller has. -/
theorem inCustody_of_registered {p : Poller} (hp : (r.state (n + 1)).poller = some p)
    (hopen : p.closed = false) (hunwatch : (r.event n).unwatches = true)
    (hlive : c ∈ (r.state n).live) (h : (c : Descriptor) ∈ (r.state n).affairs.registered) :
    (r.state (n + 1)).InCustody c := by
  rcases r.registered_or_removed hp hopen h with hkept | hd | hd | ⟨i, a, ready, hevent, -, htaken⟩
  · exact .inl hkept
  · exact absurd hlive (not_live_of_mem (.inl rfl) hd)
  · exact absurd hlive (not_live_of_mem (.inr rfl) hd)
  · have hok : a.unwatch = .ok () := by
      rw [hevent] at hunwatch
      cases hanswer : a.unwatch with
      | ok => rfl
      | error f => simp [Event.unwatches, hanswer] at hunwatch
    exact .inr ⟨_, htaken hok, .inl (.inl (by simp [Activity.hasTaken]))⟩

/-- **Every live connection is in custody**, as long as the poller is open. -/
theorem inCustody (hpolling : r.first.isPolling = true) {p : Poller}
    (hp : (r.state n).poller = some p) (hopen : p.closed = false)
    (hunwatch : ∀ m < n, (r.event m).unwatches = true) (hlive : c ∈ (r.state n).live) :
    (r.state n).InCustody c := by
  induction n generalizing p with
  | zero =>
    have hempty : (r.state 0).live = [] := congrArg Affairs.live r.affairs_zero
    rw [hempty] at hlive
    cases hlive
  | succ n ih =>
    by_cases hold : c ∈ (r.state n).live
    · obtain ⟨q, hq, hqopen⟩ := open_of_le (Nat.le_succ n) hp hopen
      rcases ih hq hqopen (fun m hm => hunwatch m (Nat.lt_succ_of_lt hm)) hold with
        hregistered | ⟨t, ht, hhas⟩
      · exact inCustody_of_registered hp hopen (hunwatch n (Nat.lt_succ_self n)) hold hregistered
      · exact inCustody_of_task (r.wellNumbered n) ((r.polling_const n).trans hpolling)
          hold hlive ht hhas
    · -- the accept has just made the connection live and is about to read it
      obtain ⟨b, jobs, hhandles, hfires⟩ := r.moves n
      rcases hfires.becomes_live hlive with hlive | ⟨-, hd⟩ | ⟨hnone, -⟩
      · rw [hhandles.live] at hlive
        exact absurd hlive hold
      · obtain ⟨t, ht, hd⟩ := exists_mem_duties hd
        exact .inr ⟨t, ht, .inl (Activity.keeps_of_mem (by simp) hd)⟩
      · rw [hhandles.polling, r.polling_const n, hpolling] at hnone
        cases hnone

/-! ## Custody -/

omit [Severable τ] in
/-- When all tasks are idle, nothing is left to do but calls to the engine. -/
theorem eq_resolving_of_idle {s : Gateway τ} (hidle : ∀ p ∈ s.tasks, p.2.isIdle = true) {d : Duty}
    (hd : d ∈ s.duties) : ∃ stage, d = .resolving stage := by
  obtain ⟨p, hp, hd⟩ := exists_mem_duties hd
  have hmatches := List.all_eq_true.mp (hidle p hp) d hd
  cases d with
  | resolving stage => exact ⟨stage, rfl⟩
  | _ => cases hmatches

theorem nodup_registered (r : Run τ) (hpolling : r.first.isPolling = true) (n : Nat) :
    (r.state n).affairs.registered.Nodup := by
  refine List.nodup_iff_count_le_one.mpr fun d => ?_
  by_cases hd : d ∈ (r.state n).affairs.registered
  · obtain ⟨c, rfl, -⟩ := r.watched n d hd
    exact Nat.le_trans (Nat.le_add_left _ _) (r.tokens_le_one hpolling n c)
  · rw [List.count_eq_zero.mpr hd]
    exact Nat.zero_le 1

/-- **No connection is read twice or forgotten.** With a poller, at every moment of every run, at
most one task has a connection to read, and then it is not registered. While the poller is open, and
if the system has always let connections be taken off it, every live connection is registered, or
there is a task that has it, has just failed to serve it, or takes it off the live ones with its
next step; and when all tasks are idle, exactly the live connections are registered, each once. -/
theorem connections_in_custody (r : Run τ) (n : Nat) (hpolling : r.first.isPolling = true) :
    (∀ c, ∀ p ∈ (r.state n).tasks, p.2.Keeps c →
      (c : Descriptor) ∉ (r.state n).affairs.registered ∧
        ∀ q ∈ (r.state n).tasks, q.2.Keeps c → q = p) ∧
    ((∀ p, (r.state n).poller = some p → p.closed = false) →
      (∀ m < n, (r.event m).unwatches = true) →
      (∀ c ∈ (r.state n).live, (c : Descriptor) ∈ (r.state n).affairs.registered ∨
        ∃ p ∈ (r.state n).tasks, p.2.Keeps c ∨ p.2.Fails c ∨ p.2.Removes c) ∧
      ((∀ p ∈ (r.state n).tasks, p.2.isIdle = true) →
        (r.state n).affairs.registered.Nodup ∧
          ∀ d, d ∈ (r.state n).affairs.registered ↔
            ∃ c ∈ (r.state n).live, d = (c : Descriptor))) := by
  refine ⟨fun c p hp hkeeps => ?_, fun hopen hunwatch => ?_⟩
  · have hone := r.tokens_le_one hpolling n c
    exact ⟨not_registered_of_keeps hone hp hkeeps,
      fun q hq hother => eq_of_keeps hone hq hp hother hkeeps⟩
  obtain ⟨p, hp⟩ := Option.isSome_iff_exists.mp ((r.polling_const n).trans hpolling)
  have hcustody (c : Nat) (hlive : c ∈ (r.state n).live) : (r.state n).InCustody c :=
    inCustody hpolling hp (hopen p hp) hunwatch hlive
  refine ⟨hcustody, fun hidle => ⟨r.nodup_registered hpolling n, fun d => ⟨fun hd => ?_, ?_⟩⟩⟩
  · obtain ⟨c, rfl, hlive | hd | hd | hd⟩ := r.watched n d hd
    · exact ⟨c, hlive, rfl⟩
    all_goals
      obtain ⟨stage, hstage⟩ := eq_resolving_of_idle hidle hd
      cases hstage
  · rintro ⟨c, hlive, rfl⟩
    rcases hcustody c hlive with hregistered | ⟨q, hq, hhas⟩
    · exact hregistered
    · have hbusy := Activity.not_idle hhas
      rw [hidle q hq] at hbusy
      cases hbusy

theorem created?_default : (created? {} : Option (Gateway WebSocket)).isSome = true := by
  decide +kernel

/-- Task 2 takes the client in and hands it to the poller. Before it has looked whether the client
is still live, the polling has taken the client off the poller again and task 3 reads it. -/
def handoverRun : Run WebSocket :=
  .ofScript {} created?_default <| List.flatten
    [[.arrive true, .go 2 {}, .go 2 { upgrade := .ok (latecomer, .transport) }], Event.turns 2 7,
      [.go 1 {}, .go 1 { ready := .always (.ok [1]) }], Event.turns 1 3, Event.turns 3 8,
      Event.turns 2 3, Event.turns 1 1]

theorem connections_in_custody_handover :
    (∃ p ∈ (handoverRun.state 15).tasks, p.1 = 3 ∧ p.2.Keeps 1 ∧
      (1 : Descriptor) ∉ (handoverRun.state 15).affairs.registered ∧
      ∀ q ∈ (handoverRun.state 15).tasks, q.2.Keeps 1 → q = p) ∧
    (handoverRun.state 27).live = [1] ∧
    ∀ d, d ∈ (handoverRun.state 27).affairs.registered ↔
      ∃ c ∈ (handoverRun.state 27).live, d = (c : Descriptor) := by
  have hpolling : handoverRun.first.isPolling = true := by decide +kernel
  obtain ⟨p, hp, hthree, hkeeps⟩ : ∃ p ∈ (handoverRun.state 15).tasks, p.1 = 3 ∧ p.2.Keeps 1 := by
    decide +kernel
  obtain ⟨hregistered, honly⟩ := (handoverRun.connections_in_custody 15 hpolling).1 1 p hp hkeeps
  have hopen (p : Poller) (hp : (handoverRun.state 27).poller = some p) : p.closed = false := by
    have hany : (handoverRun.state 27).poller.any Poller.closed = false := by decide +kernel
    rwa [hp] at hany
  have hunwatch : ∀ m < 27, (handoverRun.event m).unwatches = true := by decide +kernel
  have hidle : ∀ p ∈ (handoverRun.state 27).tasks, p.2.isIdle = true := by decide +kernel
  exact ⟨⟨p, hp, hthree, hkeeps, hregistered, honly⟩, by decide +kernel,
    (((handoverRun.connections_in_custody 27 hpolling).2 hopen hunwatch).2 hidle).2⟩

end Run
end Gateway
end StreamGateway
