import StreamGateway.Proofs.Gateway.Registry
import StreamGateway.Proofs.Gateway.Settling

/-! # Who may read a connection

A connection is taken in by one task, which serves it for the first time and hands it to the poller;
the polling takes it off the poller again and puts it in line to be served by another task. Whoever
is next in this circle has the right to read the connection. Rights are only passed on or given up
(`Gateway.tokens_happen`), so there is never more than one for a connection
(`Gateway.Run.tokens_le_one`). -/
namespace StreamGateway

variable {a a' b : Affairs} {ds ds' : Multiset Duty} {jobs : List Duty} {c : Nat}

/-! ## Rights to read -/

/-- The duty goes with the right to read the connection. -/
def Duty.keeps (c : Nat) : Duty → Bool
  | .incoming d | .draining d | .checking d | .testing d | .enrolling d => d = c
  | _ => false

/-- The polling has taken the connection off the poller and not put it in line yet. -/
def Activity.hasTaken (c : Nat) : Activity → Bool
  | .polling (.submitting d _) => d = c
  | _ => false

/-- The rights among some duties. -/
def rights (c : Nat) (ds : Multiset Duty) : Nat := ds.countP fun d => d.keeps c

@[simp] theorem rights_add (c : Nat) (ds ds' : Multiset Duty) :
    rights c (ds + ds') = rights c ds + rights c ds' :=
  Multiset.countP_add _ ds ds'

@[simp] theorem rights_zero (c : Nat) : rights c 0 = 0 := rfl

@[simp] theorem rights_cons (c : Nat) (d : Duty) (ds : Multiset Duty) :
    rights c (d ::ₘ ds) = rights c ds + (d.keeps c).toNat := by
  rw [rights, rights, Multiset.countP_cons]
  cases d.keeps c <;> rfl

theorem rights_singleton (c : Nat) (d : Duty) : rights c {d} = (d.keeps c).toNat := by
  rw [← Multiset.cons_zero, rights_cons, rights_zero, Nat.zero_add]

theorem Duty.connection?_of_keeps {d : Duty} (h : d.keeps c = true) : d.connection? = some c := by
  cases d with
  | incoming | draining | checking | testing | enrolling =>
    exact congrArg some (of_decide_eq_true h)
  | _ => cases h

theorem rights_eq_zero (h : ∀ d ∈ ds, d.keeps c = false) : rights c ds = 0 := by
  refine Multiset.countP_eq_zero.mpr fun d hd => ?_
  simp [h d hd]

theorem count_filter_le (x c : Nat) (ds : List Descriptor) :
    (ds.filter (· ≠ (x : Descriptor))).count (c : Descriptor) ≤ ds.count (c : Descriptor) :=
  List.Sublist.count_le _ List.filter_sublist

/-- A right that goes with a duty is passed on to the next one or to the poller, or it is given
up. -/
theorem Settles.rights_le {d : Duty} {new : List Duty} (h : Settles a d a' new)
    (hd : ∀ x, d ≠ .reported x) (c : Nat) : rights c new + a'.registered.count (c : Descriptor) ≤
      (d.keeps c).toNat + a.registered.count (c : Descriptor) := by
  cases h with
  -- the duty is the same before and after the polling takes the connection, so it does not tell who
  -- has the right
  | takes x | misses x | submits x => exact absurd rfl (hd x)
  | undoes x | deregisters x =>
    simpa [rights_singleton, Duty.keeps] using count_filter_le x c a.registered
  | enrols x => by_cases hx : x = c <;> simp [rights_singleton, Duty.keeps, hx, Nat.add_comm]
  | _ => simp [rights_singleton, Duty.keeps, Affairs.mapBook]

/-- Only a new connection brings a right. -/
theorem Begins.rights_le {new : List Duty} (h : Begins a a' new) (c : Nat) :
    rights c new + a'.registered.count (c : Descriptor) ≤
      a.registered.count (c : Descriptor) + (if c = a.lastConnection + 1 then 1 else 0) := by
  cases h with
  | takesIn k =>
    by_cases hc : c = a.lastConnection + 1
    · simp [rights_singleton, Duty.keeps, hc, Nat.add_comm]
    · simp [rights_singleton, Duty.keeps, hc, Ne.symm hc]
  | condemnsAll =>
    rw [rights_eq_zero]
    · omega
    · intro d hd
      obtain ⟨x, -, rfl⟩ := List.mem_map.mp hd
      rfl
  | _ => simp [rights_singleton, Duty.keeps]

theorem Fires.rights_le (h : Fires a ds a' ds') (hds : ∀ x, .reported x ∉ ds) (c : Nat) :
    rights c ds' + a'.registered.count (c : Descriptor) ≤
      rights c ds + a.registered.count
        (c : Descriptor) + (if c = a.lastConnection + 1 then 1 else 0) := by
  cases h with
  | settles h rest =>
    have hle := h.rights_le (fun x heq => hds x (heq ▸ Multiset.mem_cons_self _ rest)) c
    rw [rights_add, rights_cons]
    omega
  | begins h rest =>
    have hle := h.rights_le c
    rw [rights_add]
    omega

/-! ## Tasks -/

/-- The duty is part of taking a connection down. -/
def Duty.isTeardown : Duty → Bool
  | .removal _ | .deregistering _ | .marking _ | .departing _ | .forgetting _ => true
  | _ => false

theorem Closing.isTeardown_of_mem {stage : Closing} {d : Duty} (h : d ∈ stage.duties c) :
    d.isTeardown = true := by
  cases stage with
  | disconnecting | closed => cases h
  | _ =>
    cases List.mem_singleton.mp h
    rfl

theorem Teardown.isTeardown_of_mem {stage : Teardown} {d : Duty} (h : d ∈ stage.duties c) :
    d.isTeardown = true := by
  cases stage with
  | closing stage => exact Closing.isTeardown_of_mem h
  | removing | deregistering =>
    cases List.mem_singleton.mp h
    rfl

theorem Teardown.isTeardown_of_mem_dutiesOf {stage : Teardown} {cs : List Nat} {d : Duty}
    (h : d ∈ stage.dutiesOf cs) : d.isTeardown = true := by
  cases cs with
  | nil => cases h
  | cons c rest =>
    rcases List.mem_append.mp h with h | h
    · exact isTeardown_of_mem h
    · obtain ⟨x, -, rfl⟩ := List.mem_map.mp h
      rfl

namespace Activity

/-- The connection that a task serves, and how far it is. -/
def serves? : Activity → Option (Nat × Serve)
  | .accept _ (.serving c stage) | .drain c (.serving stage) => some (c, stage)
  | _ => none

/-- Who has a duty. -/
theorem mem_duties {t : Activity} {d : Duty} (h : d ∈ t.duties) :
    d.isTeardown = true ∨ (∃ stage, d = .resolving stage) ∨ (∃ c, d = .incoming c) ∨
      (∃ c ready, d = .reported c ∧
        (t = .polling (.taking c ready) ∨ t = .polling (.submitting c ready))) ∨
      ∃ c stage, d ∈ stage.duties c ∧ t.serves? = some (c, stage) := by
  cases t with
  | accept listened stage =>
    cases stage with
    | entering | upgrading | returned => cases h
    | handshaking c | configuring c | inserting c =>
      exact .inr (.inr (.inl ⟨c, List.mem_singleton.mp h⟩))
    | failing c e stage => exact .inl (Closing.isTeardown_of_mem h)
    | serving c stage => exact .inr (.inr (.inr (.inr ⟨c, stage, h, rfl⟩)))
    | removing c e stage => exact .inl (Teardown.isTeardown_of_mem h)
  | drain c stage =>
    cases stage with
    | serving stage => exact .inr (.inr (.inr (.inr ⟨c, stage, h, rfl⟩)))
    | removing stage => exact .inl (Teardown.isTeardown_of_mem h)
    | finished => cases h
  | reader c stage =>
    cases stage with
    | reading =>
      cases List.mem_singleton.mp h
      exact .inl rfl
    | removing stage => exact .inl (Teardown.isTeardown_of_mem h)
    | finished => cases h
  | resolver stage =>
    cases stage with
    | finished => cases h
    | _ => exact .inr (.inl ⟨_, List.mem_singleton.mp h⟩)
  | polling stage =>
    cases stage with
    | taking c ready =>
      exact .inr (.inr (.inr (.inl ⟨c, ready, List.mem_singleton.mp h, .inl rfl⟩)))
    | submitting c ready =>
      exact .inr (.inr (.inr (.inl ⟨c, ready, List.mem_singleton.mp h, .inr rfl⟩)))
    | closing cs stage => exact .inl (Teardown.isTeardown_of_mem_dutiesOf h)
    | resting | waiting | looking | stopped => cases h
  | shutdown timeoutMs stage =>
    cases stage with
    | closing cs stage => exact .inl (Teardown.isTeardown_of_mem_dutiesOf h)
    | _ => cases h
  | leftover | listener => cases h

end Activity

/-- The connection has not been handed back yet. -/
def Serve.keeps : Serve → Bool
  | .draining | .rearming .checking | .rearming .testing | .rearming .enrolling => true
  | _ => false

/-- The connection cannot be served any more. -/
def Serve.hasFailed : Serve → Bool
  | .rearming (.done (.error _)) | .done (.error _) => true
  | _ => false

theorem Serve.rights_duties (stage : Serve) (c : Nat) :
    rights c (stage.duties c : List Duty) = stage.keeps.toNat := by
  cases stage with
  | draining => simp [Serve.duties, rights_singleton, Duty.keeps, Serve.keeps]
  | done result => cases result <;> simp [Serve.duties, rights_singleton, Duty.keeps, Serve.keeps]
  | rearming stage =>
    cases stage with
    | done result =>
      cases result <;> simp [Serve.duties, Rearm.duties, rights_singleton, Duty.keeps, Serve.keeps]
    | _ => simp [Serve.duties, Rearm.duties, rights_singleton, Duty.keeps, Serve.keeps]

/-- What a task that serves a connection has to do, by how far it is. -/
theorem Serve.mem_duties {stage : Serve} {d : Duty} (h : d ∈ stage.duties c) :
    (stage.keeps = true ∧ d ∈ [Duty.draining c, .checking c, .testing c, .enrolling c]) ∨
      (stage.hasFailed = true ∧ d = .removal c) ∨ d = .rechecking c ∨ d = .undoing c := by
  cases stage with
  | draining =>
    cases List.mem_singleton.mp h
    simp [Serve.keeps]
  | done result =>
    cases result with
    | ok => cases h
    | error =>
      cases List.mem_singleton.mp h
      simp [Serve.hasFailed]
  | rearming stage =>
    cases stage with
    | done result =>
      cases result with
      | ok => cases h
      | error =>
        cases List.mem_singleton.mp h
        simp [Serve.hasFailed]
    | _ =>
      cases List.mem_singleton.mp h
      simp [Serve.keeps]

namespace Activity

theorem eq_submitting {t : Activity} (h : t.hasTaken c = true) :
    ∃ ready, t = .polling (.submitting c ready) := by
  cases t with
  | polling stage =>
    cases stage with
    | submitting x ready =>
      cases of_decide_eq_true h
      exact ⟨ready, rfl⟩
    | _ => cases h
  | _ => cases h

theorem reported_of_hasTaken {t : Activity} (h : t.hasTaken c = true) : .reported c ∈ t.duties := by
  obtain ⟨ready, rfl⟩ := eq_submitting h
  exact List.mem_singleton_self _

theorem hasTaken_of_isFresh {t : Activity} (h : t.isFresh = true) (c : Nat) :
    t.hasTaken c = false := by
  cases t with
  | polling => cases h
  | _ => rfl

/-- Only the polling deals with what was reported. -/
theorem eq_polling {t : Activity} (h : .reported c ∈ t.duties) :
    ∃ ready, t = .polling (.taking c ready) ∨ t = .polling (.submitting c ready) := by
  rcases mem_duties h with h | ⟨stage, h⟩ | ⟨x, h⟩ | ⟨x, ready, h, ht⟩ | ⟨x, stage, h, -⟩
  · cases h
  · cases h
  · cases h
  · cases h
    exact ⟨ready, ht⟩
  · have hserve := Serve.mem_duties h
    simp at hserve

/-- The rights to read a connection that a task has. -/
def rights (c : Nat) (t : Activity) : Nat :=
  StreamGateway.rights c (t.duties : List Duty) + (t.hasTaken c).toNat

theorem rights_looking (ready : List Nat) (c : Nat) : (polling (.looking ready)).rights c = 0 := rfl

theorem rights_submitting (x : Nat) (ready : List Nat) (c : Nat) :
    (polling (.submitting x ready)).rights c = if x = c then 1 else 0 := by
  by_cases hx : x = c <;> simp [rights, duties, Polling.duties, rights_singleton,
    Duty.keeps, hasTaken, hx]

end Activity

/-- The rights to read a connection that some tasks have. -/
def rightsOf (c : Nat) (tasks : List (Nat × Activity)) : Nat :=
  rights c (tasks.flatMap fun p => p.2.duties : List Duty) + tasks.countP fun p => p.2.hasTaken c

theorem rightsOf_append (c : Nat) (ps qs : List (Nat × Activity)) :
    rightsOf c (ps ++ qs) = rightsOf c ps + rightsOf c qs := by
  simp only [rightsOf, List.flatMap_append, ← Multiset.coe_add, rights_add, List.countP_append]
  omega

theorem rightsOf_cons (c : Nat) (p : Nat × Activity) (ps : List (Nat × Activity)) :
    rightsOf c (p :: ps) = p.2.rights c + rightsOf c ps := by
  have hcount : (if p.2.hasTaken c = true then 1 else 0) = (p.2.hasTaken c).toNat := by
    cases p.2.hasTaken c <;> rfl
  simp only [rightsOf, Activity.rights, List.flatMap_cons, ← Multiset.coe_add, rights_add,
    List.countP_cons, hcount]
  omega

/-- A task that was just begun has not taken anything. -/
theorem rightsOf_numbered {ts : List Activity} (h : ∀ t ∈ ts, t.isFresh = true) (n c : Nat) :
    rightsOf c (Gateway.numbered n ts) = rights c (ts.flatMap Activity.duties : List Duty) := by
  have hnone : (Gateway.numbered n ts).countP (fun p => p.2.hasTaken c) = 0 := by
    refine List.countP_eq_zero.mpr fun p hp => ?_
    simp [Activity.hasTaken_of_isFresh (h p.2 (Gateway.snd_of_mem_numbered hp))]
  rw [rightsOf, hnone, Nat.add_zero]
  exact congrArg (fun ds : List Duty => rights c ds) (Gateway.flatMap_numbered n ts)

namespace Gateway

variable {τ : Type}

/-- The rights to read a connection: those of the tasks, and that of the poller. -/
def tokens (s : Gateway τ) (c : Nat) : Nat :=
  rightsOf c s.tasks + s.affairs.registered.count (c : Descriptor)

/-- From one state to another rights were passed on or given up by whoever had `before` of them and
has `after`, with the tasks begun on the way and the poller; a new connection has brought one. -/
def Passes (s s' : Gateway τ) (before after c : Nat) : Prop :=
  ∃ spawned, Grows s s' spawned ∧
    after + rights c (spawned.flatMap Activity.duties : List Duty) + s'.affairs.registered.count
      (c : Descriptor) ≤
      before + s.affairs.registered.count (c : Descriptor) +
        (if c = s.lastConnection + 1 then 1 else 0)

theorem passes_of_movesOnce {s s' : Gateway τ} (h : MovesOnce s ds s' ds')
    (hds : ∀ x, .reported x ∉ ds) (c : Nat) : Passes s s' (rights c ds) (rights c ds') c := by
  obtain ⟨spawned, b, jobs, extra, hgrows, hhandles, hduties, hfires⟩ := h
  have hjobs : rights c (jobs : List Duty) = 0 := by
    refine rights_eq_zero fun d hd => ?_
    obtain ⟨stage, rfl⟩ := hhandles.eq_resolving hd
    rfl
  have hlast : b.lastConnection = s.lastConnection := hhandles.lastConnection
  have hle := hfires.rights_le hds c
  rw [hhandles.registered, hlast, rights_add] at hle
  refine ⟨spawned, hgrows, ?_⟩
  rw [hduties, ← Multiset.coe_add, rights_add, hjobs]
  omega

/-- Only what was on the poller is taken off it. -/
theorem mem_of_deregister_ok {a : Answers τ} {s : Gateway τ} (hpolling : s.isPolling = true)
    (h : (s.deregister a c).1 = .ok ()) : (c : Descriptor) ∈ s.affairs.registered := by
  rw [deregister] at h
  cases hpoller : s.poller with
  | none => simp [isPolling, hpoller] at hpolling
  | some p =>
    simp only [hpoller] at h
    by_contra hnot
    have hremove : p.remove c a.unwatch = (.error (.notRegistered c), p) := by
      rw [Poller.remove, if_pos]
      simpa [affairs, hpoller] using hnot
    rw [hremove] at h
    cases h

variable [Severable τ]

/-- The polling takes a right from the poller. -/
theorem passes_taking {s : Gateway τ} (hpolling : s.isPolling = true) (a : Answers τ) (x : Nat)
    (ready : List Nat) (c : Nat) :
    Passes s (s.advance a (.polling (.taking x ready))).2 0
      ((s.advance a (.polling (.taking x ready))).1.rights c) c := by
  obtain ⟨htasks, hlast⟩ := s.tasks_deregister a x
  have hgrows : Grows s (s.deregister a x).2 [] :=
    ⟨by simp [htasks, numbered], by simp [hlast], by simp⟩
  have haffairs := affairs_deregister a s x
  have hlost : (s.deregister a x).2.affairs.registered.count (c : Descriptor) ≤
      s.affairs.registered.count (c : Descriptor) := by
    rw [haffairs]
    exact count_filter_le x c s.affairs.registered
  have hspawned : rights c (([] : List Activity).flatMap Activity.duties : List Duty) = 0 := rfl
  simp only [advance, Polling.step]
  split <;> rename_i hderegister <;> rw [hderegister] at hgrows haffairs hlost <;>
    dsimp only at hlost ⊢
  · rename_i s'
    refine ⟨[], hgrows, ?_⟩
    rw [Activity.rights_submitting, hspawned]
    by_cases hx : x = c
    · -- the right was with the poller, which has none left
      subst hx
      have hmem : (x : Descriptor) ∈ s.affairs.registered :=
        mem_of_deregister_ok (a := a) hpolling (by rw [hderegister])
      have hpos : 0 < s.affairs.registered.count (x : Descriptor) := List.count_pos_iff.mpr hmem
      have hgone : s'.affairs.registered.count (x : Descriptor) = 0 := by
        rw [haffairs]
        simp [List.count_eq_zero]
      rw [if_pos rfl, hgone]
      omega
    · rw [if_neg hx]
      omega
  · refine ⟨[], hgrows, ?_⟩
    rw [Activity.rights_looking, hspawned]
    omega
  · -- the system has refused, and the right is lost
    refine ⟨[], ⟨hgrows.tasks, hgrows.lastTask, hgrows.fresh⟩, ?_⟩
    rw [Activity.rights_looking, hspawned, Nat.add_zero, Nat.zero_add, Nat.zero_add]
    exact Nat.le_trans hlost (Nat.le_add_right _ _)

/-- The polling passes its right on to a task. -/
theorem passes_submitting (s : Gateway τ) (a : Answers τ) (x : Nat) (ready : List Nat) (c : Nat) :
    Passes s (s.advance a (.polling (.submitting x ready))).2
      ((Activity.polling (.submitting x ready)).rights c)
      ((s.advance a (.polling (.submitting x ready))).1.rights c) c := by
  refine ⟨_, (.one rfl rfl rfl : Grows s (s.spawnDrain x) _), ?_⟩
  show (Activity.polling (.looking ready)).rights c + rights c ([.draining x] : List Duty) +
    s.affairs.registered.count (c : Descriptor) ≤ _
  rw [Activity.rights_looking, Activity.rights_submitting]
  by_cases hx : x = c <;> simp [rights_singleton, Duty.keeps, hx]

/-- Only what was reported is taken. -/
theorem hasTaken_advance {s : Gateway τ} {a : Answers τ} {t : Activity}
    (h : ∀ x, .reported x ∉ t.duties) (c : Nat) : (s.advance a t).1.hasTaken c = false := by
  cases t with
  | accept | drain | reader | shutdown => rfl
  | leftover c ended =>
    rw [advance]
    split <;> rfl
  | listener ended =>
    rw [advance]
    split <;> rfl
  | resolver stage =>
    rw [advance]
    split <;> rfl
  | polling stage =>
    cases stage with
    | taking x ready | submitting x ready => exact absurd (List.mem_singleton_self _) (h x)
    | resting =>
      simp only [advance, Polling.step]
      split <;> rfl
    | waiting =>
      simp only [advance, Polling.step]
      split
      · rfl
      · split
        · rfl
        · rw [Polling.failed]
          split
          · rfl
          · dsimp only
            split <;> rfl
    | looking ready =>
      cases ready with
      | nil => rfl
      | cons x ready =>
        simp only [advance, Polling.step]
        split <;> rfl
    | closing cs stage =>
      cases cs with
      | nil => rfl
      | cons x rest =>
        simp only [advance, Polling.step]
        split <;> rfl
    | stopped => rfl

/-- A step passes rights on or gives them up. -/
theorem passes_advance {s : Gateway τ} (hpolling : s.isPolling = true) (a : Answers τ)
    (t : Activity) (c : Nat) :
    Passes s (s.advance a t).2 (t.rights c) ((s.advance a t).1.rights c) c := by
  by_cases hreported : ∃ x, .reported x ∈ t.duties
  · obtain ⟨x, hx⟩ := hreported
    obtain ⟨ready, rfl | rfl⟩ := Activity.eq_polling hx
    · exact passes_taking hpolling a x ready c
    · exact passes_submitting s a x ready c
  · have hnot (x : Nat) : .reported x ∉ t.duties := fun hx => hreported ⟨x, hx⟩
    obtain ⟨spawned, hgrows, hle⟩ := passes_of_movesOnce (s.movesOnce_advance a t) hnot c
    refine ⟨spawned, hgrows, ?_⟩
    rw [Activity.rights, Activity.rights, hasTaken_advance hnot c, Bool.toNat_false]
    omega

/-- **Rights are passed on or given up**, and only a new connection brings one. -/
theorem tokens_happen {s : Gateway τ} (hs : s.WellNumbered) (hpolling : s.isPolling = true)
    (e : Event τ) (c : Nat) :
    (s.happen e).tokens c ≤ s.tokens c + (if c = s.lastConnection + 1 then 1 else 0) := by
  rcases s.happen_cases e with ⟨i, a, rfl⟩ | hmove
  · show (s.step i a).tokens c ≤ _
    rcases s.step_cases i a with hstep | ⟨t, ht, -, -, hstep⟩
    · rw [hstep]
      exact Nat.le_add_right _ _
    · obtain ⟨spawned, hgrows, hle⟩ := passes_advance hpolling a t c
      obtain ⟨xs, ys, htasks, htasks'⟩ := setTask_split hs ht hgrows (s.advance a t).1
      rw [hstep, tokens, tokens, affairs_setTask, htasks, htasks']
      simp only [rightsOf_append, rightsOf_cons, rightsOf_numbered hgrows.fresh]
      omega
  · obtain ⟨spawned, hgrows, hle⟩ := passes_of_movesOnce hmove (by simp) c
    rw [rights_zero] at hle
    rw [tokens, tokens, hgrows.tasks, rightsOf_append, rightsOf_numbered hgrows.fresh]
    omega

namespace Run

variable {r : Run τ} {n : Nat}

/-- Nobody may read a connection that was not taken in yet. -/
theorem tokens_eq_zero (r : Run τ) (n : Nat) (hc : (r.state n).lastConnection < c) :
    (r.state n).tokens c = 0 := by
  have hnew : (r.state n).affairs.book? c = none := by
    by_contra hknown
    exact Nat.not_le.mpr hc ((r.inOrder n).bound c hknown)
  have howed {d : Duty} (hd : d ∈ (r.state n).duties) : d.connection? ≠ some c := fun hdc =>
    (r.inOrder n).owed d hd c hdc hnew
  have hduties : rights c (r.state n).duties = 0 := by
    refine rights_eq_zero fun d hd => Bool.eq_false_iff.mpr fun hkeeps => ?_
    exact howed hd (Duty.connection?_of_keeps hkeeps)
  have htaken : (r.state n).tasks.countP (fun p => p.2.hasTaken c) = 0 := by
    refine List.countP_eq_zero.mpr fun p hp htaken => ?_
    exact howed (mem_duties_of_mem hp (Activity.reported_of_hasTaken htaken)) rfl
  have hregistered : (r.state n).affairs.registered.count (c : Descriptor) = 0 := by
    refine List.count_eq_zero.mpr fun hmem => ?_
    obtain ⟨x, hx, hlive | hd | hd | hd⟩ := r.watched n _ hmem <;> cases Int.ofNat_inj.mp hx
    · exact (r.inOrder n).live c hlive hnew
    all_goals exact howed hd rfl
  rw [tokens, hregistered, rightsOf, htaken]
  exact hduties

/-- **There is never more than one right to read a connection.** -/
theorem tokens_le_one (r : Run τ) (hpolling : r.first.isPolling = true) (n c : Nat) :
    (r.state n).tokens c ≤ 1 := by
  induction n with
  | zero =>
    have hregistered : (r.state 0).affairs.registered = [] :=
      congrArg Affairs.registered r.affairs_zero
    have htasks : rightsOf c (r.state 0).tasks = 0 := by
      show rightsOf c r.first.tasks = 0
      rcases (create?_cases r.created).1 with ⟨htasks, -⟩ | ⟨htasks, -⟩ <;> rw [htasks] <;> rfl
    rw [tokens, hregistered, htasks]
    exact Nat.zero_le 1
  | succ n ih =>
    have hpolling' : (r.state n).isPolling = true := (r.polling_const n).trans hpolling
    have hle := tokens_happen (r.wellNumbered n) hpolling' (r.event n) c
    by_cases hc : c = (r.state n).lastConnection + 1
    · -- the right that a new connection brings is the first one
      have hzero := r.tokens_eq_zero n (c := c) (by omega)
      rw [if_pos hc, hzero] at hle
      exact hle
    · rw [if_neg hc] at hle
      exact Nat.le_trans hle ih

end Run
end Gateway
end StreamGateway
