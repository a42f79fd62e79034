import Mathlib.Tactic.Abel
import StreamGateway.Proofs.Gateway.Stages

/-! # Runs of a gateway

A run begins with a gateway that nobody has connected to, and then anything happens, one event after
the other: a task goes on by one stage with whatever the system and the engine answer, a client
connects, somebody asks for a shutdown, the engine uses a sink, or a connection changes by itself.
Every event comes down to one move (`Gateway.moves_happen`), and a duty is settled only by the task
that has it (`Gateway.settles_happen`). -/
namespace StreamGateway

open Handler (Books Go)
open Json (Raw)

/-- One move, before which a handler may have gone on. -/
def Moves (a : Affairs) (ds : Multiset Duty) (a' : Affairs) (ds' : Multiset Duty) : Prop :=
  ∃ b jobs, Handles a b jobs ∧ Fires b (ds + (jobs : List Duty)) a' ds'

namespace Gateway

variable {τ : Type}

/-! ## Task numbers -/

/-- Every task has a number of its own, and the numbers to come are free. -/
structure WellNumbered (s : Gateway τ) : Prop where
  nodup : (s.tasks.map Prod.fst).Nodup
  le_last : ∀ p ∈ s.tasks, p.1 ≤ s.lastTask

theorem lt_of_mem_numbered {n : Nat} {ts : List Activity} {p : Nat × Activity}
    (h : p ∈ numbered n ts) : n < p.1 ∧ p.1 ≤ n + ts.length := by
  induction ts generalizing n with
  | nil => cases h
  | cons t ts ih =>
    rw [numbered] at h
    rw [List.length_cons]
    rcases List.mem_cons.mp h with rfl | h
    · constructor <;> dsimp only <;> omega
    · have := ih h
      omega

theorem snd_of_mem_numbered {n : Nat} {ts : List Activity} {p : Nat × Activity}
    (h : p ∈ numbered n ts) : p.2 ∈ ts := by
  induction ts generalizing n with
  | nil => cases h
  | cons t ts ih =>
    rw [numbered] at h
    rcases List.mem_cons.mp h with rfl | h
    · exact List.mem_cons_self
    · exact List.mem_cons_of_mem t (ih h)

theorem nodup_numbered (n : Nat) (ts : List Activity) : ((numbered n ts).map Prod.fst).Nodup := by
  induction ts generalizing n with
  | nil => exact List.nodup_nil
  | cons t ts ih =>
    rw [numbered, List.map_cons]
    refine List.nodup_cons.mpr ⟨fun h => ?_, ih (n + 1)⟩
    obtain ⟨p, hp, heq⟩ := List.mem_map.mp h
    have := (lt_of_mem_numbered hp).1
    dsimp only at heq
    omega

theorem WellNumbered.grows {s s' : Gateway τ} {spawned : List Activity} (hs : s.WellNumbered)
    (h : Grows s s' spawned) : s'.WellNumbered := by
  constructor
  · rw [h.tasks, List.map_append]
    refine List.nodup_append.mpr ⟨hs.nodup, nodup_numbered _ _, ?_⟩
    intro i hi j hj heq
    obtain ⟨p, hp, rfl⟩ := List.mem_map.mp hi
    obtain ⟨q, hq, rfl⟩ := List.mem_map.mp hj
    have := hs.le_last p hp
    have := (lt_of_mem_numbered hq).1
    omega
  · intro p hp
    rw [h.tasks] at hp
    rw [h.lastTask]
    rcases List.mem_append.mp hp with hp | hp
    · exact Nat.le_trans (hs.le_last p hp) (Nat.le_add_right _ _)
    · exact (lt_of_mem_numbered hp).2

theorem setTask_tasks (s : Gateway τ) (i : Nat) (t : Activity) :
    (s.setTask i t).tasks = s.tasks.map fun (j, u) => if j = i then (j, t) else (j, u) := by
  rw [setTask]
  split <;> rfl

theorem setTask_lastTask (s : Gateway τ) (i : Nat) (t : Activity) :
    (s.setTask i t).lastTask = s.lastTask := by
  rw [setTask]
  split <;> rfl

theorem affairs_setTask (s : Gateway τ) (i : Nat) (t : Activity) :
    (s.setTask i t).affairs = s.affairs := by
  rw [setTask]
  split <;> rfl

theorem map_fst_setTask (s : Gateway τ) (i : Nat) (t : Activity) :
    (s.setTask i t).tasks.map Prod.fst = s.tasks.map Prod.fst := by
  rw [setTask_tasks, List.map_map]
  refine List.map_congr_left fun p _ => ?_
  simp only [Function.comp_apply]
  split <;> rfl

theorem WellNumbered.setTask {s : Gateway τ} (hs : s.WellNumbered) (i : Nat) (t : Activity) :
    (s.setTask i t).WellNumbered := by
  constructor
  · rw [map_fst_setTask]
    exact hs.nodup
  · intro p hp
    have hmem : p.1 ∈ s.tasks.map Prod.fst := map_fst_setTask s i t ▸ List.mem_map_of_mem hp
    obtain ⟨q, hq, heq⟩ := List.mem_map.mp hmem
    rw [setTask_lastTask, ← heq]
    exact hs.le_last q hq

/-- Where a task stands among the others, and what is there when it has gone on. -/
theorem setTask_split {s s₁ : Gateway τ} {i : Nat} {t : Activity} {spawned : List Activity}
    (hs : s.WellNumbered) (ht : s.task? i = some t) (hgrows : Grows s s₁ spawned) (t' : Activity) :
    ∃ xs ys, s.tasks = xs ++ (i, t) :: ys ∧
      (s₁.setTask i t').tasks = xs ++ (i, t') :: ys ++ numbered s.lastTask spawned := by
  obtain ⟨xs, ys, htasks, -⟩ := List.lookup_eq_some_iff.mp ht
  have hnodup := hs.nodup
  rw [htasks, List.map_append, List.map_cons] at hnodup
  -- no other task bears the number, be it old or new
  have hother (p : Nat × Activity) (hp : p ∈ xs ∨ p ∈ ys) : p.1 ≠ i := by
    rintro rfl
    obtain ⟨-, hnot, hdisjoint⟩ := List.nodup_append.mp hnodup
    rcases hp with hp | hp
    · exact hdisjoint p.1 (List.mem_map_of_mem hp) p.1 (by simp) rfl
    · exact (List.nodup_cons.mp hnot).1 (List.mem_map.mpr ⟨p, hp, rfl⟩)
  have hsame (zs : List (Nat × Activity)) (hzs : ∀ p ∈ zs, p.1 ≠ i) :
      zs.map (fun (j, u) => if j = i then (j, t') else (j, u)) = zs := by
    refine (List.map_congr_left fun p hp => ?_).trans (List.map_id zs)
    exact if_neg (hzs p hp)
  have hnew (p : Nat × Activity) (hp : p ∈ numbered s.lastTask spawned) : p.1 ≠ i := by
    have hi : i ≤ s.lastTask := hs.le_last (i, t) (by rw [htasks]; simp)
    have := (lt_of_mem_numbered hp).1
    omega
  refine ⟨xs, ys, htasks, ?_⟩
  rw [setTask_tasks, hgrows.tasks, htasks, List.map_append, List.map_append, List.map_cons,
    hsame xs fun p hp => hother p (Or.inl hp), hsame ys fun p hp => hother p (Or.inr hp),
    hsame _ hnew]
  simp

theorem flatMap_numbered (n : Nat) (ts : List Activity) :
    ((numbered n ts).flatMap fun (_, t) => t.duties) = ts.flatMap Activity.duties := by
  induction ts generalizing n with
  | nil => rfl
  | cons t ts ih => rw [numbered, List.flatMap_cons, List.flatMap_cons, ih]

theorem duties_grows {s s' : Gateway τ} {spawned : List Activity} (h : Grows s s' spawned) :
    s'.duties = s.duties + (spawned.flatMap Activity.duties : List Duty) := by
  rw [duties, duties, h.tasks, List.flatMap_append, flatMap_numbered, Multiset.coe_add]

/-- The duties of all tasks but one stay. -/
theorem duties_setTask {s s₁ : Gateway τ} {i : Nat} {t : Activity} {spawned : List Activity}
    (hs : s.WellNumbered) (ht : s.task? i = some t) (hgrows : Grows s s₁ spawned) (t' : Activity) :
    ∃ others : Multiset Duty, s.duties = (t.duties : List Duty) + others ∧
      (s₁.setTask i t').duties = (t'.duties : List Duty) + others +
        (spawned.flatMap Activity.duties : List Duty) := by
  obtain ⟨xs, ys, htasks, htasks'⟩ := setTask_split hs ht hgrows t'
  refine ⟨((xs ++ ys).flatMap fun (_, t) => t.duties : List Duty), ?_, ?_⟩
  · simp only [duties, htasks, List.flatMap_append, List.flatMap_cons, ← Multiset.coe_add]
    abel
  · simp only [duties, htasks', List.flatMap_append, List.flatMap_cons, flatMap_numbered,
      ← Multiset.coe_add]
    abel

/-! ## Events -/

section

variable [Severable τ]

/-- A step goes nowhere, or one task that is neither over nor waiting goes on. -/
theorem step_cases (s : Gateway τ) (i : Nat) (a : Answers τ) :
    s.step i a = s ∨ ∃ t, s.task? i = some t ∧ t.isOver = false ∧ s.waits i = false ∧
      s.step i a = (s.advance a t).2.setTask i (s.advance a t).1 := by
  rw [step]
  split <;> rename_i ht
  · exact Or.inl rfl
  · rename_i t
    split <;> rename_i hover
    · exact Or.inl rfl
    · obtain ⟨hover, hwaits⟩ : t.isOver = false ∧ s.waits i = false := by simpa using hover
      exact Or.inr ⟨t, ht, hover, hwaits, rfl⟩

/-- Something that happens to a gateway. -/
inductive Event (τ : Type) where
  /-- A task goes on by one stage. -/
  | go (task : Nat) (answers : Answers τ)
  | arrive (listened : Bool)
  | shutdown (timeoutMs : Nat)
  /-- The engine sends a response. -/
  | next (sink : Sink) (response : Raw)
  /-- The engine ends a subscription. -/
  | complete (sink : Sink)
  /-- A connection changes by itself: input comes in, or the client leaves. -/
  | stir (connection : Nat) (f : τ → τ)

/-- The sink through which the engine ends a subscription. -/
def Event.completed? : Event τ → Option Sink
  | .complete sink => some sink
  | _ => none

/-- A task goes on by several stages, and all is well with the system and the engine. -/
def Event.turns (task count : Nat) : List (Event τ) := List.replicate count (.go task {})

def happen (s : Gateway τ) : Event τ → Gateway τ
  | .go i a => s.step i a
  | .arrive listened => s.accept listened
  | .shutdown timeoutMs => s.shutdown timeoutMs
  | .next sink response => s.modifyHandler sink.id.connection fun h => (sink.next h response).2
  | .complete sink => s.modifyHandler sink.id.connection fun h => (sink.complete h).2
  | .stir c f =>
    s.modifyHandler c fun h => { h with link := { h.link with transport := f h.link.transport } }

omit [Severable τ] in
/-- What is done without a task of its own is a move as well. -/
theorem moves_of_movesOnce {s s' : Gateway τ} (h : MovesOnce s 0 s' 0) :
    Moves s.affairs s.duties s'.affairs s'.duties := by
  obtain ⟨spawned, b, jobs, extra, hgrows, hhandles, hduties, hfires⟩ := h
  refine ⟨b, jobs, hhandles, ?_⟩
  have hmove := hfires.frame (s.duties + (jobs : List Duty))
  have hafter : s'.duties = 0 + (extra : List Duty) + (s.duties + (jobs : List Duty)) := by
    rw [duties_grows hgrows, hduties, ← Multiset.coe_add]
    abel
  rwa [zero_add, ← hafter] at hmove

theorem moves_step {s : Gateway τ} (hs : s.WellNumbered) (i : Nat) (a : Answers τ) :
    Moves s.affairs s.duties (s.step i a).affairs (s.step i a).duties := by
  rcases s.step_cases i a with hstep | ⟨t, ht, -, -, hstep⟩
  · rw [hstep]
    exact moves_of_movesOnce (.idle rfl rfl rfl)
  · obtain ⟨spawned, b, jobs, extra, hgrows, hhandles, hduties, hfires⟩ := s.movesOnce_advance a t
    obtain ⟨others, hbefore, hafter⟩ := duties_setTask hs ht hgrows (s.advance a t).1
    refine ⟨b, jobs, hhandles, ?_⟩
    rw [hstep, affairs_setTask, hafter, hbefore, hduties, ← Multiset.coe_add]
    have hmove := hfires.frame (others + (jobs : List Duty))
    convert hmove using 1 <;> abel

/-- Only when a task goes on are duties settled. -/
theorem happen_cases (s : Gateway τ) (e : Event τ) :
    (∃ i a, e = .go i a) ∨ MovesOnce s 0 (s.happen e) 0 := by
  cases e with
  | go i a => exact Or.inl ⟨i, a, rfl⟩
  | arrive listened => exact Or.inr (.of_spawn (.spawn s rfl) (.nothing 0))
  | shutdown timeoutMs => exact Or.inr (.of_spawn (.spawn s rfl) (.nothing 0))
  | next sink response =>
    refine Or.inr (movesOnce_modifyHandler 0 fun h => ?_)
    show Go h.books (h.respond sink.operationId response).2.books
    rw [h.books_respond]
    exact .refl h.books
  | complete sink => exact Or.inr (movesOnce_modifyHandler 0 fun h => h.go_finish sink.operationId)
  | stir c f => exact Or.inr (movesOnce_modifyHandler 0 fun h => .refl h.books)

/-- **Every event is one move.** -/
theorem moves_happen {s : Gateway τ} (hs : s.WellNumbered) (e : Event τ) :
    Moves s.affairs s.duties (s.happen e).affairs (s.happen e).duties := by
  rcases s.happen_cases e with ⟨i, a, rfl⟩ | hmove
  · exact moves_step hs i a
  · exact moves_of_movesOnce hmove

theorem WellNumbered.happen {s : Gateway τ} (hs : s.WellNumbered) (e : Event τ) :
    (s.happen e).WellNumbered := by
  rcases s.happen_cases e with ⟨i, a, rfl⟩ | ⟨spawned, -, -, -, hgrows, -⟩
  · show (s.step i a).WellNumbered
    rcases s.step_cases i a with hstep | ⟨t, -, -, -, hstep⟩
    · rw [hstep]
      exact hs
    · obtain ⟨spawned, -, -, -, hgrows, -⟩ := s.movesOnce_advance a t
      rw [hstep]
      exact (hs.grows hgrows).setTask i _
  · exact hs.grows hgrows

/-- A task was there before, has just been begun, or has just gone on. -/
theorem mem_tasks_happen {s : Gateway τ} (hs : s.WellNumbered) {e : Event τ} {p : Nat × Activity}
    (hp : p ∈ (s.happen e).tasks) :
    p ∈ s.tasks ∨ p.2.isFresh = true ∨
      ∃ i a t, e = .go i a ∧ s.task? i = some t ∧ t.isOver = false ∧
        p = (i, (s.advance a t).1) := by
  have hspawned {spawned : List Activity} (hfresh : ∀ t ∈ spawned, t.isFresh = true)
      (hp : p ∈ numbered s.lastTask spawned) : p.2.isFresh = true :=
    hfresh p.2 (snd_of_mem_numbered hp)
  rcases s.happen_cases e with ⟨i, a, rfl⟩ | ⟨spawned, -, -, -, hgrows, -⟩
  · have hgo : s.happen (.go i a) = s.step i a := rfl
    rcases s.step_cases i a with hstep | ⟨t, ht, hover, -, hstep⟩
    · rw [hgo, hstep] at hp
      exact Or.inl hp
    · obtain ⟨spawned, -, -, -, hgrows, -⟩ := s.movesOnce_advance a t
      obtain ⟨xs, ys, htasks, htasks'⟩ := setTask_split hs ht hgrows (s.advance a t).1
      rw [hgo, hstep, htasks', List.mem_append, List.mem_append, List.mem_cons] at hp
      rcases hp with (hp | rfl | hp) | hp
      · exact Or.inl (by rw [htasks]; simp [hp])
      · exact Or.inr (Or.inr ⟨i, a, t, rfl, ht, hover, rfl⟩)
      · exact Or.inl (by rw [htasks]; simp [hp])
      · exact Or.inr (Or.inl (hspawned hgrows.fresh hp))
  · rw [hgrows.tasks] at hp
    exact (List.mem_append.mp hp).imp_right fun hp => Or.inl (hspawned hgrows.fresh hp)

/-- A duty that is settled was the duty of the task that went on. -/
theorem settles_happen {s : Gateway τ} (hs : s.WellNumbered) {e : Event τ} {d : Duty}
    (hd : d ∈ s.duties) (hgone : d ∉ (s.happen e).duties) :
    ∃ i a t, e = .go i a ∧ s.task? i = some t ∧ s.waits i = false ∧ d ∈ t.duties ∧
      ∀ d' ∈ (s.advance a t).1.duties, d' ∈ (s.happen e).duties := by
  rcases s.happen_cases e with ⟨i, a, rfl⟩ | ⟨spawned, -, -, -, hgrows, -⟩
  · have hgo : s.happen (.go i a) = s.step i a := rfl
    rcases s.step_cases i a with hstep | ⟨t, ht, -, hwaits, hstep⟩
    · rw [hgo, hstep] at hgone
      exact absurd hd hgone
    · obtain ⟨spawned, -, -, -, hgrows, -⟩ := s.movesOnce_advance a t
      obtain ⟨others, hbefore, hafter⟩ := duties_setTask hs ht hgrows (s.advance a t).1
      rw [hgo, hstep, hafter] at hgone ⊢
      refine ⟨i, a, t, rfl, ht, hwaits, ?_, fun d' hd' => by simp [hd']⟩
      rw [hbefore, Multiset.mem_add, Multiset.mem_coe] at hd
      exact hd.resolve_right fun hother => hgone (by simp [hother])
  · exact absurd (duties_grows hgrows ▸ Multiset.mem_add.mpr (Or.inl hd)) hgone

end

/-! ## Runs -/

/-- A new gateway has at most one task, which polls, and nothing has been done. -/
theorem create?_cases {settings : SocketSettings} {s : Gateway τ}
    (h : create? settings = some (.ok s)) :
    (s.tasks = [] ∧ s.lastTask = 0 ∨ s.tasks = [(1, .polling .resting)] ∧ s.lastTask = 1) ∧
      s.affairs = .blank s.isPolling := by
  rw [create?] at h
  split at h
  · cases h
  · split at h
    · cases hpoller : Poller.create? ⟨settings.backend, settings.pollTimeoutMs,
        settings.connectionBufferSize⟩ with
      | none => simp [hpoller] at h
      | some p =>
        have hconns : p.1.conns = [] := by
          rw [Poller.create?] at hpoller
          split at hpoller
          · cases hpoller
          · cases hpoller
            rfl
        cases hpool : (Pool.create? settings.maxConcurrentResolvers.toNat : Option (Pool Nat)) with
        | none => simp [hpoller, hpool] at h
        | some pool =>
          simp only [hpoller, hpool, Option.map_some, Option.bind_eq_bind, Option.bind_some] at h
          cases h
          refine ⟨Or.inr ⟨rfl, rfl⟩, ?_⟩
          show Affairs.mk true [] p.1.conns (fun _ => none) 0 [] = _
          rw [hconns]
          rfl
    · cases hpool : (Pool.create? settings.maxConcurrentResolvers.toNat : Option (Pool Nat)) with
      | none => simp [hpool] at h
      | some pool =>
        simp only [hpool, Option.bind_eq_bind, Option.bind_some, Option.pure_def] at h
        cases h
        exact ⟨Or.inl ⟨rfl, rfl⟩, rfl⟩

/-- The gateway that the settings give, if they give one. -/
def created? (settings : SocketSettings) : Option (Gateway τ) :=
  (create? settings).bind Except.toOption

theorem create?_get {settings : SocketSettings}
    (h : (created? settings : Option (Gateway τ)).isSome = true) :
    create? settings = some (.ok ((created? settings : Option (Gateway τ)).get h)) := by
  generalize hget : (created? settings).get h = s
  have hsome : created? settings = some s := by rw [← hget, Option.some_get]
  obtain ⟨result, hresult, hs⟩ := Option.bind_eq_some_iff.mp hsome
  cases result with
  | error e => cases hs
  | ok s' =>
    cases hs
    exact hresult

/-- A gateway that nobody has connected to, and what happens to it. -/
structure Run (τ : Type) [Severable τ] where
  settings : SocketSettings
  first : Gateway τ
  created : create? settings = some (.ok first)
  event : Nat → Event τ

namespace Run

variable [Severable τ]

/-- The gateway after the first `n` events. -/
def state (r : Run τ) : Nat → Gateway τ
  | 0 => r.first
  | n + 1 => (r.state n).happen (r.event n)

/-- Some events, and then nothing more: no task has the number 0. -/
def ofScript (settings : SocketSettings)
    (h : (created? settings : Option (Gateway τ)).isSome = true) (script : List (Event τ)) :
    Run τ :=
  ⟨settings, (created? settings).get h, create?_get h, fun m => script[m]?.getD (.go 0 {})⟩

theorem wellNumbered (r : Run τ) (n : Nat) : (r.state n).WellNumbered := by
  induction n with
  | zero =>
    rcases (create?_cases r.created).1 with ⟨htasks, hlast⟩ | ⟨htasks, hlast⟩
    · exact ⟨by simp [state, htasks], by simp [state, htasks]⟩
    · exact ⟨by simp [state, htasks], by simp [state, htasks, hlast]⟩
  | succ n ih => exact ih.happen (r.event n)

theorem moves (r : Run τ) (n : Nat) : Moves (r.state n).affairs (r.state n).duties
    (r.state (n + 1)).affairs (r.state (n + 1)).duties :=
  moves_happen (r.wellNumbered n) (r.event n)

theorem affairs_zero (r : Run τ) : (r.state 0).affairs = .blank r.first.isPolling :=
  (create?_cases r.created).2

theorem duties_zero (r : Run τ) : (r.state 0).duties = 0 := by
  show r.first.duties = 0
  rcases (create?_cases r.created).1 with ⟨htasks, -⟩ | ⟨htasks, -⟩ <;> rw [duties, htasks] <;> rfl

end Run
end Gateway
end StreamGateway
