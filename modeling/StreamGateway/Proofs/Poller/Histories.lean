import StreamGateway.Poller.Registry

/-! # Histories of a poller

A poller keeps two lists, its own registry and what the backend watches. Adding a connection asks
the backend first and enters it last; removing one strikes it out first and asks the backend last.
So a failed addition leaves everything as it was, and a removal that the backend refuses leaves a
connection that is watched and not registered. That is the only way in which the two lists come
apart (`Poller.agree_throughout_iff`). What any other call can do is said once, by `Poller.Goes`. -/
namespace StreamGateway
namespace Poller

/-- What the backend watches. -/
def watched (p : Poller) : List Descriptor := if p.backend = .pollList then p.conns else p.interest

theorem watches_iff (p : Poller) (d : Descriptor) : p.watches d = true ↔ d ∈ p.watched := by
  unfold watches watched
  split <;> rename_i hbackend
  · rw [if_pos hbackend]
    exact List.contains_iff_mem
  · rw [if_neg hbackend]
    exact List.contains_iff_mem

/-- Both lists are changed in the same way. -/
def mapLists (p : Poller) (f : List Descriptor → List Descriptor) : Poller :=
  { p with
    conns := f p.conns, interest := if p.backend = .pollList then p.interest else f p.interest }

theorem watched_mapLists (p : Poller) (f : List Descriptor → List Descriptor) :
    (p.mapLists f).watched = f p.watched := by
  unfold mapLists watched
  split <;> rfl

theorem mapLists_pollList {p : Poller} (h : p.backend = .pollList)
    (f : List Descriptor → List Descriptor) : p.mapLists f = { p with conns := f p.conns } := by
  unfold mapLists
  rw [if_pos h]

theorem mapLists_kernel {p : Poller} (h : p.backend ≠ .pollList)
    (f : List Descriptor → List Descriptor) :
    p.mapLists f = { p with conns := f p.conns, interest := f p.interest } := by
  unfold mapLists
  rw [if_neg h]

/-! ## What becomes of a call -/

theorem watch_kernel {p : Poller} (h : p.backend ≠ .pollList) (d : Descriptor)
    (system : Except Fault Unit) :
    (∃ f, p.watch d system = .error f) ∨
      p.watch d system = .ok { p with interest := p.interest ++ [d] } := by
  unfold watch
  split <;> rename_i hbackend
  · exact absurd hbackend h
  · split
    · cases system with
      | error f => exact Or.inl ⟨f, rfl⟩
      | ok u => exact Or.inr rfl
    · exact Or.inl ⟨_, rfl⟩

theorem unwatch_kernel {p : Poller} (h : p.backend ≠ .pollList) (d : Descriptor)
    (system : Except Fault Unit) :
    (∃ f, p.unwatch d system = .error f) ∨
      p.unwatch d system = .ok { p with interest := p.interest.filter (· ≠ d) } := by
  unfold unwatch
  split <;> rename_i hbackend
  · exact absurd hbackend h
  · split
    · cases system with
      | error f => exact Or.inl ⟨f, rfl⟩
      | ok u => exact Or.inr rfl
    · exact Or.inl ⟨_, rfl⟩

/-- A connection is entered into both lists or into none. -/
theorem enrol_outcomes (p : Poller) (d : Descriptor) (system : Except Fault Unit) :
    (∃ e, p.enrol d system = (.error e, p)) ∨
      d ∉ p.conns ∧ p.enrol d system = (.ok (), p.mapLists (· ++ [d])) := by
  unfold enrol
  split <;> rename_i hmem
  · exact Or.inl ⟨_, rfl⟩
  · have hnew : d ∉ p.conns := by simpa using hmem
    by_cases hbackend : p.backend = .pollList
    · refine Or.inr ⟨hnew, ?_⟩
      rw [mapLists_pollList hbackend]
      simp only [watch, hbackend]
    · rcases watch_kernel hbackend d system with ⟨f, hwatch⟩ | hwatch
      · rw [hwatch]
        exact Or.inl ⟨_, rfl⟩
      · rw [hwatch, mapLists_kernel hbackend]
        exact Or.inr ⟨hnew, rfl⟩

theorem add_outcomes (p : Poller) (d : Descriptor) (mode system : Except Fault Unit) :
    (∃ e, p.add d mode system = (.error e, p)) ∨
      p.closed = false ∧ d ∉ p.conns ∧ p.add d mode system = (.ok (), p.mapLists (· ++ [d])) := by
  unfold add
  by_cases hclosed : p.closed = true
  · rw [if_pos hclosed]
    exact Or.inl ⟨_, rfl⟩
  · rw [if_neg hclosed]
    cases mode with
    | error f => exact Or.inl ⟨_, rfl⟩
    | ok u =>
      rcases p.enrol_outcomes d system with herror | hok
      · exact Or.inl herror
      · exact Or.inr ⟨eq_false_of_ne_true hclosed, hok⟩

/-- A connection is taken off both lists, or only off the registry if the backend refuses to let it
go. -/
theorem remove_outcomes (p : Poller) (d : Descriptor) (system : Except Fault Unit) :
    d ∉ p.conns ∧ p.remove d system = (.error (.notRegistered d), p) ∨
      d ∈ p.conns ∧ (p.remove d system = (.ok (), p.mapLists (·.filter (· ≠ d))) ∨
        p.backend ≠ .pollList ∧
          ∃ f, p.remove d system =
            (.error (.fault f), { p with conns := p.conns.filter (· ≠ d) })) := by
  unfold remove
  split <;> rename_i hmem
  · exact Or.inl ⟨by simpa using hmem, rfl⟩
  · refine Or.inr ⟨by simpa using hmem, ?_⟩
    dsimp only
    by_cases hbackend : p.backend = .pollList
    · left
      rw [mapLists_pollList hbackend]
      simp only [unwatch, hbackend]
    · rcases unwatch_kernel (p := { p with conns := p.conns.filter (· ≠ d) }) hbackend d system with
        ⟨f, hunwatch⟩ | hunwatch
      · rw [hunwatch]
        exact Or.inr ⟨hbackend, f, rfl⟩
      · rw [hunwatch, mapLists_kernel hbackend]
        exact Or.inl rfl

theorem conns_enrol_ok {p p' : Poller} {d : Descriptor} {system : Except Fault Unit}
    (h : p.enrol d system = (.ok (), p')) : p'.conns = p.conns ++ [d] := by
  rcases p.enrol_outcomes d system with ⟨e, henrol⟩ | ⟨-, henrol⟩
  · rw [henrol] at h
    cases h
  · rw [henrol] at h
    cases h
    rfl

theorem enrol_error {p p' : Poller} {d : Descriptor} {system : Except Fault Unit} {e : PollerError}
    (h : p.enrol d system = (.error e, p')) : p' = p := by
  rcases p.enrol_outcomes d system with ⟨x, henrol⟩ | ⟨-, henrol⟩
  · rw [henrol] at h
    cases h
    rfl
  · rw [henrol] at h
    cases h

/-- An attempt to enter a connection closes nothing and takes nothing off the registry. -/
theorem enrol_cases (p : Poller) (d : Descriptor) (system : Except Fault Unit) :
    (p.enrol d system).2.closed = p.closed ∧ (p.enrol d system).2.backendOpen = p.backendOpen ∧
      ∀ x ∈ p.conns, x ∈ (p.enrol d system).2.conns := by
  rcases p.enrol_outcomes d system with ⟨e, henrol⟩ | ⟨-, henrol⟩
  · rw [henrol]
    exact ⟨rfl, rfl, fun _ hx => hx⟩
  · rw [henrol]
    exact ⟨rfl, rfl, fun x hx => List.mem_append_left _ hx⟩

/-- A connection is off the registry whether or not the system has noticed. -/
theorem conns_remove (p : Poller) (d : Descriptor) (system : Except Fault Unit) :
    (p.remove d system).2.conns = p.conns.filter (· ≠ d) := by
  rcases p.remove_outcomes d system with ⟨hd, hremove⟩ | ⟨-, hremove | ⟨-, f, hremove⟩⟩
  · rw [hremove]
    refine (List.filter_eq_self.mpr ?_).symm
    intro x hx
    have hne : x ≠ d := fun hxd => hd (hxd ▸ hx)
    exact decide_eq_true hne
  · rw [hremove]
    rfl
  · rw [hremove]

theorem remove_flags (p : Poller) (d : Descriptor) (system : Except Fault Unit) :
    (p.remove d system).2.closed = p.closed ∧
      (p.remove d system).2.backendOpen = p.backendOpen := by
  rcases p.remove_outcomes d system with ⟨-, hremove⟩ | ⟨-, hremove | ⟨-, f, hremove⟩⟩ <;>
  · rw [hremove]
    exact ⟨rfl, rfl⟩

/-- What is registered can be taken off while the backend is open, if the system lets it. -/
theorem remove_ok {p : Poller} {d : Descriptor} (hopen : p.backendOpen = true) (hd : d ∈ p.conns) :
    (p.remove d (.ok ())).1 = .ok () := by
  rw [remove, if_neg (by simpa using hd)]
  cases p.backend <;> simp only [unwatch, hopen] <;> rfl

/-- A wait that fails closes the poller, and nothing else changes. -/
theorem wait_cases (p : Poller) (most : Nat) (system : Readiness) :
    (p.wait most system).2.1.closed = true ∨
      ∃ cursor, (p.wait most system).2.1 = { p with cursor } := by
  unfold wait
  split
  · rename_i hclosed
    exact .inl hclosed
  · split
    · exact .inl rfl
    · split
      exact .inr ⟨_, rfl⟩

/-! ## Calls -/

/-- A call of a poller, with what the system answers to it. -/
inductive Call where
  | add (d : Descriptor) (mode system : Except Fault Unit)
  | remove (d : Descriptor) (system : Except Fault Unit)
  | wait (most : Nat) (system : Readiness)
  | close (closeConns : Bool)

/-- Makes a call; of what a wait has found, only the success is told. -/
def perform (p : Poller) : Call → Except PollerError Unit × Poller
  | .add d mode system => p.add d mode system
  | .remove d system => p.remove d system
  | .wait most system => ((p.wait most system).1.map fun _ => (), (p.wait most system).2.1)
  | .close closeConns => (.ok (), (p.close closeConns).2.1)

/-- The poller after a history of calls. -/
def performAll (p : Poller) (calls : List Call) : Poller :=
  calls.foldl (fun p call => (p.perform call).2) p

theorem performAll_append (p : Poller) (before behind : List Call) :
    p.performAll (before ++ behind) = (p.performAll before).performAll behind := List.foldl_append

/-- The backend refuses to let a connection go. -/
def Refuses (p : Poller) : Call → Prop
  | .remove d system => ∃ f, (p.remove d system).1 = .error (.fault f)
  | _ => False

/-- What a call can do that is not refused by the backend, with its result. -/
inductive Goes (p : Poller) : Except PollerError Unit → Poller → Prop where
  | fails (e : PollerError) : Goes p (.error e) p
  | enters (d : Descriptor) (hopen : p.closed = false) (hnew : d ∉ p.conns) :
      Goes p (.ok ()) (p.mapLists (· ++ [d]))
  | leaves (d : Descriptor) (hd : d ∈ p.conns) : Goes p (.ok ()) (p.mapLists (·.filter (· ≠ d)))
  | waits (cursor : UInt64) : Goes p (.ok ()) { p with cursor }
  | breaks (f : Fault) : Goes p (.error (.wait f)) { p with closed := true }
  /-- A poller that is closed and empty need not be closed. -/
  | rests (hclosed : p.closed = true) (hempty : p.conns = []) : Goes p (.ok ()) p
  | releases : Goes p (.ok ())
      { p with closed := true, conns := [], backendOpen := false, interest := [] }

theorem goes_wait (p : Poller) (most : Nat) (system : Readiness) :
    Goes p ((p.wait most system).1.map fun _ => ()) (p.wait most system).2.1 := by
  unfold wait
  split
  · exact .fails _
  · cases p.ask most system with
    | error f => exact .breaks f
    | ok ready => exact .waits _

theorem goes_close (p : Poller) (closeConns : Bool) : Goes p (.ok ()) (p.close closeConns).2.1 := by
  unfold close
  dsimp only [shut, drain, closeBackend]
  split <;> rename_i hagain
  · obtain ⟨hclosed, hempty⟩ := hagain
    have hrests : Goes p (.ok ()) p := .rests hclosed (List.isEmpty_iff.mp hempty)
    rw [← hclosed]
    exact hrests
  · exact .releases

/-- Every call that is not refused does one of these things. -/
theorem goes_perform {p : Poller} {call : Call} (h : ¬p.Refuses call) :
    Goes p (p.perform call).1 (p.perform call).2 := by
  cases call with
  | add d mode system =>
    rcases p.add_outcomes d mode system with ⟨e, hadd⟩ | ⟨hopen, hnew, hadd⟩ <;> rw [perform, hadd]
    · exact .fails e
    · exact .enters d hopen hnew
  | remove d system =>
    rcases p.remove_outcomes d system with ⟨-, hremove⟩ | ⟨hd, hremove | ⟨-, f, hremove⟩⟩
    · rw [perform, hremove]
      exact .fails _
    · rw [perform, hremove]
      exact .leaves d hd
    · exact absurd ⟨f, congrArg Prod.fst hremove⟩ h
  | wait most system => exact p.goes_wait most system
  | close closeConns => exact p.goes_close closeConns

/-- A refused removal is half done: the connection is off the registry and still watched. -/
theorem Refuses.strands {p : Poller} {call : Call} (h : p.Refuses call) :
    ∃ d ∈ p.conns, p.backend ≠ .pollList ∧
      (p.perform call).2 = { p with conns := p.conns.filter (· ≠ d) } := by
  cases call with
  | remove d system =>
    obtain ⟨f, hf⟩ := h
    rcases p.remove_outcomes d system with ⟨-, hremove⟩ | ⟨hd, hremove | ⟨hbackend, g, hremove⟩⟩
    · rw [hremove] at hf
      cases hf
    · rw [hremove] at hf
      cases hf
    · exact ⟨d, hd, hbackend, congrArg Prod.snd hremove⟩
  | add d mode system => exact h.elim
  | wait most system => exact h.elim
  | close closeConns => exact h.elim

/-! ## The two lists -/

/-- The backend watches what is registered, in the same order and each connection once. -/
structure InStep (p : Poller) : Prop where
  watched_eq : p.watched = p.conns
  nodup : p.conns.Nodup

theorem inStep_of_create? {config : PollerConfig} {p : Poller} {j : Log.Journal}
    (h : create? config = some (p, j)) : p.InStep := by
  unfold create? at h
  split at h
  · cases h
  · cases h
    exact ⟨ite_self _, .nil⟩

/-- A call that is not refused registers no connection twice. -/
theorem Goes.nodup {p p' : Poller} {r : Except PollerError Unit} (h : Goes p r p')
    (hp : p.conns.Nodup) : p'.conns.Nodup := by
  cases h with
  | fails e => exact hp
  | enters d hopen hnew =>
    show (p.conns ++ [d]).Nodup
    rw [List.nodup_append]
    refine ⟨hp, List.pairwise_singleton _ d, ?_⟩
    intro x hx y hy hxy
    rw [List.mem_singleton] at hy
    exact hnew (hy ▸ hxy ▸ hx)
  | leaves d hd => exact hp.filter _
  | waits cursor => exact hp
  | breaks f => exact hp
  | rests hclosed hempty => exact hp
  | releases => exact .nil

/-- A call that is not refused keeps the lists in step. -/
theorem Goes.inStep {p p' : Poller} {r : Except PollerError Unit} (h : Goes p r p')
    (hp : p.InStep) : p'.InStep := by
  refine ⟨?_, h.nodup hp.nodup⟩
  have hwatched := hp.watched_eq
  cases h with
  | fails e => exact hwatched
  | enters d hopen hnew =>
    rw [watched_mapLists, hwatched]
    rfl
  | leaves d hd =>
    rw [watched_mapLists, hwatched]
    rfl
  | waits cursor => exact hwatched
  | breaks f => exact hwatched
  | rests hclosed hempty => exact hwatched
  | releases => exact ite_self _

/-- The backend watches exactly what is registered. -/
def Agrees (p : Poller) : Prop := ∀ d, d ∈ p.conns ↔ p.watches d = true

theorem InStep.agrees {p : Poller} (h : p.InStep) : p.Agrees := by
  intro d
  rw [watches_iff, h.watched_eq]

/-- After a refused call the backend watches a connection that is not registered. -/
theorem Refuses.not_agrees {p : Poller} {call : Call} (h : p.Refuses call) (hp : p.Agrees) :
    ¬(p.perform call).2.Agrees := by
  obtain ⟨d, hd, hbackend, hafter⟩ := h.strands
  have hwatched : (p.perform call).2.watched = p.watched := by
    rw [hafter]
    unfold watched
    rw [if_neg hbackend, if_neg hbackend]
  have hwatches : (p.perform call).2.watches d = true := by
    rw [watches_iff, hwatched, ← watches_iff]
    exact (hp d).mp hd
  intro hagrees
  have hleft : d ∈ (p.perform call).2.conns := (hagrees d).mpr hwatches
  rw [hafter] at hleft
  simp at hleft

/-- A failed addition leaves everything as it was. -/
theorem add_error {p : Poller} {d : Descriptor} {mode system : Except Fault Unit} {e : PollerError}
    (h : (p.add d mode system).1 = .error e) : (p.add d mode system).2 = p := by
  rcases p.add_outcomes d mode system with ⟨x, hadd⟩ | ⟨-, -, hadd⟩
  · rw [hadd]
  · rw [hadd] at h
    cases h

/-- A failed removal leaves everything as it was exactly if the backend has not refused it. -/
theorem remove_error_iff {p : Poller} {d : Descriptor} {system : Except Fault Unit}
    {e : PollerError} (h : (p.remove d system).1 = .error e) :
    (p.remove d system).2 = p ↔ ¬p.Refuses (.remove d system) := by
  constructor
  · intro hsame hrefuses
    obtain ⟨x, hx, -, hafter⟩ := hrefuses.strands
    have hconns : p.conns.filter (· ≠ x) = p.conns :=
      congrArg Poller.conns (hafter.symm.trans hsame)
    rw [← hconns] at hx
    simp at hx
  · intro hrefuses
    rcases p.remove_outcomes d system with ⟨-, hremove⟩ | ⟨-, hremove | ⟨-, f, hremove⟩⟩
    · rw [hremove]
    · rw [hremove] at h
      cases h
    · exact absurd ⟨f, congrArg Prod.fst hremove⟩ hrefuses

/-! ## Whole histories -/

/-- Some removal of a history was refused. -/
def Refused (p : Poller) (calls : List Call) : Prop :=
  ∃ before call behind, calls = before ++ call :: behind ∧ (p.performAll before).Refuses call

theorem Refused.append {p : Poller} {before : List Call} (h : p.Refused before)
    (behind : List Call) : p.Refused (before ++ behind) := by
  obtain ⟨front, call, rest, rfl, hrefuses⟩ := h
  exact ⟨front, call, rest ++ behind, by simp, hrefuses⟩

theorem Refused.cons {p : Poller} {call : Call} {calls : List Call}
    (h : (p.perform call).2.Refused calls) : p.Refused (call :: calls) := by
  obtain ⟨front, other, rest, rfl, hrefuses⟩ := h
  exact ⟨call :: front, other, rest, rfl, hrefuses⟩

/-- The lists stay in step over a history without a refused removal. -/
theorem inStep_performAll {p : Poller} (hp : p.InStep) {calls : List Call}
    (hcalls : ¬p.Refused calls) : (p.performAll calls).InStep := by
  induction calls generalizing p with
  | nil => exact hp
  | cons call calls ih =>
    have hcall : ¬p.Refuses call := fun h => hcalls ⟨[], call, calls, rfl, h⟩
    exact ih ((goes_perform hcall).inStep hp) fun h => hcalls h.cons

/-- The registry and the backend agree all through a history exactly if no removal was refused in
it. -/
theorem agree_throughout_iff {p : Poller} (hp : p.InStep) (calls : List Call) :
    (∀ before behind, calls = before ++ behind → (p.performAll before).Agrees) ↔
      ¬p.Refused calls := by
  constructor
  · rintro hagree ⟨before, call, behind, rfl, hrefuses⟩
    have hafter : (p.performAll (before ++ [call])).Agrees := hagree _ behind (by simp)
    rw [performAll_append] at hafter
    exact hrefuses.not_agrees (hagree before (call :: behind) rfl) hafter
  · rintro hcalls before behind rfl
    exact (inStep_performAll hp fun h => hcalls (h.append behind)).agrees

/-- A poller with a list in the kernel. -/
def kernelPoller : Poller := { backend := .epoll, timeoutMs := 1000, bufferSize := 128 }

/-- A connection is registered, and then the backend refuses to let it go. -/
def stranded : List Call := [.add 3 (.ok ()) (.ok ()), .remove 3 (.error { kind := .other })]

theorem stranded_comes_apart :
    (kernelPoller.performAll stranded).conns = [] ∧
      (kernelPoller.performAll stranded).watches 3 = true := by
  decide

/-! ## After closing -/

/-- Nothing is registered and nothing can be. -/
structure Gone (p : Poller) : Prop where
  closed : p.closed = true
  conns : p.conns = []

theorem gone_close (p : Poller) (closeConns : Bool) : (p.close closeConns).2.1.Gone := by
  unfold close
  dsimp only [shut, drain, closeBackend]
  split <;> rename_i hagain
  · exact ⟨rfl, List.isEmpty_iff.mp hagain.2⟩
  · exact ⟨rfl, rfl⟩

namespace Gone

variable {p : Poller} (h : p.Gone)
include h

theorem not_refuses (call : Call) : ¬p.Refuses call := by
  intro hrefuses
  obtain ⟨d, hd, -⟩ := hrefuses.strands
  rw [h.conns] at hd
  cases hd

theorem perform (call : Call) : (p.perform call).2.Gone := by
  have hgoes := goes_perform (h.not_refuses call)
  generalize (p.perform call).1 = r at hgoes
  generalize (p.perform call).2 = p' at hgoes ⊢
  cases hgoes with
  | fails e => exact h
  | enters d hopen hnew => exact absurd (h.closed.symm.trans hopen) Bool.noConfusion
  | leaves d hd => exact absurd (h.conns ▸ hd) List.not_mem_nil
  | waits cursor => exact ⟨h.closed, h.conns⟩
  | breaks f => exact ⟨rfl, h.conns⟩
  | rests hclosed hempty => exact h
  | releases => exact ⟨rfl, rfl⟩

theorem performAll (calls : List Call) : (p.performAll calls).Gone := by
  induction calls generalizing p with
  | nil => exact h
  | cons call calls ih => exact ih (h.perform call)

theorem size_eq_zero : p.size = 0 := congrArg List.length h.conns

theorem add_eq (d : Descriptor) (mode system : Except Fault Unit) :
    p.add d mode system = (.error .closed, p) :=
  if_pos h.closed

theorem wait_eq (most : Nat) (system : Readiness) :
    p.wait most system = (.error .closed, p, []) :=
  if_pos h.closed

end Gone

/-- Whatever is done before and after a close, nothing is registered then, and nothing can be
registered or waited for. -/
theorem closed_for_good (p : Poller) (before behind : List Call) (closeConns : Bool) :
    let q := p.performAll (before ++ .close closeConns :: behind)
    q.size = 0 ∧ (∀ d mode system, (q.add d mode system).1 = .error .closed) ∧
      ∀ most system, (q.wait most system).1 = .error .closed := by
  intro q
  have hgone : q.Gone := by
    show (p.performAll (before ++ .close closeConns :: behind)).Gone
    rw [performAll_append]
    exact (gone_close _ closeConns).performAll behind
  refine ⟨hgone.size_eq_zero, ?_, ?_⟩
  · intro d mode system
    rw [hgone.add_eq]
  · intro most answer
    rw [hgone.wait_eq]

/-- If no removal was refused, the backend watches nothing after a close. -/
theorem watched_eq_nil {p : Poller} (hp : p.InStep) {before behind : List Call} {closeConns : Bool}
    (hcalls : ¬p.Refused (before ++ .close closeConns :: behind)) :
    (p.performAll (before ++ .close closeConns :: behind)).watched = [] := by
  rw [(inStep_performAll hp hcalls).watched_eq]
  exact List.length_eq_zero_iff.mp (p.closed_for_good before behind closeConns).1

end Poller
end StreamGateway
