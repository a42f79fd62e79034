import StreamGateway.Proofs.Gateway.Bookkeeping
import StreamGateway.WebSocket.Connection

/-! # After a shutdown

A shutdown lists the live connections once, takes these down, closes the poller and waits for the
other activities. A connection that becomes live behind the listing is turned away when it is to be
handed to the poller, because the poller is closed by then; but one that has passed the poller's
test just before stays. This module shows that every other connection is gone once everybody has
come to an end (`Gateway.Run.settled_iff`): it is off the live ones, off the poller, and the engine
was told exactly once. -/
namespace StreamGateway

variable {a a' b : Affairs} {ds ds' : Multiset Duty} {jobs : List Duty} {c : Nat}

/-! ## One connection -/

/-- The connection that a duty of serving it or taking it off is about. -/
def Duty.served? : Duty → Option Nat
  | .draining c | .checking c | .testing c | .enrolling c | .rechecking c | .undoing c | .removal c
  | .deregistering c | .reported c => some c
  | _ => none

/-- Only who is live is served. -/
theorem Fires.served (h : Fires a ds a' ds') {d : Duty} (hd : d ∈ ds') (hc : d.served? = some c) :
    (∃ e ∈ ds, e.served? = some c) ∨ c ∈ a'.live := by
  rcases h.stayed_or_arises hd with hd | ⟨e, new, he, hsettles, hd⟩ | ⟨new, hbegins, hd⟩
  · exact Or.inl ⟨d, hd, hc⟩
  · cases hsettles with
    | inserts x hpolling | insertsReader x hpolling =>
      cases List.mem_singleton.mp hd
      cases hc
      exact Or.inr (by simp)
    | leaves | skipsTest | skipsEnrolling | stays | undoes | marked | forgets | misses | keeps
    | stops | unsubscribes | reports | dismisses => cases hd
    | fails | marks | departs | deregisters | starts | refuses | cancels =>
      cases List.mem_singleton.mp hd
      cases hc
    | _ =>
      cases List.mem_singleton.mp hd
      exact Or.inl ⟨_, he, hc⟩
  · cases hbegins with
    | nothing | empties => cases hd
    | takesIn =>
      cases List.mem_singleton.mp hd
      cases hc
    | condemnsAll =>
      obtain ⟨x, hx, rfl⟩ := List.mem_map.mp hd
      cases hc
      exact Or.inr hx
    | finds x hlive =>
      cases List.mem_singleton.mp hd
      cases hc
      exact Or.inr hlive

/-- How a connection becomes live. -/
theorem Fires.becomes_live (h : Fires a ds a' ds') (hc : c ∈ a'.live) :
    c ∈ a.live ∨ a.polling = true ∧ .draining c ∈ ds' ∨ a.polling = false ∧ .removal c ∈ ds' := by
  obtain ⟨new, ⟨d, hd, h⟩ | h, hnew⟩ := h.settles_or_begins
  · cases h with
    | inserts x hpolling =>
      refine (List.mem_append.mp hc).imp_right fun hx => Or.inl ⟨hpolling, hnew _ ?_⟩
      rw [List.mem_singleton.mp hx]
      exact List.mem_singleton_self _
    | insertsReader x hpolling =>
      refine (List.mem_append.mp hc).imp_right fun hx => Or.inr ⟨hpolling, hnew _ ?_⟩
      rw [List.mem_singleton.mp hx]
      exact List.mem_singleton_self _
    | removes x => exact Or.inl (List.mem_of_mem_filter hc)
    | _ => exact Or.inl hc
  · cases h <;> exact Or.inl hc

theorem Fires.polling (h : Fires a ds a' ds') : a'.polling = a.polling := by
  obtain ⟨new, ⟨d, -, h⟩ | h, -⟩ := h.settles_or_begins <;> cases h <;> rfl

/-- How a connection ceases to be live. -/
theorem Fires.stays_live (h : Fires a ds a' ds') (hc : c ∈ a.live) :
    c ∈ a'.live ∨ .removal c ∈ ds ∧ .deregistering c ∈ ds' := by
  obtain ⟨new, ⟨d, hd, h⟩ | h, hnew⟩ := h.settles_or_begins
  · cases h with
    | inserts | insertsReader => exact Or.inl (List.mem_append_left _ hc)
    | removes x =>
      by_cases hx : c = x
      · subst hx
        exact Or.inr ⟨hd, hnew _ (List.mem_singleton_self _)⟩
      · exact Or.inl (List.mem_filter.mpr ⟨hc, by simpa using hx⟩)
    | _ => exact Or.inl hc
  · cases h <;> exact Or.inl hc

section

variable {new : List Duty}

theorem Settles.draining (h : Settles a (.draining c) a' new) :
    .checking c ∈ new ∨ .removal c ∈ new := by
  cases h <;> simp

theorem Settles.checking (h : Settles a (.checking c) a' new) :
    .testing c ∈ new ∨ (a.polling = true → c ∉ a.live) := by
  cases h with
  | checks => simp
  | leaves c hgone => exact Or.inr hgone

theorem Settles.testing (h : Settles a (.testing c) a' new) :
    .enrolling c ∈ new ∨ .removal c ∈ new ∨ a.polling = false := by
  cases h with
  | skipsTest c hpolling => exact Or.inr (Or.inr hpolling)
  | _ => simp

theorem Settles.removal (h : Settles a (.removal c) a' new) : c ∉ a'.live := by
  cases h
  simp

theorem Settles.deregistering (h : Settles a (.deregistering c) a' new) : .marking c ∈ new := by
  cases h
  exact List.mem_singleton_self _

theorem Settles.marking (h : Settles a (.marking c) a' new) (hknown : a.book? c ≠ none) :
    a'.isClosed c = true := by
  obtain ⟨k, hk⟩ := Option.ne_none_iff_exists'.mp hknown
  cases h with
  | marks c k hbook hclosed => simp [Affairs.isClosed, Affairs.mapBook, hbook]
  | marked c hbook => simp [Affairs.isClosed, hk, hbook k hk]

end

/-- A connection is taken in once, and then it is inserted or not. -/
theorem Fires.incoming (h : Fires a ds a' ds') (c : Nat) :
    (ds'.count (.incoming c) ≤ ds.count (.incoming c) ∧ (c ∈ a'.live → c ∈ a.live)) ∨
      ds'.count (.incoming c) + 1 = ds.count (.incoming c) ∨
      (ds'.count (.incoming c) = ds.count (.incoming c) + 1 ∧ c = a.lastConnection + 1 ∧
        a'.live = a.live) := by
  cases h with
  | settles h rest =>
    cases h with
    | fails x | inserts x hpolling | insertsReader x hpolling =>
      by_cases hx : c = x
      · subst hx
        exact Or.inr (Or.inl (by simp))
      · exact Or.inl ⟨by simp [hx], by simp [hx]⟩
    | removes x => exact Or.inl ⟨by simp, List.mem_of_mem_filter⟩
    | _ => exact Or.inl ⟨by simp, id⟩
  | begins h rest =>
    cases h with
    | takesIn =>
      by_cases hx : c = a.lastConnection + 1
      · subst hx
        exact Or.inr (Or.inr ⟨by simp, rfl, rfl⟩)
      · exact Or.inl ⟨by simp [hx], id⟩
    | condemnsAll =>
      refine Or.inl ⟨?_, id⟩
      rw [Multiset.count_add, Multiset.count_eq_zero.mpr (by simp), Nat.zero_add]
    | _ => exact Or.inl ⟨by simp, id⟩

namespace Affairs

/-- A registered connection is live, or somebody is going to take it off the poller. -/
def Watched (a : Affairs) (ds : Multiset Duty) : Prop :=
  ∀ d ∈ a.registered, ∃ c : Nat, d = (c : Descriptor) ∧
    (c ∈ a.live ∨ .deregistering c ∈ ds ∨ .rechecking c ∈ ds ∨ .undoing c ∈ ds)

theorem Watched.handles (h : a.Watched ds) (hh : Handles a b jobs) : b.Watched (ds + jobs) := by
  intro d hd
  rw [hh.registered] at hd
  obtain ⟨c, rfl, hc⟩ := h d hd
  refine ⟨c, rfl, ?_⟩
  rw [hh.live]
  exact hc.imp_right (Or.imp (fun hd => Multiset.mem_add.mpr (Or.inl hd))
    (Or.imp (fun hd => Multiset.mem_add.mpr (Or.inl hd)) fun hd =>
      Multiset.mem_add.mpr (Or.inl hd)))

/-- What is registered after a move was registered before, or is registered now. -/
theorem registered_of_fires (h : Fires a ds a' ds') {d : Descriptor} (hd : d ∈ a'.registered) :
    d ∈ a.registered ∨ ∃ c : Nat, d = (c : Descriptor) ∧ .rechecking c ∈ ds' := by
  obtain ⟨new, ⟨e, -, h⟩ | h, hnew⟩ := h.settles_or_begins
  · cases h with
    | enrols c =>
      refine (List.mem_append.mp hd).imp_right fun hd => ⟨c, List.mem_singleton.mp hd, ?_⟩
      exact hnew _ (List.mem_singleton_self _)
    | undoes | deregisters | takes | misses => exact Or.inl (List.mem_of_mem_filter hd)
    | _ => exact Or.inl hd
  · cases h with
    | empties => cases hd
    | _ => exact Or.inl hd

theorem Watched.fires (h : a.Watched ds) (hf : Fires a ds a' ds') : a'.Watched ds' := by
  intro d hd
  rcases registered_of_fires hf hd with hold | ⟨c, rfl, hc⟩
  · obtain ⟨c, rfl, hc⟩ := h d hold
    refine ⟨c, rfl, ?_⟩
    rcases hc with hlive | hc | hc | hc
    · exact (hf.stays_live hlive).imp_right fun hc => Or.inl hc.2
    · rcases hf.stays_or_settles hc with hc | ⟨new, hsettles, -⟩
      · exact Or.inr (Or.inl hc)
      · cases hsettles
        simp at hd
    · rcases hf.stays_or_settles hc with hc | ⟨new, hsettles, hnew⟩
      · exact Or.inr (Or.inr (Or.inl hc))
      · -- the second look either finds the connection live or has the registration undone
        cases hsettles with
        | stays c hlive => exact Or.inl hlive
        | rechecks c hgone => exact Or.inr (Or.inr (Or.inr (hnew _ (List.mem_singleton_self _))))
    · rcases hf.stays_or_settles hc with hc | ⟨new, hsettles, -⟩
      · exact Or.inr (Or.inr (Or.inr hc))
      · cases hsettles
        simp at hd
  · exact ⟨c, rfl, Or.inr (Or.inr (Or.inl hc))⟩

end Affairs

namespace Gateway.Run

variable {τ : Type} [Severable τ]

/-! ## The way of a connection -/

/-- It was so at some moment up to `n`. -/
def Once (r : Run τ) (n : Nat) (P : Gateway τ → Prop) : Prop := ∃ m ≤ n, P (r.state m)

/-- The connection has been live. -/
def Inserted (r : Run τ) (n c : Nat) : Prop := r.Once n (c ∈ ·.live)

/-- Somebody has set out to take the connection down. -/
def Condemned (r : Run τ) (n c : Nat) : Prop := r.Once n (.removal c ∈ ·.duties)

/-- The poller was found open for the connection. -/
def Admitted (r : Run τ) (n c : Nat) : Prop := r.Once n (.enrolling c ∈ ·.duties)

variable {r : Run τ} {n : Nat}

theorem Once.mono {m : Nat} {P : Gateway τ → Prop} (h : r.Once m P) (hmn : m ≤ n) : r.Once n P := by
  obtain ⟨k, hk, hP⟩ := h
  exact ⟨k, Nat.le_trans hk hmn, hP⟩

theorem Once.now {P : Gateway τ → Prop} (h : P (r.state n)) : r.Once n P := ⟨n, Nat.le_refl n, h⟩

theorem once_succ_iff {P : Gateway τ → Prop} :
    r.Once (n + 1) P ↔ r.Once n P ∨ P (r.state (n + 1)) := by
  constructor
  · rintro ⟨m, hm, hP⟩
    rcases Nat.le_succ_iff.mp hm with hm | rfl
    · exact Or.inl ⟨m, hm, hP⟩
    · exact Or.inr hP
  · rintro (h | hP)
    · exact h.mono (Nat.le_succ n)
    · exact .now hP

theorem once_zero_iff {P : Gateway τ → Prop} : r.Once 0 P ↔ P (r.state 0) := by
  constructor
  · rintro ⟨m, hm, hP⟩
    rwa [Nat.le_zero.mp hm] at hP
  · exact .now

/-- Whoever is served has been live. -/
theorem inserted_of_served (r : Run τ) {n c : Nat} {d : Duty} (hd : d ∈ (r.state n).duties)
    (hc : d.served? = some c) : r.Inserted n c := by
  induction n generalizing d with
  | zero => simp [r.duties_zero] at hd
  | succ n ih =>
    obtain ⟨b, jobs, hhandles, hfires⟩ := r.moves n
    rcases hfires.served hd hc with ⟨e, he, hec⟩ | hlive
    · have hne (stage : Resolver) : e ≠ .resolving stage := by
        rintro rfl
        cases hec
      exact (ih (hhandles.mem_of_mem_add he hne) hec).mono (Nat.le_succ n)
    · exact .now hlive

theorem inserted_of_condemned (h : r.Condemned n c) : r.Inserted n c := by
  obtain ⟨m, hm, hd⟩ := h
  obtain ⟨k, hk, hc⟩ := r.inserted_of_served hd rfl
  exact ⟨k, Nat.le_trans hk hm, hc⟩

theorem knows_mono (r : Run τ) {m n c : Nat} (hmn : m ≤ n)
    (hc : (r.state m).affairs.book? c ≠ none) : (r.state n).affairs.book? c ≠ none := by
  induction n, hmn using Nat.le_induction with
  | base => exact hc
  | succ n hmn ih =>
    obtain ⟨b, jobs, hhandles, hfires⟩ := r.moves n
    exact hfires.knows (hhandles.knows ih)

theorem known_of_inserted (h : r.Inserted n c) : (r.state n).affairs.book? c ≠ none := by
  obtain ⟨m, hm, hc⟩ := h
  exact r.knows_mono hm ((r.inOrder m).live c hc)

/-- A connection is inserted at most once. -/
theorem count_incoming (r : Run τ) (n c : Nat) : (r.state n).duties.count (.incoming c) ≤ 1 ∧
    (r.Inserted n c → (r.state n).duties.count (.incoming c) = 0) := by
  induction n with
  | zero => simp [r.duties_zero]
  | succ n ih =>
    obtain ⟨b, jobs, hhandles, hfires⟩ := r.moves n
    have hcases := hfires.incoming c
    rw [hhandles.count_add (d := .incoming c) nofun, hhandles.live,
      hhandles.lastConnection] at hcases
    obtain ⟨hone, hzero⟩ := ih
    rcases hcases with ⟨hle, hlive⟩ | hless | ⟨hmore, hc, hlive⟩
    · refine ⟨Nat.le_trans hle hone, fun hinserted => ?_⟩
      have hold : r.Inserted n c := (once_succ_iff.mp hinserted).elim id fun hc => .now (hlive hc)
      have := hzero hold
      omega
    · exact ⟨by omega, fun _ => by omega⟩
    · -- the number is new
      have hnew : (r.state n).affairs.book? c = none := by
        by_contra hknown
        have := (r.inOrder n).bound c hknown
        omega
      have hnone : (r.state n).duties.count (.incoming c) = 0 := by
        refine Multiset.count_eq_zero.mpr fun hmem => ?_
        exact (r.inOrder n).owed _ hmem c rfl hnew
      refine ⟨by omega, fun hinserted => ?_⟩
      rcases once_succ_iff.mp hinserted with hold | hc
      · exact absurd hnew (known_of_inserted hold)
      · have hmem : c ∈ (r.state n).affairs.live := by
          rw [← hlive]
          exact hc
        exact absurd hnew ((r.inOrder n).live c hmem)

/-- Only who is condemned ceases to be live. -/
theorem live_or_condemned (h : r.Inserted n c) : c ∈ (r.state n).live ∨ r.Condemned n c := by
  induction n with
  | zero => exact Or.inl (once_zero_iff.mp h)
  | succ n ih =>
    rcases once_succ_iff.mp h with h | hc
    · rcases ih h with hlive | hcondemned
      · obtain ⟨b, jobs, hhandles, hfires⟩ := r.moves n
        have hb : c ∈ b.live := by
          rw [hhandles.live]
          exact hlive
        rcases hfires.stays_live hb with hlive | ⟨hremoval, -⟩
        · exact Or.inl hlive
        · exact Or.inr ⟨n, Nat.le_succ n, hhandles.mem_of_mem_add hremoval nofun⟩
      · exact Or.inr (hcondemned.mono (Nat.le_succ n))
    · exact Or.inl hc

/-- What becomes of a duty with the next event. -/
theorem stays_or_settles (r : Run τ) {n : Nat} {d : Duty} (hd : d ∈ (r.state n).duties) :
    d ∈ (r.state (n + 1)).duties ∨ ∃ b jobs new, Handles (r.state n).affairs b jobs ∧
      Settles b d (r.state (n + 1)).affairs new ∧ ∀ e ∈ new, e ∈ (r.state (n + 1)).duties := by
  obtain ⟨b, jobs, hhandles, hfires⟩ := r.moves n
  refine (hfires.stays_or_settles (Multiset.mem_add.mpr (Or.inl hd))).imp_right ?_
  exact fun ⟨new, hsettles, hnew⟩ => ⟨b, jobs, new, hhandles, hsettles, hnew⟩

/-- Whoever was live and is not will not be live again. -/
theorem not_live_succ (hinserted : r.Inserted n c) (hgone : c ∉ (r.state n).live) :
    c ∉ (r.state (n + 1)).live := by
  intro hlive
  obtain ⟨b, jobs, hhandles, hfires⟩ := r.moves n
  rcases hfires.mem_live hlive with hlive | hincoming
  · rw [hhandles.live] at hlive
    exact hgone hlive
  · -- it would have been taken in a second time
    have hzero := (r.count_incoming n c).2 hinserted
    exact Multiset.count_eq_zero.mp hzero (hhandles.mem_of_mem_add hincoming nofun)

/-- Whoever is condemned is off the live ones for good, once that is done. -/
theorem not_live_of_condemned (h : r.Condemned n c) :
    c ∉ (r.state n).live ∨ .removal c ∈ (r.state n).duties := by
  induction n with
  | zero => exact Or.inr (once_zero_iff.mp h)
  | succ n ih =>
    rcases once_succ_iff.mp h with hcondemned | hd
    · rcases ih hcondemned with hgone | hremoval
      · exact Or.inl (not_live_succ (inserted_of_condemned hcondemned) hgone)
      · rcases r.stays_or_settles hremoval with hd | ⟨b, jobs, new, -, hsettles, -⟩
        · exact Or.inr hd
        · exact Or.inl hsettles.removal
    · exact Or.inr hd

/-- Whoever is off the live ones is being closed, or is closed. -/
theorem closing_of_not_live (h : r.Inserted n c) (hgone : c ∉ (r.state n).live) :
    .deregistering c ∈ (r.state n).duties ∨ .marking c ∈ (r.state n).duties ∨
      (r.state n).affairs.isClosed c = true := by
  induction n with
  | zero => exact absurd (once_zero_iff.mp h) hgone
  | succ n ih =>
    have hold : r.Inserted n c := (once_succ_iff.mp h).resolve_right hgone
    obtain ⟨b, jobs, hhandles, hfires⟩ := r.moves n
    by_cases hlive : c ∈ (r.state n).live
    · have hb : c ∈ b.live := by
        rw [hhandles.live]
        exact hlive
      exact Or.inl ((hfires.stays_live hb).resolve_left hgone).2
    · rcases ih hold hlive with hd | hd | hclosed
      · rcases r.stays_or_settles hd with hd | ⟨b, jobs, new, -, hsettles, hnew⟩
        · exact Or.inl hd
        · exact Or.inr (Or.inl (hnew _ hsettles.deregistering))
      · rcases r.stays_or_settles hd with hd | ⟨b, jobs, new, hhandles, hsettles, -⟩
        · exact Or.inr (Or.inl hd)
        · exact Or.inr (Or.inr (hsettles.marking (hhandles.knows (known_of_inserted hold))))
      · refine Or.inr (Or.inr (Affairs.isClosed_of_fires hfires ?_))
        rwa [Affairs.isClosed_of_handles hhandles]

theorem polling_const (r : Run τ) (n : Nat) : (r.state n).affairs.polling = r.first.isPolling := by
  induction n with
  | zero => rfl
  | succ n ih =>
    obtain ⟨b, jobs, hhandles, hfires⟩ := r.moves n
    rw [← ih, ← hhandles.polling, hfires.polling]

/-- The connection is on its way to the poller, or has been let in there. -/
def Arriving (r : Run τ) (n c : Nat) : Prop :=
  r.Admitted n c ∨ .draining c ∈ (r.state n).duties ∨ .checking c ∈ (r.state n).duties ∨
    .testing c ∈ (r.state n).duties

theorem Arriving.next (hpolling : r.first.isPolling = true) (h : r.Inserted n c)
    (harriving : r.Arriving n c) : r.Condemned (n + 1) c ∨ r.Arriving (n + 1) c := by
  have hcondemned (hd : .removal c ∈ (r.state (n + 1)).duties) : r.Condemned (n + 1) c := .now hd
  rcases harriving with hadmitted | hd | hd | hd
  · exact Or.inr (Or.inl (hadmitted.mono (Nat.le_succ n)))
  · rcases r.stays_or_settles hd with hd | ⟨b, jobs, new, -, hsettles, hnew⟩
    · exact Or.inr (Or.inr (Or.inl hd))
    · rcases hsettles.draining with hd | hd
      · exact Or.inr (Or.inr (Or.inr (Or.inl (hnew _ hd))))
      · exact Or.inl (hcondemned (hnew _ hd))
  · rcases r.stays_or_settles hd with hd | ⟨b, jobs, new, hhandles, hsettles, hnew⟩
    · exact Or.inr (Or.inr (Or.inr (Or.inl hd)))
    · rcases hsettles.checking with hd | hgone
      · exact Or.inr (Or.inr (Or.inr (Or.inr (hnew _ hd))))
      · -- a connection that is not live any more was condemned
        rw [hhandles.polling, hhandles.live] at hgone
        have hnot := hgone ((r.polling_const n).trans hpolling)
        exact Or.inl (((live_or_condemned h).resolve_left hnot).mono (Nat.le_succ n))
  · rcases r.stays_or_settles hd with hd | ⟨b, jobs, new, hhandles, hsettles, hnew⟩
    · exact Or.inr (Or.inr (Or.inr (Or.inr hd)))
    · rcases hsettles.testing with hd | hd | hnone
      · exact Or.inr (Or.inl (.now (hnew _ hd)))
      · exact Or.inl (hcondemned (hnew _ hd))
      · -- the test is skipped only where there is no poller
        rw [hhandles.polling, r.polling_const n, hpolling] at hnone
        cases hnone

/-- Nobody is forgotten: without a poller everybody is condemned from the start. -/
theorem condemned_or_arriving (h : r.Inserted n c) :
    r.Condemned n c ∨ r.first.isPolling = true ∧ r.Arriving n c := by
  induction n with
  | zero =>
    have hempty : (r.state 0).live = [] := congrArg Affairs.live r.affairs_zero
    have hlive : c ∈ (r.state 0).live := once_zero_iff.mp h
    simp [hempty] at hlive
  | succ n ih =>
    by_cases hold : r.Inserted n c
    · rcases ih hold with hcondemned | ⟨hpolling, harriving⟩
      · exact Or.inl (hcondemned.mono (Nat.le_succ n))
      · exact (harriving.next hpolling hold).imp_right fun hnext => ⟨hpolling, hnext⟩
    · obtain ⟨b, jobs, hhandles, hfires⟩ := r.moves n
      have hlive := (once_succ_iff.mp h).resolve_left hold
      rcases hfires.becomes_live hlive with hlive | ⟨hpolling, hd⟩ | ⟨-, hd⟩
      · rw [hhandles.live] at hlive
        exact absurd (.now hlive) hold
      · rw [hhandles.polling, r.polling_const n] at hpolling
        exact Or.inr ⟨hpolling, Or.inr (Or.inl hd)⟩
      · exact Or.inl (.now hd)

theorem watched (r : Run τ) (n : Nat) : (r.state n).affairs.Watched (r.state n).duties :=
  r.always (fun _ d hd => by cases hd) (fun _ h hh => h.handles hh) (fun _ h hf => h.fires hf) n

end Gateway.Run

/-! ## Coming to an end -/

namespace Activity

/-- A shutdown that has returned. -/
def hasReturned : Activity → Bool
  | .shutdown _ (.returned _) => true
  | _ => false

/-- The polling, while it goes on. -/
def isPolling : Activity → Bool
  | .polling stage => !isOver (.polling stage)
  | _ => false

/-- Somebody waits for the end of the activity: it is a call, or a shutdown waits for it. -/
def isAwaited : Activity → Bool
  | .accept _ _ | .shutdown _ _ => true
  | t => t.isTracked

theorem isPolling_of_isFresh {t : Activity} (h : t.isFresh = true) : t.isPolling = false := by
  cases t with
  | polling => cases h
  | _ => rfl

theorem hasReturned_of_isFresh {t : Activity} (h : t.isFresh = true) : t.hasReturned = false := by
  cases t with
  | shutdown timeoutMs stage =>
    cases stage with
    | returned => cases h
    | _ => rfl
  | _ => rfl

end Activity

namespace Gateway

variable {τ : Type}

theorem pollingOver_iff {s : Gateway τ} :
    Shutdown.pollingOver s = true ↔ ∀ p ∈ s.tasks, p.2.isPolling = false := by
  rw [Shutdown.pollingOver, List.all_eq_true]
  refine forall₂_congr fun p _ => ?_
  obtain ⟨i, t⟩ := p
  cases t <;> simp [Activity.isPolling]

variable [Severable τ]

/-- Nothing turns into polling. -/
theorem isPolling_advance {s : Gateway τ} {t : Activity} (a : Answers τ) (hover : t.isOver = false)
    (ht : t.isPolling = false) : (s.advance a t).1.isPolling = false := by
  cases t with
  | polling stage => simp [Activity.isPolling, hover] at ht
  | accept | drain | reader | shutdown => rfl
  | leftover c ended =>
    rw [advance]
    split <;> rfl
  | listener ended =>
    rw [advance]
    split <;> rfl
  | resolver stage =>
    rw [advance]
    split <;> rfl

/-- A shutdown returns only after the polling. -/
theorem pollingOver_of_advance {s : Gateway τ} {t : Activity} (a : Answers τ)
    (hover : t.isOver = false) (h : (s.advance a t).1.hasReturned = true) :
    Shutdown.pollingOver s = true := by
  cases t with
  | shutdown timeoutMs stage =>
    cases stage with
    | joining drained =>
      -- the only stage from which a shutdown returns
      by_contra hnot
      simp [advance, Shutdown.step, hnot, Activity.hasReturned] at h
    | returned => cases hover
    | announcing | cancelling | listing | releasing | settling => cases h
    | severing drained => cases drained <;> cases h
    | closing cs stage =>
      cases cs with
      | nil =>
        simp only [advance, Shutdown.step] at h
        split at h <;> cases h
      | cons c rest =>
        simp only [advance, Shutdown.step] at h
        split at h <;> cases h
    | shutting =>
      simp only [advance, Shutdown.step] at h
      split at h <;> cases h
    | draining before =>
      simp only [advance, Shutdown.step] at h
      split at h
      · cases h
      · split at h <;> cases h
    | waiting =>
      simp only [advance, Shutdown.step] at h
      split at h
      · cases h
      · split at h <;> cases h
  | polling | accept | drain | reader => cases h
  | leftover c ended =>
    rw [advance] at h
    split at h <;> cases h
  | listener ended =>
    rw [advance] at h
    split at h <;> cases h
  | resolver stage =>
    rw [advance] at h
    split at h <;> cases h

namespace Run

variable {r : Run τ} {n : Nat}

theorem pollingOver_of_returned (h : ∃ p ∈ (r.state n).tasks, p.2.hasReturned = true) :
    Shutdown.pollingOver (r.state n) = true := by
  induction n with
  | zero =>
    obtain ⟨p, hp, hreturned⟩ := h
    rcases (create?_cases r.created).1 with ⟨htasks, -⟩ | ⟨htasks, -⟩
    · simp [state, htasks] at hp
    · have hpolling : p = (1, .polling .resting) := by simpa [state, htasks] using hp
      rw [hpolling] at hreturned
      cases hreturned
  | succ n ih =>
    obtain ⟨p, hp, hreturned⟩ := h
    have hbefore : Shutdown.pollingOver (r.state n) = true := by
      rcases mem_tasks_happen (r.wellNumbered n) hp with hp | hfresh | ⟨i, a, t, -, -, hover, rfl⟩
      · exact ih ⟨p, hp, hreturned⟩
      · rw [Activity.hasReturned_of_isFresh hfresh] at hreturned
        cases hreturned
      · exact pollingOver_of_advance a hover hreturned
    -- polling that is over is never taken up again
    rw [pollingOver_iff] at hbefore ⊢
    intro q hq
    rcases mem_tasks_happen (r.wellNumbered n) hq with hq | hfresh | ⟨i, a, t, -, ht, hover, rfl⟩
    · exact hbefore q hq
    · exact Activity.isPolling_of_isFresh hfresh
    · obtain ⟨xs, ys, htasks, -⟩ := List.lookup_eq_some_iff.mp ht
      exact isPolling_advance a hover (hbefore (i, t) (by simp [htasks]))

/-- A shutdown has returned, and so have all calls and all activities that it waits for. -/
structure Settled (s : Gateway τ) : Prop where
  returned : ∃ p ∈ s.tasks, p.2.hasReturned = true
  awaited : ∀ p ∈ s.tasks, p.2.isAwaited = true → p.2.isOver = true

/-- Then nothing is left to do. -/
theorem duties_of_settled (h : Settled (r.state n)) : (r.state n).duties = 0 := by
  have hpolling := pollingOver_iff.mp (pollingOver_of_returned h.returned)
  have hnone : ∀ p ∈ (r.state n).tasks, p.2.duties = [] := by
    intro p hp
    have hawaited := h.awaited p hp
    have hover := hpolling p hp
    obtain ⟨i, t⟩ := p
    cases t with
    | leftover | listener => rfl
    | polling stage =>
      refine Activity.duties_of_isOver ?_
      simpa [Activity.isPolling] using hover
    | _ => exact Activity.duties_of_isOver (hawaited rfl)
  have hempty : (r.state n).tasks.flatMap (fun p => p.2.duties) = [] :=
    List.flatMap_eq_nil_iff.mpr hnone
  exact congrArg Multiset.ofList hempty

/-- At moment `m` a shutdown looks up who is live. -/
def Lists (r : Run τ) (m : Nat) : Prop :=
  ∃ i answers timeoutMs, r.event m = .go i answers ∧ (r.state m).waits i = false ∧
    (r.state m).task? i = some (.shutdown timeoutMs .listing)

/-- Whoever is listed is condemned. -/
theorem condemned_of_lists {m : Nat} (hlists : r.Lists m) (hlive : c ∈ (r.state m).live) :
    r.Condemned (m + 1) c := by
  obtain ⟨i, answers, timeoutMs, hevent, hwaits, htask⟩ := hlists
  have hstep : r.state (m + 1) =
      (r.state m).setTask i (.shutdown timeoutMs (.closing (r.state m).live .removing)) := by
    show (r.state m).happen (r.event m) = _
    rw [hevent, happen, step, htask]
    simp [Activity.isOver, hwaits, advance, Shutdown.step]
  obtain ⟨others, -, hduties⟩ := duties_setTask (r.wellNumbered m) htask (.refl _)
    (.shutdown timeoutMs (.closing (r.state m).live .removing))
  refine .now ?_
  show .removal c ∈ (r.state (m + 1)).duties
  rw [hstep, hduties, Multiset.mem_add, Multiset.mem_add, Multiset.mem_coe]
  refine Or.inl (Or.inl ?_)
  show .removal c ∈ Teardown.removing.dutiesOf (r.state m).live
  rw [Teardown.dutiesOf_removing]
  exact List.mem_map_of_mem hlive

/-- The connection became live behind every listing, has passed the poller's test, and nobody has
set out to take it down. -/
structure Slipped (r : Run τ) (n c : Nat) : Prop where
  inserted : r.Inserted n c
  late : ∀ m < n, r.Lists m → ¬r.Inserted m c
  admitted : r.Admitted n c
  spared : ¬r.Condemned n c

/-- When nothing is left to do, whoever was not condemned has slipped through. -/
theorem slipped_of_spared (hduties : (r.state n).duties = 0) (hinserted : r.Inserted n c)
    (hspared : ¬r.Condemned n c) : r.first.isPolling = true ∧ r.Slipped n c := by
  obtain ⟨hpolling, harriving⟩ := (condemned_or_arriving hinserted).resolve_left hspared
  have hadmitted : r.Admitted n c := by
    rcases harriving with h | hd | hd | hd
    · exact h
    all_goals simp [hduties] at hd
  refine ⟨hpolling, hinserted, fun m hm hlists hearly => hspared ?_, hadmitted, hspared⟩
  rcases live_or_condemned hearly with hlive | hcondemned
  · exact (condemned_of_lists hlists hlive).mono hm
  · exact hcondemned.mono (Nat.le_of_lt hm)

theorem not_live_of_settled (hduties : (r.state n).duties = 0) (h : r.Condemned n c) :
    c ∉ (r.state n).live :=
  (not_live_of_condemned h).resolve_right (by simp [hduties])

/-- Whoever was condemned is closed when nothing is left to do, and the engine was told once. -/
theorem departures_of_condemned (hduties : (r.state n).duties = 0) (h : r.Condemned n c) :
    (r.state n).affairs.departures c = 1 := by
  have hgone := not_live_of_settled hduties h
  have hclosed : (r.state n).affairs.isClosed c = true := by
    rcases closing_of_not_live (inserted_of_condemned h) hgone with hd | hd | hclosed
    · simp [hduties] at hd
    · simp [hduties] at hd
    · exact hclosed
  have htold := r.told n c
  rwa [Affairs.Told, hclosed, hduties, Multiset.count_zero, Nat.add_zero, Bool.toNat_true] at htold

omit [Severable τ] in
theorem registered_eq_length (s : Gateway τ) : s.registered = s.affairs.registered.length := by
  cases hpoller : s.poller <;> simp [registered, affairs, hpoller, Poller.size]

/-- **After a shutdown nobody is left except who has slipped through.** When everybody has come to
an end, there are no live connections, none is registered and the engine was told exactly once about
each that has been live, unless a connection has become live behind the listing and has passed the
test of the poller before that was closed. Without a poller this cannot happen. -/
theorem settled_iff (r : Run τ) (n : Nat) (h : Settled (r.state n)) :
    (((r.state n).live = [] ∧ (r.state n).registered = 0 ∧
        ∀ c, r.Inserted n c →
          ((r.state n).history.countP fun (call, _) => call = .unsubscribeClient c) = 1) ↔
      ∀ c, ¬r.Slipped n c) ∧
      ((r.state n).isPolling = false → ∀ c, ¬r.Slipped n c) := by
  have hduties := duties_of_settled h
  refine ⟨⟨?_, ?_⟩, ?_⟩
  · rintro ⟨hempty, -, -⟩ c hslipped
    have hlive := (live_or_condemned hslipped.inserted).resolve_right hslipped.spared
    simp [hempty] at hlive
  · intro hnobody
    have hcondemned (c : Nat) (hinserted : r.Inserted n c) : r.Condemned n c := by
      by_contra hspared
      exact hnobody c (slipped_of_spared hduties hinserted hspared).2
    have hlive : (r.state n).live = [] := by
      refine List.eq_nil_iff_forall_not_mem.mpr fun c hc => ?_
      exact not_live_of_settled hduties (hcondemned c (.now hc)) hc
    refine ⟨hlive, ?_, fun c hinserted => departures_of_condemned hduties (hcondemned c hinserted)⟩
    rw [registered_eq_length, List.length_eq_zero_iff, List.eq_nil_iff_forall_not_mem]
    intro d hd
    obtain ⟨c, -, hc⟩ := r.watched n d hd
    have hgone : c ∉ (r.state n).affairs.live := by
      show c ∉ (r.state n).live
      simp [hlive]
    simp [hduties, hgone] at hc
  · intro hnone c hslipped
    have hpolling := (slipped_of_spared hduties hslipped.inserted hslipped.spared).1
    rw [← r.polling_const n] at hpolling
    exact absurd hpolling (Bool.eq_false_iff.mp hnone)

/-- A client that shakes hands. -/
def latecomer : WebSocket where
  inbox := [.ofText "\x7b\"type\":\"connection_init\"\x7d"]

/-- Task 2 takes the client in. When it is to become live, task 3 shuts the gateway down: it lists
nobody, then the client becomes live and passes the test of the poller, and it is registered when
task 3 has just emptied the poller. -/
def lateRun : Run WebSocket :=
  .ofScript {} (by decide +kernel) <| List.flatten
    [[.arrive true, .go 2 {}, .go 2 { upgrade := .ok (latecomer, .transport) }], Event.turns 2 2,
      [.shutdown 1000], Event.turns 3 3, Event.turns 2 4, Event.turns 3 3, Event.turns 2 4,
      Event.turns 3 4, Event.turns 1 1, Event.turns 3 1]

theorem settled_lateRun : Settled (lateRun.state 26) :=
  ⟨by decide +kernel, by decide +kernel⟩

theorem settled_iff_lateRun :
    Settled (lateRun.state 26) ∧
      (((lateRun.state 26).live = [] ∧ (lateRun.state 26).registered = 0 ∧
          ∀ c, lateRun.Inserted 26 c →
            ((lateRun.state 26).history.countP fun (call, _) => call = .unsubscribeClient c) = 1) ↔
        ∀ c, ¬lateRun.Slipped 26 c) :=
  ⟨settled_lateRun, (lateRun.settled_iff 26 settled_lateRun).1⟩

/-- **A connection survives the shutdown.** It is live and registered, and the engine was never
told. -/
theorem latecomer_survives :
    Settled (lateRun.state 26) ∧ (lateRun.state 26).live = [1] ∧ (lateRun.state 26).registered = 1 ∧
      (lateRun.state 26).history = [] :=
  ⟨settled_lateRun, by decide +kernel, by decide +kernel, by decide +kernel⟩

end Run
end Gateway
end StreamGateway
