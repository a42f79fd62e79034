import Mathlib.Tactic.IntervalCases
import StreamGateway.Proofs.Gateway.Company
import StreamGateway.Proofs.Gateway.Custody

/-! # When a connection cannot be taken in

Taking a connection in can fail in many places: at the upgrade, in the handshake, when it is set up,
at a message that was sent along with the handshake, or when it is to be handed to the poller. Up to
the hand-over nobody deals with the connection but the task that takes it in (`Run.attends`), so
what this task clears away stays cleared away. A task that has failed leaves no live connection, no
registration and no running subscription behind, and the engine was told once that the client has
left (`Run.failed_accept_leaves_nothing`); but where everybody is being taken down, the last two can
still be ahead when the task returns (`Run.fails_ahead_of_sweep`). -/
namespace StreamGateway

variable {c i : Nat}

namespace Accept

/-- The connection has been handed over, or there is nobody to hand it to. -/
def handsOver : Accept → Bool
  | .serving _ (.rearming .rechecking) | .serving _ (.rearming .undoing)
  | .serving _ (.rearming (.done (.ok ()))) | .serving _ (.done (.ok ())) | .returned (.ok _) =>
    true
  | _ => false

/-- The connection is not live, be it not yet or not any more. -/
def isOut : Accept → Bool
  | .serving _ _ | .removing _ _ .removing | .returned (.ok _) => false
  | _ => true

/-- How far the closing of the handler is, once it has come to that. -/
def closing? : Accept → Option Closing
  | .failing _ _ stage | .removing _ _ (.closing stage) => some stage
  | .returned (.error _) => some .closed
  | _ => none

end Accept

/-- A handler in which no operation can be looked up has no subscription. -/
theorem Handler.subscriptions_eq_nil {τ : Type} {h : Handler τ}
    (hnone : ∀ op, h.number? op = none) : h.subscriptions = [] := by
  refine List.eq_nil_iff_forall_not_mem.mpr fun running hmem => ?_
  have hne := List.lookup_eq_none_iff.mp (hnone running.1) running hmem
  simp at hne

namespace Gateway

variable {τ : Type} [Severable τ] {s : Gateway τ} {stage : Accept} {listened : Bool}

/-! ## Stages of the task -/

/-- What was handed over is not taken back. -/
theorem handsOver_step (a : Answers τ) (s : Gateway τ) (h : stage.handsOver = true) :
    (stage.step a s).1.handsOver = true := by
  cases stage with
  | serving x stage =>
    cases stage with
    | draining => cases h
    | done result =>
      cases result with
      | ok => rfl
      | error => cases h
    | rearming stage =>
      cases stage with
      | rechecking =>
        simp only [Accept.step, Serve.step, Rearm.step]
        split <;> rfl
      | undoing => rfl
      | done result =>
        cases result with
        | ok => rfl
        | error => cases h
      | _ => cases h
  | returned => exact h
  | _ => cases h

/-- The task goes on with the connection, or it has failed or handed it over. -/
theorem connections_step (a : Answers τ) (s : Gateway τ)
    (hc : c ∈ (Activity.accept listened stage).connections) :
    (stage.step a s).1.handsOver = true ∨ (∃ e, (stage.step a s).1 = .returned (.error e)) ∨
      c ∈ (Activity.accept listened (stage.step a s).1).connections := by
  cases stage with
  | entering | upgrading | returned => cases hc
  | handshaking x | configuring x =>
    simp only [Accept.step]
    split <;> exact .inr (.inr hc)
  | failing x e stage =>
    cases stage with
    | closed => exact .inr (.inl ⟨e, rfl⟩)
    | _ => exact .inr (.inr hc)
  | inserting x =>
    simp only [Accept.step]
    split
    · exact .inr (.inr hc)
    · exact .inl rfl
  | serving x stage =>
    cases stage with
    | done result =>
      cases result with
      | ok => exact .inl rfl
      | error => exact .inr (.inr hc)
    | _ => exact .inr (.inr hc)
  | removing x e stage =>
    simp only [Accept.step]
    split
    · exact .inr (.inl ⟨e, rfl⟩)
    · exact .inr (.inr hc)

/-- Once it has come to that, the task goes through the closing and does nothing else. -/
theorem step_of_closing? (a : Answers τ) (s : Gateway τ)
    (hc : c ∈ (Activity.accept listened stage).connections) {closing : Closing}
    (h : stage.closing? = some closing) :
    (stage.step a s).2 = (closing.step a s c).2 ∧
      (stage.step a s).1.closing? = some (closing.step a s c).1 := by
  cases stage with
  | failing x e stage =>
    cases h
    cases List.mem_singleton.mp hc
    cases closing <;> exact ⟨rfl, rfl⟩
  | removing x e stage =>
    cases List.mem_singleton.mp hc
    cases stage with
    | closing stage =>
      cases h
      cases closing <;> exact ⟨rfl, rfl⟩
    | _ => cases h
  | returned => cases hc
  | _ => cases h

/-- The closing begins with its first stage. -/
theorem closing?_step (a : Answers τ) (s : Gateway τ) (h : stage.closing? = none)
    {closing : Closing} (h' : (stage.step a s).1.closing? = some closing)
    (hc : c ∈ (Activity.accept listened stage).connections) : closing = .marking := by
  cases stage with
  | entering | upgrading | returned => cases hc
  | handshaking x | configuring x =>
    simp only [Accept.step] at h'
    split at h' <;> cases h'
    rfl
  | failing => cases h
  | inserting x =>
    simp only [Accept.step] at h'
    split at h' <;> cases h'
  | serving x stage =>
    cases stage with
    | done result => cases result <;> cases h'
    | _ => cases h'
  | removing x e stage =>
    cases stage with
    | closing => cases h
    | removing => cases h'
    | deregistering =>
      cases h'
      rfl

/-- Nobody marks a handler before it has come to that. -/
theorem marking_notMem (h : stage.closing? = none) : .marking c ∉ stage.duties := by
  intro hd
  cases stage with
  | entering | upgrading | returned => cases hd
  | handshaking x | configuring x | inserting x => cases List.mem_singleton.mp hd
  | failing => cases h
  | serving x stage =>
    rcases Serve.mem_duties hd with ⟨-, h⟩ | ⟨-, h⟩ | h | h
    · simp at h
    all_goals cases h
  | removing x e stage =>
    cases stage with
    | closing => cases h
    | _ => cases List.mem_singleton.mp hd

theorem affairs_accept (a : Answers τ) (s : Gateway τ) (listened : Bool) (stage : Accept) :
    (s.advance a (.accept listened stage)).2.affairs = (stage.step a s).2.affairs := by
  simp only [advance]
  split <;> rfl

/-! ## Live connections and the poller -/

theorem not_live_step (a : Answers τ) (hc : c ∈ (Activity.accept listened stage).connections)
    (hout : stage.isOut = true → c ∉ s.live) (hout' : (stage.step a s).1.isOut = true) :
    c ∉ (stage.step a s).2.live := by
  have hkept (hout : c ∉ s.live) (hd : .incoming c ∉ stage.duties) : c ∉ (stage.step a s).2.live :=
    fun hlive =>
    ((stage.movesOnce_step a s).mem_live hlive).elim hout hd
  cases stage with
  | entering | upgrading | returned => cases hc
  | handshaking x =>
    have hmove :
        MovesOnce s 0 (s.withHandler x (.error (.connectionGone x)) Handler.handshake).2 0 :=
      movesOnce_withHandler Handler.go_handshake fun _ => .nothing 0
    have hlive : c ∉ (s.withHandler x (.error (.connectionGone x)) Handler.handshake).2.live :=
      fun hlive =>
      (hmove.mem_live hlive).elim (hout rfl) (Multiset.notMem_zero _)
    simp only [Accept.step]
    split <;> exact hlive
  | configuring x =>
    simp only [Accept.step]
    split <;> exact hout rfl
  | failing x e stage => exact hkept (hout rfl) fun hd => by cases Closing.isTeardown_of_mem hd
  | inserting x =>
    simp only [Accept.step] at hout'
    split at hout' <;> cases hout'
  | serving x stage =>
    cases stage with
    | done result => cases result <;> cases hout'
    | _ => cases hout'
  | removing x e stage =>
    have hteardown : .incoming c ∉ stage.duties x := fun hd => by
      cases Teardown.isTeardown_of_mem hd
    cases stage with
    | removing =>
      cases List.mem_singleton.mp hc
      show c ∉ (Teardown.step a s c .removing).2.live
      simp only [Teardown.step]
      split <;> rename_i hlive
      · simp
      · simpa [isLive] using hlive
    | deregistering => exact hkept (hout rfl) hteardown
    | closing stage => exact hkept (hout rfl) hteardown

/-- The hand-over to the poller is the only way to it. -/
theorem not_registered_step (a : Answers τ) (hc : (c : Descriptor) ∉ s.affairs.registered)
    (h : (stage.step a s).1.handsOver = false) :
    (c : Descriptor) ∉ (stage.step a s).2.affairs.registered := by
  intro hregistered
  have hd := ((stage.movesOnce_step a s).mem_registered hregistered).resolve_left hc
  have hstage : stage = .serving c (.rearming .enrolling) := by
    cases stage with
    | entering | upgrading | returned => cases hd
    | handshaking | configuring | inserting => cases List.mem_singleton.mp hd
    | failing x e stage => cases Closing.isTeardown_of_mem hd
    | removing x e stage => cases Teardown.isTeardown_of_mem hd
    | serving x stage =>
      cases stage with
      | draining => cases List.mem_singleton.mp hd
      | done result =>
        cases result with
        | ok => cases hd
        | error => cases List.mem_singleton.mp hd
      | rearming stage =>
        cases stage with
        | done result =>
          cases result with
          | ok => cases hd
          | error => cases List.mem_singleton.mp hd
        | enrolling =>
          cases List.mem_singleton.mp hd
          rfl
        | _ => cases List.mem_singleton.mp hd
  subst hstage
  simp only [Accept.step, Serve.step, Rearm.step] at h hregistered
  split at h <;> rename_i hpoller
  · cases h
  · rename_i p
    rw [hpoller] at hregistered
    dsimp only at hregistered
    split at h <;> rename_i henrol
    · cases h
    · -- who is refused is not registered
      rw [henrol] at hregistered
      cases Poller.enrol_error henrol
      rw [registered_eq hpoller] at hc
      exact hc hregistered

/-! ## Closing -/

/-- How far the handler of the connection is, when a closing of its own has got to `closing?`. As
long as nobody else closes it, it is open before and its subscriptions are ended after. -/
structure Closes (s : Gateway τ) (c : Nat) (quiet : Prop) (closing? : Option Closing) : Prop where
  closed : ∀ stage ∈ closing?, stage ≠ .marking → s.affairs.isClosed c = true
  opened : quiet → (∀ stage ∈ closing?, stage = .marking) → s.affairs.isClosed c = false
  idle : quiet → ∀ stage ∈ closing?, stage = .disconnecting ∨ stage = .closed → s.Idle c

omit [Severable τ] in
theorem Closes.mono {quiet quiet' : Prop} {closing? : Option Closing} (hquiet : quiet' → quiet)
    (h : s.Closes c quiet closing?) : s.Closes c quiet' closing? :=
  ⟨h.closed, fun hq => h.opened (hquiet hq), fun hq => h.idle (hquiet hq)⟩

omit [Severable τ] in
theorem Closes.congr {s' : Gateway τ} (haffairs : s'.affairs = s.affairs) {quiet : Prop}
    {closing? : Option Closing} (h : s.Closes c quiet closing?) : s'.Closes c quiet closing? := by
  refine ⟨?_, ?_, fun hquiet stage hstage hlate => ?_⟩
  · rw [haffairs]
    exact h.closed
  · rw [haffairs]
    exact h.opened
  · rw [Idle, haffairs]
    exact h.idle hquiet stage hstage hlate

/-- A closing that nobody else has begun goes through all its stages. -/
theorem Closes.step (hs : s.WellNumbered) (hcollected : s.Collected)
    (horder : s.affairs.InOrder s.duties) (hknown : s.affairs.book? c ≠ none) {quiet : Prop}
    {closing : Closing} (h : s.Closes c quiet (some closing)) (a : Answers τ) :
    (closing.step a s c).2.Closes c quiet (some (closing.step a s c).1) := by
  have hmove := closing.movesOnce_step a s c
  have hmono (hmarked : closing ≠ .marking) : (closing.step a s c).2.affairs.isClosed c = true :=
    hmove.isClosed (h.closed closing rfl hmarked)
  obtain ⟨g, hg⟩ := handler?_of_book? hknown
  have hid := handler?_id hg
  have hbook : s.affairs.isClosed c = g.closed := isClosed_of_closed? (by rw [closed?, hg]; rfl)
  cases closing with
  | marking =>
    have haffairs := affairs_put (h := g.markClosed.2) hg (by
      rw [← hid]
      exact congrArg Handler.Books.id g.books_markClosed)
    have hclosed : (Closing.step a s c .marking).2.affairs.isClosed c = true := by
      rw [Closing.step, withHandler_eq hg]
      show (s.put g.markClosed.2).affairs.isClosed c = true
      rw [haffairs, Affairs.isClosed, Affairs.book?_setBook_self, g.books_markClosed]
      rfl
    have hnext : (Closing.step a s c .marking).1 = if g.closed then .closed
        else .unsubscribing := by
      rw [Closing.step, withHandler_eq hg, Handler.markClosed]
      cases g.closed <;> rfl
    refine ⟨fun _ _ _ => hclosed, fun _ hall => ?_, fun hq st hst hlate => ?_⟩
    · have hmarking := hall _ rfl
      rw [hnext] at hmarking
      split at hmarking <;> cases hmarking
    · -- the handler was open, so the closing is not over yet
      have hopen := h.opened hq fun _ hst => (Option.mem_some_iff.mp hst).symm
      rw [hbook] at hopen
      rw [hnext, hopen] at hst
      cases hst
      rcases hlate with hlate | hlate <;> cases hlate
  | unsubscribing =>
    refine ⟨fun _ _ _ => hmono (fun h => by cases h), fun _ hall => ?_, fun _ st hst hlate => ?_⟩
    · cases hall _ rfl
    · cases hst
      rcases hlate with hlate | hlate <;> cases hlate
  | forgetting =>
    refine ⟨fun _ _ _ => hmono (fun h => by cases h), fun _ hall => ?_, fun _ _ _ _ k hk op => ?_⟩
    · cases hall _ rfl
    · have haffairs := affairs_put (h := g.forgetAll) hg hid
      have hafter : (Closing.step a s c .forgetting).2 = s.put g.forgetAll := by
        rw [Closing.step, modifyHandler, hg]
      rw [hafter, haffairs, Affairs.book?_setBook_self, g.books_forgetAll] at hk
      cases hk
      rfl
  | disconnecting =>
    refine ⟨fun _ _ _ => hmono (fun h => by cases h), fun _ hall => ?_, fun hq _ _ _ => ?_⟩
    · cases hall _ rfl
    · refine (h.idle hq _ rfl (.inl rfl)).movesOnce hs horder hmove fun p hp => ?_
      rw [tasks_closing a hcollected] at hp
      exact .inl hp
  | closed => exact h

/-! ## Alone with the connection -/

/-- Task `i` takes the connection in and has got to `stage` without handing it over. Nobody else
deals with the connection. -/
structure Attends (s : Gateway τ) (i c : Nat) (stage : Accept) (quiet : Prop) : Prop where
  known : s.affairs.book? c ≠ none
  alone : ∀ p ∈ s.tasks, c ∈ p.2.connections → p.1 = i
  unregistered : (c : Descriptor) ∉ s.affairs.registered
  out : stage.isOut = true → c ∉ s.live
  closes : s.Closes c quiet stage.closing?

omit [Severable τ] in
theorem Attends.mono {quiet quiet' : Prop} (hquiet : quiet' → quiet)
    (h : s.Attends i c stage quiet) : s.Attends i c stage quiet' :=
  ⟨h.known, h.alone, h.unregistered, h.out, h.closes.mono hquiet⟩

section

variable (hs : s.WellNumbered) (hcollected : s.Collected) (horder : s.affairs.InOrder s.duties)
  {quiet : Prop}
  (h : s.Attends i c stage quiet)

include hs hcollected horder h

/-- Nobody comes to deal with the connection, unless the task itself begins such a one. -/
theorem Attends.alone_happen (hwatched : s.affairs.Watched s.duties) {e : Event τ}
    (hown : ∀ a t, e = .go i a → s.task? i = some t →
      ∀ p ∈ (s.advance a t).2.tasks, p ∈ s.tasks ∨ c ∉ p.2.connections) :
    ∀ p ∈ (s.happen e).tasks, c ∈ p.2.connections → p.1 = i := by
  intro p hp hc
  rcases mem_tasks_happen_cases hs hcollected hp with
    hp | (⟨listened, heq⟩ | ⟨timeoutMs, -, heq⟩) | ⟨j, a, t, rfl, ht, -, rfl | ⟨hbegun, hnew⟩⟩
  · exact h.alone p hp hc
  · rw [heq] at hc
    cases hc
  · rw [heq] at hc
    cases hc
  · rcases s.connections_advance a t hc with hc | ⟨d, hd, hdc⟩ | ⟨-, hnew⟩
    · exact h.alone (j, t) (mem_tasks_of_task? ht) hc
    · obtain ⟨x, rfl, -⟩ := hwatched d hd
      have hx : x = c := by simpa using hdc
      exact absurd (hx ▸ hd) h.unregistered
    · have hle : c ≤ s.lastConnection := horder.bound c h.known
      omega
  · obtain ⟨x, hx, hbegins⟩ := (begun_advance a hcollected t hbegun).resolve_left hnew
    cases hbegins.mem_connections hc
    cases h.alone (j, t) (mem_tasks_of_task? ht) hx
    exact absurd hc ((hown a t rfl ht p hbegun).resolve_left hnew)

omit horder in
/-- What others do, they do to others. -/
theorem Attends.movesOnce_stranger (hsweeps : quiet → ∀ p ∈ s.tasks, c ∉ p.2.sweeps) {e : Event τ}
    (he : ∀ a, e ≠ .go i a) :
    ∃ ds ds' s', MovesOnce s ds s' ds' ∧ (s.happen e).affairs = s'.affairs ∧ .incoming c ∉ ds ∧
      .enrolling c ∉ ds ∧
      (quiet → .marking c ∉ ds) ∧ ∀ p ∈ s'.tasks, p ∈ s.tasks ∨ ¬p.2.Begun c := by
  by_cases hgo : ∃ j a, e = .go j a
  · obtain ⟨j, a, rfl⟩ := hgo
    have hgo : s.happen (.go j a) = s.step j a := rfl
    rcases s.step_cases j a with hstep | ⟨t, ht, -, -, hstep⟩
    · exact ⟨0, 0, s, .idle rfl rfl rfl, by rw [hgo,
        hstep], by simp, by simp, by simp, fun p hp => .inl hp⟩
    · have hmem := mem_tasks_of_task? ht
      have hstranger : c ∉ t.connections := fun hc => by
        cases h.alone (j, t) hmem hc
        exact he a rfl
      have hduty {d : Duty} (hd : d ∈ t.duties) (hdc : d.connection? = some c)
          (hne : ∀ stage, d ≠ .resolving stage) : c ∈ t.sweeps ∧ d.isTeardown = true :=
        (Activity.deals_of_mem hd hdc hne).resolve_left hstranger
      refine ⟨t.duties, _, (s.advance a t).2, s.movesOnce_advance a t, ?_, ?_, ?_, ?_, ?_⟩
      · rw [hgo, hstep, affairs_setTask]
      · intro hd
        cases (hduty hd rfl nofun).2
      · intro hd
        cases (hduty hd rfl nofun).2
      · intro hquiet hd
        exact hsweeps hquiet (j, t) hmem (hduty hd rfl nofun).1
      · intro p hp
        refine (begun_advance a hcollected t hp).imp_right ?_
        rintro ⟨x, hx, hbegun⟩ hc
        exact hstranger (hbegun.unique hc ▸ hx)
  · refine ⟨0, 0, s.happen e, (s.happen_cases e).resolve_left hgo,
      rfl, by simp, by simp, by simp, fun p hp => ?_⟩
    rcases mem_tasks_happen_cases hs hcollected hp with
      hp | (⟨listened, heq⟩ | ⟨timeoutMs, -, heq⟩) | ⟨j, a, t, rfl, -⟩
    · exact .inl hp
    · refine .inr fun hbegun => ?_
      rw [heq] at hbegun
      cases hbegun
    · refine .inr fun hbegun => ?_
      rw [heq] at hbegun
      cases hbegun
    · exact absurd ⟨j, a, rfl⟩ hgo

/-- The task is left alone by others. -/
theorem Attends.others (hwatched : s.affairs.Watched s.duties)
    (hsweeps : quiet → ∀ p ∈ s.tasks, c ∉ p.2.sweeps) {e : Event τ} (he : ∀ a, e ≠ .go i a) :
    (s.happen e).Attends i c stage quiet := by
  have halone := h.alone_happen hs hcollected horder hwatched (e := e) fun a t hgo =>
    absurd hgo (he a)
  obtain ⟨ds, ds', s', hmove, haffairs, hincoming, henrolling, hmarking, hbegun⟩ :=
    h.movesOnce_stranger hs hcollected hsweeps he
  have hclosed : (s.happen e).affairs.isClosed c = s'.affairs.isClosed c := by rw [haffairs]
  refine ⟨?_, halone, ?_, fun hout hlive => ?_, ?_, ?_, ?_⟩
  · rw [haffairs]
    exact hmove.knows h.known
  · rw [haffairs]
    exact fun hc => (hmove.mem_registered hc).elim h.unregistered henrolling
  · have hlives : (s.happen e).live = s'.live := congrArg Affairs.live haffairs
    rw [hlives] at hlive
    exact (hmove.mem_live hlive).elim (h.out hout) hincoming
  · intro st hst hmarked
    rw [hclosed]
    exact hmove.isClosed (h.closes.closed st hst hmarked)
  · intro hquiet hall
    rw [hclosed, Bool.eq_false_iff]
    intro hafter
    rcases hmove.isClosed_cases hafter with hbefore | hd
    · rw [h.closes.opened hquiet hall] at hbefore
      cases hbefore
    · exact hmarking hquiet hd
  · intro hquiet st hst hlate k hk
    have hidle := (h.closes.idle hquiet st hst hlate).movesOnce hs horder hmove hbegun
    exact hidle k (haffairs ▸ hk)

/-- The task goes on. -/
theorem Attends.own (hwatched : s.affairs.Watched s.duties) {a : Answers τ}
    (ht : s.task? i = some (.accept listened stage))
    (hc : c ∈ (Activity.accept listened stage).connections)
    (hstep : s.happen (.go i a) = (s.advance a (.accept listened stage)).2.setTask i
      (.accept listened (stage.step a s).1))
    (hnot : (stage.step a s).1.handsOver = false) :
    (s.happen (.go i a)).Attends i c (stage.step a s).1 quiet := by
  have hmove := stage.movesOnce_step a s
  have haffairs : (s.happen (.go i a)).affairs = (stage.step a s).2.affairs := by
    rw [hstep, affairs_setTask]
    exact affairs_accept a s listened stage
  have halone := h.alone_happen hs hcollected horder hwatched
      (e := .go i a) fun a' t hgo ht' p hp => by
    cases hgo
    cases ht.symm.trans ht'
    rw [tasks_accept] at hp
    rcases begun_accept a hcollected stage hp with hp | ⟨x, stage, rfl, job, -, heq⟩ |
      ⟨x, rfl, hpolling, -⟩
    · exact .inl hp
    · refine .inr fun hc => ?_
      rw [heq] at hc
      cases hc
    · -- without a poller the connection is handed over to a reader
      simp only [Accept.step] at hnot
      split at hnot <;> rename_i hpos
      · have hpos : s.isPolling = true := hpos
        rw [hpolling] at hpos
        cases hpos
      · cases hnot
  refine ⟨?_, halone, ?_, fun hout => ?_, ?_⟩
  · rw [haffairs]
    exact hmove.knows h.known
  · rw [haffairs]
    exact not_registered_step a h.unregistered hnot
  · have hlives : (s.happen (.go i a)).live = (stage.step a s).2.live :=
      congrArg Affairs.live haffairs
    rw [hlives]
    exact not_live_step a hc h.out hout
  · refine Closes.congr haffairs ?_
    cases hclosing : stage.closing? with
    | some closing =>
      obtain ⟨hstate, hnext⟩ := step_of_closing? a s hc hclosing
      rw [hstate, hnext]
      exact Closes.step hs hcollected horder h.known (hclosing ▸ h.closes) a
    | none =>
      have hfirst {st : Closing} (hst : st ∈ (stage.step a s).1.closing?) : st = .marking :=
        closing?_step a s hclosing hst hc
      refine ⟨fun st hst hmarked => absurd (hfirst hst) hmarked, fun hquiet _ => ?_,
        fun _ st hst hlate => ?_⟩
      · have hopen := h.closes.opened hquiet (by simp [hclosing])
        rw [Bool.eq_false_iff]
        intro hafter
        rcases hmove.isClosed_cases hafter with hbefore | hd
        · rw [hopen] at hbefore
          cases hbefore
        · exact marking_notMem hclosing hd
      · rw [hfirst hst] at hlate
        rcases hlate with hlate | hlate <;> cases hlate

end

omit [Severable τ] in
/-- A client has been upgraded, and nobody knows it yet. -/
theorem attends_upgraded (horder : s.affairs.InOrder s.duties)
    (hle : ∀ p ∈ s.tasks, ∀ x ∈ p.2.connections, x ≤ s.lastConnection)
    (hregistered : ∀ d ∈ s.affairs.registered, ∃ x : Nat, d = (x : Descriptor) ∧
      s.affairs.book? x ≠ none)
    (transport : τ) (subprotocol : Subprotocol) (t : Activity) (quiet : Prop) :
    ((s.takeIn transport subprotocol).2.setTask i t).Attends i (s.lastConnection + 1)
      (.handshaking (s.lastConnection + 1)) quiet := by
  have hnew : s.affairs.book? (s.lastConnection + 1) = none := by
    by_contra hknown
    have hbound : s.lastConnection + 1 ≤ s.lastConnection := horder.bound _ hknown
    omega
  have haffairs := (affairs_setTask (s.takeIn transport subprotocol).2 i t).trans
    (affairs_takeIn s transport subprotocol)
  have hbook : ((s.takeIn transport subprotocol).2.setTask i t).affairs.book?
      (s.lastConnection + 1) =
      some ⟨s.lastConnection + 1, false, fun _ => none, 0, [], []⟩ := by
    rw [haffairs]
    show (s.affairs.book? (s.lastConnection + 1)).or _ = _
    rw [hnew]
    exact if_pos rfl
  refine ⟨?_, ?_, ?_, fun _ => ?_, ?_, ?_, ?_⟩
  · rw [hbook]
    exact Option.some_ne_none _
  · intro p hp hc
    rcases mem_setTask hp with hi | hp
    · exact hi
    · have hbound := hle p hp _ hc
      omega
  · rw [haffairs]
    intro hmem
    obtain ⟨x, hx, hknown⟩ := hregistered _ hmem
    cases Int.ofNat_inj.mp hx
    exact hknown hnew
  · show s.lastConnection + 1 ∉ ((s.takeIn transport subprotocol).2.setTask i t).affairs.live
    rw [haffairs]
    exact fun hlive => horder.live _ hlive hnew
  · intro st hst
    cases hst
  · intro _ _
    rw [Affairs.isClosed, hbook]
    rfl
  · intro _ st hst
    cases hst

/-- Task `i` has built a handler for the connection. It has handed the connection over, has failed,
or goes on, and in the last two cases it is alone with the connection. -/
def Stands (s : Gateway τ) (i c : Nat) (quiet : Prop) : Prop :=
  ∃ listened stage, s.task? i = some (.accept listened stage) ∧ (stage.handsOver = true ∨
    ((∃ e, stage = .returned (.error e)) ∨ c ∈ (Activity.accept listened stage).connections) ∧
      s.Attends i c stage quiet)

/-- Only a task that takes a connection in goes on doing so. -/
theorem eq_accept_of_advance {a : Answers τ} {t : Activity}
    (h : (s.advance a t).1 = .accept listened stage) :
    ∃ before, t = .accept listened before ∧ stage = (before.step a s).1 := by
  cases t with
  | accept listened before =>
    cases h
    exact ⟨before, rfl, rfl⟩
  | drain | reader | polling | shutdown => cases h
  | leftover | listener | resolver =>
    rw [advance] at h
    split at h <;> cases h

theorem eq_shutdown_of_advance {a : Answers τ} {t : Activity} {timeoutMs : Nat} {stage : Shutdown}
    (h : (s.advance a t).1 = .shutdown timeoutMs stage) :
    ∃ before, t = .shutdown timeoutMs before := by
  cases t with
  | shutdown timeoutMs before =>
    cases h
    exact ⟨before, rfl⟩
  | accept | drain | reader | polling => cases h
  | leftover | listener | resolver =>
    rw [advance] at h
    split at h <;> cases h

/-- No task shuts the gateway down, and none has the connection on a list of whom to take down. -/
def Spares (s : Gateway τ) (c : Nat) : Prop :=
  ∀ p ∈ s.tasks, (∀ timeoutMs stage, p.2 ≠ .shutdown timeoutMs stage) ∧ c ∉ p.2.sweeps

/-- Only a shutdown or a poller that is closed makes anybody take everybody down. -/
theorem Spares.happen (h : s.Spares c) (hs : s.WellNumbered) (hcollected : s.Collected)
    {e : Event τ} (he : ∀ timeoutMs, e ≠ .shutdown timeoutMs)
    (hopen : (s.happen e).poller.any Poller.closed = false) : (s.happen e).Spares c := by
  intro p hp
  rcases mem_tasks_happen_cases hs hcollected hp with
    hp | (⟨listened, heq⟩ | ⟨timeoutMs, heq, -⟩) | ⟨j, a, t, -, ht, hstep, rfl | ⟨hbegun, hnew⟩⟩
  · exact h p hp
  · rw [heq]
    exact ⟨fun timeoutMs stage h => (by cases h), List.not_mem_nil⟩
  · exact absurd heq (he timeoutMs)
  · obtain ⟨hother, hout⟩ := h _ (mem_tasks_of_task? ht)
    refine ⟨fun timeoutMs stage heq => ?_, fun hc => ?_⟩
    · obtain ⟨before, hbefore⟩ := eq_shutdown_of_advance heq
      exact hother timeoutMs before hbefore
    · rcases sweeps_advance a s t hc with ⟨timeoutMs, stage, heq⟩ | hc | hclosed
      · exact hother timeoutMs stage heq
      · exact hout hc
      · rw [hstep, poller_setTask, hclosed] at hopen
        cases hopen
  · obtain ⟨x, -, hbegun⟩ := (begun_advance a hcollected t hbegun).resolve_left hnew
    exact ⟨hbegun.ne_shutdown, hbegun.sweeps ▸ List.not_mem_nil⟩

omit [Severable τ] in
/-- The connection for which a task has built a handler and which it takes in. -/
def taking? (s : Gateway τ) (i : Nat) : Option Nat :=
  match s.task? i with
  | some (.accept listened stage) => (Activity.accept listened stage).connection?
  | _ => none

omit [Severable τ] in
/-- The error with which a task has failed to take a connection in. -/
def failure? (s : Gateway τ) (i : Nat) : Option GatewayError :=
  match s.task? i with
  | some (.accept _ (.returned (.error e))) => some e
  | _ => none

omit [Severable τ] in
theorem taking?_eq_some_iff : s.taking? i = some c ↔ ∃ listened stage,
    s.task? i = some (.accept listened stage) ∧
      c ∈ (Activity.accept listened stage).connections := by
  rw [taking?]
  constructor
  · intro h
    split at h <;> rename_i ht
    · exact ⟨_, _, ht, Option.mem_toList.mpr h⟩
    · cases h
  · rintro ⟨listened, stage, ht, hc⟩
    rw [ht]
    exact Option.mem_toList.mp hc

omit [Severable τ] in
theorem task?_of_failure? {e : GatewayError} (h : s.failure? i = some e) :
    ∃ listened, s.task? i = some (.accept listened (.returned (.error e))) := by
  rw [failure?] at h
  split at h <;> rename_i ht
  · cases h
    exact ⟨_, ht⟩
  · cases h

namespace Run

variable {r : Run τ} {n : Nat}

/-- Task `i` has built a handler for the connection in order to take it in. -/
def TakesIn (r : Run τ) (n i c : Nat) : Prop := r.Once n (·.taking? i = some c)

/-- Nobody had the connection on a list of whom to take down, be it for a shutdown or because the
poller has failed. -/
def Unlisted (r : Run τ) (n c : Nat) : Prop := ∀ m ≤ n, ∀ p ∈ (r.state m).tasks, c ∉ p.2.sweeps

theorem Unlisted.mono {m : Nat} (h : r.Unlisted n c) (hmn : m ≤ n) : r.Unlisted m c := fun k hk =>
  h k (Nat.le_trans hk hmn)

/-- The handler has just been built. -/
theorem attends_first (hold : ¬r.TakesIn n i c)
    (ht : (r.state (n + 1)).task? i = some (.accept listened stage))
    (hc : c ∈ (Activity.accept listened stage).connections) (quiet : Prop) :
    (r.state (n + 1)).Attends i c stage quiet := by
  have hnever {stage : Accept} (ht : (r.state n).task? i = some (.accept listened stage))
      (hc : c ∈ (Activity.accept listened stage).connections) : False :=
    hold (.now (taking?_eq_some_iff.mpr ⟨listened, stage, ht, hc⟩))
  rcases mem_tasks_happen_cases (r.wellNumbered n) (r.collected n) (mem_tasks_of_task? ht) with
    hmem | (⟨listened, heq⟩ | ⟨timeoutMs, -, heq⟩) | ⟨j, a, t, -, ht', hstep, heq | ⟨hbegun, hnew⟩⟩
  · exact (hnever (task?_of_mem (r.wellNumbered n) hmem) hc).elim
  · cases heq
    cases hc
  · cases heq
  · obtain ⟨rfl, hgone⟩ := Prod.mk.inj heq
    obtain ⟨before, rfl, rfl⟩ := eq_accept_of_advance hgone.symm
    rcases connection?_accept a (r.state n) listened before hc with hc | ⟨rfl, rfl⟩
    · exact (hnever ht' hc).elim
    · cases hupgrade : a.upgrade with
      | error e =>
        simp only [Accept.step, hupgrade] at hc
        cases hc
      | ok client =>
        have hstage : (Accept.step a (r.state n) .upgrading).1 = .handshaking
            ((r.state n).lastConnection + 1) := by
          simp only [Accept.step, hupgrade]
          rfl
        have hstate : r.state (n + 1) = ((r.state n).takeIn client.1 client.2).2.setTask i
            (.accept listened (.handshaking ((r.state n).lastConnection + 1))) := by
          refine Eq.trans hstep ?_
          simp only [advance, Accept.step, hupgrade]
          cases listened <;> rfl
        rw [hstate, hstage]
        exact attends_upgraded (r.inOrder n) (fun p hp x hx => r.connections_le n hp hx)
          (fun d hd => r.known_of_registered n hd) client.1 client.2 _ quiet
  · obtain ⟨x, -, hbegun⟩ := (begun_advance a (r.collected n) t hbegun).resolve_left hnew
    cases hbegun

/-- What a task has got to that takes the connection in stays true, whoever goes on. -/
theorem next_stands (h : (r.state n).Stands i c (r.Unlisted n c)) :
    (r.state (n + 1)).Stands i c (r.Unlisted (n + 1) c) := by
  obtain ⟨listened, stage, ht, hstands⟩ := h
  have hquiet (h : r.Unlisted (n + 1) c) : r.Unlisted n c := h.mono (Nat.le_succ n)
  by_cases hgo : ∃ a, r.event n = .go i a
  · obtain ⟨a, he⟩ := hgo
    have hnext : r.state (n + 1) = (r.state n).happen (.go i a) := congrArg (r.state n).happen he
    rcases (r.state n).step_cases i a with hstep | ⟨t, ht', hover, -, hstep⟩
    · rw [hnext.trans hstep]
      exact ⟨listened, stage, ht, hstands.imp_right (And.imp_right (Attends.mono hquiet))⟩
    · cases ht.symm.trans ht'
      have hstep : (r.state n).happen (.go i a) =
          ((r.state n).advance a (.accept listened stage)).2.setTask i
          (.accept listened (stage.step a (r.state n)).1) := hstep
      have htask : (r.state (n + 1)).task? i =
          some (.accept listened (stage.step a (r.state n)).1) := by
        refine task?_of_mem (r.wellNumbered (n + 1)) ?_
        rw [hnext, hstep]
        exact mem_tasks_setTask (r.wellNumbered n) ht a _
      refine ⟨listened, _, htask, ?_⟩
      rcases hstands with hover' | ⟨⟨e, rfl⟩ | hc, hattends⟩
      · exact .inl (handsOver_step a (r.state n) hover')
      · cases hover
      · by_cases hnot : (stage.step a (r.state n)).1.handsOver = true
        · exact .inl hnot
        · refine .inr ⟨(connections_step a (r.state n) hc).resolve_left hnot, ?_⟩
          rw [hnext]
          exact (hattends.mono hquiet).own (r.wellNumbered n) (r.collected n)
            (r.inOrder n) (r.watched n)
            ht hc hstep (Bool.eq_false_iff.mpr hnot)
  · have hother (a : Answers τ) : r.event n ≠ .go i a := fun he => hgo ⟨a, he⟩
    refine ⟨listened, stage, task?_happen (r.wellNumbered n) hother ht,
      hstands.imp_right (And.imp_right ?_)⟩
    intro hattends
    exact (hattends.mono hquiet).others (r.wellNumbered n) (r.collected n)
      (r.inOrder n) (r.watched n)
      (fun hquiet => hquiet n (Nat.le_succ n)) hother

/-- **Up to the hand-over a task is alone with the connection that it takes in.** -/
theorem attends (h : r.TakesIn n i c) : (r.state n).Stands i c (r.Unlisted n c) := by
  induction n with
  | zero =>
    obtain ⟨listened, stage, ht, -⟩ := taking?_eq_some_iff.mp (once_zero_iff.mp h)
    have hmem : (i, _) ∈ r.first.tasks := mem_tasks_of_task? ht
    rcases (create?_cases r.created).1 with ⟨htasks, -⟩ | ⟨htasks, -⟩ <;> rw [htasks] at hmem
    · cases hmem
    · cases List.mem_singleton.mp hmem
  | succ n ih =>
    by_cases hold : r.TakesIn n i c
    · exact next_stands (ih hold)
    · obtain ⟨listened, stage, ht, hc⟩ :=
        taking?_eq_some_iff.mp ((once_succ_iff.mp h).resolve_left hold)
      exact ⟨listened, stage, ht, .inr ⟨.inr hc, attends_first hold ht hc _⟩⟩

/-! ## What is left behind -/

/-- A task that takes a connection in has done nothing else before. -/
theorem accept_of_le {m : Nat} (hmn : m ≤ n) {t : Activity} (ht : (r.state m).task? i = some t) :
    ∃ t', (r.state n).task? i = some t' ∧
      ∀ listened stage, t' = .accept listened stage → ∃ listened stage,
        t = .accept listened stage := by
  induction n, hmn using Nat.le_induction with
  | base => exact ⟨t, ht, fun listened stage heq => ⟨listened, stage, heq⟩⟩
  | succ n hmn ih =>
    obtain ⟨u, hu, hkind⟩ := ih
    by_cases hgo : ∃ a, r.event n = .go i a
    · obtain ⟨a, he⟩ := hgo
      have hnext : r.state (n + 1) = (r.state n).step i a := congrArg (r.state n).happen he
      rcases (r.state n).step_cases i a with hstep | ⟨u', hu', -, -, hstep⟩
      · exact ⟨u, by rwa [hnext, hstep], hkind⟩
      · cases hu.symm.trans hu'
        refine ⟨((r.state n).advance a u).1, ?_, fun listened stage heq => ?_⟩
        · refine task?_of_mem (r.wellNumbered (n + 1)) ?_
          rw [hnext, hstep]
          exact mem_tasks_setTask (r.wellNumbered n) hu a _
        · obtain ⟨before, hbefore, -⟩ := eq_accept_of_advance heq
          exact hkind listened before hbefore
    · exact ⟨u, task?_happen (r.wellNumbered n) (fun a he => hgo ⟨a, he⟩) hu, hkind⟩

/-- Before there is a handler, nothing is changed. -/
theorem affairs_of_not_takesIn (hnone : ∀ c, ¬r.TakesIn n i c)
    (ht : (r.state n).task? i = some (.accept listened stage)) {m : Nat} (hm : m < n)
    {a : Answers τ} (he : r.event m = .go i a) :
    (r.state (m + 1)).affairs = (r.state m).affairs := by
  have hnever {k : Nat} (hk : k ≤ n) {c : Nat} (hc : (r.state k).taking? i = some c) : False :=
    hnone c ⟨k, hk, hc⟩
  have hnext : r.state (m + 1) = (r.state m).step i a := congrArg (r.state m).happen he
  rcases (r.state m).step_cases i a with hstep | ⟨t, ht', hover, -, hstep⟩
  · rw [hnext, hstep]
  · obtain ⟨u, hu, hkind⟩ := accept_of_le hm.le ht'
    cases ht.symm.trans hu
    obtain ⟨listened, before, rfl⟩ := hkind _ _ rfl
    have hafter : (r.state (m + 1)).task? i =
        some (.accept listened (before.step a (r.state m)).1) := by
      refine task?_of_mem (r.wellNumbered (m + 1)) ?_
      rw [hnext, hstep]
      exact mem_tasks_setTask (r.wellNumbered m) ht' a _
    rw [hnext, hstep, affairs_setTask, affairs_accept]
    have hbefore {c : Nat} (hc : c ∈ (Activity.accept listened before).connections) : False :=
      hnever hm.le (taking?_eq_some_iff.mpr ⟨listened, before, ht', hc⟩)
    cases before with
    | entering =>
      simp only [Accept.step]
      split
      · rfl
      · split <;> rfl
    | upgrading =>
      cases hupgrade : a.upgrade with
      | error e =>
        simp only [Accept.step, hupgrade]
        rfl
      | ok client =>
        simp only [Accept.step, hupgrade] at hafter
        refine (hnever hm (taking?_eq_some_iff.mpr ⟨listened, _, hafter,
          List.mem_singleton_self _⟩)).elim
    | returned => cases hover
    | _ => exact (hbefore (List.mem_singleton_self _)).elim

/-- A poller that is open now was never closed. -/
theorem open_before {m : Nat} (hmn : m ≤ n)
    (hopen : ∀ p, (r.state n).poller = some p → p.closed = false) :
    (r.state m).poller.any Poller.closed = false := by
  cases hq : (r.state m).poller with
  | none => rfl
  | some q =>
    have hpolling : (r.state n).isPolling = (r.state m).isPolling :=
      (r.polling_const n).trans (r.polling_const m).symm
    rw [isPolling, isPolling, hq] at hpolling
    obtain ⟨p, hp⟩ := Option.isSome_iff_exists.mp hpolling
    obtain ⟨q', hq', hbefore⟩ := r.open_of_le hmn hp (hopen p hp)
    cases hq.symm.trans hq'
    exact hbefore

/-- Without a shutdown, and while the poller is open, nobody takes everybody down. -/
theorem unlisted_of_open (hcalm : ∀ m < n, ∀ timeoutMs, r.event m ≠ .shutdown timeoutMs)
    (hopen : ∀ p, (r.state n).poller = some p → p.closed = false) : r.Unlisted n c := by
  have hspares (m : Nat) (hm : m ≤ n) : (r.state m).Spares c := by
    induction m with
    | zero =>
      intro p hp
      have hp : p ∈ r.first.tasks := hp
      rcases (create?_cases r.created).1 with ⟨htasks, -⟩ | ⟨htasks, -⟩ <;> rw [htasks] at hp
      · cases hp
      · cases List.mem_singleton.mp hp
        exact ⟨fun timeoutMs stage h => (by cases h), List.not_mem_nil⟩
    | succ m ih =>
      exact (ih (Nat.le_of_succ_le hm)).happen (r.wellNumbered m) (r.collected m) (hcalm m hm)
        (open_before hm hopen)
  exact fun m hm p hp => (hspares m hm p hp).2

/-- Who has returned has nothing left to do, so nobody is left to tell the engine that the client
has left. -/
theorem departed_of_returned {e : GatewayError} {quiet : Prop}
    (ht : (r.state n).task? i = some (.accept listened (.returned (.error e))))
    (h : (r.state n).Attends i c (.returned (.error e)) quiet) (hunlisted : r.Unlisted n c) :
    (r.state n).affairs.departures c = 1 := by
  have hclosed : (r.state n).affairs.isClosed c = true := h.closes.closed .closed rfl nofun
  have hnone : .departing c ∉ (r.state n).duties := fun hd => by
    obtain ⟨⟨j, t⟩, hp, hd⟩ := exists_mem_duties hd
    rcases Activity.deals_of_mem hd rfl nofun with hc | ⟨hc, -⟩
    · cases h.alone _ hp hc
      cases ht.symm.trans (task?_of_mem (r.wellNumbered n) hp)
      cases hc
    · exact hunlisted n le_rfl _ hp hc
  have htold := r.told n c
  rw [Affairs.Told, Multiset.count_eq_zero.mpr hnone, hclosed] at htold
  exact htold

/-- **A connection that cannot be taken in leaves nothing behind.** When a task has returned with an
error and had built no handler, it has changed nothing. Otherwise the connection is neither live nor
registered, and its handler is closed. The engine was told once that the client has left, or is
about to be told, and not again. If nobody had the connection on a list of whom to take down, as is
the case without a shutdown as long as the poller is open, then no subscription runs and the engine
was told already. -/
theorem failed_accept_leaves_nothing (r : Run τ) (n i : Nat) (e : GatewayError)
    (h : (r.state n).failure? i = some e) :
    ((∀ c, ¬r.TakesIn n i c) → ∀ m < n, ∀ a, r.event m = .go i a →
      (r.state (m + 1)).affairs = (r.state m).affairs) ∧
    ∀ c, r.TakesIn n i c → c ∉ (r.state n).live ∧
      (c : Descriptor) ∉ (r.state n).affairs.registered ∧
      (r.state n).affairs.departures c + (r.state n).duties.count (.departing c) = 1 ∧
      ((∀ m < n, ∀ timeoutMs, r.event m ≠ .shutdown timeoutMs) →
        (∀ p, (r.state n).poller = some p → p.closed = false) → r.Unlisted n c) ∧
      ∃ g, (r.state n).handler? c = some g ∧ g.closed = true ∧
        (r.Unlisted n c → g.subscriptions = [] ∧ (r.state n).affairs.departures c = 1) := by
  obtain ⟨listened, ht⟩ := task?_of_failure? h
  refine ⟨fun hnone m hm a he => affairs_of_not_takesIn hnone ht hm he, fun c htakes => ?_⟩
  obtain ⟨listened', stage, ht', hstands⟩ := attends htakes
  cases ht.symm.trans ht'
  obtain ⟨-, hattends⟩ := hstands.resolve_left nofun
  obtain ⟨g, hg⟩ := handler?_of_book? hattends.known
  have hclosed : (r.state n).affairs.isClosed c = true := hattends.closes.closed .closed rfl nofun
  have htold := r.told n c
  rw [Affairs.Told, hclosed] at htold
  refine ⟨hattends.out rfl, hattends.unregistered, htold, unlisted_of_open, g, hg, ?_,
    fun hunlisted => ⟨?_, ?_⟩⟩
  · rw [← hclosed, isClosed_of_closed? (by rw [closed?, hg]; rfl)]
  · exact Handler.subscriptions_eq_nil
      (hattends.closes.idle hunlisted .closed rfl (.inr rfl) g.books (by simp [affairs, hg]))
  · exact departed_of_returned ht hattends hunlisted

/-- A client that subscribes and then ends the conversation, all of it together with the
handshake. -/
def quitter : WebSocket where
  inbox := [.ofText "\x7b\"type\":\"connection_init\"\x7d",
    .ofText "\x7b\"id\":\"1\",\"type\":\"start\"\x7d",
    .ofText "\x7b\"type\":\"connection_terminate\"\x7d"]

/-- Task 2 takes the client in. The subscription has started and its call to the engine is not yet
made when the task gets to the end of the conversation. -/
def quitRun : Run WebSocket :=
  .ofScript {} created?_default <| List.flatten
    [[.arrive true, .go 2 {}, .go 2 { upgrade := .ok (quitter, .legacy) }], Event.turns 2 13]

theorem failed_accept_leaves_nothing_quitRun :
    (quitRun.state 7).taking? 2 = some 1 ∧ (quitRun.state 7).runs ⟨"1", ⟨1, 1⟩⟩ = true ∧
      (quitRun.state 7).live = [1] ∧
    (quitRun.state 16).failure? 2 = some .clientTerminated ∧
    1 ∉ (quitRun.state 16).live ∧ (1 : Descriptor) ∉ (quitRun.state 16).affairs.registered ∧
    ∃ g, (quitRun.state 16).handler? 1 = some g ∧ g.closed = true ∧ g.subscriptions = [] ∧
      (quitRun.state 16).affairs.departures 1 = 1 := by
  have htaking : (quitRun.state 7).taking? 2 = some 1 := by decide +kernel
  have hfailure : (quitRun.state 16).failure? 2 = some .clientTerminated := by decide +kernel
  have hcalm (m : Nat) (hm : m < 16) (timeoutMs : Nat) : quitRun.event m ≠ .shutdown timeoutMs := by
    interval_cases m <;> nofun
  have hopen (p : Poller) (hp : (quitRun.state 16).poller = some p) : p.closed = false := by
    have hany : (quitRun.state 16).poller.any Poller.closed = false := by decide +kernel
    rwa [hp] at hany
  obtain ⟨hlive, hregistered, -, hunlisted, g, hg, hclosed, hquiet⟩ :=
    (quitRun.failed_accept_leaves_nothing 16 2 .clientTerminated hfailure).2 1
      ⟨7, by decide, htaking⟩
  obtain ⟨hidle, hdeparted⟩ := hquiet (hunlisted hcalm hopen)
  exact ⟨htaking, by decide +kernel, by decide +kernel, hfailure, hlive, hregistered, g, hg,
    hclosed, hidle, hdeparted⟩

/-- Task 2 takes the same client in. The subscription has started when a wait of the poller fails
for good. The polling takes everybody down and has just marked the handler closed when task 2 gets
to the end of the conversation: the closing is left to the polling, and task 2 returns. -/
def sweptRun : Run WebSocket :=
  .ofScript {} created?_default <| List.flatten
    [[.arrive true, .go 2 {}, .go 2 { upgrade := .ok (quitter, .legacy) }], Event.turns 2 4,
      [.go 1 {}, .go 1 { ready := .always (.error ⟨.notConnected, "wait failed"⟩) }],
      Event.turns 1 3, Event.turns 2 6]

/-- **A task can fail ahead of a taking down that has begun.** There is no shutdown, but the poller
has failed: the task has returned with an error while a subscription still runs, and the engine is
not yet told. -/
theorem fails_ahead_of_sweep :
    (∀ m < 18, ∀ timeoutMs, sweptRun.event m ≠ .shutdown timeoutMs) ∧
    (sweptRun.state 18).failure? 2 = some .clientTerminated ∧ sweptRun.TakesIn 18 2 1 ∧
    (sweptRun.state 18).runs ⟨"1", ⟨1, 1⟩⟩ = true ∧
      (sweptRun.state 18).affairs.departures 1 = 0 := by
  have hcalm (m : Nat) (hm : m < 18) (timeoutMs : Nat) :
      sweptRun.event m ≠ .shutdown timeoutMs := by
    interval_cases m <;> nofun
  exact ⟨hcalm, by decide +kernel, ⟨7, by decide, by decide +kernel⟩, by decide +kernel,
    by decide +kernel⟩

end Run
end Gateway
end StreamGateway
