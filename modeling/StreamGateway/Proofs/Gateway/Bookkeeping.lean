import StreamGateway.Proofs.Gateway.Runs

/-! # Who is known, and who has left

Whoever is live or is owed something has a handler, and every handler has handed on its work
(`Affairs.InOrder`). Closing a handler and telling the engine that its client has left are two
steps, and every handler takes the second one exactly once after the first (`Affairs.Told`). -/
namespace StreamGateway

open Handler (Books Go)

variable {a a' b : Affairs} {ds ds' : Multiset Duty} {jobs : List Duty} {c : Nat}

/-! ## Books -/

/-- The connection that a duty is about. -/
def Duty.connection? : Duty → Option Nat
  | .incoming c | .draining c | .checking c | .testing c | .enrolling c | .rechecking c | .undoing c
  | .removal c | .deregistering c | .marking c | .departing c | .forgetting c | .reported c =>
    some c
  | .resolving stage => stage.connection?

/-- What a move with the new duties `new` can do to the books of a connection. -/
inductive Rewrites (a a' : Affairs) (new : List Duty) (c : Nat) : Prop where
  | leaves (hbook : a'.book? c = a.book? c)
  | opens (b : Books) (hnone : a.book? c = none) (hbook : a'.book? c = some b)
      (hlast : a'.lastConnection = c) (hid : b.id = c) (hclosed : b.closed = false)
      (hjobs : b.submitted = []) (hnumber : ∀ op, b.number? op = none)
  | closes (b : Books) (hold : a.book? c = some b) (hclosed : b.closed = false)
      (hbook : a'.book? c = some { b with closed := true }) (howed : .departing c ∈ new)
  | clears (b : Books) (hold : a.book? c = some b)
      (hbook : a'.book? c = some { b with number? := fun _ => none })

theorem Settles.rewrites {d : Duty} {new : List Duty} (h : Settles a d a' new) (c : Nat) :
    Rewrites a a' new c := by
  cases h with
  | marks d b hbook hclosed =>
    by_cases hc : c = d
    · subst hc
      exact .closes b hbook hclosed (by simp [Affairs.mapBook, hbook]) (List.mem_singleton_self _)
    · exact .leaves (by simp [Affairs.mapBook, hc])
  | forgets d =>
    by_cases hc : c = d
    · subst hc
      cases hbook : a.book? c with
      | none => exact .leaves (by simp [Affairs.mapBook, hbook])
      | some b => exact .clears b hbook (by simp [Affairs.mapBook, hbook])
    · exact .leaves (by simp [Affairs.mapBook, hc])
  | _ => exact .leaves rfl

theorem Begins.rewrites {new : List Duty} (h : Begins a a' new) (c : Nat) :
    Rewrites a a' new c := by
  cases h with
  | takesIn b hid hclosed hjobs hnumber =>
    cases hbook : a.book? c with
    | some b' => exact .leaves (by simp [hbook])
    | none =>
      by_cases hc : c = a.lastConnection + 1
      · exact .opens b hbook (by subst hc; simp [hbook]) hc.symm (hid.trans hc.symm)
          hclosed hjobs hnumber
      · exact .leaves (by simp [hbook, hc])
  | _ => exact .leaves rfl

theorem Fires.rewrites (h : Fires a ds a' ds') (c : Nat) :
    ∃ new, Rewrites a a' new c ∧ ∀ d ∈ new, d ∈ ds' := by
  obtain ⟨new, ⟨d, -, h⟩ | h, hnew⟩ := h.settles_or_begins
  · exact ⟨new, h.rewrites c, hnew⟩
  · exact ⟨new, h.rewrites c, hnew⟩

theorem Fires.lastConnection_le (h : Fires a ds a' ds') : a.lastConnection ≤ a'.lastConnection := by
  obtain ⟨new, ⟨d, -, h⟩ | h, -⟩ := h.settles_or_begins
  · cases h <;> exact Nat.le_refl _
  · cases h with
    | takesIn => exact Nat.le_succ _
    | _ => exact Nat.le_refl _

/-- What becomes of the books of a connection when a handler goes on. -/
theorem Handles.book?_cases (h : Handles a b jobs) (c : Nat) :
    b.book? c = a.book? c ∨
      ∃ k k', a.book? c = some k ∧ Go k k' ∧ b.book? c = some { k' with submitted := [] } := by
  cases h with
  | nobody => exact Or.inl rfl
  | goes d k k' hbook hgo =>
    by_cases hc : c = d
    · subst hc
      exact Or.inr ⟨k, k', hbook, hgo, a.book?_setBook_self c _⟩
    · exact Or.inl (a.book?_setBook_of_ne _ hc)

theorem Handles.live (h : Handles a b jobs) : b.live = a.live := by cases h <;> rfl

theorem Handles.polling (h : Handles a b jobs) : b.polling = a.polling := by cases h <;> rfl

theorem Handles.registered (h : Handles a b jobs) : b.registered = a.registered := by
  cases h <;> rfl

theorem Handles.history (h : Handles a b jobs) : b.history = a.history := by cases h <;> rfl

theorem Handles.lastConnection (h : Handles a b jobs) : b.lastConnection = a.lastConnection := by
  cases h <;> rfl

theorem Handles.eq_resolving (h : Handles a b jobs) {d : Duty} (hd : d ∈ jobs) :
    ∃ stage, d = .resolving stage := by
  cases h with
  | nobody => cases hd
  | goes c k k' hbook hgo =>
    obtain ⟨job, -, rfl⟩ := List.mem_map.mp hd
    exact ⟨.ofJob job, rfl⟩

/-- Handlers hand out calls of the engine and nothing else. -/
theorem Handles.mem_of_mem_add (h : Handles a b jobs) {d : Duty}
    (hd : d ∈ ds + (jobs : Multiset Duty)) (hne : ∀ stage, d ≠ .resolving stage) : d ∈ ds := by
  refine (Multiset.mem_add.mp hd).resolve_right fun hd => ?_
  obtain ⟨stage, heq⟩ := h.eq_resolving hd
  exact hne stage heq

theorem Handles.count_add (h : Handles a b jobs) {d : Duty} (hne : ∀ stage, d ≠ .resolving stage) :
    (ds + (jobs : Multiset Duty)).count d = ds.count d := by
  rw [Multiset.count_add, Nat.add_eq_left, Multiset.count_eq_zero]
  intro hd
  obtain ⟨stage, heq⟩ := h.eq_resolving hd
  exact hne stage heq

/-- What is left of a duty is about the same connection. -/
theorem Settles.connection? {d e : Duty} {new : List Duty} (h : Settles a d a' new) (he : e ∈ new) :
    e.connection? = d.connection? := by
  cases h with
  | leaves | skipsTest | skipsEnrolling | stays | undoes | marked | forgets | misses | keeps | stops
  | unsubscribes | reports | dismisses => cases he
  | _ => rw [List.mem_singleton.mp he] <;> rfl

/-- Duties that are taken on are about connections that are live or new. -/
theorem Begins.connection? {d : Duty} {new : List Duty} (h : Begins a a' new) (hd : d ∈ new)
    (hc : d.connection? = some c) : c ∈ a.live ∨ a'.book? c ≠ none := by
  cases h with
  | nothing | empties => cases hd
  | takesIn b =>
    cases List.mem_singleton.mp hd
    cases hc
    refine Or.inr ?_
    cases hbook : a.book? (a.lastConnection + 1) <;> simp [hbook]
  | condemnsAll =>
    obtain ⟨x, hx, rfl⟩ := List.mem_map.mp hd
    cases hc
    exact Or.inl hx
  | finds x hlive =>
    cases List.mem_singleton.mp hd
    cases hc
    exact Or.inl hlive

/-- Whoever is live after a move was live before or was taken in. -/
theorem Fires.mem_live (h : Fires a ds a' ds') (hc : c ∈ a'.live) :
    c ∈ a.live ∨ .incoming c ∈ ds := by
  obtain ⟨new, ⟨d, hd, h⟩ | h, -⟩ := h.settles_or_begins
  · cases h with
    | inserts x hpolling | insertsReader x hpolling =>
      refine (List.mem_append.mp hc).imp_right fun hx => ?_
      rwa [List.mem_singleton.mp hx]
    | removes x => exact Or.inl (List.mem_of_mem_filter hc)
    | _ => exact Or.inl hc
  · cases h <;> exact Or.inl hc

/-- Everybody who is live or is owed something has books, and they are in order. -/
structure Affairs.InOrder (a : Affairs) (ds : Multiset Duty) : Prop where
  book : ∀ c b, a.book? c = some b → b.id = c ∧ b.submitted = []
  bound : ∀ c, a.book? c ≠ none → c ≤ a.lastConnection
  live : ∀ c ∈ a.live, a.book? c ≠ none
  owed : ∀ d ∈ ds, ∀ c, d.connection? = some c → a.book? c ≠ none

theorem Handles.knows (h : Handles a b jobs) (hc : a.book? c ≠ none) : b.book? c ≠ none := by
  rcases h.book?_cases c with heq | ⟨k, k', -, -, heq⟩
  · rwa [heq]
  · simp [heq]

theorem Fires.knows (h : Fires a ds a' ds') (hc : a.book? c ≠ none) : a'.book? c ≠ none := by
  obtain ⟨new, heq | ⟨k, -, heq, -⟩ | ⟨k, -, -, heq, -⟩ | ⟨k, -, heq⟩, -⟩ := h.rewrites c
  · rwa [heq]
  all_goals simp [heq]

/-- The work of a handler is about its own connection. -/
theorem connection_of_go {k k' : Books} (hgo : Go k k') (hjobs : k.submitted = []) {job : Job}
    (hjob : job ∈ k'.submitted) : job.id.connection = k.id := by
  rcases hgo.change with ⟨-, -, h, -⟩ | ⟨request, hid, -, -, -, -, h, -⟩ | ⟨op, -, -, -, h, -⟩ |
    ⟨op, jobs, -, -, h, hunsubscribe, -⟩
  · simp [h, hjobs] at hjob
  · rw [h, hjobs, List.nil_append] at hjob
    rw [List.mem_singleton.mp hjob]
    exact congrArg SubscriptionId.connection hid
  · simp [h, hjobs] at hjob
  · rw [h, hjobs, List.nil_append] at hjob
    obtain ⟨n, rfl, -⟩ := hunsubscribe job hjob
    rfl

namespace Affairs

theorem InOrder.handles (h : a.InOrder ds) (hh : Handles a b jobs) : b.InOrder (ds + jobs) where
  book c k hk := by
    rcases hh.book?_cases c with heq | ⟨old, new, hold, hgo, heq⟩
    · exact h.book c k (heq ▸ hk)
    · rw [heq] at hk
      cases hk
      exact ⟨hgo.id.trans (h.book c old hold).1, rfl⟩
  bound c hc := by
    rw [hh.lastConnection]
    refine h.bound c ?_
    rcases hh.book?_cases c with heq | ⟨old, new, hold, -, -⟩
    · rwa [← heq]
    · simp [hold]
  live c hc := hh.knows (h.live c (hh.live ▸ hc))
  owed d hd c hc := by
    rcases Multiset.mem_add.mp hd with hd | hd
    · exact hh.knows (h.owed d hd c hc)
    · -- a handler only hands out calls about its own connection
      cases hh with
      | nobody => cases hd
      | goes x k k' hbook hgo =>
        obtain ⟨job, hjob, rfl⟩ := List.mem_map.mp hd
        obtain ⟨hid, hjobs⟩ := h.book x k hbook
        have hjc : job.id.connection = c := by cases job <;> exact Option.some.inj hc
        have hx : c = x := by rw [← hjc, connection_of_go hgo hjobs hjob, hid]
        rw [hx, book?_setBook_self]
        exact Option.some_ne_none _

theorem InOrder.fires (h : a.InOrder ds) (hf : Fires a ds a' ds') : a'.InOrder ds' where
  book c k hk := by
    obtain ⟨new, heq | ⟨b, -, heq, -, hid, -, hjobs, -⟩ | ⟨b, hold, -, heq, -⟩ |
        ⟨b, hold, heq⟩, -⟩ :=
      hf.rewrites c
    · exact h.book c k (heq ▸ hk)
    all_goals
      rw [heq] at hk
      cases hk
    · exact ⟨hid, hjobs⟩
    · exact h.book c b hold
    · exact h.book c b hold
  bound c hc := by
    obtain ⟨new, heq | ⟨b, -, -, hlast, -⟩ | ⟨b, hold, -⟩ | ⟨b, hold, -⟩, -⟩ := hf.rewrites c
    · exact Nat.le_trans (h.bound c (heq ▸ hc)) hf.lastConnection_le
    · exact hlast.ge
    all_goals exact Nat.le_trans (h.bound c (by simp [hold])) hf.lastConnection_le
  live c hc := by
    rcases hf.mem_live hc with hlive | hincoming
    · exact hf.knows (h.live c hlive)
    · exact hf.knows (h.owed _ hincoming c rfl)
  owed d hd c hc := by
    rcases hf.stayed_or_arises hd with hd | ⟨e, new, he, hsettles, hd⟩ | ⟨new, hbegins, hd⟩
    · exact hf.knows (h.owed d hd c hc)
    · exact hf.knows (h.owed e he c (hsettles.connection? hd ▸ hc))
    · exact (hbegins.connection? hd hc).elim (fun hlive => hf.knows (h.live c hlive)) id

theorem InOrder.blank (polling : Bool) : (blank polling).InOrder 0 where
  book c k hk := by cases hk
  bound c hc := absurd rfl hc
  live c hc := by cases hc
  owed d hd := by simp at hd

/-! ## Departures -/

/-- The handler of the connection is closed. -/
def isClosed (a : Affairs) (c : Nat) : Bool := (a.book? c).any Books.closed

theorem isClosed_of_handles (h : Handles a b jobs) (c : Nat) : b.isClosed c = a.isClosed c := by
  rcases h.book?_cases c with heq | ⟨k, k', hk, hgo, heq⟩
  · rw [isClosed, isClosed, heq]
  · simp [isClosed, heq, hk, hgo.closed]

/-- A handler that is closed stays closed. -/
theorem isClosed_of_fires (h : Fires a ds a' ds') (hc : a.isClosed c = true) :
    a'.isClosed c = true := by
  obtain ⟨new, heq | ⟨k, hnone, -⟩ | ⟨k, -, -, heq, -⟩ | ⟨k, hold, heq⟩, -⟩ := h.rewrites c
  · rwa [isClosed, heq]
  · simp [isClosed, hnone] at hc
  · simp [isClosed, heq]
  · simpa [isClosed, heq, hold] using hc

/-- How often the engine was told that a client has left. -/
def departures (a : Affairs) (c : Nat) : Nat :=
  a.history.countP fun (call, _) => call = .unsubscribeClient c

/-- The engine has been told once, or is about to be, that the client of a closed handler has left;
it has not been told of any other. -/
def Told (a : Affairs) (ds : Multiset Duty) (c : Nat) : Prop :=
  a.departures c + ds.count (.departing c) = (a.isClosed c).toNat

theorem Told.of_same (h : a.Told ds c) (hhistory : a'.departures c = a.departures c)
    (hclosed : a'.isClosed c = a.isClosed c)
    (hcount : ds'.count (.departing c) = ds.count (.departing c)) : a'.Told ds' c := by
  rw [Told, hhistory, hclosed, hcount]
  exact h

theorem departures_append (a : Affairs) {call : EngineCall} (answer : Except EngineError Unit)
    (hcall : call ≠ .unsubscribeClient c) :
    { a with history := a.history ++ [(call, answer)] }.departures c = a.departures c := by
  simp [departures, hcall]

theorem Told.handles (h : a.Told ds c) (hh : Handles a b jobs) : b.Told (ds + jobs) c := by
  refine h.of_same ?_ (isClosed_of_handles hh c) (hh.count_add nofun)
  rw [departures, departures, hh.history]

theorem Told.settles {d : Duty} {new : List Duty} {rest : Multiset Duty}
    (horder : a.InOrder (d ::ₘ rest)) (h : a.Told (d ::ₘ rest) c) (hs : Settles a d a' new) :
    a'.Told (new + rest) c := by
  cases hs with
  | marks x k hbook hclosed =>
    by_cases hc : c = x
    · -- both sides grow by one: the handler is closed, and its departure is owed
      subst hc
      have hopen : a.isClosed c = false := by simp [isClosed, hbook, hclosed]
      have hmarked : (a.mapBook c fun b => { b with closed := true }).isClosed c = true := by
        simp [isClosed, mapBook, hbook]
      have hnone := h
      rw [Told, hopen, Multiset.count_cons_of_ne (by simp)] at hnone
      rw [Told, hmarked, Multiset.count_add, Multiset.coe_count, List.count_singleton_self,
        Nat.add_comm 1, ← Nat.add_assoc]
      exact congrArg (· + 1) hnone
    · exact h.of_same rfl (by simp [isClosed, mapBook, hc]) (by simp [hc])
  | departs x answer =>
    by_cases hc : c = x
    · -- what was owed is now in the history
      subst hc
      have hone :
          { a with
            history := a.history ++ [(EngineCall.unsubscribeClient c, answer)] }.departures c =
              a.departures c + 1 := by simp [departures]
      have hcount : (([.forgetting c] : List Duty) + rest : Multiset Duty).count (.departing c) =
          rest.count (.departing c) := by simp
      rw [Told, Multiset.count_cons_self] at h
      rw [Told, hone, hcount, Nat.add_right_comm]
      exact h
    · exact h.of_same (a.departures_append answer (by simpa using Ne.symm hc)) rfl (by simp [hc])
  | forgets x =>
    refine h.of_same rfl ?_ (by simp)
    by_cases hc : c = x
    · subst hc
      cases hbook : a.book? c <;> simp [isClosed, mapBook, hbook]
    · simp [isClosed, mapBook, hc]
  | starts | refuses | stops | unsubscribes =>
    exact h.of_same (a.departures_append _ (by simp)) rfl (by simp)
  | dismisses stage x hx hbook =>
    exact absurd hbook (horder.owed (.resolving stage) (Multiset.mem_cons_self _ rest) x hx)
  | _ => exact h.of_same rfl rfl (by simp)

theorem Told.begins {new : List Duty} (h : a.Told ds c) (hb : Begins a a' new) :
    a'.Told (new + ds) c := by
  cases hb with
  | takesIn k hid hclosed hjobs hnumber =>
    refine h.of_same rfl ?_ (by simp)
    by_cases hc : c = a.lastConnection + 1
    · subst hc
      cases hbook : a.book? (a.lastConnection + 1) <;> simp [isClosed, hbook, hclosed]
    · simp [isClosed, hc]
  | condemnsAll =>
    refine h.of_same rfl rfl ?_
    rw [Multiset.count_add, Nat.add_eq_right, Multiset.count_eq_zero]
    simp
  | _ => exact h.of_same rfl rfl (by simp)

theorem Told.fires (horder : a.InOrder ds) (h : a.Told ds c) (hf : Fires a ds a' ds') :
    a'.Told ds' c := by
  cases hf with
  | settles hs rest => exact h.settles horder hs
  | begins hb rest => exact h.begins hb

end Affairs

namespace Gateway.Run

variable {τ : Type} [Severable τ]

theorem inOrder (r : Run τ) (n : Nat) : (r.state n).affairs.InOrder (r.state n).duties := by
  induction n with
  | zero =>
    rw [r.affairs_zero, r.duties_zero]
    exact .blank _
  | succ n ih =>
    obtain ⟨b, jobs, hhandles, hfires⟩ := r.moves n
    exact (ih.handles hhandles).fires hfires

/-- **What holds at first and survives every move holds at every moment.** -/
theorem always (r : Run τ) {P : Affairs → Multiset Duty → Prop}
    (hfirst : ∀ polling, P (.blank polling) 0)
    (hhandles : ∀ {a ds b jobs}, a.InOrder ds → P a ds → Handles a b jobs →
      P b (ds + (jobs : List Duty)))
    (hfires : ∀ {a ds a' ds'}, a.InOrder ds → P a ds → Fires a ds a' ds' → P a' ds') (n : Nat) :
    P (r.state n).affairs (r.state n).duties := by
  induction n with
  | zero =>
    rw [r.affairs_zero, r.duties_zero]
    exact hfirst _
  | succ n ih =>
    obtain ⟨b, jobs, hh, hf⟩ := r.moves n
    exact hfires ((r.inOrder n).handles hh) (hhandles (r.inOrder n) ih hh) hf

/-- **Every handler is closed once, and the engine hears of it once.** -/
theorem told (r : Run τ) (n c : Nat) : (r.state n).affairs.Told (r.state n).duties c :=
  r.always (P := fun a ds => a.Told ds c) (fun _ => rfl) (fun _ h hh => h.handles hh)
    (fun horder h hf => h.fires horder hf) n

end Gateway.Run
end StreamGateway
