import Mathlib.Data.Finset.Card
import Mathlib.Data.List.Rotate
import StreamGateway.Proofs.Poller.Histories

/-! # What a wait reports

A wait reports connections that are registered and ready, each once, and as many as it may
(`Poller.wait_reports`). A list backend learns of all that are ready and cuts a window out of them,
taken as a circle, at a cursor that moves on by the length of the window; a kernel is asked for no
more than a buffer holds. As long as the same connections are ready and the cursor does not
overflow, the windows follow each other around the circle, so that nobody waits longer than one
round (`Poller.rounds_reach_everybody`). -/
namespace StreamGateway

/-- How the system answers while the connections in `ready` can be read. Of those that are handed
over, in any order, it marks exactly these. Into a buffer it fills some of these, each once, and as
many as there are places; nothing is known of a buffer without places. -/
structure Readiness.Tells (system : Readiness) (ready : Finset Descriptor) : Prop where
  marks : ∀ conns : List Descriptor, ∃ listed : List Descriptor, listed.Perm conns ∧
    system.marks conns = .ok (listed.filter (· ∈ ready))
  fills : ∀ places : Nat, 1 ≤ places → ∃ filled : List Descriptor,
    system.fills places = .ok filled ∧ filled.Nodup ∧ (∀ d ∈ filled, d ∈ ready) ∧
      filled.length = min places ready.card

namespace Poller

/-- Whatever is called, no connection is registered twice. -/
theorem nodup_performAll {p : Poller} (hp : p.conns.Nodup) (calls : List Call) :
    (p.performAll calls).conns.Nodup := by
  induction calls generalizing p with
  | nil => exact hp
  | cons call calls ih =>
    have hone : (p.perform call).2.conns.Nodup := by
      by_cases hrefuses : p.Refuses call
      · obtain ⟨d, -, -, hafter⟩ := hrefuses.strands
        rw [hafter]
        exact hp.filter _
      · exact (goes_perform hrefuses).nodup hp
    exact ih hone

theorem distinct_of_nodup {ds : List Descriptor} (h : ds.Nodup) : distinct ds = ds := by
  induction ds with
  | nil => rfl
  | cons d ds ih =>
    obtain ⟨hd, hds⟩ := List.nodup_cons.mp h
    rw [distinct, ih hds]
    congr 1
    refine List.filter_eq_self.mpr ?_
    intro x hx
    have hne : x ≠ d := by
      rintro rfl
      exact hd hx
    exact decide_eq_true hne

theorem mem_distinct {ds : List Descriptor} {x : Descriptor} : x ∈ distinct ds ↔ x ∈ ds := by
  induction ds with
  | nil => rfl
  | cons d ds ih =>
    rw [distinct, List.mem_cons, List.mem_cons, List.mem_filter, ih]
    by_cases hx : x = d <;> simp [hx]

/-! ## Windows -/

section

variable {cursor : UInt64} {most : Nat} {ready : List Descriptor}

theorem choose_of_le (h : ready.length ≤ most) : choose cursor most ready = (ready, cursor) :=
  if_pos h

/-- When there are too many, those are chosen that follow the cursor in the circle. -/
theorem choose_of_lt (h : most < ready.length) :
    choose cursor most ready = ((ready.rotate cursor.toNat).take most, cursor + .ofNat most) := by
  have hpos : 0 < ready.length := Nat.zero_lt_of_lt h
  have hturned : ready.rotate cursor.toNat =
      ready.drop (cursor.toNat % ready.length) ++ ready.take (cursor.toNat % ready.length) := by
    rw [← List.rotate_mod]
    exact List.rotate_eq_drop_append_take (Nat.mod_lt _ hpos).le
  rw [choose, if_neg (by omega), hturned]

/-- Every choice is made from the ready ones, each once, and is as large as it may be. -/
theorem choose_spec (cursor : UInt64) (most : Nat) (h : ready.Nodup) :
    (choose cursor most ready).1.Nodup ∧ (∀ d ∈ (choose cursor most ready).1, d ∈ ready) ∧
      (choose cursor most ready).1.length = min most ready.length := by
  rcases Nat.lt_or_ge most ready.length with hlt | hle
  · rw [choose_of_lt hlt]
    refine ⟨?_, ?_, ?_⟩
    · exact (List.nodup_rotate.mpr h).sublist (List.take_sublist _ _)
    · intro d hd
      exact List.mem_rotate.mp (List.mem_of_mem_take hd)
    · rw [List.length_take, List.length_rotate]
  · rw [choose_of_le hle]
    exact ⟨h, fun d hd => hd, (Nat.min_eq_right hle).symm⟩

end

/-! ## One wait -/

section

variable {p : Poller} {most : Nat} {system : Readiness} {answer : List Descriptor}

/-- A wait that the system answers reports what the backend has chosen, less repetitions and
strangers. -/
theorem wait_list (hopen : p.closed = false) (hbackend : p.backend = .pollList)
    (hmarks : system.marks p.conns = .ok answer) :
    p.wait most system =
      (.ok ((distinct (choose p.cursor (max 1 most) answer).1).filter p.conns.contains),
        { p with cursor := (choose p.cursor (max 1 most) answer).2 }, []) := by
  have hask : p.ask most system = .ok answer := by
    rw [ask, hbackend]
    exact hmarks
  rw [wait, if_neg (by simp [hopen]), hask, hbackend]

theorem wait_kernel (hopen : p.closed = false) (hbackend : p.backend ≠ .pollList)
    (hfills : system.fills (p.capacity most) = .ok answer) :
    p.wait most system = (.ok ((distinct answer).filter p.conns.contains), p, []) := by
  have hask : p.ask most system = .ok answer := by
    rw [← hfills, ask]
    split
    · contradiction
    · rfl
  rw [wait, if_neg (by simp [hopen]), hask]
  dsimp only
  split <;> rename_i hchosen
  · exact absurd hchosen hbackend
  · rfl

/-- What is chosen from registered connections, each once, is reported as it is. -/
theorem filter_distinct {chosen : List Descriptor} (hnodup : chosen.Nodup)
    (hchosen : ∀ d ∈ chosen, d ∈ p.conns) : (distinct chosen).filter p.conns.contains = chosen := by
  rw [distinct_of_nodup hnodup]
  refine List.filter_eq_self.mpr ?_
  intro d hd
  exact List.contains_iff_mem.mpr (hchosen d hd)

variable {ready : Finset Descriptor}

/-- The marked part of the registered connections is the ready set, in some order. -/
theorem exists_marked (hsystem : system.Tells ready) (hp : p.conns.Nodup)
    (hready : ∀ d ∈ ready, d ∈ p.conns) :
    ∃ marked, system.marks p.conns = .ok marked ∧ marked.Nodup ∧ (∀ d, d ∈ marked ↔ d ∈ ready) ∧
      marked.length = ready.card := by
  obtain ⟨listed, hperm, hmarks⟩ := hsystem.marks p.conns
  have hnodup : (listed.filter (· ∈ ready)).Nodup := (hperm.nodup_iff.mpr hp).filter _
  have hmem (d : Descriptor) : d ∈ listed.filter (· ∈ ready) ↔ d ∈ ready := by
    rw [List.mem_filter, decide_eq_true_eq]
    exact ⟨And.right, fun hd => ⟨hperm.mem_iff.mpr (hready d hd), hd⟩⟩
  refine ⟨_, hmarks, hnodup, hmem, ?_⟩
  rw [← List.toFinset_card_of_nodup hnodup]
  congr 1
  ext d
  rw [List.mem_toFinset, hmem]

/-- A list backend cuts what it reports out of the marked connections. -/
theorem wait_list_reports (hopen : p.closed = false) (hbackend : p.backend = .pollList)
    (hp : p.conns.Nodup) (most : Nat) (hready : ∀ d ∈ ready, d ∈ p.conns)
    (hsystem : system.Tells ready) :
    ∃ reported, (p.wait most system).1 = .ok reported ∧ reported.Nodup ∧
      (∀ d ∈ reported, d ∈ ready) ∧ reported.length = min (max 1 most) ready.card := by
  obtain ⟨marked, hmarks, hnodup, hmem, hcard⟩ := exists_marked hsystem hp hready
  obtain ⟨hchosen, hsub, hlength⟩ := choose_spec p.cursor (max 1 most) hnodup
  have hin (d : Descriptor) (hd : d ∈ (choose p.cursor (max 1 most) marked).1) : d ∈ ready :=
    (hmem d).mp (hsub d hd)
  refine ⟨(choose p.cursor (max 1 most) marked).1, ?_, hchosen, hin, ?_⟩
  · rw [wait_list hopen hbackend hmarks, filter_distinct hchosen fun d hd => hready d (hin d hd)]
  · rw [hlength, hcard]

/-- A kernel is given a buffer with at least one place, and what it fills in is reported. -/
theorem wait_kernel_reports (hopen : p.closed = false) (hbackend : p.backend ≠ .pollList)
    (most : Nat) (hready : ∀ d ∈ ready, d ∈ p.conns) (hsystem : system.Tells ready) :
    ∃ reported, (p.wait most system).1 = .ok reported ∧ reported.Nodup ∧
      (∀ d ∈ reported, d ∈ ready) ∧ reported.length = min (p.capacity most) ready.card := by
  have hplaces : 1 ≤ p.capacity most := Nat.le_max_left _ _
  obtain ⟨filled, hfills, hnodup, hin, hlength⟩ := hsystem.fills _ hplaces
  refine ⟨filled, ?_, hnodup, hin, hlength⟩
  rw [wait_kernel hopen hbackend hfills, filter_distinct hnodup fun d hd => hready d (hin d hd)]

end

/-- **A wait reports as many ready connections as it may.** On an open poller, whatever is
registered and whichever of these connections are ready, a wait succeeds. It reports registered
connections that are ready, each once: all of them, or as many as were asked for, and with a kernel
no more than the buffer size. So it reports somebody whenever somebody is ready. -/
theorem wait_reports {p : Poller} (hopen : p.closed = false) (hp : p.conns.Nodup) (most : Nat)
    {ready : Finset Descriptor} (hready : ∀ d ∈ ready, d ∈ p.conns) {system : Readiness}
    (hsystem : system.Tells ready) :
    ∃ reported, (p.wait most system).1 = .ok reported ∧ reported.Nodup ∧
      (∀ d ∈ reported, d ∈ p.conns ∧ d ∈ ready) ∧
      (p.backend = .pollList → reported.length = min (max 1 most) ready.card) ∧
      (p.backend ≠ .pollList →
        reported.length = min (max 1 (min (max 1 most) (max 1 p.bufferSize.toNat))) ready.card) ∧
      (ready.Nonempty → reported ≠ []) := by
  obtain ⟨reported, hwait, hnodup, hin, hlist, hkernel⟩ : ∃ reported,
      (p.wait most system).1 = .ok reported ∧ reported.Nodup ∧ (∀ d ∈ reported, d ∈ ready) ∧
        (p.backend = .pollList → reported.length = min (max 1 most) ready.card) ∧
        (p.backend ≠ .pollList → reported.length = min (p.capacity most) ready.card) := by
    by_cases hbackend : p.backend = .pollList
    · obtain ⟨reported, hwait, hnodup, hin, hlength⟩ :=
        wait_list_reports hopen hbackend hp most hready hsystem
      exact ⟨reported, hwait, hnodup, hin, fun _ => hlength, fun hother => absurd hbackend hother⟩
    · obtain ⟨reported, hwait, hnodup, hin, hlength⟩ :=
        wait_kernel_reports hopen hbackend most hready hsystem
      exact ⟨reported, hwait, hnodup, hin, fun hlist => absurd hlist hbackend, fun _ => hlength⟩
  refine ⟨reported, hwait, hnodup, fun d hd => ⟨hready d (hin d hd), hin d hd⟩, hlist, hkernel, ?_⟩
  intro hsome hnone
  have hpos := Finset.card_pos.mpr hsome
  rw [hnone, List.length_nil] at hlist hkernel
  by_cases hbackend : p.backend = .pollList
  · have hlength := hlist hbackend
    omega
  · have hlength := hkernel hbackend
    unfold capacity at hlength
    omega

/-- A poller at which four connections are registered, with room for two in a kernel's buffer. As
for a list, its cursor is about to overflow. -/
def crowdedPoller (backend : Backend) : Poller :=
  { backend, timeoutMs := 1000, bufferSize := 2
    cursor := 18446744073709551615 : Poller }.performAll
    ([3, 5, 7, 9].map fun d => .add d (.ok ()) (.ok ()))

/-- Three connections are ready. A list comes back in reverse. -/
def threeReady : Readiness where
  marks conns := .ok (conns.reverse.filter (· ∈ ({3, 7, 9} : Finset Descriptor)))
  fills places := .ok ([9, 3, 7].take places)

theorem tells_threeReady : threeReady.Tells {3, 7, 9} where
  marks conns := ⟨conns.reverse, List.reverse_perm conns, rfl⟩
  fills places _ := by
    have hthree : ([9, 3, 7] : List Descriptor).Nodup := by decide
    have hin : ∀ d ∈ ([9, 3, 7] : List Descriptor), d ∈ ({3, 7, 9} : Finset Descriptor) := by decide
    refine ⟨_, rfl, hthree.sublist (List.take_sublist _ _), ?_, List.length_take⟩
    intro d hd
    exact hin d (List.mem_of_mem_take hd)

/-- Both report two of the three: the list since two are asked for, the kernel since its buffer has
two places. -/
theorem wait_reports_crowdedPoller :
    (crowdedPoller .pollList).conns = [3, 5, 7, 9] ∧ (crowdedPoller .epoll).conns = [3, 5, 7, 9] ∧
      threeReady.Tells {3, 7, 9} ∧
      (∃ reported, ((crowdedPoller .pollList).wait 2 threeReady).1 = .ok reported ∧
        reported.Nodup ∧ (∀ d ∈ reported, d ∈ ({3, 7, 9} : Finset Descriptor)) ∧
        reported.length = 2) ∧
      ∃ reported, ((crowdedPoller .epoll).wait 4 threeReady).1 = .ok reported ∧
        reported.Nodup ∧ (∀ d ∈ reported, d ∈ ({3, 7, 9} : Finset Descriptor)) ∧
        reported.length = 2 := by
  have hnodup (backend : Backend) : (crowdedPoller backend).conns.Nodup :=
    nodup_performAll List.nodup_nil _
  obtain ⟨listed, hlisted, hlnodup, hlin, hllength, -⟩ :=
    wait_reports (p := crowdedPoller .pollList) (by decide) (hnodup _) 2
      (by decide) tells_threeReady
  obtain ⟨filled, hfilled, hfnodup, hfin, -, hflength, -⟩ :=
    wait_reports (p := crowdedPoller .epoll) (by decide) (hnodup _) 4 (by decide) tells_threeReady
  refine ⟨by decide, by decide, tells_threeReady, ⟨listed, hlisted, hlnodup, ?_, ?_⟩,
    filled, hfilled, hfnodup, ?_, ?_⟩
  · exact fun d hd => (hlin d hd).2
  · exact hllength (by decide)
  · exact fun d hd => (hfin d hd).2
  · exact hflength (by decide)

/-! ## Waiting again and again -/

/-- What a list backend chooses in several rounds with the same connections ready. -/
def rounds (cursor : UInt64) (most : Nat) (ready : List Descriptor) : Nat → List (List Descriptor)
  | 0 => []
  | n + 1 => (choose cursor most ready).1 :: rounds (choose cursor most ready).2 most ready n

/-- What several waits in a row report, if the system answers each in the same way. -/
def waits (p : Poller) (most : Nat) (system : Readiness) :
    Nat → List (Except PollerError (List Descriptor))
  | 0 => []
  | n + 1 => (p.wait most system).1 :: waits (p.wait most system).2.1 most system n

/-- Waits on a list report what its rounds choose. -/
theorem waits_list {p : Poller} (hopen : p.closed = false) (hbackend : p.backend = .pollList)
    {system : Readiness} {ready : List Descriptor} (hmarks : system.marks p.conns = .ok ready)
    (most n : Nat) :
    p.waits most system n = (rounds p.cursor (max 1 most) ready n).map fun chosen =>
      .ok ((distinct chosen).filter p.conns.contains) := by
  induction n generalizing p with
  | zero => rfl
  | succ n ih =>
    rw [waits, rounds, List.map_cons, wait_list hopen hbackend hmarks]
    congr 1
    exact ih hopen hbackend hmarks

section

variable {cursor : UInt64} {most n : Nat} {ready : List Descriptor}

/-- While the cursor does not overflow, each round begins where the one before has ended. -/
theorem rounds_eq (hmost : 1 ≤ most) (hmany : most < ready.length)
    (hfits : cursor.toNat + n * most ≤ UInt64.size) :
    rounds cursor most ready n =
      (List.range n).map fun j => (ready.rotate (cursor.toNat + j * most)).take most := by
  induction n generalizing cursor with
  | zero => rfl
  | succ n ih =>
    rw [rounds, choose_of_lt hmany, List.range_succ_eq_map, List.map_cons, List.map_map,
      Nat.zero_mul, Nat.add_zero]
    congr 1
    rw [Nat.succ_mul] at hfits
    cases n with
    | zero => rfl
    | succ n =>
      -- another round follows, so the cursor has room for this one
      rw [Nat.succ_mul] at hfits
      have hmoved : (cursor + .ofNat most).toNat = cursor.toNat + most := by
        rw [UInt64.toNat_add, UInt64.toNat_ofNat', Nat.add_mod_mod]
        apply Nat.mod_eq_of_lt
        simp only [UInt64.size] at hfits
        omega
      rw [ih (by rw [hmoved, Nat.succ_mul]; omega), hmoved]
      refine List.map_congr_left ?_
      intro j _
      rw [Function.comp_apply, Nat.succ_mul, Nat.add_assoc, Nat.add_comm most]

/-- From every point of a circle every other one is less than a full turn away. -/
theorem exists_offset {x : Nat} (hx : x < n) (start : Nat) : ∃ t < n, (t + start) % n = x := by
  have hturn : x + (n - start % n) + start = x + n * (start / n + 1) := by
    have hsplit := Nat.div_add_mod start n
    have hless := Nat.mod_lt start (Nat.zero_lt_of_lt hx)
    rw [Nat.mul_succ]
    omega
  refine ⟨(x + (n - start % n)) % n, Nat.mod_lt _ (Nat.zero_lt_of_lt hx), ?_⟩
  rw [Nat.mod_add_mod, hturn, Nat.add_mul_mod_self_left, Nat.mod_eq_of_lt hx]

/-- Who stands `t` places behind the cursor is chosen in round `t / most`. -/
theorem mem_window (hmost : 1 ≤ most) (hmany : most < ready.length) {x t : Nat}
    (hx : x < ready.length) (ht : (t + cursor.toNat) % ready.length = x) :
    ready[x] ∈ (ready.rotate (cursor.toNat + t / most * most)).take most := by
  have hplace : t % most < most := Nat.mod_lt t hmost
  have hsum : t % most + (cursor.toNat + t / most * most) = t + cursor.toNat := by
    have hsplit := Nat.div_add_mod t most
    rw [Nat.mul_comm] at hsplit
    omega
  have hlength : t % most < (ready.rotate (cursor.toNat + t / most * most)).length := by
    rw [List.length_rotate]
    omega
  refine List.mem_take_iff_getElem.mpr ⟨t % most, Nat.lt_min.mpr ⟨hplace, hlength⟩, ?_⟩
  rw [List.getElem_rotate]
  simp only [hsum, ht]

end

/-- **Nobody starves.** As long as the same connections are ready, in the same order, and more than
a wait may report, a list backend reports each of them within so many waits as it takes to report
that many connections; wherever the cursor stands at first, unless it overflows on the way. The
waits of a poller that has all of them registered, and is told of them, report them too. -/
theorem rounds_reach_everybody (cursor : UInt64) {most : Nat} (hmost : 1 ≤ most)
    {ready : List Descriptor} (hmany : most < ready.length)
    (hfits : cursor.toNat + (ready.length + most - 1) / most * most ≤ UInt64.size) :
    (∀ d, (∃ chosen ∈ rounds cursor most ready ((ready.length + most - 1) / most), d ∈ chosen) ↔
      d ∈ ready) ∧
    ∀ p : Poller, p.closed = false → p.backend = .pollList → p.cursor = cursor →
      (∀ d ∈ ready, d ∈ p.conns) →
      ∀ system : Readiness, system.marks p.conns = .ok ready →
      ∀ d, (∃ reported, .ok reported ∈ p.waits most system ((ready.length + most - 1) / most) ∧
        d ∈ reported) ↔ d ∈ ready := by
  have hrounds := rounds_eq hmost hmany hfits
  have hall (d : Descriptor) :
      (∃ chosen ∈ rounds cursor most ready ((ready.length + most - 1) / most), d ∈ chosen) ↔
        d ∈ ready := by
    constructor
    · rintro ⟨chosen, hchosen, hd⟩
      rw [hrounds] at hchosen
      obtain ⟨j, -, rfl⟩ := List.mem_map.mp hchosen
      exact List.mem_rotate.mp (List.mem_of_mem_take hd)
    · intro hd
      obtain ⟨x, hx, rfl⟩ := List.getElem_of_mem hd
      obtain ⟨t, ht, hplace⟩ := exists_offset hx cursor.toNat
      have hround : t / most < (ready.length + most - 1) / most := by
        have hsplit := Nat.div_add_mod (ready.length + most - 1) most
        have hless := Nat.mod_lt (ready.length + most - 1) hmost
        apply Nat.div_lt_of_lt_mul
        omega
      refine ⟨_, ?_, mem_window hmost hmany hx hplace⟩
      rw [hrounds]
      exact List.mem_map.mpr ⟨t / most, List.mem_range.mpr hround, rfl⟩
  refine ⟨hall, ?_⟩
  intro p hopen hbackend hcursor hregistered system hmarks d
  rw [waits_list hopen hbackend hmarks, hcursor, Nat.max_eq_right hmost]
  constructor
  · rintro ⟨reported, hreported, hd⟩
    obtain ⟨chosen, hchosen, heq⟩ := List.mem_map.mp hreported
    cases heq
    exact (hall d).mp ⟨chosen, hchosen, mem_distinct.mp (List.mem_of_mem_filter hd)⟩
  · intro hd
    obtain ⟨chosen, hchosen, hmem⟩ := (hall d).mpr hd
    refine ⟨_, List.mem_map.mpr ⟨chosen, hchosen, rfl⟩,
      List.mem_filter.mpr ⟨mem_distinct.mpr hmem, ?_⟩⟩
    exact List.contains_iff_mem.mpr (hregistered d hd)

/-- A cursor that overflows begins the circle anew before it has been around. -/
example : ¬∃ chosen ∈ rounds 18446744073709551615 1 [3, 5, 7] 3, (7 : Descriptor) ∈ chosen := by
  decide

/-- A poller whose cursor has room for three more rounds of two. -/
def brinkPoller : Poller :=
  { backend := .pollList, timeoutMs := 1000, bufferSize := 128, conns := [11, 9, 7, 5, 3]
    cursor := 18446744073709551610 }

theorem rounds_reach_everybody_brinkPoller :
    brinkPoller.cursor.toNat + 3 * 2 = UInt64.size ∧
      (∀ d, (∃ chosen ∈ rounds brinkPoller.cursor 2 [3, 5, 7, 9, 11] 3, d ∈ chosen) ↔
        d ∈ ([3, 5, 7, 9, 11] : List Descriptor)) ∧
      ∀ d, (∃ reported, .ok reported ∈ brinkPoller.waits 2 (.always (.ok [3, 5, 7, 9, 11])) 3 ∧
        d ∈ reported) ↔
        d ∈ ([3, 5, 7, 9, 11] : List Descriptor) := by
  have hmany : 2 < ([3, 5, 7, 9, 11] : List Descriptor).length := by decide
  have hreach := rounds_reach_everybody brinkPoller.cursor (by decide) hmany (by decide)
  exact ⟨by decide, hreach.1, hreach.2 brinkPoller rfl rfl rfl (by decide) _ rfl⟩

end Poller
end StreamGateway
