import StreamGateway.Gateway.Basic
import StreamGateway.Proofs.Settings.Layering
import StreamGateway.WebSocket.Connection

/-! # What a gateway can start with

Settings are checked for zeros and for nothing else, but there are also ceilings: the workers of a
pool must be counted, and the table of a poller must be laid out. A gateway that is to be larger is
not built at all. The ranges of the variables in the environment lie far below the ceilings, and so
do the defaults. A number in a settings file has no range, so settings without a zero start a
gateway exactly if the numbers that come from the file stay below the ceilings. -/
namespace StreamGateway

/-! ## Ceilings -/

namespace SocketSettings

/-- The largest value of a limit with which a gateway can be built, if there is one. The table of
connections is laid out only for a poller. -/
def ceiling? (ws : SocketSettings) : Limit → Option Nat
  | .maxConcurrentResolvers => some Pool.largest
  | .connectionBufferSize => if ws.enablePoller then some Poller.largestTable else none
  | _ => none

/-- No limit lies above its ceiling. -/
def Fits (ws : SocketSettings) : Prop := ∀ l ∈ Limit.all, ∀ n ∈ ws.ceiling? l, (l.get ws).toNat ≤ n

instance (ws : SocketSettings) : Decidable ws.Fits :=
  inferInstanceAs (Decidable (∀ l ∈ Limit.all, ∀ n ∈ ws.ceiling? l, (l.get ws).toNat ≤ n))

theorem fits_iff {ws : SocketSettings} :
    ws.Fits ↔ ws.maxConcurrentResolvers.toNat ≤ Pool.largest ∧
      (ws.enablePoller = true → ws.connectionBufferSize.toNat ≤ Poller.largestTable) := by
  constructor
  · intro h
    refine ⟨h .maxConcurrentResolvers (by decide) _ rfl, fun hpoller => ?_⟩
    exact h .connectionBufferSize (by decide) _ (by rw [ceiling?, if_pos hpoller]; rfl)
  · rintro ⟨hresolvers, hbuffer⟩ l - n hn
    cases l with
    | maxConcurrentResolvers =>
      cases hn
      exact hresolvers
    | connectionBufferSize =>
      rw [ceiling?] at hn
      split at hn <;> rename_i hpoller
      · cases hn
        exact hbuffer hpoller
      · cases hn
    | _ => cases hn

/-- What the environment may ask for lies below every ceiling. -/
theorem most_le_ceiling {ws : SocketSettings} {l : Limit} {n : Nat} (hn : n ∈ ws.ceiling? l) :
    l.most ≤ n := by
  cases l with
  | maxConcurrentResolvers =>
    cases hn
    decide
  | connectionBufferSize =>
    rw [ceiling?] at hn
    split at hn
    · cases hn
      decide
    · cases hn
  | _ => cases hn

end SocketSettings

namespace Settings

/-- A variable that counts asks for no more than it may. -/
theorem le_most_of_asked {l : Limit} {raw : RawEnvironment} {value : UInt64}
    (h : (Setting.limit l).asked? raw = some value) : value.toNat ≤ l.most := by
  obtain ⟨text, -, htext⟩ := Option.bind_eq_some_iff.mp h
  obtain ⟨n, hwithin, rfl⟩ := Option.map_eq_some_iff.mp htext
  have hrange : 1 ≤ n ∧ n ≤ l.most := by
    simpa using (Option.filter_eq_some_iff.mp hwithin).2
  rw [UInt64.toNat_ofNat']
  exact Nat.le_trans (Nat.mod_le n _) hrange.2

/-- What is loaded fits exactly if the numbers of the file and the defaults do that no variable
replaces. -/
theorem loaded_fits_iff {file : SettingsFile} {raw : RawEnvironment} {s : Settings}
    (hload : (load file raw.texts).1 = .ok s) :
    ∃ base, layered file = .ok base ∧
      (s.websocket.Fits ↔ ∀ l ∈ Limit.all, ∀ n ∈ s.websocket.ceiling? l,
        (Setting.limit l).asked? raw = none → (l.get base.websocket).toNat ≤ n) := by
  rw [load] at hload
  split at hload <;> rename_i hlayered
  · cases hload
  · rename_i base
    refine ⟨base, hlayered, ?_⟩
    obtain ⟨rfl, -⟩ := validate_eq_ok_iff.mp hload
    have hget (l : Limit) : l.get (overrideAll raw.texts Setting.all base.websocket).1 =
        ((Setting.limit l).asked? raw).getD (l.get base.websocket) :=
      get_overrideAll_all raw (.limit l) base.websocket
    constructor
    · intro hfits l hl n hn hnone
      have hle := hfits l hl n hn
      rwa [hget, hnone] at hle
    · intro hbase l hl n hn
      show (l.get (overrideAll raw.texts Setting.all base.websocket).1).toNat ≤ n
      rw [hget]
      cases hasked : (Setting.limit l).asked? raw with
      | none => exact hbase l hl n hn hasked
      | some value =>
        exact Nat.le_trans (le_most_of_asked hasked) (SocketSettings.most_le_ceiling hn)

end Settings

/-! ## Building -/

theorem Pool.create?_of_le {κ : Type} {size : Nat} (h : size ≤ largest) :
    (create? size : Option (Pool κ)) = some { size := max 1 size } := if_neg (Nat.not_lt.mpr h)

theorem Pool.create?_of_lt {κ : Type} {size : Nat} (h : largest < size) :
    (create? size : Option (Pool κ)) = none := if_pos h

/-- A poller is built unless its table is too large. -/
theorem Poller.create?_cases (config : PollerConfig) :
    (config.bufferSize.toNat ≤ largestTable ∧ ∃ p journal, create? config = some (p, journal) ∧
      (p.backend, p.bufferSize, p.timeoutMs) =
        (config.backend.resolved, config.bufferSize, config.timeoutMs)) ∨
    (largestTable < config.bufferSize.toNat ∧ create? config = none) := by
  by_cases h : largestTable < config.bufferSize.toNat
  · exact Or.inr ⟨h, if_pos h⟩
  · exact Or.inl ⟨Nat.not_lt.mp h, _, _, if_neg h, rfl⟩

namespace Gateway

variable {τ : Type}

/-- The pools have as many workers as the settings say, and there is a poller of their kind and size
if they ask for one. -/
structure SizedBy (g : Gateway τ) (ws : SocketSettings) : Prop where
  settings : g.settings = ws
  drains : g.drains.size = ws.maxConcurrentResolvers.toNat
  resolvers : g.resolvers.size = ws.maxConcurrentResolvers.toNat
  poller : g.poller.map (fun p => (p.backend, p.bufferSize, p.timeoutMs)) =
    if ws.enablePoller then some (ws.backend.resolved, ws.connectionBufferSize, ws.pollTimeoutMs)
    else none

theorem exists_create? {ws : SocketSettings} (henabled : ws.enabled = true)
    (hpositive : ws.maxConcurrentResolvers ≠ 0) (hfits : ws.Fits) :
    ∃ g : Gateway τ, create? ws = some (.ok g) ∧ g.SizedBy ws := by
  obtain ⟨hresolvers, hbuffer⟩ := SocketSettings.fits_iff.mp hfits
  have hsize : max 1 ws.maxConcurrentResolvers.toNat = ws.maxConcurrentResolvers.toNat := by
    have hne : ws.maxConcurrentResolvers.toNat ≠ 0 := fun h => hpositive (UInt64.toNat_inj.mp h)
    omega
  have hpool : (Pool.create? ws.maxConcurrentResolvers.toNat : Option (Pool Nat)) =
      some { size := ws.maxConcurrentResolvers.toNat } := by
    rw [Pool.create?_of_le hresolvers, hsize]
  unfold create?
  by_cases hpoller : ws.enablePoller = true
  · obtain ⟨-, p, journal, hcreate, hp⟩ | ⟨hlt, -⟩ :=
      Poller.create?_cases ⟨ws.backend, ws.pollTimeoutMs, ws.connectionBufferSize⟩
    · simp only [henabled, Bool.not_true, Bool.false_eq_true, if_false, hpoller, if_true,
        hcreate, hpool, Option.map_some, Option.bind_eq_bind, Option.bind_some, Option.pure_def]
      refine ⟨_, rfl, ⟨rfl, rfl, rfl, ?_⟩⟩
      rw [if_pos hpoller]
      exact congrArg some hp
    · exact absurd (hbuffer hpoller) (Nat.not_le.mpr hlt)
  · simp only [henabled, Bool.not_true, Bool.false_eq_true, if_false, hpoller, hpool,
      Option.bind_eq_bind, Option.bind_some, Option.pure_def]
    refine ⟨_, rfl, ⟨rfl, rfl, rfl, ?_⟩⟩
    rw [if_neg hpoller]
    rfl

theorem create?_eq_none {ws : SocketSettings} (henabled : ws.enabled = true) (hfits : ¬ws.Fits) :
    (create? ws : Option (Except GatewayError (Gateway τ))) = none := by
  unfold create?
  by_cases hresolvers : ws.maxConcurrentResolvers.toNat ≤ Pool.largest
  · have hpoller : ws.enablePoller = true := by
      apply Decidable.byContradiction
      intro hoff
      exact hfits (SocketSettings.fits_iff.mpr ⟨hresolvers, fun hon => absurd hon hoff⟩)
    obtain ⟨hle, -⟩ | ⟨-, hnone⟩ :=
      Poller.create?_cases ⟨ws.backend, ws.pollTimeoutMs, ws.connectionBufferSize⟩
    · exact absurd (SocketSettings.fits_iff.mpr ⟨hresolvers, fun _ => hle⟩) hfits
    · simp [henabled, hpoller, hnone]
  · -- the poller comes before the pools, so it may have been built already
    have hpool : (Pool.create? ws.maxConcurrentResolvers.toNat : Option (Pool Nat)) = none :=
      Pool.create?_of_lt (Nat.not_le.mp hresolvers)
    simp [henabled, hpool]

/-- **What validated settings start.** Settings that are switched on and hold no zero start a
gateway of the size that they ask for exactly if no limit lies above its ceiling, and otherwise no
gateway can be built at all. Settings that were loaded lie below the ceilings exactly if the file
over the defaults does, as far as no variable replaces its numbers. -/
theorem validated_starts_iff (s : Settings) (hvalid : s.validate = .ok s)
    (henabled : s.websocket.enabled = true) :
    ((∃ g : Gateway τ, create? s.websocket = some (.ok g) ∧ g.SizedBy s.websocket) ↔
      s.websocket.Fits) ∧
    ((create? s.websocket : Option (Except GatewayError (Gateway τ))) = none ↔ ¬s.websocket.Fits) ∧
    ∀ file raw, (Settings.load file (RawEnvironment.texts raw)).1 = .ok s →
      ∃ base, Settings.layered file = .ok base ∧
        (s.websocket.Fits ↔ ∀ l ∈ Limit.all, ∀ n ∈ s.websocket.ceiling? l,
          (Setting.limit l).asked? raw = none → (l.get base.websocket).toNat ≤ n) := by
  have hpositive : s.websocket.maxConcurrentResolvers ≠ 0 :=
    (Settings.validate_eq_ok_iff.mp hvalid).2 .maxConcurrentResolvers
  by_cases hfits : s.websocket.Fits
  · obtain ⟨g, hcreate, hsized⟩ := exists_create? (τ := τ) henabled hpositive hfits
    refine ⟨⟨fun _ => hfits, fun _ => ⟨g, hcreate, hsized⟩⟩, ?_,
      fun file raw => Settings.loaded_fits_iff⟩
    rw [hcreate]
    constructor
    · intro hnone
      cases hnone
    · intro hnot
      exact absurd hfits hnot
  · have hnone := create?_eq_none (τ := τ) henabled hfits
    refine ⟨⟨?_, fun h => absurd h hfits⟩, ⟨fun _ => hfits, fun _ => hnone⟩,
      fun file raw => Settings.loaded_fits_iff⟩
    rintro ⟨g, hcreate, -⟩
    rw [hnone] at hcreate
    cases hcreate

/-- A file that asks for one worker more than can be counted. -/
def crowdedText : String :=
  "\x7b\"websocket\":\x7b\"maxConcurrentResolvers\":2305843009213693952\x7d\x7d"

def crowdedFile : SettingsFile := .bytes (crowdedText.toList.map fun c => .ofNat c.toNat)

def crowded : Settings := { websocket := { maxConcurrentResolvers := 2305843009213693952 } }

theorem load_crowdedFile :
    (Settings.load crowdedFile (RawEnvironment.texts fun _ => none)).1 = .ok crowded := by
  have hread : (Settings.load crowdedFile (RawEnvironment.texts fun _ => none)).1.toOption =
      some crowded := by
    decide +kernel
  cases hload : (Settings.load crowdedFile (RawEnvironment.texts fun _ => none)).1 with
  | error e =>
    rw [hload] at hread
    cases hread
  | ok s =>
    rw [hload] at hread
    exact congrArg Except.ok (Option.some.inj hread)

theorem validate_crowded : crowded.validate = .ok crowded := by
  refine Settings.validate_eq_ok_iff.mpr ⟨rfl, fun l => ?_⟩
  cases l <;> decide

theorem not_fits_crowded : ¬crowded.websocket.Fits := by decide +kernel

theorem validated_starts_iff_crowded :
    crowded.validate = .ok crowded ∧ crowded.websocket.enabled = true ∧ ¬crowded.websocket.Fits ∧
      (create? crowded.websocket : Option (Except GatewayError (Gateway WebSocket))) = none ∧
      ∃ base, Settings.layered crowdedFile = .ok base ∧
        (crowded.websocket.Fits ↔ ∀ l ∈ Limit.all, ∀ n ∈ crowded.websocket.ceiling? l,
          (Setting.limit l).asked? (fun _ => none) = none → (l.get base.websocket).toNat ≤ n) := by
  obtain ⟨-, hbroken, hloaded⟩ := validated_starts_iff (τ := WebSocket) crowded validate_crowded rfl
  exact ⟨validate_crowded, rfl, not_fits_crowded, hbroken.mpr not_fits_crowded,
    hloaded crowdedFile _ load_crowdedFile⟩

/-- **Validation is not enough**: a file is loaded, its settings hold no zero and are switched on,
and no gateway can be built from them. -/
theorem crowded_breaks_down :
    (Settings.load crowdedFile fun _ => none).1 = .ok crowded ∧ crowded.validate = .ok crowded ∧
      crowded.websocket.enabled = true ∧
      (create? crowded.websocket : Option (Except GatewayError (Gateway WebSocket))) = none := by
  exact ⟨load_crowdedFile, validate_crowded, rfl, create?_eq_none rfl not_fits_crowded⟩

end Gateway
end StreamGateway
