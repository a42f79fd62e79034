import StreamGateway.Proofs.Json.Members
import StreamGateway.Proofs.Settings.Variables

/-! # Settings in layers

A setting comes from its variable if that asks for a value the setting can take, else from the file
if that holds something other than null for it, else from the defaults. The rule
(`SocketSettings.Follows`) says this for each setting, with its variable, its key in the file and
its default, and knows nothing of the way in which settings are put together: the defaults are
written as a document, the file's document is laid over it, the result is read back, one variable
after the other is laid over that, and only then limits of zero are refused. -/
namespace StreamGateway

/-! ## Single settings -/

/-- A truth value. -/
def Json.bool? : Json → Option Bool
  | .bool b => some b
  | _ => none

/-- A whole number of sixty-four bits. -/
def Json.word? : Json → Option UInt64
  | .int n => if 0 ≤ n ∧ n < (Nat.pow 2 64 : Int) then some (UInt64.ofNat n.toNat) else none
  | _ => none

/-- A backend by its name, or as an object with its name as the only key and null behind it. -/
def Json.NamesBackend (v : Json) (b : Backend) : Prop :=
  ∃ name, (b, name) ∈ [(Backend.auto, "auto"), (.epoll, "epoll"), (.pollList, "pollList")] ∧
    (v = .str name ∨ v = .obj [(name, .null)])

/-- The backend that a value names. -/
def Json.backend? : Json → Option Backend
  | .str name => Backend.ofKey? name
  | .obj [(name, .null)] => Backend.ofKey? name
  | _ => none

/-- A text names a backend by one of three words. -/
theorem Backend.ofKey?_eq_some_iff {name : String} {b : Backend} :
    Backend.ofKey? name = some b ↔
      (b, name) ∈ [(Backend.auto, "auto"), (.epoll, "epoll"), (.pollList, "pollList")] := by
  constructor
  · intro h
    have hname := List.find?_some h
    rw [decide_eq_true_eq] at hname
    subst hname
    cases b <;> decide
  · intro h
    simp only [List.mem_cons, Prod.mk.injEq, List.not_mem_nil, or_false] at h
    obtain ⟨rfl, rfl⟩ | ⟨rfl, rfl⟩ | ⟨rfl, rfl⟩ := h <;> decide

theorem Json.backend?_eq_some_iff {v : Json} {b : Backend} :
    v.backend? = some b ↔ v.NamesBackend b := by
  constructor
  · intro h
    unfold backend? at h
    split at h
    · exact ⟨_, Backend.ofKey?_eq_some_iff.mp h, .inl rfl⟩
    · exact ⟨_, Backend.ofKey?_eq_some_iff.mp h, .inr rfl⟩
    · cases h
  · rintro ⟨name, hname, rfl | rfl⟩
    · exact Backend.ofKey?_eq_some_iff.mpr hname
    · exact Backend.ofKey?_eq_some_iff.mpr hname

theorem Json.bool?_eq_some_iff {v : Json} {on : Bool} : v.bool? = some on ↔ v = .bool on := by
  cases v <;> simp [bool?]

theorem Json.word?_eq_some_iff {v : Json} {n : UInt64} : v.word? = some n ↔ v = .int n.toNat := by
  have hpow : (Nat.pow 2 64 : Int) = 18446744073709551616 := rfl
  constructor
  · intro h
    unfold word? at h
    split at h
    · rename_i m
      split at h <;> rename_i hrange
      · cases h
        have hm : m.toNat < 2 ^ 64 := by omega
        rw [UInt64.toNat_ofNat', Nat.mod_eq_of_lt hm, Int.toNat_of_nonneg hrange.1]
      · cases h
    · cases h
  · rintro rfl
    have hlt : (n.toNat : Int) < (Nat.pow 2 64 : Int) := by
      have hbound := n.toNat_lt
      omega
    rw [word?, if_pos ⟨Int.natCast_nonneg _, hlt⟩, Int.toNat_natCast, UInt64.ofNat_toNat]

namespace Setting

def get : (s : Setting) → SocketSettings → s.Value
  | .switch s, ws => s.get ws
  | .backend, ws => ws.backend
  | .limit l, ws => l.get ws

def put : (s : Setting) → s.Value → SocketSettings → SocketSettings
  | .switch s, b, ws => s.set b ws
  | .backend, b, ws => { ws with backend := b }
  | .limit l, n, ws => l.set n ws

/-- What a value of a document asks for, if it is of the setting's type. -/
def convert? : (s : Setting) → Json → Option s.Value
  | .switch _, v => v.bool?
  | .backend, v => v.backend?
  | .limit _, v => v.word?

theorem get_put (s : Setting) (x : s.Value) (ws : SocketSettings) : s.get (s.put x ws) = x := by
  cases s with
  | switch s => cases s <;> rfl
  | backend => rfl
  | limit l => cases l <;> rfl

theorem get_put_of_ne {s t : Setting} (h : t ≠ s) (x : s.Value) (ws : SocketSettings) :
    t.get (s.put x ws) = t.get ws := by
  cases s with
  | switch s =>
    cases t with
    | switch t => cases s <;> cases t <;> first | rfl | exact absurd rfl h
    | backend => cases s <;> rfl
    | limit l => cases s <;> cases l <;> rfl
  | backend =>
    cases t with
    | switch t => cases t <;> rfl
    | backend => exact absurd rfl h
    | limit l => cases l <;> rfl
  | limit l =>
    cases t with
    | switch t => cases l <;> cases t <;> rfl
    | backend => cases l <;> rfl
    | limit m => cases l <;> cases m <;> first | rfl | exact absurd rfl h

theorem mem_all (s : Setting) : s ∈ all := by
  cases s with
  | switch s => cases s <;> decide
  | backend => decide
  | limit l => cases l <;> decide

theorem find?_key (s : Setting) : all.find? (·.key = s.key) = some s := by
  cases s with
  | switch s => cases s <;> decide
  | backend => decide
  | limit l => cases l <;> decide

/-- A setting that was written is of its own type. -/
theorem convert?_toJson (s : Setting) (ws : SocketSettings) :
    s.convert? (s.toJson ws) = some (s.get ws) := by
  cases s with
  | switch s => rfl
  | backend =>
    show Backend.ofKey? ws.backend.key = some ws.backend
    cases ws.backend <;> decide
  | limit l =>
    show Json.word? (.int (l.get ws).toNat) = some (l.get ws)
    exact Json.word?_eq_some_iff.mpr rfl

end Setting

/-! ## The rule -/

/-- There is no file, or one whose document is an object with these members; none stand for a
missing file. -/
def SettingsFile.Holds (file : SettingsFile) (members : Json.Members) : Prop :=
  (file = .missing ∧ members = []) ∨
    ∃ bytes text, file = .bytes bytes ∧ Text.Utf8.decode bytes = .ok text ∧
      Json.parse text = .ok (.obj members)

/-- What the file says about connections. -/
def Json.Members.socket (file : Json.Members) : Json.Members :=
  match file.get? "websocket" with
  | some (.obj members) => members
  | _ => []

/-- What the file says for a key there, other than null. -/
def Json.Members.said? (file : Json.Members) (key : String) : Option Json :=
  (Json.Members.get? key file.socket).filter fun v => !v.isNull

/-- The two layers over the defaults. -/
structure Layers where
  env : RawEnvironment
  file : Json.Members

namespace Layers

/-- The value of a setting by all layers: what its variable asks for; if that asks for nothing, what
the file says; if that says nothing either, the default. -/
def Settle {α : Type} (layers : Layers) (demand : α → Variable.Demand) (reads : Json → α → Prop)
    (name key : String) (default x : α) : Prop :=
  layers.env.Asks name (demand x) ∨
    (∀ y, ¬layers.env.Asks name (demand y)) ∧
      match layers.file.said? key with
      | some v => reads v x
      | none => x = default

def Flag (layers : Layers) : (name key : String) → (default on : Bool) → Prop :=
  layers.Settle .flag fun v on => v = .bool on

def Choice (layers : Layers) : (name key : String) → (default b : Backend) → Prop :=
  layers.Settle .backend Json.NamesBackend

def Number (layers : Layers) : (name key : String) → (default n : UInt64) → Prop :=
  layers.Settle .number fun v n => v = .int n.toNat

end Layers

/-- **The rule**, setting by setting: its variable, its key and its default. -/
structure SocketSettings.Follows (ws : SocketSettings) (layers : Layers) : Prop where
  enabled : layers.Flag "GATE_WS_ENABLED" "enabled" true ws.enabled
  enablePoller : layers.Flag "GATE_WS_POLLER" "enablePoller" true ws.enablePoller
  backend : layers.Choice "GATE_WS_BACKEND" "backend" .auto ws.backend
  pollTimeoutMs : layers.Number "GATE_WS_POLL_TIMEOUT_MS" "pollTimeoutMs" 1000 ws.pollTimeoutMs
  connectionBufferSize :
    layers.Number "GATE_WS_CONNECTION_BUFFER_SIZE" "connectionBufferSize" 128
      ws.connectionBufferSize
  maxEventsPerWait :
    layers.Number "GATE_WS_MAX_EVENTS_PER_WAIT" "maxEventsPerWait" 8 ws.maxEventsPerWait
  maxConcurrentResolvers :
    layers.Number "GATE_WS_MAX_CONCURRENT_RESOLVERS" "maxConcurrentResolvers" 32
      ws.maxConcurrentResolvers
  handshakeTimeoutMs :
    layers.Number "GATE_WS_HANDSHAKE_TIMEOUT_MS" "handshakeTimeoutMs" 10000 ws.handshakeTimeoutMs
  readTimeoutMs : layers.Number "GATE_WS_READ_TIMEOUT_MS" "readTimeoutMs" 5000 ws.readTimeoutMs
  writeTimeoutMs : layers.Number "GATE_WS_WRITE_TIMEOUT_MS" "writeTimeoutMs" 10000 ws.writeTimeoutMs
  maxMessageSize :
    layers.Number "GATE_WS_MAX_MESSAGE_SIZE" "maxMessageSize" 1048576 ws.maxMessageSize

/-- The sizes and timeouts. -/
def SocketSettings.limits (ws : SocketSettings) : List UInt64 :=
  [ws.pollTimeoutMs, ws.connectionBufferSize, ws.maxEventsPerWait, ws.maxConcurrentResolvers,
    ws.handshakeTimeoutMs, ws.readTimeoutMs, ws.writeTimeoutMs, ws.maxMessageSize]

/-- All that the file says is of the right type. -/
structure Json.Members.Convertible (file : Json.Members) : Prop where
  flags : ∀ key ∈ ["enabled", "enablePoller"], ∀ v, file.said? key = some v → ∃ on, v = .bool on
  backend : ∀ v, file.said? "backend" = some v → ∃ b, v.NamesBackend b
  numbers : ∀ key ∈ ["pollTimeoutMs", "connectionBufferSize", "maxEventsPerWait",
      "maxConcurrentResolvers", "handshakeTimeoutMs", "readTimeoutMs", "writeTimeoutMs",
      "maxMessageSize"],
    ∀ v, file.said? key = some v → ∃ n : UInt64, v = .int n.toNat

/-! ### The rule in the list of settings -/

namespace Setting

/-- A value of a document is of the setting's type and asks for this. -/
def Reads : (s : Setting) → Json → s.Value → Prop
  | .switch _, v, on => v = .bool on
  | .backend, v, b => v.NamesBackend b
  | .limit _, v, n => v = .int n.toNat

theorem convert?_eq_some_iff (s : Setting) {v : Json} {x : s.Value} :
    s.convert? v = some x ↔ s.Reads v x := by
  cases s with
  | switch s => exact Json.bool?_eq_some_iff
  | backend => exact Json.backend?_eq_some_iff
  | limit l => exact Json.word?_eq_some_iff

/-- A setting by the file and the defaults. -/
def filed? (s : Setting) (file : Json.Members) : Option s.Value :=
  match file.said? s.key with
  | some v => s.convert? v
  | none => some (s.get {})

/-- A setting by all three layers. -/
def layered? (s : Setting) (raw : RawEnvironment) (file : Json.Members) : Option s.Value :=
  s.asked? raw <|> s.filed? file

theorem filed?_eq_some_iff (s : Setting) {file : Json.Members} {x : s.Value} :
    s.filed? file = some x ↔
      match file.said? s.key with
      | some v => s.Reads v x
      | none => x = s.get {} := by
  unfold filed?
  cases file.said? s.key with
  | none => exact Option.some_inj.trans eq_comm
  | some v => exact s.convert?_eq_some_iff

theorem layered?_eq_some_iff (s : Setting) {raw : RawEnvironment} {file : Json.Members}
    {x : s.Value} :
    s.layered? raw file = some x ↔
      Layers.Settle ⟨raw, file⟩ s.demand s.Reads s.envName s.key (s.get {}) x := by
  unfold layered? Layers.Settle
  rw [← s.filed?_eq_some_iff]
  simp only [← s.asked?_eq_some_iff]
  cases s.asked? raw with
  | none => simp
  | some y => simp

end Setting

/-- The rule holds of settings exactly if it gives each of them. -/
theorem SocketSettings.follows_iff {ws : SocketSettings} {raw : RawEnvironment}
    {file : Json.Members} :
    ws.Follows ⟨raw, file⟩ ↔ ∀ s : Setting, s.layered? raw file = some (s.get ws) := by
  constructor
  · intro h s
    rw [s.layered?_eq_some_iff]
    cases s with
    | switch s =>
      cases s with
      | enabled => exact h.enabled
      | enablePoller => exact h.enablePoller
    | backend => exact h.backend
    | limit l =>
      cases l with
      | pollTimeoutMs => exact h.pollTimeoutMs
      | connectionBufferSize => exact h.connectionBufferSize
      | maxEventsPerWait => exact h.maxEventsPerWait
      | maxConcurrentResolvers => exact h.maxConcurrentResolvers
      | handshakeTimeoutMs => exact h.handshakeTimeoutMs
      | readTimeoutMs => exact h.readTimeoutMs
      | writeTimeoutMs => exact h.writeTimeoutMs
      | maxMessageSize => exact h.maxMessageSize
  · intro h
    have hsettle (s : Setting) := s.layered?_eq_some_iff.mp (h s)
    exact
      { enabled := hsettle (.switch .enabled)
        enablePoller := hsettle (.switch .enablePoller)
        backend := hsettle .backend
        pollTimeoutMs := hsettle (.limit .pollTimeoutMs)
        connectionBufferSize := hsettle (.limit .connectionBufferSize)
        maxEventsPerWait := hsettle (.limit .maxEventsPerWait)
        maxConcurrentResolvers := hsettle (.limit .maxConcurrentResolvers)
        handshakeTimeoutMs := hsettle (.limit .handshakeTimeoutMs)
        readTimeoutMs := hsettle (.limit .readTimeoutMs)
        writeTimeoutMs := hsettle (.limit .writeTimeoutMs)
        maxMessageSize := hsettle (.limit .maxMessageSize) }

theorem SocketSettings.limits_eq (ws : SocketSettings) : ws.limits = Limit.all.map (·.get ws) := rfl

/-- What is of the right type gives each setting a value. -/
theorem Json.Members.Convertible.filed?_ne_none {file : Json.Members} (h : file.Convertible)
    (s : Setting) : s.filed? file ≠ none := by
  suffices hreads : ∀ v, file.said? s.key = some v → ∃ x, s.Reads v x by
    unfold Setting.filed?
    split <;> rename_i hsaid
    · obtain ⟨x, hx⟩ := hreads _ hsaid
      rw [s.convert?_eq_some_iff.mpr hx]
      exact Option.some_ne_none x
    · exact Option.some_ne_none _
  intro v hsaid
  cases s with
  | switch s => exact h.flags s.key (by cases s <;> decide) v hsaid
  | backend => exact h.backend v hsaid
  | limit l => exact h.numbers l.key (by cases l <;> decide) v hsaid

/-! ## Variables -/

namespace Settings

theorem override?_eq (s : Setting) (text : String) (ws : SocketSettings) :
    override? s text ws = (s.ofText? text).map fun x => s.put x ws := by
  cases s with
  | switch s => rfl
  | backend => rfl
  | limit l =>
    rw [override?, Setting.ofText?]
    cases Number.within? 1 l.most text <;> rfl

/-- A variable counts if it makes sense, and otherwise changes nothing. -/
theorem overrideOne_fst (env : Environment) (s : Setting) (ws : SocketSettings) :
    (overrideOne env s ws).1 =
      match (env s.envName).bind s.ofText? with
      | some x => s.put x ws
      | none => ws := by
  rw [overrideOne]
  cases henv : env s.envName with
  | none => rfl
  | some text =>
    dsimp only [Option.bind_some]
    split <;> rename_i hempty
    · -- an empty backend is no backend
      obtain ⟨rfl, rfl⟩ := hempty
      rfl
    · rw [override?_eq]
      cases s.ofText? text <;> rfl

theorem get_overrideOne (env : Environment) (s t : Setting) (ws : SocketSettings) :
    t.get (overrideOne env s ws).1 =
      if t = s then ((env t.envName).bind t.ofText?).getD (t.get ws) else t.get ws := by
  rw [overrideOne_fst]
  split <;> rename_i hasked
  · split <;> rename_i hts
    · subst hts
      rw [hasked, Setting.get_put]
      rfl
    · exact Setting.get_put_of_ne hts _ ws
  · split <;> rename_i hts
    · subst hts
      rw [hasked]
      rfl
    · rfl

theorem get_overrideAll (env : Environment) (ss : List Setting) (hss : ss.Nodup) (t : Setting)
    (ws : SocketSettings) :
    t.get (overrideAll env ss ws).1 =
      if t ∈ ss then ((env t.envName).bind t.ofText?).getD (t.get ws) else t.get ws := by
  induction ss generalizing ws with
  | nil => rfl
  | cons s ss ih =>
    obtain ⟨hnotMem, hrest⟩ := List.nodup_cons.mp hss
    have hcons : (overrideAll env (s :: ss) ws).1 =
        (overrideAll env ss (overrideOne env s ws).1).1 := rfl
    rw [hcons, ih hrest, get_overrideOne]
    by_cases hts : t = s
    · subst hts
      simp [hnotMem]
    · simp [hts]

/-! ## Documents -/

theorem asBool_toOption (v : Json) : v.asBool.toOption = v.bool? := by
  cases v <;> rfl

theorem backend_toOption (v : Json) : (Backend.ofJson v).toOption = v.backend? := by
  have hname (name : String) : (Backend.ofName name).toOption = Backend.ofKey? name := by
    rw [Backend.ofName]
    cases Backend.ofKey? name <;> rfl
  cases v with
  | str name => exact hname name
  | obj members =>
    match members with
    | [] => rfl
    | [(name, .null)] =>
      show (Backend.ofName name >>= fun b => Except.ok b).toOption = Backend.ofKey? name
      rw [← hname name]
      cases Backend.ofName name <;> rfl
    | [(name, .bool _)] | [(name, .int _)] | [(name, .float _)] | [(name,
        .str _)] | [(name, .arr _)]
    | [(name, .obj _)] =>
      rw [Backend.ofJson]
      cases Backend.ofName name <;> rfl
    | (_, v) :: _ :: _ => cases v <;> rfl
  | _ => rfl

/-- A whole number that was read fits, unless it is negative. -/
theorem asUnsigned_toOption {v : Json} (hv : v.Tidy) (kind : String) :
    (v.asUnsigned kind).toOption.map UInt64.ofNat = v.word? := by
  cases hv with
  | int hrange =>
    rename_i n
    rw [Json.asUnsigned, Json.word?]
    by_cases hneg : n < 0
    · rw [if_pos hneg, if_neg (by omega)]
      rfl
    · rw [if_neg hneg, if_pos ⟨by omega, hrange.2⟩]
      rfl
  | _ => rfl

theorem ofJson_toOption {v : Json} (hv : v.Tidy) (s : Setting) (ws : SocketSettings) :
    (s.ofJson v ws).toOption = (s.convert? v).map fun x => s.put x ws := by
  cases s with
  | switch s =>
    have hbool : (Setting.switch s).convert? v = v.asBool.toOption := (asBool_toOption v).symm
    rw [hbool, Setting.ofJson]
    cases v.asBool <;> rfl
  | backend =>
    have hbackend : Setting.backend.convert? v = (Backend.ofJson v).toOption :=
      (backend_toOption v).symm
    rw [hbackend, Setting.ofJson]
    cases Backend.ofJson v <;> rfl
  | limit l =>
    have hword : (Setting.limit l).convert? v = (v.asUnsigned l.kind).toOption.map UInt64.ofNat :=
      (asUnsigned_toOption hv l.kind).symm
    rw [hword, Setting.ofJson]
    cases v.asUnsigned l.kind <;> rfl

/-- A setting is taken from a value that was read exactly if that is of the setting's type. -/
theorem ofJson_cases {v : Json} (hv : v.Tidy) (s : Setting) (ws : SocketSettings) :
    (∃ x, s.convert? v = some x ∧ s.ofJson v ws = .ok (s.put x ws)) ∨
      ∃ p, s.convert? v = none ∧ s.ofJson v ws = .error p := by
  have heq := ofJson_toOption hv s ws
  cases hconvert : s.convert? v <;> cases htaken : s.ofJson v ws <;> rw [hconvert, htaken] at heq
  · exact .inr ⟨_, rfl, rfl⟩
  · cases heq
  · cases heq
  · cases heq
    exact .inl ⟨_, rfl, rfl⟩

theorem key_ne_of_find?_eq_none {k : String} (h : Setting.all.find? (·.key = k) = none)
    (t : Setting) : t.key ≠ k := by
  rintro rfl
  rw [Setting.find?_key] at h
  cases h

theorem key_eq_iff {k : String} {s : Setting} (h : Setting.all.find? (·.key = k) = some s)
    (t : Setting) : t.key = k ↔ t = s := by
  constructor
  · rintro rfl
    rw [Setting.find?_key] at h
    exact Option.some.inj h
  · rintro rfl
    simpa using List.find?_some h

/-- What a setting becomes by members that are taken over. -/
def taken? (t : Setting) (ms : Json.Members) (ws : SocketSettings) : Option t.Value :=
  match ms.get? t.key with
  | some v => t.convert? v
  | none => some (t.get ws)

theorem taken?_cons (t : Setting) (k : String) (v : Json) (ms : Json.Members)
    (ws : SocketSettings) :
    taken? t ((k, v) :: ms) ws = if t.key = k then t.convert? v else taken? t ms ws := by
  rw [taken?, Json.Members.get?_cons]
  by_cases hkey : t.key = k
  · rw [if_pos hkey, if_pos hkey]
  · rw [if_neg hkey, if_neg hkey, taken?]

/-- The members of known settings are taken over one by one, and all of them must be of the right
type. -/
theorem ofMembers_cases {ms : Json.Members} (hms : (Json.obj ms).Tidy) (ws : SocketSettings) :
    (∃ ws', SocketSettings.ofMembers ms ws = .ok ws' ∧ ∀ t, taken? t ms ws = some (t.get ws')) ∨
      ∃ p t, SocketSettings.ofMembers ms ws = .error p ∧ taken? t ms ws = none := by
  induction ms generalizing ws with
  | nil => exact .inl ⟨ws, rfl, fun t => rfl⟩
  | cons m ms ih =>
    obtain ⟨k, v⟩ := m
    obtain ⟨hsorted, hvalues⟩ := hms.members
    obtain ⟨hv, hrest⟩ := List.forall_mem_cons.mp hvalues
    have htidy : (Json.obj ms).Tidy := .obj hsorted.of_cons hrest
    rw [SocketSettings.ofMembers]
    simp only [taken?_cons]
    cases hfind : Setting.all.find? (·.key = k) with
    | none =>
      simp only [key_ne_of_find?_eq_none hfind, if_false]
      exact ih htidy ws
    | some s =>
      simp only [key_eq_iff hfind]
      obtain ⟨x, hconvert, htaken⟩ | ⟨p, hconvert, htaken⟩ := ofJson_cases hv s ws
      · -- the key does not come again, and the other settings are as they were
        have hkept (t : Setting) :
            (if t = s then t.convert? v else taken? t ms ws) = taken? t ms (s.put x ws) := by
          split <;> rename_i hts
          · subst hts
            have hkey : t.key = k := (key_eq_iff hfind t).mpr rfl
            rw [taken?, hkey, hsorted.get?_tail, hconvert, Setting.get_put]
          · rw [taken?, taken?, Setting.get_put_of_ne hts]
        simp only [hkept, htaken]
        exact ih htidy (s.put x ws)
      · exact .inr ⟨p, s, by rw [htaken]; rfl, by rw [if_pos rfl, hconvert]⟩

/-! ## Layers -/

theorem nodup_all : Setting.all.Nodup := by decide

theorem tidy_toJson (t : Setting) (ws : SocketSettings) : (t.toJson ws).Tidy := by
  cases t with
  | switch s => exact .bool _
  | backend => exact .str _
  | limit l => exact .int (Json.inRange_of_le (Nat.le_of_lt_succ (l.get ws).toNat_lt))

/-- A setting is never written as an object, so what is laid over it takes its place. -/
theorem merge_toJson (t : Setting) (ws : SocketSettings) (v : Json) :
    (t.toJson ws).merge v = v := by
  apply Json.merge_of_ne_obj
  intro members h
  cases t <;> cases h

/-- The members that the defaults are written as. -/
def defaultMembers : Json.Members := .gather (SocketSettings.members {}) []

theorem get?_defaultMembers (t : Setting) : defaultMembers.get? t.key = some (t.toJson {}) := by
  have hkeys : ((SocketSettings.members {}).map Prod.fst).Nodup := by decide
  exact Json.Members.get?_gather hkeys (List.mem_map.mpr ⟨t, t.mem_all, rfl⟩) []

theorem tidy_defaultMembers : (Json.obj defaultMembers).Tidy := by
  refine Json.tidy_object_nil.gather fun pair hpair => ?_
  obtain ⟨t, -, rfl⟩ := List.mem_map.mp hpair
  exact tidy_toJson t {}

/-- The members of the file over those of the defaults give each setting as the rule says. -/
theorem taken?_mergeMembers {own : Json.Members} (hown : own.Sorted) {file : Json.Members}
    (hfile : file.socket = own) (t : Setting) :
    taken? t (Json.mergeMembers defaultMembers own) {} = t.filed? file := by
  rw [taken?, Json.get?_mergeMembers hown, get?_defaultMembers, Setting.filed?,
    Json.Members.said?, hfile]
  cases own.get? t.key with
  | none => exact t.convert?_toJson {}
  | some v =>
    cases hnull : v.isNull with
    | true => simp [Json.layer, Option.filter, hnull, t.convert?_toJson]
    | false => simp [Json.layer, Option.filter, hnull, merge_toJson]

variable {file : SettingsFile} {user : Json.Members}

/-- The file's section on connections is left out, null or an object. -/
def SocketShaped (user : Json.Members) : Prop :=
  ∀ v, user.get? "websocket" = some v → v.isNull = true ∨ ∃ own, v = .obj own

theorem tidy_of_holds (hfile : file.Holds user) : (Json.obj user).Tidy := by
  obtain ⟨-, rfl⟩ | ⟨bytes, text, -, -, hparse⟩ := hfile
  · exact Json.tidy_object_nil
  · exact Json.tidy_parse hparse

theorem layered_eq (hfile : file.Holds user) :
    layered file =
      (ofJson (.obj (Json.mergeMembers [("websocket", .obj defaultMembers)] user))).mapError
        .malformed := by
  have hdefaults : toJson {} = .obj [("websocket", .obj defaultMembers)] := rfl
  obtain ⟨rfl, rfl⟩ | ⟨bytes, text, rfl, hdecode, hparse⟩ := hfile
  · have htext : SettingsFile.missing.text? = pure none := rfl
    rw [Json.mergeMembers_nil, ← hdefaults]
    simp only [layered, htext, pure_bind]
    cases ofJson (toJson {}) <;> rfl
  · have htext : (SettingsFile.bytes bytes).text? = pure (some text) := by
      rw [SettingsFile.text?, hdecode]
      rfl
    have hmerge : (toJson {}).merge (.obj user) =
        .obj (Json.mergeMembers [("websocket", .obj defaultMembers)] user) := by
      rw [hdefaults, Json.merge]
    rw [← hmerge]
    simp only [layered, htext, pure_bind, hparse]
    cases ofJson ((toJson {}).merge (.obj user)) <;> rfl

/-- With the file laid over the defaults every setting is as the rule says, and all values in the
file must be of the right type. -/
theorem layered_cases (hfile : file.Holds user) (hsocket : SocketShaped user) :
    (∃ ws, layered file = .ok ⟨ws⟩ ∧ ∀ t : Setting, t.filed? user = some (t.get ws)) ∨
      ∃ p, ∃ t : Setting, layered file = .error (.malformed p) ∧ t.filed? user = none := by
  have htidy := tidy_of_holds hfile
  have hsorted := htidy.members.1
  -- the section that is read, whatever the file holds for it
  have hsection : Json.Members.get? "websocket"
      (Json.mergeMembers [("websocket", .obj defaultMembers)] user) =
      some (.obj (Json.mergeMembers defaultMembers user.socket)) := by
    rw [Json.get?_mergeMembers hsorted, Json.Members.get?_cons, if_pos rfl, Json.Members.socket]
    cases hget : user.get? "websocket" with
    | none => rw [Json.layer, Json.mergeMembers_nil]
    | some v =>
      obtain hnull | ⟨own, rfl⟩ := hsocket v hget
      · cases v with
        | null => rw [Json.layer, Json.mergeMembers_nil]; rfl
        | _ => cases hnull
      · rw [Json.layer, Json.merge]
        rfl
  have hown : (Json.obj user.socket).Tidy := by
    rw [Json.Members.socket]
    split <;> rename_i hget
    · exact htidy.members.2 _ (Json.Members.mem_of_get? hget)
    · exact Json.tidy_object_nil
  have hmerged : (Json.obj (Json.mergeMembers defaultMembers user.socket)).Tidy :=
    tidy_defaultMembers.mergeMembers hown
  have hofJson : ofJson (.obj (Json.mergeMembers [("websocket", .obj defaultMembers)] user)) =
      (SocketSettings.ofMembers (Json.mergeMembers defaultMembers user.socket) {}).map
        Settings.mk := by
    rw [ofJson, hsection]
    rfl
  rw [layered_eq hfile, hofJson]
  simp only [← taken?_mergeMembers hown.members.1 rfl]
  obtain ⟨ws, htaken, hws⟩ | ⟨p, t, htaken, hnone⟩ := ofMembers_cases hmerged {}
  · rw [htaken]
    exact .inl ⟨ws, rfl, hws⟩
  · rw [htaken]
    exact .inr ⟨p, t, rfl, hnone⟩

/-! ## Zeros -/

theorem mem_all_limit (l : Limit) : l ∈ Limit.all := by
  cases l <;> decide

theorem zeroLimit?_eq_none_iff {ws : SocketSettings} :
    ws.zeroLimit? = none ↔ ∀ l : Limit, l.get ws ≠ 0 := by
  rw [SocketSettings.zeroLimit?, List.find?_eq_none]
  simp [mem_all_limit]

theorem validate_eq_ok_iff {s t : Settings} :
    validate s = .ok t ↔ s = t ∧ ∀ l : Limit, l.get s.websocket ≠ 0 := by
  rw [← zeroLimit?_eq_none_iff, validate]
  cases s.websocket.zeroLimit? <;> simp

theorem exists_validate_eq_zero_iff {s : Settings} :
    (∃ l, validate s = .error (.zero l)) ↔ ∃ l : Limit, l.get s.websocket = 0 := by
  cases hzero : s.websocket.zeroLimit? with
  | none =>
    have hpos := zeroLimit?_eq_none_iff.mp hzero
    rw [validate, hzero]
    simp [hpos]
  | some l =>
    have hl : l.get s.websocket = 0 := by simpa using List.find?_some hzero
    exact ⟨fun _ => ⟨l, hl⟩, fun _ => ⟨l, by rw [validate, hzero]⟩⟩

/-! ## The whole -/

theorem eq_of_get {ws ws' : SocketSettings} (h : ∀ t : Setting, t.get ws = t.get ws') :
    ws = ws' := by
  have hswitch (s : Switch) : s.get ws = s.get ws' := h (.switch s)
  have hbackend : ws.backend = ws'.backend := h .backend
  have hlimit (l : Limit) : l.get ws = l.get ws' := h (.limit l)
  cases ws
  cases ws'
  simp only [SocketSettings.mk.injEq]
  exact ⟨hswitch .enabled, hswitch .enablePoller, hbackend, hlimit .pollTimeoutMs,
    hlimit .connectionBufferSize, hlimit .maxEventsPerWait, hlimit .maxConcurrentResolvers,
    hlimit .handshakeTimeoutMs, hlimit .readTimeoutMs, hlimit .writeTimeoutMs,
    hlimit .maxMessageSize⟩

/-- Every setting with all variables laid over it. -/
theorem get_overrideAll_all (raw : RawEnvironment) (t : Setting) (ws : SocketSettings) :
    t.get (overrideAll raw.texts Setting.all ws).1 = (t.asked? raw).getD (t.get ws) := by
  rw [get_overrideAll _ _ nodup_all, if_pos t.mem_all, Setting.asked?]

/-- What is loaded is what the rule says, before zeros are refused. -/
theorem load_cases (hfile : file.Holds user) (hsocket : SocketShaped user) (raw : RawEnvironment) :
    (∃ ws, (load file raw.texts).1 = validate ⟨ws⟩ ∧
      ∀ t : Setting, t.layered? raw user = some (t.get ws)) ∨
      ∃ p, ∃ t : Setting, (load file raw.texts).1 = .error (.malformed p) ∧
        t.filed? user = none := by
  obtain ⟨ws, hlayered, hws⟩ | ⟨p, t, hlayered, hnone⟩ := layered_cases hfile hsocket
  · refine .inl ⟨(overrideAll raw.texts Setting.all ws).1, by rw [load, hlayered], fun t => ?_⟩
    rw [get_overrideAll_all, Setting.layered?, hws]
    cases t.asked? raw <;> rfl
  · exact .inr ⟨p, t, by rw [load, hlayered], hnone⟩

/-- Variables that ask for the same lead to the same settings. -/
theorem load_congr {raw raw' : RawEnvironment} (h : ∀ t : Setting, t.asked? raw' = t.asked? raw)
    (file : SettingsFile) : (load file raw'.texts).1 = (load file raw.texts).1 := by
  cases hlayered : layered file with
  | error e => rw [load, load, hlayered]
  | ok s =>
    have hsame : (overrideAll raw'.texts Setting.all s.websocket).1 =
        (overrideAll raw.texts Setting.all s.websocket).1 :=
      eq_of_get fun t => by rw [get_overrideAll_all, get_overrideAll_all, h]
    simp only [load, hlayered, hsame]

/-- What is loaded holds no zero, and zeros are complained about. -/
theorem zero_mem_limits_iff {ws : SocketSettings} : 0 ∈ ws.limits ↔ ∃ l : Limit, l.get ws = 0 := by
  simp [SocketSettings.limits_eq, mem_all_limit]

/-- **Settings are layered**: variables over the file over the defaults, setting by setting, for
every file that is missing or holds an object of the right shape and for all variables. What is
loaded follows the rule and holds no zero among its sizes and timeouts. Only what variables ask for
counts: one that is not set, holds no text or makes no sense changes nothing, alone or with others.
If the file's own values are of the right types then the layers together lead to one result; a zero
is complained about exactly if there is one in it, and it is loaded otherwise, so a variable makes
good for a zero in the file. -/
theorem load_follows_layers (hfile : file.Holds user) (hsocket : SocketShaped user)
    (raw : RawEnvironment) :
    (∀ s, (load file raw.texts).1 = .ok s →
      s.websocket.Follows ⟨raw, user⟩ ∧ ∀ n ∈ s.websocket.limits, 0 < n) ∧
    (∀ raw' : RawEnvironment, (∀ name demand, raw'.Asks name demand ↔ raw.Asks name demand) →
      (load file raw'.texts).1 = (load file raw.texts).1) ∧
    (user.Convertible → ∃ ws : SocketSettings, (∀ ws', ws'.Follows ⟨raw, user⟩ ↔ ws' = ws) ∧
      ((∃ l, (load file raw.texts).1 = .error (.zero l)) ↔ 0 ∈ ws.limits) ∧
      ((load file raw.texts).1 = .ok ⟨ws⟩ ↔ 0 ∉ ws.limits)) := by
  refine ⟨fun s hs => ?_, fun raw' hraw => ?_, fun hconvertible => ?_⟩
  · obtain ⟨ws, hload, hws⟩ | ⟨p, t, hload, -⟩ := load_cases hfile hsocket raw
    · obtain ⟨rfl, hpos⟩ := validate_eq_ok_iff.mp (hload.symm.trans hs)
      refine ⟨SocketSettings.follows_iff.mpr hws, fun n hn => UInt64.pos_iff_ne_zero.mpr ?_⟩
      rintro rfl
      obtain ⟨l, hl⟩ := zero_mem_limits_iff.mp hn
      exact hpos l hl
    · cases hload.symm.trans hs
  · refine load_congr (fun t => Option.ext fun x => ?_) file
    rw [t.asked?_eq_some_iff, t.asked?_eq_some_iff, hraw]
  · obtain ⟨ws, hload, hws⟩ | ⟨p, t, -, hnone⟩ := load_cases hfile hsocket raw
    · refine ⟨ws, fun ws' => ?_, ?_, ?_⟩
      · rw [SocketSettings.follows_iff]
        constructor
        · exact fun h => eq_of_get fun t => Option.some.inj ((h t).symm.trans (hws t))
        · rintro rfl
          exact hws
      · rw [hload, exists_validate_eq_zero_iff, zero_mem_limits_iff]
      · rw [hload, validate_eq_ok_iff, zero_mem_limits_iff]
        simp
    · exact absurd hnone (hconvertible.filed?_ne_none t)

/-- A file with a zero, a null, an unknown key and an unknown section. -/
def zeroText : String :=
  "\x7b\"websocket\":\x7b\"pollTimeoutMs\":0,\"backend\":null,\"x\":1\x7d,\"other\":[]\x7d"

def zeroFile : SettingsFile := .bytes (zeroText.toList.map fun c => .ofNat c.toNat)

def zeroMembers : Json.Members :=
  [("other", .arr []), ("websocket", .obj [("backend", .null), ("pollTimeoutMs", .int 0),
    ("x", .int 1)])]

/-- A variable that repairs the zero, a switch and a backend that count, a number that is out of
range and a variable without text. -/
def repairing : RawEnvironment
  | "GATE_WS_POLL_TIMEOUT_MS" => some (Text.Utf8.encode "+0025")
  | "GATE_WS_ENABLED" => some (Text.Utf8.encode "oFF")
  | "GATE_WS_BACKEND" => some (Text.Utf8.encode "Poll-List")
  | "GATE_WS_MAX_MESSAGE_SIZE" => some (Text.Utf8.encode "0")
  | "GATE_WS_READ_TIMEOUT_MS" => some [255]
  | _ => none

/-- What the file with the zero is repaired to. -/
def repaired : SocketSettings := { enabled := false, backend := .pollList, pollTimeoutMs := 25 }

theorem convertible_zeroMembers : zeroMembers.Convertible where
  flags key hkey v hv := by
    have hnone : ∀ key ∈ ["enabled", "enablePoller"], zeroMembers.said? key = none := by decide
    rw [hnone key hkey] at hv
    cases hv
  backend v hv := by
    have hnone : zeroMembers.said? "backend" = none := by decide
    rw [hnone] at hv
    cases hv
  numbers key hkey v hv := by
    have hnone : ∀ key ∈ ["pollTimeoutMs", "connectionBufferSize", "maxEventsPerWait",
        "maxConcurrentResolvers", "handshakeTimeoutMs", "readTimeoutMs", "writeTimeoutMs",
        "maxMessageSize"], key = "pollTimeoutMs" ∨ zeroMembers.said? key = none := by decide
    obtain rfl | hnone := hnone key hkey
    · cases hv
      exact ⟨0, rfl⟩
    · rw [hnone] at hv
      cases hv

/-- The zero is repaired, the switch is off and the backend is the list; all else is as by
default. -/
theorem load_follows_layers_repaired :
    zeroFile.Holds zeroMembers ∧ SocketShaped zeroMembers ∧ zeroMembers.Convertible ∧
      zeroMembers.said? "pollTimeoutMs" = some (.int 0) ∧
      (load zeroFile repairing.texts).1 = .ok ⟨repaired⟩ ∧
      (∀ ws : SocketSettings, ws.Follows ⟨repairing, zeroMembers⟩ ↔ ws = repaired) ∧
      ¬∃ l, (load zeroFile repairing.texts).1 = .error (.zero l) := by
  have hholds : zeroFile.Holds zeroMembers := .inr ⟨_, zeroText, rfl, by rfl, by rfl⟩
  have hshaped : SocketShaped zeroMembers := fun v hv => .inr ⟨_, (Option.some.inj hv).symm⟩
  have hload : (load zeroFile repairing.texts).1 = .ok ⟨repaired⟩ := by decide +kernel
  have hlayers := load_follows_layers hholds hshaped repairing
  obtain ⟨ws, hfollows, hzero, -⟩ := hlayers.2.2 convertible_zeroMembers
  obtain rfl : repaired = ws := (hfollows _).mp (hlayers.1 _ hload).1
  exact ⟨hholds, hshaped, convertible_zeroMembers, rfl, hload, hfollows,
    fun herror => absurd (hzero.mp herror) (by decide)⟩

end Settings
end StreamGateway
