import StreamGateway.Proofs.Json.ReadBack
import StreamGateway.Proofs.Settings.Layering
import StreamGateway.Proofs.Text.Decoding

/-! # Saved settings

Settings that were written to a file are loaded from it unchanged, if no variable of the environment
asks for something else. The text is read back as the value it was printed from (`parse_render`);
laid over the defaults, that value gives every setting what was written for it (`layered_of_parse`).
Only settings with a zero limit are refused, and those are never loaded in the first place. -/
namespace StreamGateway

/-! ## The text -/

theorem Json.orderedMembers_eq {ms : List (String × Json)} (h : ∀ m ∈ ms, m.2.ordered = m.2) :
    orderedMembers ms = ms := by
  induction ms with
  | nil => rw [orderedMembers]
  | cons m ms ih =>
    obtain ⟨hm, hms⟩ := List.forall_mem_cons.mp h
    rw [orderedMembers, hm, ih hms]

namespace Setting

theorem legible_toJson (t : Setting) (ws : SocketSettings) {levels : Nat} :
    (t.toJson ws).Legible levels := by
  cases t with
  | switch s => exact .bool _
  | backend => exact .str _
  | limit l => exact .int (Json.inRange_of_le (Nat.le_of_lt_succ (l.get ws).toNat_lt))

theorem ordered_toJson (t : Setting) (ws : SocketSettings) :
    (t.toJson ws).ordered = t.toJson ws := by
  cases t <;> rw [toJson, Json.ordered]

theorem isNull_toJson (t : Setting) (ws : SocketSettings) : (t.toJson ws).isNull = false := by
  cases t <;> rfl

end Setting

theorem SocketSettings.keys_members (ws : SocketSettings) :
    ws.members.map Prod.fst = Setting.all.map Setting.key := by
  rw [members, List.map_map]
  rfl

/-- The members of the settings by increasing key. -/
def SocketSettings.sorted (ws : SocketSettings) : Json.Members := .gather ws.members []

theorem SocketSettings.get?_sorted (ws : SocketSettings) (t : Setting) :
    ws.sorted.get? t.key = some (t.toJson ws) := by
  have hkeys : (ws.members.map Prod.fst).Nodup := by
    rw [keys_members]
    decide
  exact Json.Members.get?_gather hkeys (List.mem_map.mpr ⟨t, t.mem_all, rfl⟩) []

namespace Settings

/-- Printed settings are read back as a value. -/
theorem parse_render (s : Settings) : Json.parse s.render = .ok s.toJson := by
  have hkey : "websocket" ≠ Json.embeddedKey := by decide
  have hfirst : ∀ m ∈ s.websocket.members.head?, m.1 ≠ Json.embeddedKey := by
    intro m hm
    cases hm
    show Setting.key (.switch .enabled) ≠ Json.embeddedKey
    decide
  have hsection : (Json.obj s.websocket.members).Legible 126 := by
    refine .obj (fun m hm => ?_) hfirst
    obtain ⟨t, -, rfl⟩ := List.mem_map.mp hm
    exact t.legible_toJson s.websocket
  have hordered : Json.orderedMembers s.websocket.members = s.websocket.members := by
    refine Json.orderedMembers_eq fun m hm => ?_
    obtain ⟨t, -, rfl⟩ := List.mem_map.mp hm
    exact t.ordered_toJson s.websocket
  have hlegible : (Json.obj [("websocket", .obj s.websocket.members)]).Legible Json.deepest :=
    .obj (by simpa using hsection) (by simpa using hkey)
  rw [render, Json.parse_render_ordered hlegible, Json.ordered, Json.orderedMembers,
    Json.orderedMembers, Json.ordered, hordered]
  rfl

/-! ## The layers -/

/-- A file that holds the settings as a value gives these settings. -/
theorem layered_of_parse {s : Settings} {bytes : List UInt8} {text : String}
    (hdecode : Text.Utf8.decode bytes = .ok text) (hparse : Json.parse text = .ok s.toJson) :
    layered (.bytes bytes) = .ok s := by
  have hholds : (SettingsFile.bytes bytes).Holds [("websocket", .obj s.websocket.sorted)] :=
    .inr ⟨bytes, text, rfl, hdecode, hparse⟩
  have hshaped : SocketShaped [("websocket", .obj s.websocket.sorted)] :=
    fun v hv => .inr ⟨_, (Option.some.inj hv).symm⟩
  have hsocket : Json.Members.socket [("websocket", .obj s.websocket.sorted)] =
      s.websocket.sorted := rfl
  have hfiled (t : Setting) :
      t.filed? [("websocket", .obj s.websocket.sorted)] = some (t.get s.websocket) := by
    rw [Setting.filed?, Json.Members.said?, hsocket, SocketSettings.get?_sorted, Option.filter,
      t.isNull_toJson]
    exact t.convert?_toJson s.websocket
  obtain ⟨ws, hlayered, hws⟩ | ⟨p, t, -, hnone⟩ := layered_cases hholds hshaped
  · have hsame : ws = s.websocket :=
      eq_of_get fun t => Option.some.inj ((hws t).symm.trans (hfiled t))
    rw [hlayered, hsame]
  · cases (hfiled t).symm.trans hnone

/-- Variables that are not set change nothing. -/
theorem overrideAll_of_unset {env : Environment} (henv : ∀ t : Setting, env t.envName = none)
    (ss : List Setting) (ws : SocketSettings) : overrideAll env ss ws = (ws, []) := by
  induction ss with
  | nil => rfl
  | cons t ss ih =>
    have hone : overrideOne env t ws = (ws, []) := by rw [overrideOne, henv]
    rw [overrideAll, hone]
    dsimp only
    rw [ih]
    rfl

/-! ## Saving and loading -/

/-- The file that settings are saved as. -/
def saved (s : Settings) : SettingsFile := .bytes (Text.Utf8.encode s.render)

theorem load_saved {env : Environment} (henv : ∀ t : Setting, env t.envName = none) (s : Settings) :
    load s.saved env = (validate s, []) := by
  have hlayered : layered s.saved = .ok s :=
    layered_of_parse (Text.Utf8.decode_encode _) s.parse_render
  rw [load, hlayered]
  dsimp only
  rw [overrideAll_of_unset henv]

/-- What was loaded is valid. -/
theorem validate_of_load {file : SettingsFile} {env : Environment} {s : Settings}
    (h : (load file env).1 = .ok s) : validate s = .ok s := by
  rw [load] at h
  split at h
  · cases h
  · obtain ⟨rfl, hpos⟩ := validate_eq_ok_iff.mp h
    exact validate_eq_ok_iff.mpr ⟨rfl, hpos⟩

/-- **Saved settings are loaded again**, where no variable is set: all valid settings, and all that
any file and any environment lead to. There is nothing to warn about on the way. -/
theorem saving_keeps_settings {bare : Environment} (hbare : ∀ t : Setting, bare t.envName = none) :
    (∀ s t, validate s = .ok t → load s.saved bare = (.ok s, [])) ∧
      ∀ file env s, (load file env).1 = .ok s → load s.saved bare = (.ok s, []) := by
  refine ⟨fun s t h => ?_, fun file env s h => ?_⟩
  · obtain ⟨rfl, -⟩ := validate_eq_ok_iff.mp h
    rw [load_saved hbare, h]
  · rw [load_saved hbare, validate_of_load h]

/-- The largest limits that there are, and everything else unlike its default. -/
def extreme : Settings where
  websocket :=
    { enabled := false, enablePoller := false, backend := .pollList
      pollTimeoutMs := 18446744073709551615, connectionBufferSize := 18446744073709551614
      maxEventsPerWait := 9223372036854775808, maxConcurrentResolvers := 9223372036854775807
      handshakeTimeoutMs := 1, readTimeoutMs := 10, writeTimeoutMs := 18446744073709551615
      maxMessageSize := 18446744073709551610 }

theorem saving_keeps_settings_extreme :
    validate extreme = .ok extreme ∧ load extreme.saved (fun _ => none) = (.ok extreme, []) ∧
      (load zeroFile repairing.texts).1 = .ok ⟨repaired⟩ ∧
      load (saved ⟨repaired⟩) (fun _ => none) = (.ok ⟨repaired⟩, []) := by
  have hbare (t : Setting) : (fun _ => none : Environment) t.envName = none := rfl
  have hvalid : validate extreme = .ok extreme := by decide +kernel
  have hrepaired : (load zeroFile repairing.texts).1 = .ok ⟨repaired⟩ := by decide +kernel
  exact ⟨hvalid, (saving_keeps_settings hbare).1 _ _ hvalid, hrepaired,
    (saving_keeps_settings hbare).2 _ _ _ hrepaired⟩

end Settings
end StreamGateway
