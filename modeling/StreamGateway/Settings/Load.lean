import StreamGateway.Json.Merge
import StreamGateway.Log.Event
import StreamGateway.Settings.Document
import StreamGateway.Text.Utf8

/-! # Loading settings

Settings come in three layers: defaults, a file laid over them, and variables of the environment
over both. What a variable says only counts if it can be read and lies in its range; otherwise a
warning is logged. The result must not hold a zero limit. -/
namespace StreamGateway

/-- Why settings could not be had. -/
inductive SettingsError where
  | unreadable (reason : String)
  | malformed (problem : Json.Problem)
  | zero (limit : Limit)
deriving DecidableEq

def SettingsError.message : SettingsError → String
  | .unreadable reason => "failed to read settings file: " ++ reason
  | .malformed problem => "failed to parse settings JSON: " ++ problem.message
  | .zero limit => "invalid settings value: websocket." ++ limit.key ++ " must be > 0"

/-- The variables that are set to text. A variable with other content counts as unset. -/
abbrev Environment := String → Option String

/-- What stands at the path of the settings file. -/
inductive SettingsFile where
  | missing
  | directory
  | bytes (content : List UInt8)
deriving DecidableEq

/-- The text of the file, if there is a file. -/
def SettingsFile.text? : SettingsFile → Except SettingsError (Option String)
  | .missing => .ok none
  | .directory => .error (.unreadable "Is a directory (os error 21)")
  | .bytes content =>
    match Text.Utf8.decode content with
    | .ok s => .ok (some s)
    | .error _ => .error (.unreadable "stream did not contain valid UTF-8")

namespace Settings

/-- Settings without a zero limit. -/
def validate (s : Settings) : Except SettingsError Settings :=
  match s.websocket.zeroLimit? with
  | some l => .error (.zero l)
  | none => .ok s

/-! ### Overrides -/

/-- The warning about a variable that does not count. -/
def warning (key value what : String) : Log.Event :=
  { level := .warn, target := "gate_settings::loader"
    message := "invalid " ++ what ++ " env var, ignoring"
    fields := [("key", .text key), ("value", .shown value)] }

/-- The settings that a variable's text leads to, if it counts. -/
def override? (s : Setting) (text : String) (ws : SocketSettings) : Option SocketSettings :=
  match s with
  | .switch s => (Switch.parse? text).map fun b => s.set b ws
  | .backend => (Backend.parse? text).map fun b => { ws with backend := b }
  | .limit l => (Number.within? 1 l.most text).map fun n => l.set (.ofNat n) ws

/-- What a warning calls the setting's kind. -/
def kindName : Setting → String
  | .switch _ => "boolean"
  | .backend => "backend"
  | .limit l => l.kind

/-- One variable laid over the settings. An empty backend counts as unset. -/
def overrideOne (env : Environment) (s : Setting) (ws : SocketSettings) :
    SocketSettings × Log.Journal :=
  match env s.envName with
  | none => (ws, [])
  | some text =>
    if s = .backend ∧ text = "" then (ws, [])
    else match override? s text ws with
      | some ws => (ws, [])
      | none => (ws, [warning s.envName text (kindName s)])

/-- All variables laid over the settings, in order. -/
def overrideAll (env : Environment) : List Setting → SocketSettings → SocketSettings × Log.Journal
  | [], ws => (ws, [])
  | s :: ss, ws =>
    let (ws, first) := overrideOne env s ws
    let (ws, more) := overrideAll env ss ws
    (ws, first ++ more)

/-! ### Layers -/

/-- The defaults with the file's document laid over them. -/
def layered (file : SettingsFile) : Except SettingsError Settings := do
  let defaults := toJson {}
  let merged ← match ← file.text? with
    | none => pure defaults
    | some text =>
      match Json.parse text with
      | .ok user => pure (defaults.merge user)
      | .error p => throw (.malformed p)
  match ofJson merged with
  | .ok s => return s
  | .error p => throw (.malformed p)

/-- The settings of a file and an environment, with the warnings on the way. -/
def load (file : SettingsFile) (env : Environment) : Except SettingsError Settings × Log.Journal :=
  match layered file with
  | .error e => (.error e, [])
  | .ok s =>
    let (ws, warnings) := overrideAll env Setting.all s.websocket
    (validate ⟨ws⟩, warnings)

/-- A path and a name below it: one slash between them, unless the path is empty or ends in one. -/
def joinPath (base name : String) : String :=
  if base = "" ∨ base.toList.getLast? = some '/' then base ++ name else base ++ "/" ++ name

/-- Where the settings file is: where the environment says, else below the home directory. -/
def path (env : Environment) : String :=
  match (env "GATE_SETTINGS").filter (· ≠ "") with
  | some p => p
  | none => joinPath (joinPath ((env "HOME").getD "/tmp") ".gate") "settings.json"

/-! ### Shared settings -/

/-- The settings that all parts of a process share, once they are fixed. -/
abbrev Shared := Option Settings

/-- The shared settings; they are loaded when first asked for, and replaced by the defaults if that
fails. -/
def Shared.get (shared : Shared) (file : SettingsFile) (env : Environment) :
    Settings × Shared × Log.Journal :=
  match shared with
  | some s => (s, shared, [])
  | none =>
    match load file env with
    | (.ok s, warnings) => (s, some s, warnings)
    | (.error e, warnings) =>
      ({}, some {}, warnings ++ [{
        level := .warn, target := "gate_settings"
        message := "failed to load settings, using defaults"
        fields := [("error", .shown e.message)] }])

/-- Fixes the shared settings, or hands the given ones back if they are fixed already. -/
def Shared.init (shared : Shared) (s : Settings) : Except Settings Shared :=
  match shared with
  | some _ => .error s
  | none => .ok (some s)

end Settings
end StreamGateway
