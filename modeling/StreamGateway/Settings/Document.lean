import StreamGateway.Json.Print
import StreamGateway.Settings.Setting

/-! # Settings as documents

Settings are written with all their members in order. They are read in two ways: straight from text,
and from a value that was put together from layers; the two accept the same documents but word some
complaints differently. -/
namespace StreamGateway

open Json (Problem Reader)

/-! ### Backends -/

namespace Backend

/-- The backend of a name, or the complaint about it. -/
def ofName (s : String) : Except Problem Backend :=
  match ofKey? s with
  | some b => .ok b
  | none => .error (.unknownVariant s (all.map key))

def asUnit : Json → Except Problem Unit
  | .null => .ok ()
  | v => .error (.wrongType v.found "unit")

/-- A backend as a value: its name, or an object with the name as its only key and nothing behind
it. -/
def ofJson : Json → Except Problem Backend
  | .str s => ofName s
  | .obj [(k, v)] => do
    let b ← ofName k
    asUnit v
    return b
  | .obj _ => .error (.wrongValue .map "map with a single key")
  | v => .error (.wrongType v.found "string or map")

/-- A backend in a text, in one of the same two forms. -/
def read : Reader Backend := fun cs =>
  match cs.dropWhile Json.isBlank with
  | [] => .error .endInValue
  | '"' :: rest => do
    let (s, rest) ← Json.Quote.run {} rest
    return (← ofName s, rest)
  | '\x7b' :: rest => do
    let (s, rest) ← Json.scalar "variant identifier" (fun
      | .str s => .ok s
      | v => .error (.wrongType v.found "variant identifier")) rest
    let b ← ofName s
    let (_, rest) ← Json.scalar "unit" asUnit (← Json.readColon rest)
    match rest.dropWhile Json.isBlank with
    | [] => throw .endInObject
    | '\x7d' :: rest => return (b, rest)
    | _ => throw .noValue
  | _ => .error .noValue

end Backend

/-! ### Single settings -/

namespace Setting

/-- The settings with this one taken from a value. -/
def ofJson (s : Setting) (v : Json) (ws : SocketSettings) : Except Problem SocketSettings :=
  match s with
  | .switch s => return s.set (← Json.asBool v) ws
  | .backend => return { ws with backend := ← Backend.ofJson v }
  | .limit l => return l.set (.ofNat (← Json.asUnsigned l.kind v)) ws

/-- The settings with this one taken from a text. -/
def read (s : Setting) (ws : SocketSettings) : Reader SocketSettings := fun cs =>
  match s with
  | .switch s => do
    let (b, rest) ← Json.scalar "a boolean" Json.asBool cs
    return (s.set b ws, rest)
  | .backend => do
    let (b, rest) ← Backend.read cs
    return ({ ws with backend := b }, rest)
  | .limit l => do
    let (n, rest) ← Json.scalar l.kind (Json.asUnsigned l.kind) cs
    return (l.set (.ofNat n) ws, rest)

/-- This setting as a value. -/
def toJson (s : Setting) (ws : SocketSettings) : Json :=
  match s with
  | .switch s => .bool (s.get ws)
  | .backend => .str ws.backend.key
  | .limit l => .int (l.get ws).toNat

end Setting

/-! ### Whole documents -/

namespace SocketSettings

/-- The settings as a record in a text. -/
def record : Json.Record SocketSettings where
  title := "struct WebSocketSettings"
  fields := Setting.all.map fun s => { name := s.key, read := s.read }

/-- The settings of a text; what is missing takes its default. -/
def parse (text : String) : Except Problem SocketSettings := record.parse {} text

/-- Takes known members over one by one, in the order of their keys. -/
def ofMembers : Json.Members → SocketSettings → Except Problem SocketSettings
  | [], ws => .ok ws
  | (k, v) :: rest, ws =>
    match Setting.all.find? (·.key = k) with
    | some s => do ofMembers rest (← s.ofJson v ws)
    | none => ofMembers rest ws

/-- Takes items over in the order of the settings; tells whether there were too many. -/
def ofItems : List Setting → List Json → SocketSettings → Except Problem (SocketSettings × Bool)
  | s :: ss, v :: vs, ws => do ofItems ss vs (← s.ofJson v ws)
  | [], _ :: _, ws => .ok (ws, true)
  | _, [], ws => .ok (ws, false)

/-- The settings of a value; what is missing takes its default. -/
def ofJson : Json → Except Problem SocketSettings
  | .obj members => ofMembers members {}
  | .arr items => do
    let (ws, tooMany) ← ofItems Setting.all items {}
    if tooMany then throw (.wrongLength items.length "fewer elements in array") else return ws
  | v => .error (.wrongType v.found record.title)

/-- Every setting under its key, in order. -/
def members (ws : SocketSettings) : List (String × Json) :=
  Setting.all.map fun s => (s.key, s.toJson ws)

end SocketSettings

namespace Settings

@[inherit_doc SocketSettings.record]
def record : Json.Record Settings where
  title := "struct GatewaySettings"
  fields := [{
    name := "websocket"
    read := fun _ cs => do
      let (ws, rest) ← SocketSettings.record.read {} cs
      return (⟨ws⟩, rest) }]

@[inherit_doc SocketSettings.parse]
def parse (text : String) : Except Problem Settings := record.parse {} text

@[inherit_doc SocketSettings.ofJson]
def ofJson : Json → Except Problem Settings
  | .obj members =>
    match Json.Members.get? "websocket" members with
    | some v => return ⟨← SocketSettings.ofJson v⟩
    | none => .ok {}
  | .arr [] => .ok {}
  | .arr [v] => return ⟨← SocketSettings.ofJson v⟩
  | .arr (v :: rest) => do
    let _ ← SocketSettings.ofJson v
    throw (.wrongLength (rest.length + 1) "fewer elements in array")
  | v => .error (.wrongType v.found record.title)

/-- The settings as a value. -/
def toJson (s : Settings) : Json := .obj [("websocket", Json.object s.websocket.members)]

/-- The settings as a document, in the order of the settings. -/
def render (s : Settings) : String :=
  Json.render (.obj [("websocket", .obj s.websocket.members)])

end Settings
end StreamGateway
