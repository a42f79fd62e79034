import StreamGateway.Json.Print
import StreamGateway.Json.Record
import StreamGateway.Protocol.Error

/-! # Frames

The two shapes of messages on the wire: objects with an id, a type and a payload, and channel
messages, which are lists of five. Payloads are kept as they are written. -/
namespace StreamGateway

open Json (Raw Problem)

/-! ### Object frames -/

/-- A message of an object protocol. An empty id and a missing payload are not written. -/
structure ObjectFrame where
  id : String := ""
  type : String
  payload : Option Raw := none
deriving DecidableEq

namespace ObjectFrame

/-- The frame as a record in a text. -/
def record : Json.Record ObjectFrame where
  title := "struct ObjectMessage"
  fields := [
    { name := "id"
      read := fun f cs => do
        let (id, rest) ← Json.readString cs
        return ({ f with id }, rest) },
    { name := "type"
      required := true
      read := fun f cs => do
        let (type, rest) ← Json.readString cs
        return ({ f with type }, rest) },
    { name := "payload"
      read := fun f cs => do
        let (payload, rest) ← Json.optional Raw.read cs
        return ({ f with payload }, rest) }]

/-- The frame of a text. -/
def parse (text : String) : Except Problem ObjectFrame := record.parse { type := "" } text

/-- A member's key with its colon. -/
def keyChars (key : String) : List Char := Json.renderString key ++ [':']

/-- The characters of a frame. -/
def renderChars (f : ObjectFrame) : List Char :=
  let id := if f.id = "" then [] else keyChars "id" ++ Json.renderString f.id ++ [',']
  let payload := match f.payload with
    | none => []
    | some raw => ',' :: (keyChars "payload" ++ raw.text.toList)
  '\x7b' :: (id ++ keyChars "type" ++ Json.renderString f.type ++ payload ++ ['\x7d'])

/-- The text of a frame. -/
def render (f : ObjectFrame) : String := String.ofList f.renderChars

end ObjectFrame

/-! ### Channel frames -/

/-- A message on a channel. -/
structure ChannelFrame where
  joinRef : Option String := none
  ref : Option String := none
  topic : String
  event : String
  payload : Raw
deriving DecidableEq

namespace ChannelFrame

/-- The frame as a record in a text; it is never written as an object. -/
def record : Json.Record ChannelFrame where
  title := "tuple struct PhoenixMessage"
  keyed := false
  fields := [
    { name := "joinRef"
      required := true
      read := fun f cs => do
        let (joinRef, rest) ← Json.optional Json.readString cs
        return ({ f with joinRef }, rest) },
    { name := "ref"
      required := true
      read := fun f cs => do
        let (ref, rest) ← Json.optional Json.readString cs
        return ({ f with ref }, rest) },
    { name := "topic"
      required := true
      read := fun f cs => do
        let (topic, rest) ← Json.readString cs
        return ({ f with topic }, rest) },
    { name := "event"
      required := true
      read := fun f cs => do
        let (event, rest) ← Json.readString cs
        return ({ f with event }, rest) },
    { name := "payload"
      required := true
      read := fun f cs => do
        let (payload, rest) ← Raw.read cs
        return ({ f with payload }, rest) }]

/-- The frame of a text. -/
def parse (text : String) : Except Problem ChannelFrame :=
  record.parse { topic := "", event := "", payload := ⟨"null"⟩ } text

/-- A string, or `null`. -/
def optionalChars : Option String → List Char
  | none => "null".toList
  | some s => Json.renderString s

/-- The characters of a frame. -/
def renderChars (f : ChannelFrame) : List Char :=
  '[' :: (optionalChars f.joinRef ++ ',' :: (optionalChars f.ref ++ ',' ::
    (Json.renderString f.topic ++ ',' :: (Json.renderString f.event ++ ',' ::
      (f.payload.text.toList ++ [']'])))))

/-- The text of a frame. -/
def render (f : ChannelFrame) : String := String.ofList f.renderChars

end ChannelFrame

/-! ### Payloads -/

namespace Payload

/-- An object whose values are texts already. -/
def objectOf (members : List (String × String)) : Raw :=
  let chars := members.map fun (key, value) => Json.renderString key ++ ':' :: value.toList
  ⟨String.ofList ('\x7b' :: ((chars.intersperse [',']).flatten ++ ['\x7d']))⟩

/-- The object `data` with `extensions` as one more member. Without extensions the data stay as they
are written, whatever they are. -/
def withExtensions (data : Raw) : Option Raw → Except Problem Raw
  | none => .ok data
  | some extensions => do
    let members ← Json.parseMembers data.text
    let value ← Json.parse extensions.text
    return ⟨Json.render (.obj (members.set "extensions" value))⟩

/-- The object of errors and extensions, as they are written. -/
def ofErrors (errors : Raw) (extensions : Option Raw) : Raw :=
  objectOf (("errors", errors.text) ::
    match extensions with
    | none => []
    | some e => [("extensions", e.text)])

/-- The answer on a channel. -/
def reply (status : String) (response : Json) : Raw :=
  objectOf [("status", Json.render (.str status)), ("response", Json.render response)]

end Payload
end StreamGateway
