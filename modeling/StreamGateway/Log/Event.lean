import StreamGateway.Text.Quoted

/-! # Log events

What the gateway reports about itself: a level, the part of the gateway that speaks, a message, and
named values. -/
namespace StreamGateway.Log

/-- How grave an event is. -/
inductive Level where
  | error
  | warn
  | info
  | debug
  | trace
deriving DecidableEq

namespace Level

/-- The gravest level has rank 1. -/
def rank : Level → Nat
  | .error => 1
  | .warn => 2
  | .info => 3
  | .debug => 4
  | .trace => 5

def name : Level → String
  | .error => "ERROR"
  | .warn => "WARN"
  | .info => "INFO"
  | .debug => "DEBUG"
  | .trace => "TRACE"

/-- The level with a name in lower case. -/
def named? : String → Option Level
  | "error" => some .error
  | "warn" => some .warn
  | "info" => some .info
  | "debug" => some .debug
  | "trace" => some .trace
  | _ => none

end Level

/-- The value of a field. -/
inductive Value where
  | number (value : Int)
  | flag (value : Bool)
  /-- A text that formatted lines put between quotes. -/
  | text (value : String)
  /-- A text that is shown as it is. -/
  | shown (value : String)
deriving DecidableEq

/-- The value as bare text. -/
def Value.plain : Value → String
  | .number n => toString n
  | .flag b => if b then "true" else "false"
  | .text s | .shown s => s

/-- Something that happened. -/
structure Event where
  level : Level
  /-- The part of the gateway that speaks. -/
  target : String
  message : String
  fields : List (String × Value) := []
deriving DecidableEq

namespace Event

/-- The value of a field, as bare text. -/
def field? (e : Event) (name : String) : Option String :=
  (e.fields.find? (·.1 = name)).map (·.2.plain)

/-- The event has a field of this name; the message counts as one. -/
def hasField (e : Event) (name : String) : Bool := name = "message" || e.fields.any (·.1 = name)

/-- The event is as grave as `limit` or graver. -/
def reaches (e : Event) (limit : Level) : Bool := e.level.rank ≤ limit.rank

end Event

/-- The events of a span of time, the first one first. -/
abbrev Journal := List Event

namespace Journal

/-- How many events have this level. -/
def count (j : Journal) (level : Level) : Nat := j.countP (·.level = level)

/-- Some event carries this field with this value. -/
def hasField (j : Journal) (name value : String) : Bool :=
  j.any fun e => e.field? name = some value

/-- `part` stands somewhere in `whole`. -/
def contains (part : List Char) : List Char → Bool
  | [] => part.isEmpty
  | c :: cs => part.isPrefixOf (c :: cs) || contains part cs

/-- Some event of this level has `part` in its message. -/
def hasEvent (j : Journal) (level : Level) (part : String) : Bool :=
  j.any fun e => e.level = level && contains part.toList e.message.toList

end Journal
end StreamGateway.Log
