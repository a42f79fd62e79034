import StreamGateway.Log.Filter
import StreamGateway.Json.Value

/-! # Written lines

How an event stands in the output: as a line of text behind the time, or as a JSON document. -/
namespace StreamGateway.Log

/-- The two ways to write events. -/
inductive Format where
  | compact
  | json
deriving DecidableEq

/-- The value on a line of text. -/
def Value.onLine : Value → String
  | .text s => Text.quoted s
  | v => v.plain

/-- The value in a document. -/
def Value.toJson : Value → Json
  | .number n => .int n
  | .flag b => .bool b
  | .text s | .shown s => .str s

/-- A character of a message on a line of text: what would make a terminal act is spelled out. -/
def shownChar (c : Char) : List Char :=
  if c = '\x1b' then ['\\', 'x', '1', 'b']
  else if c = '\x07' then ['\\', 'x', '0', '7']
  else if c = '\x08' then ['\\', 'x', '0', '8']
  else if c = '\x0c' then ['\\', 'x', '0', 'c']
  else if c = '\x7f' then ['\\', 'x', '7', 'f']
  else if 0x80 ≤ c.toNat && c.toNat ≤ 0x9f then
    '\\' :: 'u' :: '\x7b' :: (Text.hexadecimal c.toNat ++ ['\x7d'])
  else [c]

/-- The message on a line of text. -/
def Event.shownMessage (e : Event) : String := String.ofList (e.message.toList.flatMap shownChar)

/-- The time, the level in a column of five, the target, the message and the fields. -/
def Event.compact (time : String) (e : Event) : String :=
  let level := String.ofList (List.replicate (5 - e.level.name.length) ' ') ++ e.level.name
  let fields := e.fields.map fun (name, value) => name ++ "=" ++ value.onLine
  " ".intercalate ([time, level, e.target ++ ":", e.shownMessage] ++ fields)

/-- The fields, the message among them. -/
def Event.fieldsJson (e : Event) : Json :=
  Json.object (("message", .str e.message) :: e.fields.map fun (name, value) =>
    (name, value.toJson))

/-- A text without the marks that colour it on a terminal; `inMark` says that one has begun. -/
def withoutColours (inMark : Bool) : List Char → List Char
  | [] => []
  | c :: cs =>
    if inMark then withoutColours (c ≠ 'm') cs
    else if c = '\x1b' && cs.head? = some '[' then withoutColours true cs
    else c :: withoutColours false cs

/-- A line without colours and without its first word, with one space between the others. -/
def withoutFirstWord (line : List Char) : String :=
  " ".intercalate (((Text.words (withoutColours false line)).drop 1).map String.ofList)

/-- The lines of a text, each without its first word. -/
def bareLines (text : String) : List Json :=
  (Text.pieces '\n' text.toList).map fun line => .str (withoutFirstWord line)

/-- What is written for an event, but for the time. -/
def Event.lines (time : String) (e : Event) : Format → List Json
  | .compact => bareLines (e.compact time)
  | .json => [.arr [.str e.level.name, e.fieldsJson, .str e.target]]

end StreamGateway.Log
