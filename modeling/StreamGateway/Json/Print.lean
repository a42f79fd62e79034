import StreamGateway.Number.Shortest
import StreamGateway.Json.Value

/-! # Writing JSON

Compact text: no blanks, members in the order they are held, and only those characters escaped that
must be. -/
namespace StreamGateway.Json

/-- A digit of a control character's escape. -/
def hexDigit (n : Nat) : Char := Char.ofNat (if n < 10 then 48 + n else 87 + n)

/-- One character of a string. -/
def escapeChar (c : Char) : List Char :=
  if c = '"' then ['\\', '"']
  else if c = '\\' then ['\\', '\\']
  else if c = '\x08' then ['\\', 'b']
  else if c = '\x0c' then ['\\', 'f']
  else if c = '\n' then ['\\', 'n']
  else if c = '\r' then ['\\', 'r']
  else if c = '\t' then ['\\', 't']
  else if c.toNat < 0x20 then
    ['\\', 'u', '0', '0', hexDigit (c.toNat / 16), hexDigit (c.toNat % 16)]
  else [c]

/-- A string between its quotes. -/
def renderString (s : String) : List Char := '"' :: (s.toList.flatMap escapeChar ++ ['"'])

mutual

/-- The characters of a value. -/
def renderChars : Json → List Char
  | .null => "null".toList
  | .bool true => "true".toList
  | .bool false => "false".toList
  | .int n => (toString n).toList
  | .float x => x.text
  | .str s => renderString s
  | .arr [] => ['[', ']']
  | .arr (v :: rest) => '[' :: (renderChars v ++ renderItems rest)
  | .obj [] => ['\x7b', '\x7d']
  | .obj ((k, v) :: rest) =>
    '\x7b' :: (renderString k ++ ':' :: (renderChars v ++ renderMembers rest))

/-- The further items of a list, and its end. -/
def renderItems : List Json → List Char
  | [] => [']']
  | v :: rest => ',' :: (renderChars v ++ renderItems rest)

/-- The further members of an object, and its end. -/
def renderMembers : List (String × Json) → List Char
  | [] => ['\x7d']
  | (k, v) :: rest => ',' :: (renderString k ++ ':' :: (renderChars v ++ renderMembers rest))

end

/-- The text of a value. -/
def render (v : Json) : String := String.ofList v.renderChars

end StreamGateway.Json
