/-! # UTF-8

Bytes as text. A character takes one to four bytes; the first byte fixes their number and, with it,
the range of the second one, which shuts out overlong forms, surrogates and numbers that are too
large. -/
namespace StreamGateway.Text.Utf8

/-- What is wrong with the bytes behind a valid beginning. -/
structure Fault where
  /-- How many bytes are fine. -/
  validUpTo : Nat
  /-- How many bytes could not start a character; none if the text ends inside one. -/
  badLength : Option Nat
deriving DecidableEq

def Fault.message (f : Fault) : String :=
  match f.badLength with
  | some n =>
    "invalid utf-8 sequence of " ++ toString n ++ " bytes from index " ++ toString f.validUpTo
  | none => "incomplete utf-8 byte sequence from index " ++ toString f.validUpTo

/-- A byte that continues a character. -/
def isContinuation (b : UInt8) : Bool := 0x80 ≤ b && b ≤ 0xBF

/-- The second byte after `b`. -/
def secondOk (b second : UInt8) : Bool :=
  if b = 0xE0 then 0xA0 ≤ second && second ≤ 0xBF
  else if b = 0xED then 0x80 ≤ second && second ≤ 0x9F
  else if b = 0xF0 then 0x90 ≤ second && second ≤ 0xBF
  else if b = 0xF4 then 0x80 ≤ second && second ≤ 0x8F
  else isContinuation second

/-- The number of bytes of the character that starts with `b`; none if no character does. -/
def width? (b : UInt8) : Option Nat :=
  if b < 0x80 then some 1
  else if 0xC2 ≤ b && b ≤ 0xDF then some 2
  else if 0xE0 ≤ b && b ≤ 0xEF then some 3
  else if 0xF0 ≤ b && b ≤ 0xF4 then some 4
  else none

/-- The bits of a byte that continues a character. -/
def low (b : UInt8) : Nat := b.toNat % 64

/-- The characters of the bytes, of which `index` are behind us and `read` holds the characters, the
last one first. -/
def decodeFrom (index : Nat) (read : List Char) : List UInt8 → Except Fault (List Char)
  | [] => .ok read.reverse
  | b :: rest =>
    match width? b with
    | none => .error ⟨index, some 1⟩
    | some 1 => decodeFrom (index + 1) (Char.ofNat b.toNat :: read) rest
    | some 2 =>
      match rest with
      | [] => .error ⟨index, none⟩
      | b1 :: rest =>
        if isContinuation b1 then
          decodeFrom (index + 2) (Char.ofNat (b.toNat % 32 * 64 + low b1) :: read) rest
        else .error ⟨index, some 1⟩
    | some 3 =>
      match rest with
      | [] => .error ⟨index, none⟩
      | [b1] => if secondOk b b1 then .error ⟨index, none⟩ else .error ⟨index, some 1⟩
      | b1 :: b2 :: rest =>
        if !secondOk b b1 then .error ⟨index, some 1⟩
        else if isContinuation b2 then
          decodeFrom (index + 3)
            (Char.ofNat (b.toNat % 16 * 4096 + low b1 * 64 + low b2) :: read) rest
        else .error ⟨index, some 2⟩
    | some _ =>
      match rest with
      | [] => .error ⟨index, none⟩
      | [b1] => if secondOk b b1 then .error ⟨index, none⟩ else .error ⟨index, some 1⟩
      | [b1, b2] =>
        if !secondOk b b1 then .error ⟨index, some 1⟩
        else if isContinuation b2 then .error ⟨index, none⟩ else .error ⟨index, some 2⟩
      | b1 :: b2 :: b3 :: rest =>
        if !secondOk b b1 then .error ⟨index, some 1⟩
        else if !isContinuation b2 then .error ⟨index, some 2⟩
        else if isContinuation b3 then
          decodeFrom (index + 4)
            (Char.ofNat (b.toNat % 8 * 262144 + low b1 * 4096 + low b2 * 64 + low b3) :: read) rest
        else .error ⟨index, some 3⟩

/-- The text of the bytes. -/
def decode (bytes : List UInt8) : Except Fault String :=
  match decodeFrom 0 [] bytes with
  | .ok cs => .ok (String.ofList cs)
  | .error f => .error f

/-- The bytes of a text. -/
def encode (s : String) : List UInt8 := s.toUTF8.toList

/-- The characters that make up the first `n` bytes; none if the last of these is inside a
character. -/
def take? (n : Nat) : List Char → Option (List Char)
  | [] => if n = 0 then some [] else none
  | c :: cs =>
    if n = 0 then some []
    else if c.utf8Size ≤ n then (take? (n - c.utf8Size) cs).map (c :: ·)
    else none

/-- What follows the first `n` bytes; none if the last of these is inside a character. -/
def drop? (n : Nat) : List Char → Option (List Char)
  | [] => if n = 0 then some [] else none
  | c :: cs =>
    if n = 0 then some (c :: cs)
    else if c.utf8Size ≤ n then drop? (n - c.utf8Size) cs
    else none

/-- The part of a text from byte `first` on, before byte `last`; none if it would cut a
character. -/
def slice? (s : String) (first last : Nat) : Option String := do
  let cs ← drop? first s.toList
  return String.ofList (← take? (last - first) cs)

end StreamGateway.Text.Utf8
