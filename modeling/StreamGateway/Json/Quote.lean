import StreamGateway.Json.Problem
import StreamGateway.Number.Unsigned

/-! # Quoted strings

Reading a string behind its opening quote, one character at a time. `Quote` decodes: escapes become
characters, and a pair of surrogate escapes becomes one. `Outline` only checks the shape, which is
all that a text needs that is kept as it is written. -/
namespace StreamGateway.Json

/-- What stands between the words of a document. -/
def isBlank (c : Char) : Bool := c = ' ' || c = '\t' || c = '\n' || c = '\r'

/-- The size of the characters in UTF-8. -/
def byteSize (cs : List Char) : Nat := cs.foldr (·.utf8Size + ·) 0

/-- The complaint about a character that is no digit of a four-digit escape of which `seen` digits
have been read: if not even four bytes are left for the digits, the string counts as unfinished. -/
def hexProblem (seen : Nat) (left : List Char) : Problem :=
  if 4 ≤ seen + byteSize left then .badEscape else .endInString

/-- The character that a one-letter escape stands for. -/
def shortEscape? (c : Char) : Option Char :=
  if c = '"' ∨ c = '\\' ∨ c = '/' then some c
  else if c = 'b' then some '\x08'
  else if c = 'f' then some '\x0c'
  else if c = 'n' then some '\n'
  else if c = 'r' then some '\r'
  else if c = 't' then some '\t'
  else none

/-- The first sixteen-bit unit of a surrogate pair. -/
def isHighSurrogate (n : Nat) : Bool := 0xD800 ≤ n && n ≤ 0xDBFF

/-- The second sixteen-bit unit of a surrogate pair. -/
def isLowSurrogate (n : Nat) : Bool := 0xDC00 ≤ n && n ≤ 0xDFFF

/-- The character that two surrogates stand for. -/
def joinSurrogates (high low : Nat) : Char :=
  Char.ofNat ((high - 0xD800) * 0x400 + (low - 0xDC00) + 0x10000)

/-- Where in a string the reader stands; `high` is the first half of a pair that was begun. -/
inductive Quote.Mode where
  | plain
  | escape
  | hex (high : Option Nat) (seen value : Nat)
  /-- The backslash of the second half must come. -/
  | pair (high : Nat)
  /-- The letter `u` of the second half must come. -/
  | pairMark (high : Nat)
deriving DecidableEq

/-- A string being read: its characters so far, the last one first. -/
structure Quote where
  mode : Quote.Mode := .plain
  read : List Char := []
deriving DecidableEq

/-- What the next character does to a string. -/
inductive Quote.Next where
  | go (quote : Quote)
  | close
  | bad (problem : Problem)
deriving DecidableEq

namespace Quote

def text (q : Quote) : String := String.ofList q.read.reverse

/-- Takes in a four-digit escape. -/
def takeUnit (q : Quote) (high : Option Nat) (unit : Nat) : Next :=
  match high with
  | none =>
    if isLowSurrogate unit then .bad .loneSurrogate
    else if isHighSurrogate unit then .go { q with mode := .pair unit }
    else .go ⟨.plain, Char.ofNat unit :: q.read⟩
  | some h =>
    if isLowSurrogate unit then .go ⟨.plain, joinSurrogates h unit :: q.read⟩
    else .bad .loneSurrogate

/-- One character; `left` is what follows it. -/
def next (q : Quote) (c : Char) (left : List Char) : Next :=
  match q.mode with
  | .plain =>
    if c = '"' then .close
    else if c = '\\' then .go { q with mode := .escape }
    else if c.toNat < 0x20 then .bad .controlCharacter
    else .go { q with read := c :: q.read }
  | .escape =>
    if c = 'u' then .go { q with mode := .hex none 0 0 }
    else match shortEscape? c with
      | some d => .go ⟨.plain, d :: q.read⟩
      | none => .bad .badEscape
  | .hex high seen value =>
    match Number.hexDigit? c with
    | none => .bad (hexProblem seen (c :: left))
    | some d =>
      if seen = 3 then q.takeUnit high (value * 16 + d)
      else .go { q with mode := .hex high (seen + 1) (value * 16 + d) }
  | .pair high =>
    if c = '\\' then .go { q with mode := .pairMark high } else .bad .unpairedSurrogate
  | .pairMark high =>
    if c = 'u' then .go { q with mode := .hex (some high) 0 0 } else .bad .unpairedSurrogate

/-- Reads to the closing quote; gives the string and what follows it. -/
def run (q : Quote) : List Char → Except Problem (String × List Char)
  | [] => .error .endInString
  | c :: cs =>
    match q.next c cs with
    | .go q' => run q' cs
    | .close => .ok (q.text, cs)
    | .bad p => .error p

end Quote

/-- Where in a string of which only the shape is checked the reader stands. -/
inductive Outline where
  | plain
  | escape
  | hex (seen : Nat)
deriving DecidableEq

/-- What the next character does to such a string. -/
inductive Outline.Next where
  | go (outline : Outline)
  | close
  | bad (problem : Problem)
deriving DecidableEq

namespace Outline

@[inherit_doc Quote.next]
def next (o : Outline) (c : Char) (left : List Char) : Next :=
  match o with
  | .plain =>
    if c = '"' then .close
    else if c = '\\' then .go .escape
    else if c.toNat < 0x20 then .bad .controlCharacter
    else .go .plain
  | .escape =>
    if c = 'u' then .go (.hex 0)
    else if (shortEscape? c).isSome then .go .plain
    else .bad .badEscape
  | .hex seen =>
    if (Number.hexDigit? c).isSome then .go (if seen = 3 then .plain else .hex (seen + 1))
    else .bad (hexProblem seen (c :: left))

end Outline
end StreamGateway.Json
