import StreamGateway.Json.Numeral
import StreamGateway.Json.Quote

/-! # Raw JSON

A value that is passed on as it is written. The scanner finds where a value ends and checks its
shape, for any depth of nesting; it does not decode strings or numbers. It reads one character at a
time, and its state is the place it stands at together with the brackets that are open. -/
namespace StreamGateway.Json

/-- A kind of container. -/
inductive Bracket where
  | list
  | object
deriving DecidableEq

/-- The complaint about a text that ends inside a container. -/
def Bracket.unfinished : Bracket → Problem
  | .list => .endInList
  | .object => .endInObject

/-- The complaint about a character that neither separates members nor closes the container. -/
def Bracket.noComma : Bracket → Problem
  | .list => .noListComma
  | .object => .noObjectComma

def Bracket.closing : Bracket → Char
  | .list => ']'
  | .object => '\x7d'

/-- Where the scanner stands. `inside` are the open containers, the innermost first; where the
innermost one matters it stands apart and `outer` are the others. -/
inductive Scan where
  /-- A value must start. -/
  | value (inside : List Bracket)
  /-- Behind an opening bracket. -/
  | opened (bracket : Bracket) (outer : List Bracket)
  /-- Behind a value in a container. -/
  | behind (bracket : Bracket) (outer : List Bracket)
  /-- A key must start. -/
  | key (outer : List Bracket)
  | inKey (outline : Outline) (outer : List Bracket)
  | colon (outer : List Bracket)
  /-- Inside a word of which `left` is missing. -/
  | word (left : List Char) (inside : List Bracket)
  | number (phase : Phase) (inside : List Bracket)
  | text (outline : Outline) (inside : List Bracket)
deriving DecidableEq

namespace Scan

/-- What the next character does to the scan. -/
inductive Next where
  | go (scan : Scan)
  /-- The value ends with this character. -/
  | done
  /-- The value ended before this character. -/
  | past
  | bad (problem : Problem)
deriving DecidableEq

/-- Behind a complete value. -/
def finished : List Bracket → Next
  | [] => .done
  | b :: outer => .go (.behind b outer)

/-- The first character of a value. -/
def start (inside : List Bracket) (c : Char) : Next :=
  if c = 'n' then .go (.word ['u', 'l', 'l'] inside)
  else if c = 't' then .go (.word ['r', 'u', 'e'] inside)
  else if c = 'f' then .go (.word ['a', 'l', 's', 'e'] inside)
  else if c = '"' then .go (.text .plain inside)
  else if c = '[' then .go (.opened .list inside)
  else if c = '\x7b' then .go (.opened .object inside)
  else match Phase.first? c with
    | some phase => .go (.number phase inside)
    | none => .bad .noValue

/-- The first character of a key. -/
def startKey (outer : List Bracket) (c : Char) : Next :=
  if isBlank c then .go (.key outer)
  else if c = '"' then .go (.inKey .plain outer)
  else .bad .keyNotString

/-- A character behind a value in a container. -/
def afterValue (b : Bracket) (outer : List Bracket) (c : Char) : Next :=
  if isBlank c then .go (.behind b outer)
  else if c = ',' then .go (match b with
    | .list => .value (.list :: outer)
    | .object => .key outer)
  else if c = b.closing then finished outer
  else .bad b.noComma

/-- One character; `left` is what follows it. -/
def next (s : Scan) (c : Char) (left : List Char) : Next :=
  match s with
  | .value inside => if isBlank c then .go s else start inside c
  | .opened b outer =>
    if isBlank c then .go s
    else if c = b.closing then finished outer
    else match b with
      | .list => start (.list :: outer) c
      | .object => startKey outer c
  | .behind b outer => afterValue b outer c
  | .key outer => startKey outer c
  | .inKey o outer =>
    match o.next c left with
    | .go o' => .go (.inKey o' outer)
    | .close => .go (.colon outer)
    | .bad p => .bad p
  | .colon outer =>
    if isBlank c then .go s
    else if c = ':' then .go (.value (.object :: outer))
    else .bad .noColon
  | .word missing inside =>
    match missing with
    | [] => finished inside
    | d :: more =>
      if c ≠ d then .bad .misspelt
      else if more.isEmpty then finished inside
      else .go (.word more inside)
  | .number phase inside =>
    match phase.next c with
    | .go phase' => .go (.number phase' inside)
    | .bad => .bad .badNumber
    | .stop =>
      match inside with
      | [] => .past
      | b :: outer => afterValue b outer c
  | .text o inside =>
    match o.next c left with
    | .go o' => .go (.text o' inside)
    | .close => finished inside
    | .bad p => .bad p

/-- The end of the text; a number may end with it. -/
def atEnd : Scan → Except Problem Unit
  | .value _ => .error .endInValue
  | .opened b _ | .behind b _ => .error b.unfinished
  | .key _ | .colon _ => .error .endInObject
  | .inKey _ _ | .text _ _ => .error .endInString
  | .word _ _ => .error .endInValue
  | .number phase inside =>
    if phase.complete then
      match inside with
      | [] => .ok ()
      | b :: _ => .error b.unfinished
    else .error .badNumber

/-- Scans to the end of the value; gives the characters read, the last one first, in front of
`read`, and what follows the value. -/
def run (s : Scan) (read : List Char) : List Char → Except Problem (List Char × List Char)
  | [] => do
    s.atEnd
    return (read, [])
  | c :: cs =>
    match s.next c cs with
    | .go s' => run s' (c :: read) cs
    | .done => .ok (c :: read, cs)
    | .past => .ok (read, c :: cs)
    | .bad p => .error p

end Scan

/-- A text that is one JSON value without blanks around it. -/
structure Raw where
  text : String
deriving DecidableEq

namespace Raw

/-- Reads the value at the head of a text; gives it and what follows. -/
def read (cs : List Char) : Except Problem (Raw × List Char) := do
  let (lexeme, rest) ← Scan.run (.value []) [] (cs.dropWhile isBlank)
  return (⟨String.ofList lexeme.reverse⟩, rest)

/-- The value that makes up a whole text, without the blanks around it. -/
def ofText (s : String) : Except Problem Raw := do
  let (raw, rest) ← read s.toList
  if rest.all isBlank then return raw else throw .trailingText

end Raw
end StreamGateway.Json
