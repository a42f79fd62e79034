import StreamGateway.Json.Numeral
import StreamGateway.Json.Quote

/-! # Reading JSON values

The reader that builds values. It reads one character at a time; its state is the place it stands
at, with everything built so far, so an impossible state cannot be written down. A trailing comma is
a place of its own (`nextItem`, `nextKey`). At most 127 containers may be open at once.

An object may hold a whole document as text: if its first key is `embeddedKey`, the text behind that
key is read as a document, whose value stands for the object. No other member may follow. -/
namespace StreamGateway.Json

/-- The key of a document that is embedded as text. -/
def embeddedKey : String := "$serde_json::private::RawValue"

/-- What is asked for behind `embeddedKey`. -/
def embeddedTitle : String := "raw value"

/-- Where a value stands: alone, or in a container that is being built. -/
inductive Place where
  | whole
  /-- Behind `items` of a list, the last one first. -/
  | item (items : List Json) (outer : Place)
  /-- As the value of `key`, behind `members` of an object. -/
  | member (members : Members) (key : String) (outer : Place)
  /-- As the text of a document, in the object that it stands for. -/
  | embedded (outer : Place)

/-- How many containers are open around the value. -/
def Place.depth : Place → Nat
  | .whole => 0
  | .item _ outer | .member _ _ outer | .embedded outer => outer.depth + 1

/-- How many containers may be open at once. -/
def deepest : Nat := 127

/-- Where the reader stands. -/
inductive Build where
  /-- A value must start. -/
  | value (place : Place)
  /-- Behind `[`. -/
  | firstItem (outer : Place)
  /-- Behind a comma in a list. -/
  | nextItem (items : List Json) (outer : Place)
  /-- Behind an item. -/
  | afterItem (items : List Json) (outer : Place)
  /-- Behind the opening bracket of an object, which may embed a document. -/
  | firstKey (embeds : Bool) (outer : Place)
  /-- Behind a comma in an object. -/
  | nextKey (members : Members) (outer : Place)
  | inKey (embeds : Bool) (quote : Quote) (members : Members) (outer : Place)
  /-- Behind the key of the value that stands at `place`. -/
  | colon (place : Place)
  /-- Behind a member. -/
  | afterMember (members : Members) (outer : Place)
  /-- Behind the text of an embedded document. -/
  | afterEmbedded (value : Json) (outer : Place)
  /-- Inside a word of which `left` is missing. -/
  | word (left : List Char) (value : Json) (place : Place)
  | number (phase : Phase) (numeral : Numeral) (place : Place)
  | text (quote : Quote) (place : Place)

namespace Build

/-- What the next character does. -/
inductive Next where
  | go (build : Build)
  /-- The value ends with this character. -/
  | done (value : Json)
  /-- The value ended before this character. -/
  | past (value : Json)
  | bad (problem : Problem)

/-- Where the value of a key stands. -/
def placeOf (embeds : Bool) (members : Members) (key : String) (outer : Place) : Place :=
  if embeds ∧ key = embeddedKey then .embedded outer else .member members key outer

/-- Behind a value that is not the text of a document where one is wanted. -/
def notEmbedded (v : Json) : Next := .bad (.wrongType v.found embeddedTitle)

/-- A container starts, unless the text of a document is wanted or too many are open. -/
def enter (kind : Found) (b : Build) : Place → Next
  | .embedded _ => .bad (.wrongType kind embeddedTitle)
  | place => if place.depth < deepest then .go b else .bad .tooDeep

variable (document : String → Except Problem Json)

/-- Behind a complete value; `document` reads the text of a document. -/
def finished (v : Json) : Place → Next
  | .whole => .done v
  | .item items outer => .go (.afterItem (v :: items) outer)
  | .member members key outer => .go (.afterMember (members.set key v) outer)
  | .embedded outer =>
    match v with
    | .str s =>
      match document s with
      | .ok v => .go (.afterEmbedded v outer)
      | .error p => .bad p
    | v => notEmbedded v

/-- The first character of a value. -/
def start (place : Place) (c : Char) : Next :=
  if c = 'n' then .go (.word ['u', 'l', 'l'] .null place)
  else if c = 't' then .go (.word ['r', 'u', 'e'] (.bool true) place)
  else if c = 'f' then .go (.word ['a', 'l', 's', 'e'] (.bool false) place)
  else if c = '"' then .go (.text {} place)
  else if c = '[' then enter .list (.firstItem place) place
  else if c = '\x7b' then enter .map (.firstKey true place) place
  else match Phase.first? c with
    | some phase => .go (.number phase (({} : Numeral).take phase c) place)
    | none => .bad .noValue

/-- A character behind an item. -/
def behindItem (items : List Json) (outer : Place) (c : Char) : Next :=
  if isBlank c then .go (.afterItem items outer)
  else if c = ',' then .go (.nextItem items outer)
  else if c = ']' then finished document (.arr items.reverse) outer
  else .bad .noListComma

/-- A character behind a member. -/
def behindMember (members : Members) (outer : Place) (c : Char) : Next :=
  if isBlank c then .go (.afterMember members outer)
  else if c = ',' then .go (.nextKey members outer)
  else if c = '\x7d' then finished document (.obj members) outer
  else .bad .noObjectComma

/-- A character behind the text of a document. -/
def behindEmbedded (v : Json) (outer : Place) (c : Char) : Next :=
  if isBlank c then .go (.afterEmbedded v outer)
  else if c = '\x7d' then finished document v outer
  else if c = ',' then .bad .trailingComma
  else .bad .trailingText

/-- A character behind a number that ended without it. -/
def behindNumber (v : Json) (place : Place) (c : Char) : Next :=
  match place with
  | .whole => .past v
  | .item items outer => behindItem document (v :: items) outer c
  | .member members key outer => behindMember document (members.set key v) outer c
  | .embedded _ => notEmbedded v

/-- One character; `left` is what follows it. -/
def next (b : Build) (c : Char) (left : List Char) : Next :=
  match b with
  | .value place => if isBlank c then .go b else start place c
  | .firstItem outer =>
    if isBlank c then .go b
    else if c = ']' then finished document (.arr []) outer
    else start (.item [] outer) c
  | .nextItem items outer =>
    if isBlank c then .go b
    else if c = ']' then .bad .trailingComma
    else start (.item items outer) c
  | .afterItem items outer => behindItem document items outer c
  | .firstKey embeds outer =>
    if isBlank c then .go b
    else if c = '\x7d' then finished document (.obj []) outer
    else if c = '"' then .go (.inKey embeds {} [] outer)
    else .bad .keyNotString
  | .nextKey members outer =>
    if isBlank c then .go b
    else if c = '\x7d' then .bad .trailingComma
    else if c = '"' then .go (.inKey false {} members outer)
    else .bad .keyNotString
  | .inKey embeds q members outer =>
    match q.next c left with
    | .go q' => .go (.inKey embeds q' members outer)
    | .close => .go (.colon (placeOf embeds members q.text outer))
    | .bad p => .bad p
  | .colon place =>
    if isBlank c then .go b
    else if c = ':' then .go (.value place)
    else .bad .noColon
  | .afterMember members outer => behindMember document members outer c
  | .afterEmbedded v outer => behindEmbedded document v outer c
  | .word missing v place =>
    match missing with
    | [] => finished document v place
    | d :: more =>
      if c ≠ d then .bad .misspelt
      else if more.isEmpty then finished document v place
      else .go (.word more v place)
  | .number phase numeral place =>
    match phase.next c with
    | .go phase' => .go (.number phase' (numeral.take phase' c) place)
    | .bad => .bad .badNumber
    | .stop =>
      match numeral.value with
      | .ok v => behindNumber document v place c
      | .error p => .bad p
  | .text q place =>
    match q.next c left with
    | .go q' => .go (.text q' place)
    | .close => finished document (.str q.text) place
    | .bad p => .bad p

/-- The end of the text; a number may end with it. -/
def atEnd : Build → Except Problem Json
  | .value _ | .nextItem _ _ | .nextKey _ _ | .word _ _ _ => .error .endInValue
  | .firstItem _ | .afterItem _ _ => .error .endInList
  | .firstKey _ _ | .colon _ | .afterMember _ _ | .afterEmbedded _ _ => .error .endInObject
  | .inKey _ _ _ _ | .text _ _ => .error .endInString
  | .number phase numeral place =>
    if phase.complete then do
      let v ← numeral.value
      match place with
      | .whole => .ok v
      | .item _ _ => .error .endInList
      | .member _ _ _ => .error .endInObject
      | .embedded _ => .error (.wrongType v.found embeddedTitle)
    else .error .endInValue

/-- Reads to the end of the value; gives it and what follows. -/
def run (b : Build) : List Char → Except Problem (Json × List Char)
  | [] => do return (← b.atEnd, [])
  | c :: cs =>
    match b.next document c cs with
    | .go b' => run b' cs
    | .done v => .ok (v, cs)
    | .past v => .ok (v, c :: cs)
    | .bad p => .error p

end Build

/-- The value, if nothing but blanks follows it. -/
def alone (v : Json) (rest : List Char) : Except Problem Json :=
  if rest.all isBlank then .ok v else .error .trailingText

/-- Reads the value at the head of a text; gives it and what follows. At most `levels` documents may
be embedded in one another. -/
def readWithin : Nat → List Char → Except Problem (Json × List Char)
  | 0, cs => Build.run (fun _ => .error .tooDeep) (.value .whole) cs
  | levels + 1, cs =>
    let document (s : String) : Except Problem Json := do
      let (v, rest) ← readWithin levels s.toList
      alone v rest
    Build.run document (.value .whole) cs

/-- Reads the value at the head of a text; gives it and what follows. An embedded document is
shorter than the text around it, so as many levels as there are characters are enough. -/
def read (cs : List Char) : Except Problem (Json × List Char) := readWithin cs.length cs

/-- The value that makes up a whole text, apart from blanks around it. -/
def parse (s : String) : Except Problem Json := do
  let (v, rest) ← read s.toList
  alone v rest

/-- The members of the object that makes up a whole text; it embeds no document itself, though its
members may. Anything else that starts like a value is refused by its kind, a list without looking
into it. -/
def parseMembers (s : String) : Except Problem Members :=
  match s.toList.dropWhile isBlank with
  | '[' :: _ => .error (.wrongType .list "a map")
  | '\x7b' :: cs => do
    let (v, rest) ← Build.run parse (.firstKey false .whole) cs
    match ← alone v rest with
    | .obj members => return members
    | other => throw (.wrongType other.found "a map")
  | cs => do
    let (v, _) ← read cs
    throw (.wrongType v.found "a map")

end StreamGateway.Json
