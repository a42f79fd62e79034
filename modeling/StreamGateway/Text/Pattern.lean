import StreamGateway.Number.Unsigned
import StreamGateway.Text.Alphanumeric
import StreamGateway.Text.Blank

/-! # Patterns

The regular expressions that a value may be compared with. Nothing is matched here: what counts is
whether a text is a pattern at all, and whether a finite machine can be made of it.

A pattern speaks of the characters of all scripts unless its option `u` is switched off. No tables
of the scripts are at hand, so in the first case neither letter case can be ignored nor can letters,
digits or blanks be asked for; the machine cannot tell the bounds of words either. In the second
case a pattern may only ask for what is written in single bytes.

The parts of a pattern form a tree: rows, choices, repetitions, groups and sets are its inner nodes.
The tree may be 250 nodes high. -/
namespace StreamGateway.Text.Pattern

/-- What is wrong with a pattern. -/
inductive Fault where
  | form
  /-- It asks for the bounds of words in all scripts. -/
  | wordBounds
deriving DecidableEq

/-- How a part of a pattern is understood. -/
structure Options where
  ignoreCase : Bool := false
  allScripts : Bool := true
  /-- Blanks are skipped, and so is the rest of a line behind a number sign. -/
  spaced : Bool := false
deriving DecidableEq

namespace Options

/-- The options with one of them switched; none if there is no such option. -/
def switch? (o : Options) (c : Char) (on : Bool) : Option Options :=
  if c = 'i' then some { o with ignoreCase := on }
  else if c = 'u' then some { o with allScripts := on }
  else if c = 'x' then some { o with spaced := on }
  else if c = 'm' || c = 's' || c = 'U' || c = 'R' then some o
  else none

/-- What follows blanks and remarks. -/
def skipSpace (inRemark : Bool) : List Char → List Char
  | [] => []
  | c :: cs =>
    if inRemark then skipSpace (c ≠ '\n') cs
    else if isBlank c then skipSpace false cs
    else if c = '#' then skipSpace true cs
    else c :: cs

def skip (o : Options) (cs : List Char) : List Char := if o.spaced then skipSpace false cs else cs

/-- Single characters can be compared. -/
def comparable (o : Options) : Bool := !(o.ignoreCase && o.allScripts)

end Options

/-! ### Heights -/

/-- How high the tree of a pattern may be. -/
def highest : Nat := 250

/-- Items that stand one behind the other. -/
structure Row where
  count : Nat := 0
  /-- The height of the highest item. -/
  height : Nat := 0
deriving DecidableEq

/-- The row with one more item. -/
def Row.push (r : Row) (height : Nat) : Row := ⟨r.count + 1, max r.height height⟩

/-- A row of two items or more is a node of its own. -/
def Row.total (r : Row) : Nat := if r.count < 2 then r.height else r.height + 1

/-- The height of a node over all that came before, if anything did, and a last part. -/
def joined (before : Option Nat) (last : Nat) : Nat :=
  match before with
  | none => last
  | some height => max height last + 1

/-! ### Escapes -/

/-- What an escape stands for. -/
inductive Escaped where
  | char (c : Char)
  /-- A character given by two digits; outside all scripts it is a byte. -/
  | byte (c : Char)
  /-- Digits, blanks or letters, or all but them. -/
  | kind (negated : Bool)
  /-- Characters with a property of the scripts. -/
  | property
  | wordBound
  /-- The beginning or the end of the text. -/
  | textBound
deriving DecidableEq

/-- A character that stands for itself behind a backslash: of ASCII, all but digits, letters and the
angles. -/
def standsEscaped (c : Char) : Bool := c.toNat < 128 && !c.isAlphanum && c ≠ '<' && c ≠ '>'

/-- The character with a number of so many hexadecimal digits. -/
def readHex : Nat → Nat → List Char → Option (Char × List Char)
  | 0, n, cs => if n.isValidChar then some (Char.ofNat n, cs) else none
  | _ + 1, _, [] => none
  | count + 1, n, c :: cs => do readHex count (16 * n + (← Number.hexDigit? c)) cs

/-- What stands behind a backslash. -/
def readEscape : List Char → Option (Escaped × List Char)
  | [] => none
  | c :: cs =>
    if c = 'x' then (readHex 2 0 cs).map fun (c, rest) => (.byte c, rest)
    else if c = 'u' then (readHex 4 0 cs).map fun (c, rest) => (.char c, rest)
    else if c = 'U' then (readHex 8 0 cs).map fun (c, rest) => (.char c, rest)
    else if c = 'p' || c = 'P' then some (.property, cs)
    else if c = 'd' || c = 's' || c = 'w' then some (.kind false, cs)
    else if c = 'D' || c = 'S' || c = 'W' then some (.kind true, cs)
    else if c = 'a' then some (.char '\x07', cs)
    else if c = 'f' then some (.char '\x0c', cs)
    else if c = 't' then some (.char '\t', cs)
    else if c = 'n' then some (.char '\n', cs)
    else if c = 'r' then some (.char '\r', cs)
    else if c = 'v' then some (.char '\x0b', cs)
    else if c = 'A' || c = 'z' then some (.textBound, cs)
    else if c = 'b' || c = 'B' || c = '<' || c = '>' then some (.wordBound, cs)
    else if standsEscaped c then some (.char c, cs)
    else none

/-! ### Sets -/

/-- The sets with a name. -/
def namedSets : List String :=
  ["alnum", "alpha", "ascii", "blank", "cntrl", "digit", "graph", "lower", "print",
    "punct", "space", "upper", "word", "xdigit"]

/-- A named set at the head of a text: whether it is negated, and what follows. -/
def namedSet? : List Char → Option (Bool × List Char)
  | '[' :: ':' :: cs =>
    let negated := cs.head? = some '^'
    let cs := if negated then cs.drop 1 else cs
    match cs.dropWhile (· ≠ ':') with
    | ':' :: ']' :: rest =>
      if namedSets.contains (String.ofList (cs.takeWhile (· ≠ ':'))) then some (negated, rest)
      else none
    | _ => none
  | _ => none

/-- Behind the bracket that opens a set: whether it is negated, its first items, and what follows.
Here dashes, or else a closing bracket, stand for themselves. -/
def openSet (o : Options) (cs : List Char) : Bool × Row × List Char :=
  let cs := o.skip cs
  let negated := cs.head? = some '^'
  let cs := if negated then o.skip (cs.drop 1) else cs
  match cs with
  | ']' :: rest => (negated, ⟨1, 0⟩, rest)
  | cs => (negated, ⟨(cs.takeWhile (· = '-')).length, 0⟩, cs.dropWhile (· = '-'))

/-- A member of a set, or the end of a range. -/
def readMember : List Char → Option (Escaped × List Char)
  | [] => none
  | '\\' :: cs => readEscape cs
  | c :: cs => some (.char c, cs)

/-- The character that an end of a range stands for. -/
def Escaped.char? : Escaped → Option Char
  | .char c | .byte c => some c
  | _ => none

/-- A set may hold this member. -/
def Options.holds (o : Options) : Escaped → Bool
  | .char c | .byte c => o.allScripts || c.toNat < 128
  | .kind negated => !o.allScripts && !negated
  | _ => false

/-- Reads a member or a range; gives what follows. A dash before the end of the set or before
another dash is no range. -/
def readRange (o : Options) (cs : List Char) : Option (List Char) := do
  let (first, rest) ← readMember cs
  let alone := if o.holds first then some (o.skip rest) else none
  match o.skip rest with
  | '-' :: more =>
    match o.skip more with
    | ']' :: _ | '-' :: _ => alone
    | more =>
      let (last, rest) ← readMember more
      let a ← first.char?
      let b ← last.char?
      if a ≤ b && o.holds first && o.holds last then some rest else none
  | _ => alone

/-- A set that is open: what stands before the last operator, and the items behind it. -/
structure OpenSet where
  before : Option Nat := none
  row : Row := {}

/-- The set with one more item. -/
def OpenSet.push (s : OpenSet) (height : Nat) : OpenSet := { s with row := s.row.push height }

/-- The height of what the set holds. -/
def OpenSet.total (s : OpenSet) : Nat := joined s.before s.row.total

/-- Reads to the end of a set; gives its height and what follows. The sets in `outer` are open
around the innermost one. Each round takes a character at least. -/
def readSet (o : Options) : Nat → OpenSet → List OpenSet → List Char → Option (Nat × List Char)
  | 0, _, _, _ => none
  | rounds + 1, set, outer, cs =>
    match o.skip cs with
    | [] => none
    | ']' :: rest =>
      match outer with
      | [] => some (set.total + 1, rest)
      | around :: outer => readSet o rounds (around.push (set.total + 1)) outer rest
    | '[' :: rest =>
      match namedSet? ('[' :: rest) with
      | some (negated, rest) =>
        if negated && !o.allScripts then none else readSet o rounds (set.push 0) outer rest
      | none =>
        let (negated, row, rest) := openSet o rest
        if negated && !o.allScripts then none else readSet o rounds { row } (set :: outer) rest
    | '&' :: '&' :: rest | '-' :: '-' :: rest | '~' :: '~' :: rest =>
      readSet o rounds { before := some set.total } outer rest
    | rest => (readRange o rest).bind (readSet o rounds (set.push 0) outer)

/-! ### Groups -/

/-- What an opening parenthesis begins. -/
inductive Opening where
  | group (options : Options) (name : Option String)
  /-- Options for the rest of the group around it; this is closed already. -/
  | options (options : Options)

/-- Reads options behind a question mark. An option may be named once, and something must be
switched off behind a dash. -/
def readOptions (o : Options) (off dash : Bool) (seen : List Char) :
    List Char → Option (Opening × List Char)
  | [] => none
  | c :: cs =>
    if c = ':' then if dash then none else some (.group o none, cs)
    else if c = ')' then if dash || seen.isEmpty then none else some (.options o, cs)
    else if c = '-' then if off then none else readOptions o true true seen cs
    else if seen.contains c then none
    else match o.switch? c (!off) with
      | some o => readOptions o off false (c :: seen) cs
      | none => none

/-- A character that the name of a group may begin with. -/
def startsName (c : Char) : Bool := c = '_' || (isAlphanumeric c && !c.isDigit)

/-- A character that may stand further on in the name of a group. -/
def continuesName (c : Char) : Bool := c = '_' || c = '.' || c = '[' || c = ']' || isAlphanumeric c

/-- Reads the name of a group up to its closing angle. -/
def readName (cs : List Char) : Option (String × List Char) :=
  match cs.takeWhile (· ≠ '>'), cs.dropWhile (· ≠ '>') with
  | c :: name, '>' :: rest =>
    if startsName c && name.all continuesName then some (String.ofList (c :: name), rest) else none
  | _, _ => none

/-- What follows an opening parenthesis. -/
def readOpening (o : Options) (cs : List Char) : Option (Opening × List Char) :=
  match o.skip cs with
  | '?' :: 'P' :: '<' :: cs | '?' :: '<' :: cs =>
    (readName cs).map fun (name, rest) => (.group o (some name), rest)
  | '?' :: cs => readOptions o false false [] cs
  | cs => some (.group o none, cs)

/-! ### Whole patterns -/

/-- A part of a pattern that is being read: the whole of it, or a group. -/
structure Level where
  options : Options := {}
  /-- The height of the highest branch before this one. -/
  branches : Option Nat := none
  row : Row := {}
  /-- The height of the last item, if it can be repeated. -/
  last : Option Nat := none

namespace Level

/-- Behind an item that can be repeated. -/
def push (l : Level) (height : Nat) : Level :=
  { l with row := l.row.push height, last := some height }

/-- Behind a repetition of the last item, which becomes a node over it. -/
def repeated? (l : Level) : Option Level :=
  l.last.map fun height =>
    { l with row := ⟨l.row.count, max l.row.height (height + 1)⟩, last := some (height + 1) }

/-- Behind the bar that ends a branch. -/
def branch (l : Level) : Level :=
  let height := l.row.total
  { l with branches := some ((l.branches.map (max height)).getD height), row := {}, last := none }

/-- The height of the part. -/
def total (l : Level) : Nat := joined l.branches l.row.total

end Level

/-- What is known of a pattern that has been read so far. -/
structure Scan where
  level : Level := {}
  /-- The parts around the innermost one, from the inside. -/
  outer : List Level := []
  /-- The names of groups, each of which may be given once. -/
  names : List String := []
  /-- The bounds of words in all scripts have been asked for. -/
  wordBounds : Bool := false

namespace Scan

/-- Behind an item of some height that can be repeated. -/
def push (s : Scan) (height : Nat) : Scan := { s with level := s.level.push height }

/-- Behind an item without parts. -/
def item (s : Scan) : Scan := s.push 0

def options (s : Scan) : Options := s.level.options

/-- Behind an escape, if the options allow it. -/
def escaped (s : Scan) : Escaped → Option Scan
  | .char _ => if s.options.comparable then some s.item else none
  | .byte c =>
    if s.options.comparable && (s.options.allScripts || c.toNat < 128) then some s.item else none
  | .kind negated => if s.options.allScripts || negated then none else some s.item
  | .property => none
  | .wordBound => some { s.item with wordBounds := s.wordBounds || s.options.allScripts }
  | .textBound => some s.item

/-- Behind an opening parenthesis and what belongs to it. A switch of options is an item of the row,
though not one to repeat. -/
def opened (s : Scan) : Opening → Option Scan
  | .options options =>
    some { s with level := { s.level with options, row := s.level.row.push 0, last := none } }
  | .group options name =>
    let inside := { s with level := { options }, outer := s.level :: s.outer }
    match name with
    | none => some inside
    | some name =>
      if s.names.contains name then none else some { inside with names := name :: s.names }

/-- Behind a closing parenthesis, if a group is open. -/
def closed (s : Scan) : Option Scan :=
  match s.outer with
  | [] => none
  | around :: outer => some { s with level := around.push (s.level.total + 1), outer }

/-- Behind the sign of a repetition, to which a question mark belongs if one follows. -/
def repeated (s : Scan) (cs : List Char) : Option (Scan × List Char) :=
  s.level.repeated?.map fun level =>
    ({ s with level }, if cs.head? = some '?' then cs.drop 1 else cs)

/-- Reads one item that begins with `c`; gives what follows. A count of repetitions, which a brace
begins, has no place here. -/
def step (s : Scan) (c : Char) (cs : List Char) : Option (Scan × List Char) :=
  if c = '(' then do
    let (opening, rest) ← readOpening s.options cs
    return (← s.opened opening, rest)
  else if c = ')' then s.closed.map (·, cs)
  else if c = '|' then some ({ s with level := s.level.branch }, cs)
  else if c = '[' then do
    let (negated, row, rest) := openSet s.options cs
    if s.options.comparable && (s.options.allScripts || !negated) then
      let (height, rest) ← readSet s.options (rest.length + 1) { row } [] rest
      return (s.push height, rest)
    else none
  else if c = '*' || c = '+' || c = '?' then s.repeated cs
  else if c = '\x7b' then none
  else if c = '\\' then do
    let (escape, rest) ← readEscape cs
    return (← s.escaped escape, rest)
  else if c = '.' then if s.options.allScripts then some (s.item, cs) else none
  else if c = '^' || c = '$' then some (s.item, cs)
  else if s.options.comparable then some (s.item, cs)
  else none

/-- Reads to the end of a pattern. Each round takes a character at least. -/
def run : Nat → Scan → List Char → Option Scan
  | 0, _, _ => none
  | rounds + 1, s, cs =>
    match s.options.skip cs with
    | [] => some s
    | c :: cs => (s.step c cs).bind fun (s, rest) => run rounds s rest

end Scan

/-- Whether a text is a pattern of which a machine can be made. -/
def check (s : String) : Except Fault Unit :=
  let cs := s.toList
  match ({} : Scan).run (cs.length + 1) cs with
  | none => .error .form
  | some scan =>
    if !scan.outer.isEmpty || highest < scan.level.total then .error .form
    else if scan.wordBounds then .error .wordBounds
    else .ok ()

end StreamGateway.Text.Pattern
