import StreamGateway.Log.Event
import StreamGateway.Number.Unsigned
import StreamGateway.Text.Pattern
import StreamGateway.Text.Utf8

/-! # Directives

A directive says down to which level events are written, and about which of them it speaks. It is a
level, a target, `target=level`, or in full `target[span{field=value}]=level`, where the target, the
name of the span and the field may be left out. Without a level everything is written.

The positions of the parts are counted from the first character that is no blank, and the parts are
cut at these positions from the directive as it was written. A directive without blanks around it
reads as it looks; blanks behind it belong to its last part, and blanks before it shift all of its
parts. If this would cut a character in two, the reader breaks down. -/
namespace StreamGateway.Log

/-- Why a directive cannot be read. -/
inductive DirectiveError where
  | form
  | level
  /-- The value that a field is compared with is no pattern. -/
  | pattern (fault : Text.Pattern.Fault)
deriving DecidableEq

def DirectiveError.message : DirectiveError → String
  | .form => "invalid filter directive"
  | .level =>
    "error parsing level filter: expected one of \"off\", \"error\", \"warn\", \"info\", " ++
      "\"debug\", \"trace\", or a number 0-5"
  | .pattern .form => "invalid field filter: error building NFA"
  | .pattern .wordBounds =>
    "invalid field filter: unsupported regex feature for DFAs: cannot build DFAs for regexes " ++
      "with Unicode word boundaries; switch to ASCII word boundaries, or heuristically enable " ++
      "Unicode word boundaries or use a different regex engine"

/-- How the reading of a directive can fail. -/
inductive DirectiveFailure where
  | refused (error : DirectiveError)
  /-- A character would have been cut in two; nothing goes on after this. -/
  | breakdown
deriving DecidableEq

/-- A field that a directive asks for: with any value, or with one that matches. -/
structure FieldPattern where
  name : String
  value : Option String := none
deriving DecidableEq

namespace FieldPattern

/-- Digits, with or without a point among them or at either end, and with or without an exponent. -/
def isDecimal (cs : List Char) : Bool :=
  let whole := cs.takeWhile Char.isDigit
  let (fraction, rest) := match cs.dropWhile Char.isDigit with
    | '.' :: rest => (rest.takeWhile Char.isDigit, rest.dropWhile Char.isDigit)
    | rest => ([], rest)
  let exponent := match rest with
    | [] => true
    | c :: rest =>
      let digits := match rest with
        | '+' :: ds | '-' :: ds => ds
        | ds => ds
      (c = 'e' || c = 'E') && !digits.isEmpty && digits.all Char.isDigit
  !(whole.isEmpty && fraction.isEmpty) && exponent

/-- A number, finite or not, with or without a sign. -/
def isNumber (s : String) : Bool :=
  let cs := match s.toList with
    | '+' :: cs | '-' :: cs => cs
    | cs => cs
  isDecimal cs || ["inf", "infinity", "nan"].contains (Text.lower (String.ofList cs))

/-- A value is compared as a number if it is one, and as a pattern otherwise. -/
def checkValue (s : String) : Except DirectiveError Unit :=
  if isNumber s then .ok () else (Text.Pattern.check s).mapError .pattern

/-- A pattern as it is written; what stands behind a second equals sign is not looked at. -/
def read (s : String) : Except DirectiveError FieldPattern :=
  match Text.pieces '=' s.toList with
  | name :: value :: _ => do
    let value := String.ofList value
    checkValue value
    return { name := String.ofList name, value := some value }
  | _ => .ok { name := s }

end FieldPattern

/-- How much is written about what. -/
structure Directive where
  /-- It speaks of the targets that begin so. -/
  target : Option String := none
  /-- It speaks only of what happens within a span of this name. -/
  span : Option String := none
  field : Option FieldPattern := none
  /-- The least grave level that is written; none is silence. -/
  limit : Option Level := some .trace
deriving DecidableEq

namespace Directive

/-- A level by rank, or by name in any case; `off` and `0` are silence. -/
def limit? (s : String) : Option (Option Level) :=
  match Number.unsigned? s with
  | some 0 => some none
  | some 1 => some (some .error)
  | some 2 => some (some .warn)
  | some 3 => some (some .info)
  | some 4 => some (some .debug)
  | some 5 => some (some .trace)
  | _ =>
    match Text.lower s with
    | "off" => some none
    | name => (Level.named? name).map some

/-- The part of a directive that is being read, with the position of its first character. -/
inductive Part where
  /-- Nothing has been read yet. -/
  | start
  /-- A target, or a level that stands alone. -/
  | word
  | span (first : Nat)
  | field (first : Nat)
  /-- Behind the field, where the bracket must be closed. -/
  | fieldEnd
  /-- Behind the bracket, where only a level may follow. -/
  | spanEnd
  | level (first : Nat)
deriving DecidableEq

/-- A directive that has been read up to some part. -/
structure Draft where
  part : Part := .start
  found : Directive := {}
deriving DecidableEq

/-- A character that a target or a level may begin with. -/
def startsWord (c : Char) : Bool := c = '-' || c = ':' || c = '_' || Text.isAlphanumeric c

namespace Draft

/-- The part of a directive between two positions. -/
def cut (text : String) (first last : Nat) : Except DirectiveFailure String :=
  match Text.Utf8.slice? text first last with
  | some part => .ok part
  | none => .error .breakdown

/-- Reads the character at position `i` of the directive `text`. -/
def advance (text : String) (d : Draft) (i : Nat) (c : Char) : Except DirectiveFailure Draft :=
  match d.part with
  | .start =>
    if c = '[' then .ok { d with part := .span (i + 1) }
    else if startsWord c then .ok { d with part := .word }
    else .error (.refused .form)
  | .word =>
    if c = '=' || c = '[' then do
      let target ← cut text 0 i
      return { part := if c = '=' then .level (i + 1) else .span (i + 1)
               found := { d.found with target := some target } }
    else .ok d
  | .span first =>
    if c = ']' then do
      return { part := .spanEnd, found := { d.found with span := some (← cut text first i) } }
    else if c = '\x7b' then do
      let name ← cut text first i
      let span := if name = "" then none else some name
      return { part := .field (i + 1), found := { d.found with span } }
    else .ok d
  | .field first =>
    if c = '\x7d' then do
      let pattern ← cut text first i
      if pattern = "" then throw (.refused .form)
      match FieldPattern.read pattern with
      | .ok field => return { part := .fieldEnd, found := { d.found with field := some field } }
      | .error e => throw (.refused e)
    else .ok d
  | .fieldEnd => if c = ']' then .ok { d with part := .spanEnd } else .error (.refused .form)
  | .spanEnd => if c = '=' then .ok { d with part := .level (i + 1) } else .error (.refused .form)
  | .level _ => .ok d

/-- Reads the characters from position `i` on. -/
def advanceAll (text : String) (d : Draft) (i : Nat) : List Char → Except DirectiveFailure Draft
  | [] => .ok d
  | c :: cs =>
    match d.advance text i c with
    | .ok d => d.advanceAll text (i + c.utf8Size) cs
    | .error e => .error e

/-- The directive, if it may end here. -/
def finish (text : String) (d : Draft) : Except DirectiveFailure Directive :=
  match d.part with
  | .word =>
    match limit? text with
    | some limit => .ok { d.found with limit }
    | none => .ok { d.found with target := some text }
  | .level first => do
    let name ← cut text first text.utf8ByteSize
    if name = "" then return d.found
    match limit? name with
    | some limit => return { d.found with limit }
    | none => throw (.refused .level)
  | .spanEnd => .ok d.found
  | _ => .error (.refused .form)

end Draft

/-- Reads a directive. -/
def read (text : String) : Except DirectiveFailure Directive :=
  match ({} : Draft).advanceAll text 0 (Text.trim text).toList with
  | .ok d => d.finish text
  | .error e => .error e

/-- The rank up to which events are written. -/
def rank (d : Directive) : Nat :=
  match d.limit with
  | some level => level.rank
  | none => 0

/-- The directive speaks of an event outside all spans: its target begins so, and it has the field.
Where a span or the value of a field is asked for, no such event is meant. -/
def appliesTo (d : Directive) (e : Event) : Bool :=
  let field := match d.field with
    | none => true
    | some f => f.value.isNone && e.hasField f.name
  d.span.isNone && field && (d.target.getD "").toList.isPrefixOf e.target.toList

/-- Of two directives that apply, this one decides: it has the longer target, or else a field where
the other has none, or else the later name of a field. Of two that agree in all this, either
does. -/
def decidesOver (d other : Directive) : Bool :=
  let size (d : Directive) := (d.target.getD "").utf8ByteSize
  if size d = size other then
    match d.field, other.field with
    | _, none => true
    | none, some _ => false
    | some f, some g => !(f.name < g.name)
  else size other < size d

end Directive
end StreamGateway.Log
