import StreamGateway.Json.Parse
import StreamGateway.Json.Raw

/-! # Records

Reading a structure of known fields straight from text. A record is written as an object, whose
members may come in any order and among unknown ones, or as a list of its fields in order, of which
optional ones at the end may be left out. The first problem met from left to right is reported. -/
namespace StreamGateway.Json

/-- Reads something at the head of a text; gives it and what follows. -/
abbrev Reader (α : Type) := List Char → Except Problem (α × List Char)

/-! ### Scalars -/

def asString : Json → Except Problem String
  | .str s => .ok s
  | v => .error (.wrongType v.found "a string")

def asBool : Json → Except Problem Bool
  | .bool b => .ok b
  | v => .error (.wrongType v.found "a boolean")

/-- A whole number that is not negative; `kind` names the range in complaints. -/
def asUnsigned (kind : String) : Json → Except Problem Nat
  | .int n => if n < 0 then .error (.wrongValue (.int n) kind) else .ok n.toNat
  | v => .error (.wrongType v.found kind)

/-- A value without brackets, as `accept` takes it. A container is refused at its bracket. -/
def scalar {α : Type} (expected : String) (accept : Json → Except Problem α) : Reader α := fun cs =>
  match cs.dropWhile isBlank with
  | '[' :: _ => .error (.wrongType .list expected)
  | '\x7b' :: _ => .error (.wrongType .map expected)
  | cs => do
    let (v, rest) ← read cs
    return (← accept v, rest)

def readString : Reader String := scalar "a string" asString

/-- Nothing for `null`, otherwise what `reader` reads. -/
def optional {α : Type} (reader : Reader α) : Reader (Option α) := fun cs =>
  match cs.dropWhile isBlank with
  | 'n' :: rest => do
    let (_, rest) ← read ('n' :: rest)
    return (none, rest)
  | cs => do
    let (v, rest) ← reader cs
    return (some v, rest)

/-- The colon between a key and its value. -/
def readColon (cs : List Char) : Except Problem (List Char) :=
  match cs.dropWhile isBlank with
  | [] => .error .endInObject
  | ':' :: rest => .ok rest
  | _ => .error .noColon

/-! ### Fields -/

/-- A field of a record that is collected in a `σ`. -/
structure Field (σ : Type) where
  name : String
  /-- The record is refused without this field. -/
  required : Bool := false
  /-- Reads the field's value into what was collected so far. -/
  read : σ → Reader σ

/-- A record whose fields are collected in a `σ`. -/
structure Record (σ : Type) where
  /-- The record's name in complaints. -/
  title : String
  fields : List (Field σ)
  /-- The record may be written as an object. -/
  keyed : Bool := true

namespace Record

variable {σ : Type} (r : Record σ)

/-- What a complaint about a list of the wrong length asks for. -/
def lengthExpected : String := r.title ++ " with " ++ toString r.fields.length ++ " elements"

/-- A list may end in front of `fields`, the first of which has number `index`, if none is
required. -/
def checkShort : List (Field σ) → Nat → Except Problem Unit
  | [], _ => .ok ()
  | f :: fs, index =>
    if f.required then .error (.wrongLength index r.lengthExpected) else checkShort fs (index + 1)

/-- Behind the last field of a list only its end may come. -/
def endList (s : σ) (cs : List Char) : Except Problem (σ × List Char) :=
  match cs.dropWhile isBlank with
  | [] => .error .endInList
  | ']' :: rest => .ok (s, rest)
  | ',' :: rest =>
    match rest.dropWhile isBlank with
    | ']' :: _ => .error .trailingComma
    | _ => .error .trailingText
  | _ => .error .trailingText

/-- Reads a list behind its opening bracket, or behind its first `index` fields. -/
def readItems : List (Field σ) → Nat → σ → Reader σ
  | [], _, s, cs => endList s cs
  | f :: fs, index, s, cs =>
    match cs.dropWhile isBlank with
    | [] => .error .endInList
    | ']' :: rest => do
      r.checkShort (f :: fs) index
      return (s, rest)
    | c :: rest =>
      if index = 0 then do
        let (s, rest) ← f.read s (c :: rest)
        readItems fs 1 s rest
      else if c = ',' then
        match rest.dropWhile isBlank with
        | [] => .error .endInValue
        | ']' :: _ => .error .trailingComma
        | d :: rest => do
          let (s, rest) ← f.read s (d :: rest)
          readItems fs (index + 1) s rest
      else .error .noListComma

/-- An object may end after the fields `seen` if no other one is required. -/
def checkMissing (seen : List String) : List (Field σ) → Except Problem Unit
  | [] => .ok ()
  | f :: fs =>
    if f.required ∧ f.name ∉ seen then .error (.missingField f.name) else checkMissing seen fs

/-- Reads a member behind the opening quote of its key. The value of an unknown key is skipped. -/
def readMember (seen : List String) (s : σ) (cs : List Char) :
    Except Problem ((σ × List String) × List Char) := do
  let (key, rest) ← Quote.run {} cs
  match r.fields.find? (·.name = key) with
  | some f =>
    if key ∈ seen then throw (.duplicateField key)
    let (s, rest) ← f.read s (← readColon rest)
    return ((s, key :: seen), rest)
  | none =>
    let (_, rest) ← Raw.read (← readColon rest)
    return ((s, seen), rest)

/-- The opening quote of the next key, or the end of the object. -/
def nextKey (first : Bool) (cs : List Char) : Except Problem (Bool × List Char) :=
  match cs.dropWhile isBlank with
  | [] => .error .endInObject
  | '\x7d' :: rest => .ok (false, rest)
  | c :: rest =>
    if first then
      if c = '"' then .ok (true, rest) else .error .keyNotString
    else if c = ',' then
      match rest.dropWhile isBlank with
      | [] => .error .endInValue
      | '"' :: rest => .ok (true, rest)
      | '\x7d' :: _ => .error .trailingComma
      | _ => .error .keyNotString
    else .error .noObjectComma

/-- Reads an object behind its opening bracket. Each member takes at least one character, so as many
rounds as there are characters are enough. -/
def readMembers : Nat → Bool → List String → σ → Reader σ
  | 0, _, _, _, _ => .error .endInObject
  | rounds + 1, first, seen, s, cs => do
    let (more, rest) ← nextKey first cs
    if more then
      let ((s, seen), rest) ← r.readMember seen s rest
      readMembers rounds false seen s rest
    else
      checkMissing seen r.fields
      return (s, rest)

/-- Reads the record at the head of a text; `s` is what holds before any field is read. -/
def read (s : σ) : Reader σ := fun cs =>
  match cs.dropWhile isBlank with
  | '[' :: rest => r.readItems r.fields 0 s rest
  | '\x7b' :: rest =>
    if r.keyed then r.readMembers (rest.length + 1) true [] s rest
    else .error (.wrongType .map r.title)
  | cs => do
    let (v, _) ← Json.read cs
    throw (.wrongType v.found r.title)

/-- The record that makes up a whole text, apart from blanks around it. -/
def parse (s : σ) (text : String) : Except Problem σ := do
  let (s, rest) ← r.read s text.toList
  if rest.all isBlank then return s else throw .trailingText

end Record
end StreamGateway.Json
