import StreamGateway.Number.Unsigned
import StreamGateway.Json.Problem

/-! # Numerals

The spelling of a number, character by character (`Phase`), and its value (`Numeral`). A whole
number keeps its exact value while it fits into sixty-four bits; any other numeral is a binary
floating point number, made from as many leading digits as fit into sixty-four bits. -/
namespace StreamGateway.Json

def isDigit (c : Char) : Bool := '0' ≤ c && c ≤ '9'

/-- Where in a numeral the reader stands. -/
inductive Phase where
  /-- Behind the minus sign. -/
  | minus
  /-- Behind a leading zero. -/
  | zero
  /-- Inside the whole part. -/
  | whole
  /-- Behind the point. -/
  | point
  | fraction
  /-- Behind the exponent mark. -/
  | mark
  /-- Behind the exponent's sign. -/
  | sign
  | exponent
deriving DecidableEq

/-- What the next character does to a numeral. -/
inductive Phase.Next where
  | go (phase : Phase)
  /-- The numeral is complete without this character. -/
  | stop
  | bad
deriving DecidableEq

namespace Phase

/-- The phase behind the first character of a numeral, if it can be one. -/
def first? (c : Char) : Option Phase :=
  if c = '-' then some .minus
  else if c = '0' then some .zero
  else if isDigit c then some .whole
  else none

/-- A point or an exponent mark may follow; anything else ends the numeral. -/
def tail (pointAllowed : Bool) (c : Char) : Next :=
  if c = '.' ∧ pointAllowed then .go .point
  else if c = 'e' ∨ c = 'E' then .go .mark
  else .stop

def next (phase : Phase) (c : Char) : Next :=
  match phase with
  | .minus => if c = '0' then .go .zero else if isDigit c then .go .whole else .bad
  | .zero => if isDigit c then .bad else tail true c
  | .whole => if isDigit c then .go .whole else tail true c
  | .point => if isDigit c then .go .fraction else .bad
  | .fraction => if isDigit c then .go .fraction else tail false c
  | .mark =>
    if c = '+' ∨ c = '-' then .go .sign else if isDigit c then .go .exponent else .bad
  | .sign => if isDigit c then .go .exponent else .bad
  | .exponent => if isDigit c then .go .exponent else .stop

/-- A numeral may end here. -/
def complete : Phase → Bool
  | .zero | .whole | .fraction | .exponent => true
  | .minus | .point | .mark | .sign => false

end Phase

/-- The part of a numeral read so far: `leading · 10 ^ (shift ± scale)`. -/
structure Numeral where
  negative : Bool := false
  /-- The digits taken into account, as a number of at most sixty-four bits. -/
  leading : Nat := 0
  /-- A digit of the current part did not fit; the rest of the part is not taken in either. -/
  full : Bool := false
  /-- Digits of the whole part left out, less digits of the fraction taken in. -/
  shift : Int := 0
  /-- There was a point, an exponent, or a whole part that did not fit. -/
  inexact : Bool := false
  scaleNegative : Bool := false
  scale : Nat := 0
deriving DecidableEq

namespace Numeral

def digitValue (c : Char) : Nat := c.toNat - '0'.toNat

/-- A further digit of the whole part. -/
def takeWhole (n : Numeral) (d : Nat) : Numeral :=
  if n.full ∨ Number.largest < n.leading * 10 + d then
    { n with full := true, inexact := true, shift := n.shift + 1 }
  else { n with leading := n.leading * 10 + d }

/-- A further digit of the fraction. -/
def takeFraction (n : Numeral) (d : Nat) : Numeral :=
  if n.full ∨ Number.largest < n.leading * 10 + d then { n with full := true }
  else { n with leading := n.leading * 10 + d, shift := n.shift - 1 }

/-- Takes in the character that led to `phase`. -/
def take (n : Numeral) (phase : Phase) (c : Char) : Numeral :=
  match phase with
  | .minus => { n with negative := true }
  | .zero => n
  | .whole => n.takeWhole (digitValue c)
  | .point => { n with inexact := true, full := false }
  | .fraction => n.takeFraction (digitValue c)
  | .mark => { n with inexact := true }
  | .sign => { n with scaleNegative := c = '-' }
  | .exponent => { n with scale := n.scale * 10 + digitValue c }

/-- The floating point value of the numeral. -/
def toFloat (n : Numeral) : Except Problem Json :=
  let e := if n.scaleNegative then n.shift - n.scale else n.shift + n.scale
  match Binary64.scaled? n.leading e with
  | some x => .ok (.float (x.signed n.negative))
  | none => .error .outOfRange

/-- The value of the numeral. Minus zero, and whole numbers outside `[-2 ^ 63, 2 ^ 64)`, are
floating point numbers. -/
def value (n : Numeral) : Except Problem Json :=
  if n.inexact then n.toFloat
  else if !n.negative then .ok (.int n.leading)
  else if n.leading = 0 ∨ Nat.pow 2 63 < n.leading then n.toFloat
  else .ok (.int (-n.leading))

end Numeral
end StreamGateway.Json
