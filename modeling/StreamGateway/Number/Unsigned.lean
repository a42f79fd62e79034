/-! # Unsigned decimals

Whole numbers of sixty-four bits as they are written in the environment: ASCII digits behind an
optional plus sign. -/
namespace StreamGateway.Number

/-- The largest number of sixty-four bits. -/
def largest : Nat := Nat.pow 2 64 - 1

/-- The value of a digit, if the character is one. -/
def digit? (c : Char) : Option Nat :=
  if '0' ≤ c ∧ c ≤ '9' then some (c.toNat - '0'.toNat) else none

/-- The value of a hexadecimal digit, if the character is one. -/
def hexDigit? (c : Char) : Option Nat :=
  if '0' ≤ c ∧ c ≤ '9' then some (c.toNat - 48)
  else if 'a' ≤ c ∧ c ≤ 'f' then some (c.toNat - 87)
  else if 'A' ≤ c ∧ c ≤ 'F' then some (c.toNat - 55)
  else none

/-- The number that `n` becomes when the digits are written behind it. -/
def digitsAfter (n : Nat) : List Char → Option Nat
  | [] => some n
  | c :: cs => do digitsAfter (n * 10 + (← digit? c)) cs

/-- At least one digit, and no more than sixty-four bits of value. -/
def natural? (cs : List Char) : Option Nat :=
  if cs.isEmpty then none else (digitsAfter 0 cs).filter (· ≤ largest)

/-- An unsigned number, written with or without a plus sign. -/
def unsigned? (s : String) : Option Nat :=
  match s.toList with
  | '+' :: cs => natural? cs
  | cs => natural? cs

/-- An unsigned number between two bounds, both included. -/
def within? (least most : Nat) (s : String) : Option Nat :=
  (unsigned? s).filter fun n => least ≤ n && n ≤ most

end StreamGateway.Number
