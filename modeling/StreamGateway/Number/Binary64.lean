/-! # Binary floating point

Finite numbers of the format with a 53-bit significand, held as exact integers: a number is
`± significand · 2 ^ exponent`. Every operation computes the exact result and rounds it once, to the
nearest number of the format, a half to the even neighbour. -/
namespace StreamGateway

/-- A finite binary64 number. `significand` is below `2 ^ 53`, and at least `2 ^ 52` unless
`exponent` is the least one, `-1074`. -/
structure Binary64 where
  negative : Bool
  significand : Nat
  exponent : Int
deriving DecidableEq

namespace Binary64

def zero : Binary64 := ⟨false, 0, -1074⟩

/-- The whole number nearest to `num / den`, a half to the even one. -/
def nearestNat (num den : Nat) : Nat :=
  let q := num / den
  let twice := 2 * (num % den)
  if twice < den then q else if den < twice then q + 1 else q + q % 2

/-- The exponent of the largest power of two that is at most `num / den`, for positive arguments. -/
def leadingBit (num den : Nat) : Int :=
  let guess : Int := num.log2 - den.log2
  if den * Nat.pow 2 guess.toNat ≤ num * Nat.pow 2 (-guess).toNat then guess else guess - 1

/-- The number nearest to `num / den`; none if it would be beyond the largest finite one. -/
def ofRatio? (num den : Nat) : Option Binary64 :=
  if num = 0 then some zero
  else
    let e := max (leadingBit num den - 52) (-1074)
    let m := nearestNat (num * Nat.pow 2 (-e).toNat) (den * Nat.pow 2 e.toNat)
    let x : Binary64 := if m = Nat.pow 2 53 then ⟨false, Nat.pow 2 52, e + 1⟩ else ⟨false, m, e⟩
    if x.exponent ≤ 971 then some x else none

/-- The size of the number as a fraction, without its sign. -/
def num (x : Binary64) : Nat := x.significand * Nat.pow 2 x.exponent.toNat

@[inherit_doc num]
def den (x : Binary64) : Nat := Nat.pow 2 (-x.exponent).toNat

/-- Product of the sizes. -/
def mul? (x y : Binary64) : Option Binary64 := ofRatio? (x.num * y.num) (x.den * y.den)

/-- Quotient of the sizes. -/
def div? (x y : Binary64) : Option Binary64 := ofRatio? (x.num * y.den) (x.den * y.num)

/-- The power of ten nearest in the format, for exponents up to 308. -/
def powerOfTen? (k : Nat) : Option Binary64 := ofRatio? (Nat.pow 10 k) 1

/-- `n · 10 ^ e` by one rounded product or quotient with a rounded power of ten. Below `10 ^ -308`
the quotient is taken in two steps; beyond the largest power of ten only zero has a value. -/
def scaled? (n : Nat) (e : Int) : Option Binary64 := do
  let x ← ofRatio? n 1
  if 308 < e then
    if n = 0 then some x else none
  else if 0 ≤ e then x.mul? (← powerOfTen? e.toNat)
  else if -308 ≤ e then x.div? (← powerOfTen? (-e).toNat)
  else (← x.div? (← powerOfTen? 308)).div? (← powerOfTen? (min (-e - 308).toNat 308))

/-- The number with a minus sign in front, if `negative`. -/
def signed (negative : Bool) (x : Binary64) : Binary64 := { x with negative }

end Binary64
end StreamGateway
