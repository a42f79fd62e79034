import StreamGateway.Number.Binary64

/-! # Shortest decimals

The text of a binary64 number: the fewest digits that lead back to it, and of those the nearest. A
number is written positionally while its decimal exponent lies from -5 to 15, with at least one
digit behind the point; otherwise with a signed exponent. -/
namespace StreamGateway.Binary64

/-- The decimal exponent of the first digit of `num / den`, for numbers above `10 ^ -400`. -/
def leadingDigit (num den : Nat) : Int :=
  ((Nat.toDigits 10 (num * Nat.pow 10 400 / den)).length : Int) - 401

/-- The decimal `digits · 10 ^ exponent`. -/
structure Decimal where
  digits : Nat
  exponent : Int
deriving DecidableEq

/-- Of the two neighbours of the number on the grid of multiples of `10 ^ k`, the nearer one among
those that round to the number; of two equally near ones the even one. Sizes are compared in
quarters of the number's own unit, so that the ends of its interval are whole. -/
def onGrid? (x : Binary64) (k : Int) : Option Decimal :=
  let unitNum := Nat.pow 2 (x.exponent - 2).toNat
  let unitDen := Nat.pow 2 (2 - x.exponent).toNat
  let step := Nat.pow 10 k.toNat * unitDen
  let scale := unitNum * Nat.pow 10 (-k).toNat
  let value := 4 * x.significand
  let gapBelow := if x.significand = Nat.pow 2 52 ∧ -1074 < x.exponent then 1 else 2
  let low := (value - gapBelow) * scale
  let high := (value + 2) * scale
  let even := x.significand % 2 == 0
  let inside (c : Nat) : Bool :=
    let p := c * step
    if even then low ≤ p && p ≤ high else low < p && p < high
  let target := value * scale
  let down := target / step
  let up := down + 1
  let below := target - down * step
  let above := up * step - target
  match inside down, inside up with
  | true, true =>
    if below < above || (below == above && down % 2 == 0) then some ⟨down, k⟩ else some ⟨up, k⟩
  | true, false => some ⟨down, k⟩
  | false, true => some ⟨up, k⟩
  | false, false => none

/-- The first of the grids with `n`, `n + 1`, … digits that holds a decimal for the number. -/
def shortestFrom (x : Binary64) (lead : Int) (n : Nat) : Nat → Option Decimal
  | 0 => none
  | fuel + 1 =>
    match x.onGrid? (lead - n + 1) with
    | some d => some d
    | none => shortestFrom x lead (n + 1) fuel

/-- The shortest decimal that rounds to the number; seventeen digits are always enough. -/
def shortest (x : Binary64) : Decimal :=
  if x.significand = 0 then ⟨0, 0⟩
  else (shortestFrom x (leadingDigit x.num x.den) 1 17).getD ⟨0, 0⟩

/-- The digits without trailing zeros. -/
def significantDigits (d : Decimal) : List Char :=
  ((Nat.toDigits 10 d.digits).reverse.dropWhile (· = '0')).reverse

/-- The text of the number's size. -/
def sizeText (x : Binary64) : List Char :=
  if x.significand = 0 then ['0', '.', '0']
  else
    let d := x.shortest
    let lead : Int := d.exponent + (Nat.toDigits 10 d.digits).length - 1
    let ds := significantDigits d
    if 0 ≤ lead ∧ lead ≤ 15 then
      let whole := lead.toNat + 1
      let behind := ds.drop whole
      ds.take whole ++ List.replicate (whole - ds.length) '0' ++ '.' ::
        (if behind.isEmpty then ['0'] else behind)
    else if -5 ≤ lead ∧ lead < 0 then
      '0' :: '.' :: (List.replicate ((-lead).toNat - 1) '0' ++ ds)
    else
      let fraction := match ds.drop 1 with
        | [] => []
        | more => '.' :: more
      ds.take 1 ++ fraction ++ 'e' :: (if lead < 0 then '-' else '+') :: Nat.toDigits 10 lead.natAbs

/-- The text of the number, with its sign; the sign of zero is kept. -/
def text (x : Binary64) : List Char :=
  if x.negative then '-' :: x.sizeText else x.sizeText

end StreamGateway.Binary64
