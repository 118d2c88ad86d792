/-!
The fewest decimal digits that read back as a given binary number.

A finite binary64 number is `m * 2 ^ q`. The reals that round to it form an interval around it,
with its ends when `m` is even. For 1, 2, … digits the two neighbours of the number on the decimal
grid are compared with the interval in exact arithmetic; the first grid with a hit gives the
digits, of two hits the nearer, and of two equally near ones the even one.
-/

namespace CaseForm.Decimal

/-- A sign, a significand and a binary exponent: the number `± significand * 2 ^ exponent`. -/
structure Binary where
  negative : Bool
  significand : Nat
  exponent : Int
  deriving DecidableEq, Repr

/-- The number that a finite binary64 bit pattern stands for. -/
def Binary.ofBits (bits : UInt64) : Binary :=
  let n := bits.toNat
  let field : Nat := n / 0x10000000000000 % 0x800
  let fraction : Nat := n % 0x10000000000000
  { negative := 0x8000000000000000 ≤ n
    significand := if field = 0 then fraction else 0x10000000000000 + fraction
    exponent := if field = 0 then -1074 else (field : Int) - 1075 }

/-- Digits without a leading or trailing zero, and the power of ten of the first of them. -/
structure Scientific where
  digits : List Char
  power : Int
  deriving DecidableEq, Repr

/-- The reals that round to a number, as numerators over one denominator. -/
structure Interval where
  low : Nat
  value : Nat
  high : Nat
  denominator : Nat
  /-- Whether the ends round to the number too. -/
  closed : Bool

/-- The rounding interval. Below a power of two, unless the exponent is the least one, the numbers
lie twice as dense, so the interval reaches only half as far down. -/
def Binary.interval (b : Binary) : Interval :=
  let shift := b.exponent - 2
  let unit := Nat.pow 2 shift.toNat
  let below := if b.significand = 0x10000000000000 ∧ b.exponent ≠ -1074 then 1 else 2
  { low := (4 * b.significand - below) * unit
    value := 4 * b.significand * unit
    high := (4 * b.significand + 2) * unit
    denominator := Nat.pow 2 (-shift).toNat
    closed := b.significand % 2 = 0 }

/-- The power of ten of the first digit of `num / den`, both positive. -/
def leadingPower (num den : Nat) : Int :=
  if den ≤ num then ((Nat.toDigits 10 (num / den)).length : Int) - 1
  else -((Nat.toDigits 10 ((den - 1) / num)).length : Int)

/-- The point of the grid `10 ^ power` that the interval holds: of the two neighbours of the value
the nearer, or the even one of two equally near. -/
def Interval.gridPoint? (i : Interval) (power : Int) : Option Nat :=
  let up := Nat.pow 10 (-power).toNat
  let step := i.denominator * Nat.pow 10 power.toNat
  let value := i.value * up
  let holds (d : Nat) : Bool :=
    if i.closed then i.low * up ≤ d * step && d * step ≤ i.high * up
    else i.low * up < d * step && d * step < i.high * up
  let floor := value / step
  let ceiling := floor + 1
  let lower := value - floor * step
  let upper := ceiling * step - value
  let nearer := if lower < upper ∨ (lower = upper ∧ floor % 2 = 0) then floor else ceiling
  let farther := if nearer = floor then ceiling else floor
  if holds nearer then some nearer else if holds farther then some farther else none

/-- Tries grids of more and more digits; `left` bounds how many more. -/
def Interval.firstGrid (i : Interval) (power : Int) : Nat → Nat × Int
  | 0 => (i.value / i.denominator, 0)
  | left + 1 =>
    match i.gridPoint? power with
    | some d => (d, power)
    | none => i.firstGrid (power - 1) left

/-- The fewest digits that read back as a positive number: seventeen always do. -/
def Binary.shortest (b : Binary) : Scientific :=
  let i := b.interval
  let (d, power) := i.firstGrid (leadingPower i.value i.denominator) 17
  let digits := Nat.toDigits 10 d
  { digits := (digits.reverse.dropWhile (· == '0')).reverse
    power := power + (digits.length - 1) }

end CaseForm.Decimal
