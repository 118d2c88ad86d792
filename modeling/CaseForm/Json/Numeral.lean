import CaseForm.Json.Basic

/-!
Numerals: a written number in its parts, and the number that it stands for.

An integer without fraction and exponent stays one as long as 64 bits hold it. All other numerals
are read as a 64-bit significand times a power of ten: integer digits that no longer fit only raise
the power, fraction digits that no longer fit are left out, and the significand is scaled in
binary64 arithmetic. A numeral beyond the range of binary64 has no value.
-/

namespace CaseForm.Json

/-- A written number: its sign, the digits before and after the point, and the exponent. -/
structure Numeral where
  negative : Bool
  whole : List Char
  /-- The digits after the point, if there is one. -/
  fraction : Option (List Char) := none
  /-- The sign of the exponent (`true` for minus) and its digits, if there is one. -/
  exponent : Option (Bool × List Char) := none
  deriving Repr, Inhabited

/-- Appends digits to a significand while the result fits into 64 bits; gives the digits left. -/
def absorb (significand : Nat) : List Char → Nat × List Char
  | [] => (significand, [])
  | d :: digits =>
    let next := significand * 10 + (d.toNat - '0'.toNat)
    if next < 0x10000000000000000 then absorb next digits else (significand, d :: digits)

/-- The power of ten in binary64. -/
def powerOfTen (n : Nat) : Float := OfScientific.ofScientific 1 false n

/-- Divides by `10 ^ n`, in steps of `10 ^ 308` where `n` is beyond the range of binary64. -/
def scaleDown (value : Float) (n : Nat) : Float :=
  if n ≤ 308 then value / powerOfTen n
  else if value == 0 then value
  else scaleDown (value / powerOfTen 308) (n - 308)
termination_by n

/-- The significand times a power of ten, unless that is out of range. -/
def scaled? (significand : Nat) (power : Int) : Option Float :=
  let value := (UInt64.ofNat significand).toFloat
  if power < 0 then some (scaleDown value power.natAbs)
  else if power ≤ 308 then
    let product := value * powerOfTen power.toNat
    if product.isInf then none else some product
  else if significand = 0 then some value else none

namespace Numeral

/-- The integer, where the numeral is one of at most 64 bits. Minus zero is none. -/
def integer? (n : Numeral) : Option Int :=
  match n.fraction, n.exponent with
  | none, none =>
    let value := Nat.ofDigitChars 10 n.whole 0
    if n.negative then if 0 < value ∧ value ≤ 0x8000000000000000 then some (-value) else none
    else if value < 0x10000000000000000 then some value else none
  | _, _ => none

/-- The magnitude in binary64, unless it is out of range. -/
def magnitude? (n : Numeral) : Option Float :=
  let (high, excess) := absorb 0 n.whole
  let fraction := n.fraction.getD []
  let (significand, unused) := absorb high fraction
  let start : Int := excess.length - (fraction.length - unused.length : Nat)
  match n.exponent with
  | none => scaled? significand start
  | some (minus, digits) =>
    let exponent := Nat.ofDigitChars 10 digits 0
    if exponent < 0x80000000 then
      scaled? significand (if minus then start - exponent else start + exponent)
    else if significand ≠ 0 ∧ ¬ minus then none
    else some 0

/-- The number that the numeral stands for, unless it is out of range. -/
def value? (n : Numeral) : Option Number :=
  match n.integer? with
  | some value => some (.int value)
  | none => n.magnitude?.map fun value => .ofFloat (if n.negative then -value else value)

end Numeral

end CaseForm.Json
