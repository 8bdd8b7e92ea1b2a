import FleetMonitor.Number.Digits

namespace FleetMonitor

-- The number `± digits · 10 ^ exponent`.
structure Decimal where
  negative : Bool
  digits   : Nat
  exponent : Int
  deriving DecidableEq

namespace Decimal

def digitCount (n : Nat) : Nat :=
  (Nat.toDigits 10 n).length

-- The nearest double to a magnitude. What is at least `10 ^ 310` is infinite and what is below
-- `10 ^ -330` is zero, so no greater power of ten is ever formed.
def magnitude (d : Decimal) : Float :=
  let scale := digitCount d.digits + d.exponent
  if d.digits = 0 then 0
  else if 310 < scale then 1 / 0
  else if scale < -330 then 0
  else Float.ofScientific d.digits (d.exponent < 0) d.exponent.natAbs

-- The nearest double, infinite when the number is too large.
def toFloat (d : Decimal) : Float :=
  if d.negative then -d.magnitude else d.magnitude

-- An exponent part, which ends the number: nothing, or `e` with an optional sign and digits.
def exponentPart? : List Char → Option Int
  | []      => some 0
  | e :: cs =>
    if e = 'e' ∨ e = 'E' then
      match cs with
      | '+' :: ds => (IntRange.magnitude? ds).map Int.ofNat
      | '-' :: ds => (IntRange.magnitude? ds).map fun n => -(n : Int)
      | ds        => (IntRange.magnitude? ds).map Int.ofNat
    else none

-- A number from its sign, the digits before and after its point, and its exponent.
def ofParts (negative : Bool) (whole fraction : List Char) (exponent : Int) : Decimal where
  negative := negative
  digits   := Digits.value (whole ++ fraction)
  exponent := exponent - fraction.length

-- A number without a sign: digits with an optional point that has a digit on one of its sides, and
-- an optional exponent.
def unsigned? (negative : Bool) (cs : List Char) : Option Decimal :=
  let (whole, rest)     := Digits.span cs
  let (fraction, rest') := match rest with
    | '.' :: rs => Digits.span rs
    | rs        => ([], rs)
  if whole = [] ∧ fraction = [] then none
  else (exponentPart? rest').map (ofParts negative whole fraction)

-- A number with an optional sign. The words for infinity and for what is not a number are not read.
def read? : List Char → Option Decimal
  | '+' :: cs => unsigned? false cs
  | '-' :: cs => unsigned? true cs
  | cs        => unsigned? false cs

end Decimal
end FleetMonitor
