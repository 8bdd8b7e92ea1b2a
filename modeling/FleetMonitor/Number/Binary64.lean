import FleetMonitor.Number.Digits

namespace FleetMonitor

-- A finite double as `± significand · 2 ^ exponent`.
structure Binary64 where
  negative    : Bool
  significand : Nat
  exponent    : Int
  deriving DecidableEq

namespace Binary64

-- The exact value of a double; infinities and what is not a number have none.
def ofFloat? (x : Float) : Option Binary64 :=
  let bits : Nat := x.toBits.toNat
  let negative : Bool := bits / 0x8000000000000000 == 1
  let biased : Nat := bits / 0x10000000000000 % 0x800
  let fraction : Nat := bits % 0x10000000000000
  if biased = 0x7FF then none
  else if biased = 0 then some ⟨negative, fraction, -1074⟩
  else some ⟨negative, 0x10000000000000 + fraction, (biased : Int) - 1075⟩

-- The magnitude as a quotient of naturals.
def numerator (x : Binary64) : Nat :=
  x.significand * Nat.pow 2 x.exponent.toNat

def denominator (x : Binary64) : Nat :=
  Nat.pow 2 (-x.exponent).toNat

def signed (x : Binary64) (n : Nat) : Int :=
  if x.negative then -n else n

def floor (x : Binary64) : Int :=
  (x.signed x.numerator).fdiv x.denominator

def ceil (x : Binary64) : Int :=
  -(-x.signed x.numerator).fdiv x.denominator

-- The nearest integer, a half going away from zero.
def round (x : Binary64) : Int :=
  x.signed ((2 * x.numerator + x.denominator) / (2 * x.denominator))

-- A natural number to the 53 bits that a significand has; one halfway between two such numbers goes
-- to the one whose last bit is zero.
def nearestNat (n : Nat) : Nat :=
  let unit  := Nat.pow 2 (Nat.log2 n - 52)
  let below := n / unit
  let twice := 2 * (n % unit)
  let up    := unit < twice ∨ (twice = unit ∧ below % 2 = 1)
  (if up then below + 1 else below) * unit

-- The value of the double nearest to an integer that is no larger than the doubles are.
def nearestInt (n : Int) : Int :=
  n.sign * nearestNat n.natAbs

example : nearestInt 0x20000000000001 = 0x20000000000000 := by decide +kernel
example : nearestInt (-0x20000000000003) = -0x20000000000004 := by decide +kernel

-- Whether the double is a number, and not an infinity.
def isFinite (x : Float) : Bool :=
  (ofFloat? x).isSome

end Binary64
end FleetMonitor
