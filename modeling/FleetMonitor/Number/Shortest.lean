import FleetMonitor.Number.Binary64

namespace FleetMonitor

-- The magnitude `digits · 10 ^ exponent`.
structure Shortest where
  digits   : Nat
  exponent : Int
  deriving DecidableEq

-- Which of two neighbours a number halfway between them goes to.
inductive Tie where
  | even
  | upper
  deriving DecidableEq, Repr

-- The choice between `below` and the number after it.
def Tie.choose (below : Nat) : Tie → Nat
  | even  => below + below % 2
  | upper => below + 1

namespace Shortest

-- The reals that round to a double, with the double itself, all over one denominator.
structure Interval where
  low    : Nat
  value  : Nat
  high   : Nat
  den    : Nat
  closed : Bool

-- The gap below a power of two is half the gap above it, except at the smallest exponent.
def interval (x : Binary64) : Interval :=
  let m    := x.significand
  let down := if m = 0x10000000000000 ∧ x.exponent ≠ -1074 then 1 else 2
  let up   := Nat.pow 2 (x.exponent - 2).toNat
  { low    := (4 * m - down) * up
    value  := 4 * m * up
    high   := (4 * m + 2) * up
    den    := Nat.pow 2 (2 - x.exponent).toNat
    closed := m % 2 = 0 }

-- `10 ^ k` as a quotient.
def powerOfTen (k : Int) : Nat × Nat :=
  (Nat.pow 10 k.toNat, Nat.pow 10 (-k).toNat)

-- Whether `n · 10 ^ k` rounds to the double.
def Interval.contains (i : Interval) (n : Nat) (k : Int) : Bool :=
  let (up, down) := powerOfTen k
  let point := n * up * i.den
  if i.closed then i.low * down ≤ point && point ≤ i.high * down
  else i.low * down < point && point < i.high * down

-- The position of the leading digit: the greatest `k` with `10 ^ k` not above the value, searched
-- upwards from a bound that the binary length gives.
def leading (i : Interval) : Int :=
  let bits  : Int := (Nat.log2 i.value : Int) - Nat.log2 i.den
  let start : Int := (bits * 30103).fdiv 100000 - 2
  let reached (k : Int) : Bool :=
    let (up, down) := powerOfTen k
    up * i.den ≤ i.value * down
  (List.range 5).foldl (fun k _ => if reached (k + 1) then k + 1 else k) start

-- The nearer of the value's two neighbours on the grid of multiples of `10 ^ k` that round to the
-- double, if either does.
def onGrid? (i : Interval) (tie : Tie) (k : Int) : Option Nat :=
  let (up, down) := powerOfTen k
  let below := i.value * down / (up * i.den)
  let twice := 2 * (i.value * down) - 2 * below * (up * i.den)
  let nearer :=
    if twice < up * i.den then below
    else if up * i.den < twice then below + 1
    else tie.choose below
  match i.contains below k, i.contains (below + 1) k with
  | true,  true  => some nearer
  | true,  false => some below
  | false, true  => some (below + 1)
  | false, false => none

-- Drops trailing zeros, at most as many as there can be.
def normalize : Nat → Nat → Int → Shortest
  | 0,        n, k => ⟨n, k⟩
  | fuel + 1, n, k => if n ≠ 0 ∧ n % 10 = 0 then normalize fuel (n / 10) (k + 1) else ⟨n, k⟩

-- The fewest digits that read back, and of those the nearest to the value. Seventeen digits always
-- read back.
def ofBinary64 (tie : Tie) (x : Binary64) : Shortest :=
  if x.significand = 0 then ⟨0, 0⟩
  else
    let i    := interval x
    let lead := leading i
    let grid := (List.range 17).findSome? fun (n : Nat) =>
      (onGrid? i tie (lead - n)).map fun d => normalize 20 d (lead - n)
    grid.getD ⟨0, 0⟩

example : ofBinary64 .even ⟨false, 0x1999999999999A, -56⟩ = ⟨1, -1⟩ := by decide +kernel
example : ofBinary64 .even ⟨false, 1, -1074⟩ = ⟨5, -324⟩ := by decide +kernel
example : ofBinary64 .even ⟨false, 0x1FFFFFFFFFFFFF, 971⟩ = ⟨17976931348623157, 292⟩ := by
  decide +kernel

-- The double 1125899906842624.25, whose last digit may be 2 or 3.
example : ofBinary64 .even ⟨false, 0x10000000000001, -2⟩ = ⟨11258999068426242, -1⟩ := by
  decide +kernel
example : ofBinary64 .upper ⟨false, 0x10000000000001, -2⟩ = ⟨11258999068426243, -1⟩ := by
  decide +kernel

def zeros (n : Nat) : List Char :=
  List.replicate n '0'

-- The digits with a point and no exponent; `tail` ends a number without a fraction.
def plain (s : Shortest) (tail : List Char) : List Char :=
  let ds    := Nat.toDigits 10 s.digits
  let point := ds.length + s.exponent
  if 0 ≤ s.exponent then ds ++ zeros s.exponent.toNat ++ tail
  else if 0 < point then ds.take point.toNat ++ '.' :: ds.drop point.toNat
  else '0' :: '.' :: (zeros (-point).toNat ++ ds)

-- One digit before the point and a signed exponent.
def scientific (s : Shortest) : List Char :=
  let ds    := Nat.toDigits 10 s.digits
  let power := ds.length + s.exponent - 1
  let head  := if ds.length = 1 then ds else ds.take 1 ++ '.' :: ds.drop 1
  head ++ 'e' :: (if power < 0 then '-' else '+') :: Nat.toDigits 10 power.natAbs

end Shortest

-- How doubles are written: which digit a tie goes to, which powers of ten of the leading digit are
-- written out, and what ends a number that has no fraction.
structure FloatLayout where
  tie        : Tie
  positional : Int → Bool
  whole      : List Char

namespace FloatLayout

-- Never an exponent, and no point where there is no fraction.
def display : FloatLayout where
  tie          := .upper
  positional _ := true
  whole        := []

-- Written out from `0.00001` up to sixteen digits before the point, and always with a point.
def json : FloatLayout where
  tie          := .even
  positional k := -5 ≤ k && k ≤ 15
  whole        := ['.', '0']

def render (layout : FloatLayout) (x : Float) : List Char :=
  match Binary64.ofFloat? x with
  | none   =>
    if x < 0 then ['-', 'i', 'n', 'f']
    else if 0 < x then ['i', 'n', 'f']
    else ['N', 'a', 'N']
  | some b =>
    let s    := Shortest.ofBinary64 layout.tie b
    let lead := (Nat.toDigits 10 s.digits).length + s.exponent - 1
    let text := if layout.positional lead then s.plain layout.whole else s.scientific
    if b.negative then '-' :: text else text

end FloatLayout
end FleetMonitor
