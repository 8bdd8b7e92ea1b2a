namespace FleetMonitor

namespace Digits

def isDigit (c : Char) : Bool :=
  '0' ≤ c && c ≤ '9'

-- The digits at the front, and the rest.
def span (cs : List Char) : List Char × List Char :=
  (cs.takeWhile isDigit, cs.dropWhile isDigit)

def digit (c : Char) : Nat :=
  c.toNat - '0'.toNat

-- The number that a run of digits writes; no digits write zero.
def value (cs : List Char) : Nat :=
  cs.foldl (fun n c => 10 * n + digit c) 0

end Digits

-- The least and greatest integer of a machine type.
structure IntRange where
  least    : Int
  greatest : Int

namespace IntRange

def uint32 : IntRange := ⟨0, 0xFFFFFFFF⟩
def uint64 : IntRange := ⟨0, 0xFFFFFFFFFFFFFFFF⟩
def int64  : IntRange := ⟨-0x8000000000000000, 0x7FFFFFFFFFFFFFFF⟩

def Contains (r : IntRange) (n : Int) : Prop :=
  r.least ≤ n ∧ n ≤ r.greatest

instance (r : IntRange) (n : Int) : Decidable (r.Contains n) :=
  inferInstanceAs (Decidable (_ ∧ _))

-- Moves `n` to the nearest end of the range if it lies outside.
def saturate (r : IntRange) (n : Int) : Int :=
  max r.least (min r.greatest n)

-- The magnitude that a non-empty run of digits writes.
def magnitude? (cs : List Char) : Option Nat :=
  if cs ≠ [] ∧ cs.all Digits.isDigit then some (Digits.value cs) else none

-- An integer as text: an optional plus, or a minus if the range has negative numbers, and then
-- digits only. Nothing is read that the range does not contain.
def read? (r : IntRange) (cs : List Char) : Option Int :=
  let n? : Option Int :=
    match cs with
    | '+' :: ds => (magnitude? ds).map Int.ofNat
    | '-' :: ds => if r.least < 0 then (magnitude? ds).map fun n => -(n : Int) else none
    | ds        => (magnitude? ds).map Int.ofNat
  n?.filter fun n => r.Contains n

end IntRange
end FleetMonitor
