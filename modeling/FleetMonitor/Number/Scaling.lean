import FleetMonitor.Number.Binary64
import FleetMonitor.Number.Decimal

namespace FleetMonitor.Decimal

-- Takes up digits after those of `n` as long as the number fits 64 bits. Those from the first one
-- that does not are left.
def takeDigits (n : Nat) : List Char → Nat × List Char
  | []      => (n, [])
  | c :: cs =>
    let n' := 10 * n + Digits.digit c
    if IntRange.uint64.Contains n' then takeDigits n' cs else (n, c :: cs)

-- A number from its parts, without the digits that do not fit 64 bits. Those before the point count in
-- the exponent; and if there are such, digits after the point can still be taken up.
def truncated (negative : Bool) (whole fraction : List Char) (exponent : Int) : Decimal :=
  let (n, left)   := takeDigits 0 whole
  let (n', left') := takeDigits n fraction
  ⟨negative, n', exponent + left.length - (fraction.length - left'.length : Nat)⟩

-- The exponent of the greatest power of ten that there is as a double.
def greatestPower : Nat := 308

def power (e : Nat) : Float :=
  toFloat ⟨false, 1, e⟩

-- Divides by the greatest power, `n` times or until nothing is left.
def shrink (x : Float) : Nat → Float
  | 0     => x
  | n + 1 => if x == 0 then x else shrink (x / power greatestPower) n

-- `x * 10 ^ e`, if it is not too large. Each product and each quotient is rounded.
def scale? (x : Float) (e : Int) : Option Float :=
  if e < 0 then
    let steps := ((-e).toNat - 1) / greatestPower
    some (shrink x steps / power ((-e).toNat - steps * greatestPower))
  else if e ≤ greatestPower then
    (some (x * power e.toNat)).filter Binary64.isFinite
  else if x == 0 then some x
  else none

-- A double close to the number, but not always the nearest one, if it is not too large.
def scaled? (d : Decimal) : Option Float :=
  (scale? (toFloat ⟨false, d.digits, 0⟩) d.exponent).map fun x => if d.negative then -x else x

variable {cs : List Char} {n : Nat}

theorem le_foldl_digits : n ≤ cs.foldl (fun n c => 10 * n + Digits.digit c) n := by
  induction cs generalizing n with
  | nil          => exact Nat.le_refl n
  | cons c cs hi =>
    have hc : n ≤ 10 * n + Digits.digit c := by omega
    exact Nat.le_trans hc hi

theorem takeDigits_of_contains
    (h : IntRange.uint64.Contains (cs.foldl (fun n c => 10 * n + Digits.digit c) n : Nat)) :
    takeDigits n cs = (cs.foldl (fun n c => 10 * n + Digits.digit c) n, []) := by
  induction cs generalizing n with
  | nil          => rfl
  | cons c cs hi =>
    rw [List.foldl_cons] at h
    have hc : IntRange.uint64.Contains (10 * n + Digits.digit c : Nat) :=
      ⟨Int.natCast_nonneg _, Int.le_trans (Int.ofNat_le.mpr le_foldl_digits) h.right⟩
    rw [takeDigits, if_pos hc, hi h, List.foldl_cons]

-- A number whose digits fit 64 bits keeps them all.
theorem truncated_eq_ofParts {negative : Bool} {whole fraction : List Char} {exponent : Int}
    (h : IntRange.uint64.Contains (Digits.value (whole ++ fraction) : Nat)) :
    truncated negative whole fraction exponent = ofParts negative whole fraction exponent := by
  rw [Digits.value, List.foldl_append] at h
  have hw : IntRange.uint64.Contains (Digits.value whole : Nat) :=
    ⟨Int.natCast_nonneg _, Int.le_trans (Int.ofNat_le.mpr le_foldl_digits) h.right⟩
  simp only [truncated, takeDigits_of_contains hw, takeDigits_of_contains h, ofParts, Digits.value,
    List.foldl_append, List.length_nil]
  simp

end FleetMonitor.Decimal
