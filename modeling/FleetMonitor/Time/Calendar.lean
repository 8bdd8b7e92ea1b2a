namespace FleetMonitor

-- A day of the proleptic Gregorian calendar.
structure Date where
  year  : Int
  month : Nat
  day   : Nat
  deriving DecidableEq, Repr

namespace Date

def isLeap (year : Int) : Bool :=
  year % 4 == 0 && (year % 100 != 0 || year % 400 == 0)

def monthLength (year : Int) (month : Nat) : Nat :=
  if month = 2 then if isLeap year then 29 else 28
  else if month = 4 ∨ month = 6 ∨ month = 9 ∨ month = 11 then 30
  else 31

-- The years that dates are kept for.
def leastYear : Int := -262143
def greatestYear : Int := 262142

def Exists (d : Date) : Prop :=
  leastYear ≤ d.year ∧ d.year ≤ greatestYear ∧ 1 ≤ d.month ∧ d.month ≤ 12 ∧
    1 ≤ d.day ∧ d.day ≤ monthLength d.year d.month

instance (d : Date) : Decidable d.Exists :=
  inferInstanceAs (Decidable (_ ∧ _))

-- Days from 0000-01-01 to the first day of a year.
def daysToYear (year : Int) : Int :=
  let y := year - 1
  365 * year + y.fdiv 4 - y.fdiv 100 + y.fdiv 400 + 1

-- Days from the first day of a year to the first day of a month.
def daysToMonth (year : Int) : Nat → Nat
  | 0     => 0
  | 1     => 0
  | m + 2 => daysToMonth year (m + 1) + monthLength year (m + 1)

def dayNumber (d : Date) : Int :=
  daysToYear d.year - daysToYear 1970 + daysToMonth d.year d.month + (d.day - 1 : Int)

example : dayNumber ⟨1970, 1, 1⟩ = 0 := by decide
example : dayNumber ⟨1969, 12, 31⟩ = -1 := by decide
example : dayNumber ⟨2000, 3, 1⟩ = 11017 := by decide
example : dayNumber ⟨0, 3, 1⟩ = -719468 := by decide

end Date
end FleetMonitor
