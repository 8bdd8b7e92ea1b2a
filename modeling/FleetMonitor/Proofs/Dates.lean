import FleetMonitor.Time.Calendar
import Mathlib.Data.Int.Init
import Mathlib.Logic.Function.Iterate

namespace FleetMonitor
namespace Date

-- A day that its month has, in whatever year.
structure Proper (d : Date) : Prop where
  month_pos : 1 ≤ d.month
  month_le  : d.month ≤ 12
  day_pos   : 1 ≤ d.day
  day_le    : d.day ≤ monthLength d.year d.month

def next (d : Date) : Date :=
  if d.day < monthLength d.year d.month then { d with day := d.day + 1 }
  else if d.month < 12 then ⟨d.year, d.month + 1, 1⟩
  else ⟨d.year + 1, 1, 1⟩

def prev (d : Date) : Date :=
  if 1 < d.day then { d with day := d.day - 1 }
  else if 1 < d.month then ⟨d.year, d.month - 1, monthLength d.year (d.month - 1)⟩
  else ⟨d.year - 1, 12, 31⟩

-- The day from which days are counted.
def epoch : Date := ⟨1970, 1, 1⟩

-- The day that comes so many days after the epoch, or before it.
def ofDayNumber : Int → Date
  | .ofNat n   => next^[n] epoch
  | .negSucc n => prev^[n + 1] epoch

variable {d : Date} {year n : Int} {month day : Nat}

theorem proper_mk_iff : (mk year month day).Proper ↔
    1 ≤ month ∧ month ≤ 12 ∧ 1 ≤ day ∧ day ≤ monthLength year month where
  mp  := fun ⟨hm, hm', hd, hd'⟩ => ⟨hm, hm', hd, hd'⟩
  mpr := fun ⟨hm, hm', hd, hd'⟩ => ⟨hm, hm', hd, hd'⟩

theorem le_monthLength : 28 ≤ monthLength year month := by
  unfold monthLength
  repeat' split
  all_goals decide

theorem monthLength_le : monthLength year month ≤ 31 := by
  unfold monthLength
  repeat' split
  all_goals decide

theorem monthLength_january : monthLength year 1 = 31 :=
  rfl

theorem monthLength_december : monthLength year 12 = 31 :=
  rfl

-- What comes after a day and before it.

theorem next_cases (h : d.Proper) :
    (d.day < monthLength d.year d.month ∧ d.next = ⟨d.year, d.month, d.day + 1⟩) ∨
    (d.day = monthLength d.year d.month ∧ d.month < 12 ∧ d.next = ⟨d.year, d.month + 1, 1⟩) ∨
    (d.day = 31 ∧ d.month = 12 ∧ d.next = ⟨d.year + 1, 1, 1⟩) := by
  obtain ⟨year, month, day⟩ := d
  obtain ⟨_, hm, _, hd⟩ := proper_mk_iff.mp h
  unfold next
  by_cases h1 : day < monthLength year month
  case pos => exact Or.inl ⟨h1, if_pos h1⟩
  case neg =>
    have he : day = monthLength year month := Nat.le_antisymm hd (Nat.le_of_not_lt h1)
    rw [if_neg h1]
    by_cases h2 : month < 12
    case pos => exact Or.inr (Or.inl ⟨he, h2, if_pos h2⟩)
    case neg =>
      obtain rfl : month = 12 := Nat.le_antisymm hm (Nat.le_of_not_lt h2)
      rw [monthLength_december] at he
      exact Or.inr (Or.inr ⟨he, rfl, if_neg h2⟩)

theorem prev_cases (h : d.Proper) :
    (1 < d.day ∧ d.prev = ⟨d.year, d.month, d.day - 1⟩) ∨
    (d.day = 1 ∧ 1 < d.month ∧
      d.prev = ⟨d.year, d.month - 1, monthLength d.year (d.month - 1)⟩) ∨
    (d.day = 1 ∧ d.month = 1 ∧ d.prev = ⟨d.year - 1, 12, 31⟩) := by
  unfold prev
  by_cases h1 : 1 < d.day
  case pos => exact Or.inl ⟨h1, if_pos h1⟩
  case neg =>
    have hd : d.day = 1 := Nat.le_antisymm (Nat.le_of_not_lt h1) h.day_pos
    rw [if_neg h1]
    by_cases h2 : 1 < d.month
    case pos => exact Or.inr (Or.inl ⟨hd, h2, if_pos h2⟩)
    case neg =>
      have hm : d.month = 1 := Nat.le_antisymm (Nat.le_of_not_lt h2) h.month_pos
      exact Or.inr (Or.inr ⟨hd, hm, if_neg h2⟩)

theorem Proper.next (h : d.Proper) : d.next.Proper := by
  have hm := h.month_pos
  have hm' := h.month_le
  rcases next_cases h with ⟨hd, hn⟩ | ⟨_, hl, hn⟩ | ⟨_, _, hn⟩ <;> rw [hn, proper_mk_iff]
  case inl     => omega
  case inr.inl =>
    have hk : 28 ≤ monthLength d.year (d.month + 1) := le_monthLength
    omega
  case inr.inr =>
    rw [monthLength_january]
    omega

theorem Proper.prev (h : d.Proper) : d.prev.Proper := by
  have hm := h.month_pos
  have hm' := h.month_le
  have hd := h.day_le
  rcases prev_cases h with ⟨_, hp⟩ | ⟨_, _, hp⟩ | ⟨_, _, hp⟩ <;> rw [hp, proper_mk_iff]
  case inl     => omega
  case inr.inl =>
    have hk : 28 ≤ monthLength d.year (d.month - 1) := le_monthLength
    omega
  case inr.inr =>
    rw [monthLength_december]
    omega

theorem next_prev (h : d.Proper) : d.prev.next = d := by
  obtain ⟨year, month, day⟩ := d
  rcases prev_cases h with ⟨hd, hp⟩ | ⟨rfl, hm, hp⟩ | ⟨rfl, rfl, hp⟩ <;> rw [hp]
  case inl =>
    have hl : day - 1 < monthLength year month := Nat.sub_one_lt_of_le h.day_pos h.day_le
    rw [next, if_pos hl, Nat.sub_add_cancel h.day_pos]
  case inr.inl =>
    have hl : month - 1 < 12 := Nat.sub_one_lt_of_le h.month_pos h.month_le
    rw [next, if_neg (Nat.lt_irrefl _), if_pos hl, Nat.sub_add_cancel h.month_pos]
  case inr.inr => simp [next, monthLength_december]

theorem year_next (h : d.Proper) : d.next.year = d.year ∨ d.next.year = d.year + 1 := by
  rcases next_cases h with ⟨_, hn⟩ | ⟨_, _, hn⟩ | ⟨_, _, hn⟩ <;> rw [hn]
  case inl     => exact Or.inl rfl
  case inr.inl => exact Or.inl rfl
  case inr.inr => exact Or.inr rfl

-- How days are numbered.

theorem daysToYear_eq :
    daysToYear year = 365 * year + (year - 1) / 4 - (year - 1) / 100 + (year - 1) / 400 + 1 := by
  have h4 : (year - 1).fdiv 4 = (year - 1) / 4 := Int.fdiv_eq_ediv_of_nonneg _ (by decide)
  have h100 : (year - 1).fdiv 100 = (year - 1) / 100 := Int.fdiv_eq_ediv_of_nonneg _ (by decide)
  have h400 : (year - 1).fdiv 400 = (year - 1) / 400 := Int.fdiv_eq_ediv_of_nonneg _ (by decide)
  simp only [daysToYear, h4, h100, h400]

theorem daysToMonth_succ (h : 1 ≤ month) :
    daysToMonth year (month + 1) = daysToMonth year month + monthLength year month := by
  obtain ⟨m, rfl⟩ : ∃ m, month = m + 1 := ⟨month - 1, by omega⟩
  rfl

-- A year is as long as its months.
theorem daysToYear_succ : daysToYear (year + 1) = daysToYear year + daysToMonth year 13 := by
  have hm : daysToMonth year 13 = if isLeap year then 366 else 365 := by
    cases hl : isLeap year <;> simp [daysToMonth, monthLength, hl]
  rw [hm, daysToYear_eq, daysToYear_eq, isLeap]
  simp only [Bool.and_eq_true, Bool.or_eq_true, beq_iff_eq, bne_iff_ne]
  split <;> omega

theorem dayNumber_next (h : d.Proper) : d.next.dayNumber = d.dayNumber + 1 := by
  rcases next_cases h with ⟨_, hn⟩ | ⟨hd, _, hn⟩ | ⟨hd, hm, hn⟩ <;> rw [hn]
  case inl =>
    simp only [dayNumber]
    omega
  case inr.inl =>
    simp only [dayNumber, daysToMonth_succ h.month_pos, hd]
    omega
  case inr.inr =>
    have hy : daysToMonth d.year 13 = daysToMonth d.year 12 + 31 := daysToMonth_succ (by decide)
    have hj : daysToMonth (d.year + 1) 1 = 0 := rfl
    simp only [dayNumber, daysToYear_succ, hm, hd, hy, hj]
    omega

theorem daysToMonth_le : daysToMonth year month ≤ 31 * month := by
  induction month with
  | zero           => exact Nat.le_refl 0
  | succ month hi  =>
    rcases Nat.eq_zero_or_pos month with rfl | hm
    case inl => exact Nat.zero_le _
    case inr =>
      have hl : monthLength year month ≤ 31 := monthLength_le
      rw [daysToMonth_succ hm]
      omega

-- In years of up to four digits the numbers have seven digits at most.
theorem dayNumber_lt (h : d.Proper) (hy : 0 ≤ d.year) (hy' : d.year ≤ 9999) :
    -10000000 < d.dayNumber ∧ d.dayNumber < 10000000 := by
  have hm := h.month_le
  have hd := Nat.le_trans h.day_le monthLength_le
  have hl : daysToMonth d.year d.month ≤ 31 * d.month := daysToMonth_le
  rw [dayNumber, daysToYear_eq, daysToYear_eq]
  omega

-- Day by day.

theorem proper_epoch : epoch.Proper := by
  rw [epoch, proper_mk_iff]
  decide

theorem proper_ofDayNumber : (ofDayNumber n).Proper := by
  cases n with
  | ofNat k   => exact Function.Iterate.rec Proper proper_epoch (fun _ => Proper.next) k
  | negSucc k => exact Function.Iterate.rec Proper proper_epoch (fun _ => Proper.prev) (k + 1)

theorem ofDayNumber_neg (k : Nat) : ofDayNumber (-k) = prev^[k] epoch := by
  cases k <;> rfl

theorem ofDayNumber_add_one : ofDayNumber (n + 1) = (ofDayNumber n).next := by
  cases n with
  | ofNat k   => exact Function.iterate_succ_apply' next k epoch
  | negSucc k =>
    have hk : Int.negSucc k = -(k + 1 : Nat) := rfl
    have hs : -((k + 1 : Nat) : Int) + 1 = -k := by omega
    have hp : (ofDayNumber (-k)).Proper := proper_ofDayNumber
    rw [hk, hs, ofDayNumber_neg (k + 1), Function.iterate_succ_apply', ← ofDayNumber_neg,
      next_prev hp]

-- Counting days comes to the same as computing their number.
theorem dayNumber_ofDayNumber : (ofDayNumber n).dayNumber = n := by
  induction n using Int.induction_on with
  | zero      => decide
  | succ k hi => rw [ofDayNumber_add_one, dayNumber_next proper_ofDayNumber, hi]
  | pred k hi =>
    have hp : (ofDayNumber (-k - 1)).Proper := proper_ofDayNumber
    have hn := dayNumber_next hp
    rw [← ofDayNumber_add_one, Int.sub_add_cancel, hi] at hn
    omega

-- A day that only leap years have.
example : ofDayNumber 789 = ⟨1972, 2, 29⟩ := by decide +kernel

-- A day and its neighbours are in the same year or in years that follow each other.
theorem year_ofDayNumber_add_one (n : Int) :
    (ofDayNumber (n + 1)).year = (ofDayNumber n).year ∨
    (ofDayNumber (n + 1)).year = (ofDayNumber n).year + 1 := by
  rw [ofDayNumber_add_one]
  exact year_next proper_ofDayNumber

end Date
end FleetMonitor
