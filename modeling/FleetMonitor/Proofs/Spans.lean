import FleetMonitor.Chart.Window
import Mathlib.Algebra.Group.Int.Defs
import Mathlib.Algebra.Group.Nat.Defs

namespace FleetMonitor
namespace Window

-- The distance between the ends, in numbers without bound.
def width (w : Window) : Int :=
  w.last.toInt - w.first.toInt

-- Whether the ends are further apart than a span can say.
def Overflows (w : Window) : Prop :=
  Int64.maxValue.toInt < w.width

instance (w : Window) : Decidable w.Overflows :=
  inferInstanceAs (Decidable (_ < _))

variable {w : Window} {a b s t : Millis}

theorem toInt_first_between : (between a b).first.toInt = min a.toInt b.toInt := by
  simp only [between, Int64.le_iff_toInt_le]
  split
  case isTrue h  => exact (Int.min_eq_left h).symm
  case isFalse h => exact (Int.min_eq_right (Int.le_of_not_le h)).symm

theorem toInt_last_between : (between a b).last.toInt = max a.toInt b.toInt := by
  simp only [between, Int64.le_iff_toInt_le]
  split
  case isTrue h  => exact (Int.max_eq_right h).symm
  case isFalse h => exact (Int.max_eq_left (Int.le_of_not_le h)).symm

theorem first_le_last_between : (between a b).first ≤ (between a b).last := by
  rw [Int64.le_iff_toInt_le, toInt_first_between, toInt_last_between]
  omega

theorem eq_of_toInt {w' : Window} (hf : w.first.toInt = w'.first.toInt)
    (hl : w.last.toInt = w'.last.toInt) : w = w' := by
  cases w
  cases w'
  obtain rfl := Int64.toInt_inj.mp hf
  obtain rfl := Int64.toInt_inj.mp hl
  rfl

theorem between_comm : between a b = between b a := by
  refine eq_of_toInt ?_ ?_
  · rw [toInt_first_between, toInt_first_between, Int.min_comm]
  · rw [toInt_last_between, toInt_last_between, Int.max_comm]

-- What lies between two instants is above one of them and below the other.
theorem contains_between_iff : (between a b).contains t ↔ a ≤ t ∧ t ≤ b ∨ b ≤ t ∧ t ≤ a := by
  have hc : (between a b).contains t ↔
      (between a b).first ≤ t ∧ t ≤ (between a b).last := by simp [contains]
  rw [hc]
  simp only [Int64.le_iff_toInt_le, toInt_first_between, toInt_last_between]
  omega

theorem width_between : (between a b).width = (a.toInt - b.toInt).natAbs := by
  rw [width, toInt_first_between, toInt_last_between]
  omega

theorem width_nonneg (h : w.first ≤ w.last) : 0 ≤ w.width := by
  have hl := Int64.le_iff_toInt_le.mp h
  unfold width
  omega

theorem contains_width_iff (h : w.first ≤ w.last) :
    IntRange.int64.Contains w.width ↔ ¬w.Overflows := by
  have hw := width_nonneg h
  rw [Overflows, Int64.toInt_maxValue]
  simp only [IntRange.Contains, IntRange.int64]
  omega

theorem span?_eq_none_iff (h : w.first ≤ w.last) : w.span? = none ↔ w.Overflows := by
  have hc := contains_width_iff h
  unfold span?
  simp only [ite_eq_right_iff, reduceCtorEq, imp_false]
  exact (not_congr hc).trans Classical.not_not

-- A span that there is is exact.
theorem toInt_of_span? (h : w.span? = some s) : s.toInt = w.width := by
  obtain ⟨hc, hs⟩ := Option.ite_none_right_eq_some.mp h
  obtain rfl := Option.some.inj hs
  exact Int64.toInt_ofInt_of_le hc.left (Int.lt_add_one_of_le hc.right)

theorem map_toInt_span? (h : w.first ≤ w.last) (hn : ¬w.Overflows) :
    w.span?.map Int64.toInt = some w.width := by
  obtain ⟨s, hs⟩ := Option.ne_none_iff_exists'.mp (mt (span?_eq_none_iff h).mp hn)
  rw [hs, Option.map_some, toInt_of_span? hs]

-- Between any two instants, given in either order, there is a window with ordered ends that contains
-- just the instants from the one to the other. Its span is the distance between the two, and not
-- below zero; but it has none if that distance is more than the greatest number that a span can be.
theorem spans_are_exact_unless_too_wide (a b : Millis) :
    let w := between a b
    w.first ≤ w.last ∧ w = between b a ∧
    (∀ t, w.contains t ↔ a ≤ t ∧ t ≤ b ∨ b ≤ t ∧ t ≤ a) ∧
    w.width = (a.toInt - b.toInt).natAbs ∧
    (w.span? = none ↔ w.Overflows) ∧
    (w.span?.map Int64.toInt = some ((a.toInt - b.toInt).natAbs : Int) ↔ ¬w.Overflows) ∧
    ∀ s, w.span? = some s → s.toInt = (a.toInt - b.toInt).natAbs ∧ 0 ≤ s := by
  intro w
  have hw : w.first ≤ w.last := first_le_last_between
  have hn := span?_eq_none_iff hw
  refine ⟨hw, between_comm, fun _ => contains_between_iff, width_between, hn, ⟨?exact, ?fits⟩,
    fun s hs => ?some⟩
  case exact =>
    intro he ho
    rw [hn.mpr ho] at he
    contradiction
  case fits =>
    rw [← width_between]
    exact map_toInt_span? hw
  case some =>
    have he := toInt_of_span? hs
    refine ⟨he.trans width_between, ?_⟩
    rw [Int64.le_iff_toInt_le, Int64.toInt_zero, he]
    exact width_nonneg hw

-- The window of all instants there are is too wide to have a span.
theorem span_of_all_instants :
    (between Int64.minValue Int64.maxValue).span? = none ∧
    (between Int64.minValue Int64.maxValue).width = 2 ^ 64 - 1 ∧
    (Int64.minValue.toInt - Int64.maxValue.toInt).natAbs = 2 ^ 64 - 1 := by
  decide

end Window
end FleetMonitor
