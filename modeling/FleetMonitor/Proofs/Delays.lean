import FleetMonitor.Backoff
import Mathlib.Algebra.Group.Nat.Defs

namespace FleetMonitor
namespace BackoffPolicy

-- The delay of an attempt in numbers without bound. Attempt zero counts as the first.
def schedule (base cap attempt : Nat) : Nat :=
  min cap (base * 2 ^ (max attempt 1 - 1))

variable {p : BackoffPolicy} {a b : UInt64} {m n : UInt32} {k : Nat}

theorem toNat_saturatingMul :
    (saturatingMul a b).toNat = min (a.toNat * b.toNat) (UInt64.size - 1) := by
  have hs : (IntRange.uint64.saturate (a.toNat * b.toNat)).toNat =
      min (a.toNat * b.toNat) (UInt64.size - 1) := by
    simp only [IntRange.saturate, IntRange.uint64, UInt64.size]
    omega
  rw [saturatingMul, hs, UInt64.toNat_ofNat_of_lt']
  exact Nat.lt_of_le_of_lt (Nat.min_le_right _ _) (by decide)

theorem toNat_one_shiftLeft (h : k ≤ 63) :
    ((1 : UInt64) <<< UInt64.ofNat k).toNat = 2 ^ k := by
  have hk : k < UInt64.size := Nat.lt_of_le_of_lt h (by decide)
  have hp : 2 ^ k < UInt64.size := Nat.pow_lt_pow_right (by decide) (Nat.lt_succ_of_le h)
  rw [UInt64.toNat_shiftLeft, UInt64.toNat_ofNat_of_lt' hk, Nat.mod_eq_of_lt (Nat.lt_succ_of_le h),
    UInt64.toNat_one, Nat.one_shiftLeft]
  exact Nat.mod_eq_of_lt hp

theorem toNat_min : (min a b).toNat = min a.toNat b.toNat := by
  have hm : min a b = if a ≤ b then a else b := rfl
  rw [hm]
  split
  case isTrue h  => exact (Nat.min_eq_left h).symm
  case isFalse h => exact (Nat.min_eq_right (Nat.le_of_lt (Nat.lt_of_not_le h))).symm

-- Nothing is lost by the saturation, since no delay goes beyond the greatest one.
theorem toNat_capped : (p.capped n).toNat =
    min p.maxDelay.toNat (p.baseDelay.toNat * 2 ^ min (n.toNat - 1) 63) := by
  have hm : p.maxDelay.toNat < UInt64.size := p.maxDelay.toNat_lt
  rw [capped, toNat_min, toNat_saturatingMul, toNat_one_shiftLeft (Nat.min_le_right _ _)]
  omega

theorem capped_le : p.capped n ≤ p.maxDelay := by
  rw [UInt64.le_iff_toNat_le, toNat_capped]
  exact Nat.min_le_left _ _

theorem capped_le_capped (h : m ≤ n) : p.capped m ≤ p.capped n := by
  have hn : m.toNat ≤ n.toNat := h
  have he : min (m.toNat - 1) 63 ≤ min (n.toNat - 1) 63 := by omega
  have hp : p.baseDelay.toNat * 2 ^ min (m.toNat - 1) 63 ≤
      p.baseDelay.toNat * 2 ^ min (n.toNat - 1) 63 :=
    Nat.mul_le_mul_left _ (Nat.pow_le_pow_right (by decide) he)
  rw [UInt64.le_iff_toNat_le, toNat_capped, toNat_capped]
  omega

-- Where the doubling has ended and yet the greatest delay is not reached.
structure Stalls (p : BackoffPolicy) (n : UInt32) : Prop where
  base    : p.baseDelay = 1
  cap     : 2 ^ 63 < p.maxDelay.toNat
  attempt : 64 < n.toNat

theorem stalls_iff :
    p.Stalls n ↔ p.baseDelay.toNat = 1 ∧ 2 ^ 63 < p.maxDelay.toNat ∧ 64 < n.toNat where
  mp  := fun h => ⟨congrArg UInt64.toNat h.base, h.cap, h.attempt⟩
  mpr := fun ⟨hb, hc, ha⟩ => ⟨UInt64.toNat_inj.mp hb, hc, ha⟩

theorem toNat_capped_of_stalls (h : p.Stalls n) : (p.capped n).toNat = 2 ^ 63 := by
  have hb : p.baseDelay.toNat = 1 := congrArg UInt64.toNat h.base
  have he : min (n.toNat - 1) 63 = 63 := by have := h.attempt; omega
  rw [toNat_capped, hb, he, Nat.one_mul]
  exact Nat.min_eq_right (Nat.le_of_lt h.cap)

theorem schedule_of_le {base cap attempt : Nat} (h : cap ≤ base * 2 ^ (max attempt 1 - 1)) :
    schedule base cap attempt = cap :=
  Nat.min_eq_left h

-- Whatever the base, from the 65th attempt on the schedule has reached its end.
theorem schedule_of_late (hb : 0 < b.toNat) (hn : 64 < n.toNat) :
    schedule b.toNat a.toNat n.toNat = a.toNat := by
  refine schedule_of_le ?_
  have he : 64 ≤ max n.toNat 1 - 1 := by omega
  calc a.toNat
      ≤ 2 ^ 64                                  := Nat.le_of_lt a.toNat_lt
    _ ≤ 2 ^ (max n.toNat 1 - 1)                 := Nat.pow_le_pow_right (by decide) he
    _ ≤ b.toNat * 2 ^ (max n.toNat 1 - 1)       := Nat.le_mul_of_pos_left _ hb

theorem capped_eq_schedule_iff :
    (p.capped n).toNat = schedule p.baseDelay.toNat p.maxDelay.toNat n.toNat ↔ ¬p.Stalls n := by
  have hm : p.maxDelay.toNat < 2 ^ 64 := p.maxDelay.toNat_lt
  rw [toNat_capped, stalls_iff]
  by_cases hn : n.toNat ≤ 64
  case pos =>
    have he : max n.toNat 1 - 1 = min (n.toNat - 1) 63 := by omega
    rw [schedule, he]
    exact iff_of_true rfl fun h => Nat.not_lt.mpr hn h.2.2
  case neg =>
    have he : min (n.toNat - 1) 63 = 63 := by omega
    rcases Nat.eq_zero_or_pos p.baseDelay.toNat with hb | hb
    case inl => simp [schedule, hb]
    case inr =>
      rw [schedule_of_late hb (Nat.lt_of_not_le hn), he]
      omega

-- The delays are those of the schedule, but for the attempts in which a policy stalls; there the
-- delay is `2 ^ 63`. So they never get shorter, and none is longer than the greatest delay.
theorem delays_double_up_to_cap (p : BackoffPolicy) :
    (∀ n, (p.capped n).toNat = schedule p.baseDelay.toNat p.maxDelay.toNat n.toNat ↔
      ¬p.Stalls n) ∧
    (∀ n, p.Stalls n → (p.capped n).toNat = 2 ^ 63) ∧
    (∀ m n, m ≤ n → p.capped m ≤ p.capped n) ∧
    ∀ n, p.capped n ≤ p.maxDelay :=
  ⟨fun _ => capped_eq_schedule_iff, fun _ => toNat_capped_of_stalls, fun _ _ => capped_le_capped,
    fun _ => capped_le⟩

-- The 65th delay ought to be the greatest one, and is half of it.
theorem delay_stalls_at_half :
    (capped ⟨1, 0xFFFFFFFFFFFFFFFF, 0⟩ 65).toNat = 2 ^ 63 ∧
    schedule 1 0xFFFFFFFFFFFFFFFF 65 = 0xFFFFFFFFFFFFFFFF := by
  decide +kernel

theorem delay_stalls_for_good :
    Stalls ⟨1, 0xFFFFFFFFFFFFFFFF, 0⟩ 70 ∧
    (capped ⟨1, 0xFFFFFFFFFFFFFFFF, 0⟩ 70).toNat = 2 ^ 63 ∧
    (3 : UInt32) ≤ 70 ∧
    capped ⟨1, 0xFFFFFFFFFFFFFFFF, 0⟩ 3 ≤ capped ⟨1, 0xFFFFFFFFFFFFFFFF, 0⟩ 70 := by
  have hs : Stalls ⟨1, 0xFFFFFFFFFFFFFFFF, 0⟩ 70 := ⟨rfl, by decide, by decide⟩
  have hl : (3 : UInt32) ≤ 70 := by decide
  obtain ⟨_, hp, hm, _⟩ := delays_double_up_to_cap ⟨1, 0xFFFFFFFFFFFFFFFF, 0⟩
  exact ⟨hs, hp 70 hs, hl, hm 3 70 hl⟩

end BackoffPolicy
end FleetMonitor
