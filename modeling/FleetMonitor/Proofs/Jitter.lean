import FleetMonitor.Proofs.Delays
import Mathlib.Algebra.Order.Floor.Ring
import Mathlib.Data.Rat.Floor
import Mathlib.Tactic.GCongr
import Mathlib.Tactic.Linarith

namespace FleetMonitor

-- The rational numbers, where a half is rounded away from zero.
def Arithmetic.exact : Arithmetic ℚ where
  ofNat n := n
  add     := (· + ·)
  sub     := (· - ·)
  mul     := (· * ·)
  floor   := Int.floor
  ceil    := Int.ceil
  round x := if x < 0 then ⌈x - 1 / 2⌉ else ⌊x + 1 / 2⌋

theorem Arithmetic.round_mono {x y : ℚ} (h : x ≤ y) : exact.round x ≤ exact.round y := by
  change (if x < 0 then ⌈x - 1 / 2⌉ else ⌊x + 1 / 2⌋) ≤ if y < 0 then ⌈y - 1 / 2⌉ else ⌊y + 1 / 2⌋
  split <;> split
  case isTrue.isTrue   => gcongr
  case isFalse.isFalse => gcongr
  case isFalse.isTrue hx hy => exact absurd (lt_of_le_of_lt h hy) hx
  case isTrue.isFalse hx hy =>
    calc ⌈x - 1 / 2⌉
        ≤ 0           := Int.ceil_le.mpr (by push_cast; linarith)
      _ ≤ ⌊y + 1 / 2⌋ := Int.le_floor.mpr (by push_cast; linarith)

theorem Arithmetic.round_natCast {n : ℕ} : exact.round n = n := by
  have hn : ¬(n : ℚ) < 0 := not_lt.mpr n.cast_nonneg
  change (if (n : ℚ) < 0 then ⌈(n : ℚ) - 1 / 2⌉ else ⌊(n : ℚ) + 1 / 2⌋) = n
  rw [if_neg hn, Int.floor_eq_iff]
  push_cast
  constructor <;> linarith

namespace Backoff

-- The delay `c` in milliseconds, for a random `unit` that is first moved between zero and one.
def jittered [LT α] [DecidableLT α] (ar : Arithmetic α) (c : Nat) (ratio unit : α) : UInt64 :=
  .ofNat (IntRange.uint64.saturate (scale ar c ratio (clamp (ar.ofNat 0) (ar.ofNat 1) unit))).toNat

section Clamp

variable [LinearOrder α] {low high x y : α}

theorem clamp_eq (h : low ≤ high) : clamp low high x = max low (min high x) := by
  unfold clamp
  split
  case isTrue hl => rw [min_eq_right (hl.le.trans h), max_eq_left hl.le]
  case isFalse hl =>
    split
    case isTrue hh  => rw [min_eq_left hh.le, max_eq_right h]
    case isFalse hh => rw [min_eq_right (not_lt.mp hh), max_eq_right (not_lt.mp hl)]

theorem le_clamp (h : low ≤ high) : low ≤ clamp low high x := by
  rw [clamp_eq h]
  exact le_max_left _ _

theorem clamp_le (h : low ≤ high) : clamp low high x ≤ high := by
  rw [clamp_eq h]
  exact max_le h (min_le_left _ _)

theorem clamp_eq_self (hl : low ≤ x) (hh : x ≤ high) : clamp low high x = x := by
  rw [clamp, if_neg (not_lt.mpr hl), if_neg (not_lt.mpr hh)]

theorem clamp_mono (h : low ≤ high) : Monotone (clamp low high) := by
  intro x y hxy
  rw [clamp_eq h, clamp_eq h]
  gcongr

end Clamp

variable {c : ℕ} {r u v : ℚ}

-- The whole number inside of the band.

theorem ceil_le_self (hr : 0 ≤ r) : ⌈(c : ℚ) * (1 - r)⌉ ≤ (c : ℤ) := by
  have hc : 0 ≤ (c : ℚ) * r := mul_nonneg c.cast_nonneg hr
  rw [Int.ceil_le]
  push_cast
  linarith

theorem self_le_floor (hr : 0 ≤ r) : (c : ℤ) ≤ ⌊(c : ℚ) * (1 + r)⌋ := by
  have hc : 0 ≤ (c : ℚ) * r := mul_nonneg c.cast_nonneg hr
  rw [Int.le_floor]
  push_cast
  linarith

theorem scale_exact : scale .exact c r u =
    min ⌊(c : ℚ) * (1 + r)⌋
      (max ⌈(c : ℚ) * (1 - r)⌉ (Arithmetic.exact.round (c * (1 + r * (2 * u - 1))))) := by
  simp [scale, Arithmetic.exact]

theorem le_scale (hr : 0 ≤ r) : ⌈(c : ℚ) * (1 - r)⌉ ≤ scale .exact c r u := by
  rw [scale_exact]
  exact le_min ((ceil_le_self hr).trans (self_le_floor hr)) (le_max_left _ _)

theorem scale_le : scale .exact c r u ≤ ⌊(c : ℚ) * (1 + r)⌋ := by
  rw [scale_exact]
  exact min_le_left _ _

theorem scale_mono (hr : 0 ≤ r) (h : u ≤ v) : scale .exact c r u ≤ scale .exact c r v := by
  have hf : (c : ℚ) * (1 + r * (2 * u - 1)) ≤ c * (1 + r * (2 * v - 1)) := by gcongr
  rw [scale_exact, scale_exact]
  exact min_le_min_left _ (max_le_max_left _ (Arithmetic.round_mono hf))

-- Without a random part the delay is neither rounded nor moved.
theorem scale_eq_self (hr : 0 ≤ r) (h : r * (2 * u - 1) = 0) : scale .exact c r u = c := by
  rw [scale_exact, h, add_zero, mul_one, Arithmetic.round_natCast, max_eq_right (ceil_le_self hr),
    min_eq_right (self_le_floor hr)]

-- No delay is negative, and what does not fit into 64 bits is cut off above the delay itself.
theorem toNat_jittered (h0 : 0 ≤ r) (h1 : r ≤ 1) : ((jittered .exact c r u).toNat : ℤ) =
    min ((UInt64.size - 1 : ℕ) : ℤ) (scale .exact c r (clamp 0 1 u)) := by
  have hp : 0 ≤ (c : ℚ) * (1 - r) := mul_nonneg c.cast_nonneg (sub_nonneg.mpr h1)
  have hs : 0 ≤ scale .exact c r (clamp 0 1 u) := by
    calc 0 ≤ ⌈(c : ℚ) * (1 - r)⌉ := Int.ceil_nonneg hp
      _    ≤ _                   := le_scale h0
  have he : jittered .exact c r u =
      .ofNat (IntRange.uint64.saturate (scale .exact c r (clamp 0 1 u))).toNat := by
    simp [jittered, Arithmetic.exact]
  rw [he]
  generalize scale .exact c r (clamp 0 1 u) = n at hs
  have hn : (IntRange.uint64.saturate n).toNat = min (UInt64.size - 1) n.toNat := by
    simp only [IntRange.saturate, IntRange.uint64, UInt64.size]
    omega
  rw [hn, UInt64.toNat_ofNat_of_lt' (by simp only [UInt64.size]; omega)]
  omega

theorem le_jittered (h0 : 0 ≤ r) (h1 : r ≤ 1) (hc : c < UInt64.size) :
    (c : ℚ) * (1 - r) ≤ (jittered .exact c r u).toNat := by
  have hl : ⌈(c : ℚ) * (1 - r)⌉ ≤ ((jittered .exact c r u).toNat : ℤ) := by
    rw [toNat_jittered h0 h1]
    refine le_min ?_ (le_scale h0)
    calc ⌈(c : ℚ) * (1 - r)⌉
        ≤ (c : ℤ)                       := ceil_le_self h0
      _ ≤ ((UInt64.size - 1 : ℕ) : ℤ) := Int.ofNat_le.mpr (Nat.le_pred_of_lt hc)
  exact_mod_cast Int.ceil_le.mp hl

theorem jittered_le (h0 : 0 ≤ r) (h1 : r ≤ 1) :
    ((jittered .exact c r u).toNat : ℚ) ≤ c * (1 + r) := by
  have hl : ((jittered .exact c r u).toNat : ℤ) ≤ ⌊(c : ℚ) * (1 + r)⌋ := by
    rw [toNat_jittered h0 h1]
    exact (min_le_right _ _).trans scale_le
  exact_mod_cast Int.le_floor.mp hl

theorem jittered_mono (h0 : 0 ≤ r) (h1 : r ≤ 1) (h : u ≤ v) :
    (jittered .exact c r u).toNat ≤ (jittered .exact c r v).toNat := by
  have hu : clamp 0 1 u ≤ clamp 0 1 v := clamp_mono zero_le_one h
  have hj : ((jittered .exact c r u).toNat : ℤ) ≤ (jittered .exact c r v).toNat := by
    rw [toNat_jittered h0 h1, toNat_jittered h0 h1]
    exact min_le_min_left _ (scale_mono h0 hu)
  exact_mod_cast hj

theorem jittered_eq_self (h0 : 0 ≤ r) (h1 : r ≤ 1) (hc : c < UInt64.size)
    (h : r * (2 * clamp 0 1 u - 1) = 0) : (jittered .exact c r u).toNat = c := by
  have hj : ((jittered .exact c r u).toNat : ℤ) = c := by
    rw [toNat_jittered h0 h1, scale_eq_self h0 h]
    exact min_eq_right (Int.ofNat_le.mpr (Nat.le_pred_of_lt hc))
  exact_mod_cast hj

end Backoff

namespace BackoffPolicy

open Backoff

-- With doubles the delay is computed just so, as long as the random number is a number.
theorem delay_eq_jittered {p : BackoffPolicy} {n : UInt32} {unit : Float}
    (h : clamp 0 1 unit == clamp 0 1 unit) :
    p.delay n unit = jittered .float (p.capped n).toNat p.ratio unit :=
  if_pos h

-- The delay of an attempt is computed in the arithmetic of doubles. In exact arithmetic the ends of the
-- band are never the wrong way round, whatever the ratio is, and the delay lies between them; so it is
-- no longer than the greatest delay with the greatest random part. It grows with the random number,
-- and in the middle of the band, or without a random part, it is the delay before it was scaled.
theorem jitter_stays_in_band (p : BackoffPolicy) (ratio : ℚ) (n : UInt32) :
    let r := clamp 0 (99 / 100) ratio
    let c : ℚ := (p.capped n).toNat
    let delay := fun u => (jittered .exact (p.capped n).toNat r u).toNat
    (∀ u : Float, clamp 0 1 u == clamp 0 1 u →
      p.delay n u = jittered .float (p.capped n).toNat p.ratio u) ∧
    ⌈c * (1 - r)⌉ ≤ ⌊c * (1 + r)⌋ ∧
    (∀ u, c * (1 - r) ≤ delay u ∧ delay u ≤ c * (1 + r) ∧
      delay u ≤ (1 + r) * p.maxDelay.toNat) ∧
    (∀ u v, u ≤ v → delay u ≤ delay v) ∧
    delay (1 / 2) = c ∧
    (r = 0 → ∀ u, delay u = c) := by
  intro r c delay
  have h0 : 0 ≤ r := le_clamp (by norm_num)
  have h1 : r ≤ 1 := (clamp_le (by norm_num)).trans (by norm_num)
  have hc : (p.capped n).toNat < UInt64.size := (p.capped n).toNat_lt
  refine ⟨fun _ => delay_eq_jittered, (ceil_le_self h0).trans (self_le_floor h0),
    fun u => ⟨le_jittered h0 h1 hc, jittered_le h0 h1, ?greatest⟩, fun _ _ => (jittered_mono h0 h1 ·),
    ?middle, fun hr u => ?still⟩
  case greatest =>
    have hm : c ≤ p.maxDelay.toNat := Nat.cast_le.mpr (UInt64.le_iff_toNat_le.mp capped_le)
    calc (delay u : ℚ)
        ≤ c * (1 + r)                  := jittered_le h0 h1
      _ ≤ p.maxDelay.toNat * (1 + r)   := by gcongr
      _ = (1 + r) * p.maxDelay.toNat   := mul_comm _ _
  case middle =>
    have hh : clamp 0 1 (1 / 2 : ℚ) = 1 / 2 := clamp_eq_self (by norm_num) (by norm_num)
    exact congrArg Nat.cast (jittered_eq_self h0 h1 hc (by rw [hh]; norm_num))
  case still => exact congrArg Nat.cast (jittered_eq_self h0 h1 hc (by rw [hr, zero_mul]))

-- The band of 1005 milliseconds ends at 904.5 and 1105.5, which are no whole numbers.
theorem jitter_in_fractional_band :
    let p : BackoffPolicy := ⟨1005, 30000, 0.1⟩
    let delay := fun ratio u => (jittered .exact (p.capped 1).toNat (clamp 0 (99 / 100) ratio) u).toNat
    delay (1 / 10) 0 = 905 ∧ delay (1 / 10) 1 = 1105 ∧
    clamp 0 1 (0.5 : Float) == clamp 0 1 0.5 ∧
    p.delay 1 0.5 = jittered .float (p.capped 1).toNat 0.1 0.5 ∧
    (1 / 4 : ℚ) ≤ 3 / 4 ∧ delay (1 / 10) (1 / 4) ≤ delay (1 / 10) (3 / 4) ∧
    clamp 0 (99 / 100) (-1 : ℚ) = 0 ∧ (delay (-1) (1 / 4) : ℚ) = 1005 := by
  intro p delay
  have hf : clamp 0 1 (0.5 : Float) == clamp 0 1 0.5 := by decide +kernel
  have hu : (1 / 4 : ℚ) ≤ 3 / 4 := by norm_num
  have hr : clamp 0 (99 / 100) (-1 : ℚ) = 0 := by decide +kernel
  obtain ⟨hd, _, _, hm, _⟩ := jitter_stays_in_band p (1 / 10) 1
  obtain ⟨_, _, _, _, _, hs⟩ := jitter_stays_in_band p (-1) 1
  refine ⟨by decide +kernel, by decide +kernel, hf, hd _ hf, hu, hm _ _ hu, hr, (hs hr _).trans ?_⟩
  have hc : (p.capped 1).toNat = 1005 := by decide
  rw [hc]
  norm_num

end BackoffPolicy
end FleetMonitor
