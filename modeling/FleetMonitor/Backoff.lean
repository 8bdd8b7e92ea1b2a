import FleetMonitor.Number.Binary64
import FleetMonitor.Number.Decimal

namespace FleetMonitor

-- The arithmetic in which delays are scaled, with the integers around its numbers.
structure Arithmetic (α : Type u) where
  ofNat : Nat → α
  add   : α → α → α
  sub   : α → α → α
  mul   : α → α → α
  floor : α → Int
  ceil  : α → Int
  round : α → Int

namespace Arithmetic

-- What has no integers around it counts as zero: such a delay is not waited for.
def integer (f : Binary64 → Int) (x : Float) : Int :=
  ((Binary64.ofFloat? x).map f).getD 0

def float : Arithmetic Float where
  ofNat n := Decimal.toFloat ⟨false, n, 0⟩
  add     := (· + ·)
  sub     := (· - ·)
  mul     := (· * ·)
  floor   := integer Binary64.floor
  ceil    := integer Binary64.ceil
  round   := integer Binary64.round

end Arithmetic

namespace Backoff

-- The delay `c` scaled by `1 + ratio * (2 * unit - 1)` and rounded to whole milliseconds, but never
-- outside of the band from `c * (1 - ratio)` to `c * (1 + ratio)`.
def scale (ar : Arithmetic α) (c : Nat) (ratio unit : α) : Int :=
  let one    := ar.ofNat 1
  let factor := ar.add one (ar.mul ratio (ar.sub (ar.mul (ar.ofNat 2) unit) one))
  let low    := ar.ceil (ar.mul (ar.ofNat c) (ar.sub one ratio))
  let high   := ar.floor (ar.mul (ar.ofNat c) (ar.add one ratio))
  min high (max low (ar.round (ar.mul (ar.ofNat c) factor)))

-- Moves a number into a closed range; what is not a number stays as it is.
def clamp [LT α] [DecidableLT α] (low high x : α) : α :=
  if x < low then low else if high < x then high else x

theorem compare_notANumber {u : Float.Model.UnpackedFloat} : u.compare .notANumber = none := by
  cases u with
  | infinity s => cases s <;> rfl
  | finite s   => cases s <;> rfl
  | _          => rfl

theorem not_isNaN_of_le {x y : Float} (h : x ≤ y) : ¬y.isNaN := by
  intro hn
  have hl : x.toModel.unpack.le y.toModel.unpack := of_decide_eq_true h
  replace hn : y.toModel.unpack.isNaN := hn
  cases hu : y.toModel.unpack with
  | notANumber =>
    rw [hu, Float.Model.UnpackedFloat.le, compare_notANumber] at hl
    contradiction
  | _ =>
    rw [hu] at hn
    contradiction

theorem not_isNaN_clamp {low high x : Float} (hl : ¬low.isNaN) (hh : ¬high.isNaN)
    (hx : ¬x.isNaN) : ¬(clamp low high x).isNaN := by
  unfold clamp
  split
  · exact hl
  · split
    · exact hh
    · exact hx

end Backoff

-- Attempt `n` to reconnect waits for `min max (base · 2 ^ (n - 1))`, scaled by a random factor
-- between `1 - ratio` and `1 + ratio`, so that many clients do not return all at once.
structure BackoffPolicy where
  baseDelay : UInt64
  maxDelay  : UInt64
  -- The random part of a delay, as a share of it.
  ratio     : Float

namespace BackoffPolicy

def greatestRatio : Float := 0.99

def new (baseDelay maxDelay : UInt64) (ratio : Float) : BackoffPolicy where
  baseDelay := baseDelay
  maxDelay  := maxDelay
  ratio     := Backoff.clamp 0 greatestRatio ratio

-- The product, or the greatest number if it is larger than that.
def saturatingMul (a b : UInt64) : UInt64 :=
  .ofNat (IntRange.uint64.saturate (a.toNat * b.toNat)).toNat

-- The delay of an attempt before it is scaled. Attempts count from one, and attempt zero waits like
-- the first.
def capped (p : BackoffPolicy) (attempt : UInt32) : UInt64 :=
  let exponent : Nat := min (attempt.toNat - 1) 63
  min (saturatingMul p.baseDelay ((1 : UInt64) <<< UInt64.ofNat exponent)) p.maxDelay

-- The delay of an attempt in milliseconds, for a random `unit` between zero and one, of a policy that
-- has a band.
def delay (p : BackoffPolicy) (attempt : UInt32) (unit : Float) : UInt64 :=
  let unit := Backoff.clamp 0 1 unit
  if unit == unit then
    let ms := Backoff.scale .float (p.capped attempt).toNat p.ratio unit
    .ofNat (IntRange.uint64.saturate ms).toNat
  else 0

-- Whether the ratio is a number, so that there is a band to keep delays in.
def hasBand (p : BackoffPolicy) : Bool :=
  !p.ratio.isNaN

-- The same of any policy. There is no delay without a band.
def delay? (p : BackoffPolicy) (attempt : UInt32) (unit : Float) : Option UInt64 :=
  if p.hasBand then some (p.delay attempt unit) else none

variable {p : BackoffPolicy} {attempt : UInt32} {unit : Float}

theorem delay?_eq_none_iff : p.delay? attempt unit = none ↔ p.ratio.isNaN := by
  simp [delay?, hasBand]

theorem delay?_of_hasBand (h : p.hasBand) : p.delay? attempt unit = some (p.delay attempt unit) :=
  if_pos h

theorem hasBand_new {baseDelay maxDelay : UInt64} {ratio : Float} (h : ¬ratio.isNaN) :
    (new baseDelay maxDelay ratio).hasBand := by
  have hr : ¬(new baseDelay maxDelay ratio).ratio.isNaN :=
    Backoff.not_isNaN_clamp (by decide) (by decide +kernel) h
  simpa [hasBand] using hr

end BackoffPolicy
end FleetMonitor
