import FleetMonitor.Message.Key

namespace FleetMonitor

-- What a timer fetches every time.
inductive PollTarget where
  | object (k : ObjectKey)
  | series (k : ObjectKey) (s : SeriesKey)
  deriving DecidableEq

namespace PollTarget

def key : PollTarget → ObjectKey
  | object k   => k
  | series k _ => k

end PollTarget

-- A recurring timer. Timers are numbered in the order in which they are started.
structure Timer where
  id     : Nat
  target : PollTarget
  -- In milliseconds.
  every  : UInt64
  deriving DecidableEq

namespace Timer

-- Timers for the given targets, numbered from `first`.
def startAll (first : Nat) (every : UInt64) : List PollTarget → List Timer
  | []      => []
  | t :: ts => ⟨first, t, every⟩ :: startAll (first + 1) every ts

@[simp]
theorem length_startAll {first : Nat} {every : UInt64} {targets : List PollTarget} :
    (startAll first every targets).length = targets.length := by
  induction targets generalizing first <;> simp_all [startAll]

@[simp]
theorem map_target_startAll {first : Nat} {every : UInt64} {targets : List PollTarget} :
    (startAll first every targets).map target = targets := by
  induction targets generalizing first <;> simp_all [startAll]

theorem target_of_mem_startAll {first : Nat} {every : UInt64} {targets : List PollTarget}
    {t : Timer} (h : t ∈ startAll first every targets) : t.target ∈ targets := by
  have hm := List.mem_map_of_mem (f := target) h
  rwa [map_target_startAll] at hm

theorem every_of_mem_startAll {first : Nat} {every : UInt64} {targets : List PollTarget} {t : Timer}
    (h : t ∈ startAll first every targets) : t.every = every := by
  induction targets generalizing first with
  | nil => contradiction
  | cons x targets hi =>
    cases h with
    | head      => rfl
    | tail _ hm => exact hi hm

end Timer
end FleetMonitor
