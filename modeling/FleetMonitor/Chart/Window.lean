import FleetMonitor.Time.Timestamp

namespace FleetMonitor

-- What a chart shows of the time.
structure Window where
  first : Millis
  last  : Millis
  deriving DecidableEq

namespace Window

-- The window between two instants, given in either order.
def between (a b : Millis) : Window :=
  if a ≤ b then ⟨a, b⟩ else ⟨b, a⟩

-- The distance between the ends, if it is one that a span can be. There is no span otherwise: the
-- subtraction is checked.
def span? (w : Window) : Option Millis :=
  let width := w.last.toInt - w.first.toInt
  if IntRange.int64.Contains width then some (.ofInt width) else none

def contains (w : Window) (t : Millis) : Bool :=
  w.first ≤ t && t ≤ w.last

-- `a - b`, or the nearest instant that there is.
def saturatingSub (a b : Millis) : Millis :=
  .ofInt (IntRange.int64.saturate (a.toInt - b.toInt))

def ending (span last : Millis) : Window :=
  between (saturatingSub last span) last

end Window

-- How a tab chooses the window of its charts: the given span up to the newest data, or a fixed
-- window.
inductive TimeRange where
  | follow (span : Millis)
  | fixed  (w : Window)
  deriving DecidableEq

end FleetMonitor
