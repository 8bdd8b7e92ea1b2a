import FleetMonitor.Chart.Series
import FleetMonitor.SortedMap

namespace FleetMonitor

-- The charts of one tab. They share one visible window, which is computed once and put on every
-- chart.
abbrev Charts := SortedMap SeriesKey Chart

namespace Charts

-- The window that the charts share: the fixed one, or the span up to the newest point of the chart
-- that was touched last. Without such a point there is no window to set.
def canonical? (cs : Charts) (r : TimeRange) (touched? : Option SeriesKey) : Option Window :=
  match r with
  | .fixed w     => some w
  | .follow span =>
    (touched?.bind cs.find?).bind fun c => c.history.last?.map fun p => Window.ending span p.time

def align (cs : Charts) (r : TimeRange) (touched? : Option SeriesKey) : Charts :=
  match cs.canonical? r touched? with
  | none   => cs
  | some w => cs.map (·.setWindow (some w))

-- How many charts have another window than the shared one.
def misaligned (cs : Charts) (r : TimeRange) (touched? : Option SeriesKey) : Nat :=
  match cs.canonical? r touched? with
  | none   => 0
  | some w => cs.values.countP (·.window? ≠ some w)

def repaint (cs : Charts) : Charts :=
  cs.map Chart.repaint

-- How many charts a repaint draws.
def dirtyCount (cs : Charts) : Nat :=
  cs.values.countP (·.dirty)

end Charts
end FleetMonitor
