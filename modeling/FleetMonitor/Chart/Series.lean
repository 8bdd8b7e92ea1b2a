import FleetMonitor.Chart.History
import FleetMonitor.Chart.Window
import FleetMonitor.Message.Key
import FleetMonitor.Text.Quoted

namespace FleetMonitor

structure DisplayOptions where
  -- Taken from the palette of the tab if absent.
  color?  : Option String
  label?  : Option String
  -- Draws steps between points.
  stepped : Bool
  fill    : Bool

-- What a chart is drawn on; without a screen the drawing goes nowhere.
structure Surface where
  hasScreen : Bool

inductive SurfaceCall where
  | redraw (history : History) (window? : Option Window)
  | legend (value : Sample)

-- An open chart. Appending a point or moving the window only marks it; drawing is a pass of its
-- own, so that a message that touches many points costs one redraw.
structure Chart where
  key     : SeriesKey
  history : History
  options : DisplayOptions
  window? : Option Window
  -- The value next to the legend: that of the newest point.
  legend  : Sample
  surface : Surface
  -- Whether something changed since the last redraw.
  dirty   : Bool

namespace Chart

def new (key : SeriesKey) (capacity : Nat) (options : DisplayOptions) (surface : Surface) : Chart where
  key     := key
  history := .new capacity
  options := options
  window? := none
  legend  := none
  surface := surface
  dirty   := false

def append (c : Chart) (p : Point) : Chart :=
  { c with history := c.history.append p, legend := p.value, dirty := true }

-- Sets the window; only a new one marks the chart.
def setWindow (c : Chart) (window? : Option Window) : Chart :=
  if c.window? = window? then c else { c with window?, dirty := true }

def repaint (c : Chart) : Chart :=
  { c with dirty := false }

-- What the surface is asked to draw when the chart is repainted.
def repaintCalls (c : Chart) : List SurfaceCall :=
  if c.dirty then [.redraw c.history c.window?] else []

-- What the surface is asked to show when the legend is refreshed.
def legendCall (c : Chart) : SurfaceCall :=
  .legend c.legend

-- The chart as it is shown in diagnostics.
def describe (c : Chart) : String :=
  let window := match c.window? with
    | none   => "None"
    | some w =>
      "Some(TimeWindow \x7b start_ms: " ++ toString w.first.toInt ++ ", end_ms: " ++
        toString w.last.toInt ++ " \x7d)"
  "ChartSeries \x7b key: SeriesKey(" ++ Text.quoted c.key.text ++ "), points: " ++
    toString c.history.size ++ ", window: " ++ window ++ ", dirty: " ++
    (if c.dirty then "true" else "false") ++ ", .. \x7d"

@[simp]
theorem dirty_append {c : Chart} {p : Point} : (c.append p).dirty = true :=
  rfl

@[simp]
theorem window?_setWindow {c : Chart} {w? : Option Window} : (c.setWindow w?).window? = w? := by
  unfold setWindow; split <;> simp_all

@[simp]
theorem history_setWindow {c : Chart} {w? : Option Window} : (c.setWindow w?).history = c.history := by
  unfold setWindow; split <;> rfl

@[simp]
theorem dirty_repaint {c : Chart} : c.repaint.dirty = false :=
  rfl

end Chart
end FleetMonitor
