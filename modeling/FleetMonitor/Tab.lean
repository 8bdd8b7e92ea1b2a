import FleetMonitor.Chart.Charts
import FleetMonitor.Message.Kind
import FleetMonitor.Message.Payload
import FleetMonitor.Polling

namespace FleetMonitor

-- What shows an object; without a screen what it is told goes nowhere.
structure Renderer where
  hasScreen : Bool
  -- The domains whose batches it takes as a whole.
  sinks     : List Domain

-- What is asked of a renderer or of the surface of a chart.
inductive TabCall where
  | snapshot (renderer : Renderer) (data : Json) (time : Millis)
  | batch    (renderer : Renderer) (d : Domain) (entries : List BatchEntry)
  | surface  (s : SeriesKey) (surface : Surface) (call : SurfaceCall)

namespace TabCall

-- Whether there is a screen on which the call shows.
def visible : TabCall → Bool
  | snapshot r _ _ => r.hasScreen
  | batch r _ _    => r.hasScreen
  | surface _ s _  => s.hasScreen

end TabCall

structure Delivery where
  -- Renderers and charts that took something from it.
  consumers : Nat
  points    : Nat
  redrawn   : Nat
  deriving DecidableEq

namespace Delivery

def empty : Delivery := ⟨0, 0, 0⟩

def isUnrouted (d : Delivery) : Bool :=
  d.consumers = 0

end Delivery

-- Every update is one pass over a tab: what the renderer is told, the points that go to the charts,
-- and then one alignment and one repaint of all charts.
structure Tab where
  key           : ObjectKey
  displayName   : String
  renderer      : Renderer
  charts        : Charts
  objectTimer?  : Option Timer
  seriesTimers  : SortedMap SeriesKey Timer
  range         : TimeRange
  -- The chart that got the latest point.
  touched?      : Option SeriesKey
  -- The capacity of the charts.
  capacity      : Nat
  -- How many colours of the palette have been given away.
  coloursGiven  : Nat

namespace Tab

def palette : List String :=
  ["#1f77b4", "#ff7f0e", "#2ca02c", "#d62728", "#9467bd", "#8c564b", "#e377c2", "#7f7f7f", "#bcbd22",
   "#17becf"]

def paletteColour (n : Nat) : String :=
  palette.get ⟨n % palette.length, Nat.mod_lt _ (by decide)⟩

def new (key : ObjectKey) (displayName : String) (renderer : Renderer) (capacity : Nat)
    (range : TimeRange) : Tab where
  key          := key
  displayName  := displayName
  renderer     := renderer
  charts       := ∅
  objectTimer? := none
  seriesTimers := ∅
  range        := range
  touched?     := none
  capacity     := capacity
  coloursGiven := 0

-- Charts.

def chart? (t : Tab) (s : SeriesKey) : Option Chart :=
  t.charts.find? s

def hasChart (t : Tab) (s : SeriesKey) : Bool :=
  t.charts.contains s

-- Opens a chart for a series that has none. A colour is taken from the palette if none is given.
def openChart? (t : Tab) (s : SeriesKey) (options : DisplayOptions) (surface : Surface) : Option Tab :=
  if t.hasChart s then none
  else
    match options.color? with
    | some _ => some { t with charts := t.charts.insert s (.new s t.capacity options surface) }
    | none   =>
      let options := { options with color? := some (paletteColour t.coloursGiven) }
      some { t with
        charts       := t.charts.insert s (.new s t.capacity options surface)
        coloursGiven := t.coloursGiven + 1 }

-- Closes a chart together with its timer.
def closeChart (t : Tab) (s : SeriesKey) : Tab :=
  { t with
    charts       := t.charts.erase s
    seriesTimers := t.seriesTimers.erase s
    touched?     := if t.touched? = some s then none else t.touched? }

-- Appends a point to a chart; a series without a chart is passed over.
def append (t : Tab) (s : SeriesKey) (p : Point) : Tab :=
  if t.hasChart s then
    { t with charts := t.charts.modify s (·.append p), touched? := some s }
  else t

def appendAll (t : Tab) (points : List (SeriesKey × Point)) : Tab :=
  points.foldl (fun t (s, p) => t.append s p) t

def align (t : Tab) : Tab :=
  { t with charts := t.charts.align t.range t.touched? }

def repaint (t : Tab) : Tab :=
  { t with charts := t.charts.repaint }

def repaintCalls (t : Tab) : List TabCall :=
  t.charts.values.flatMap fun c => c.repaintCalls.map (.surface c.key c.surface)

-- Passes.

-- A tab after a pass, what was asked of its renderer and surfaces, and what the pass reached.
structure Pass where
  tab      : Tab
  calls    : List TabCall
  delivery : Delivery

-- The pass that makes the given calls first, for which the renderer counts as `renderers`
-- consumers, and appends points for which there are charts.
def pass (t : Tab) (calls : List TabCall) (renderers : Nat) (points : List (SeriesKey × Point)) : Pass :=
  let aligned := (t.appendAll points).align
  { tab      := aligned.repaint
    calls    := calls ++ aligned.repaintCalls
    delivery := ⟨renderers + points.length, points.length, aligned.charts.dirtyCount⟩ }

def snapshotPoints (t : Tab) (data : Json) (time : Millis) : List (SeriesKey × Point) :=
  t.charts.keys.filterMap fun s =>
    ((data.lookup? s.text).bind Sample.ofJson?).map fun y => (s, ⟨time, y⟩)

def takeSnapshot (t : Tab) (data : Json) (time : Millis) : Pass :=
  t.pass [.snapshot t.renderer data time] 1 (t.snapshotPoints data time)

def batchPoints (t : Tab) (d : Domain) (entries : List BatchEntry) (time : Millis) :
    List (SeriesKey × Point) :=
  entries.filterMap fun e =>
    let s := SeriesKey.tagged d.mark e.name
    if t.hasChart s then (Sample.ofJson? e.value).map fun y => (s, ⟨time, y⟩) else none

-- A batch goes to the renderer if it takes such batches, and in any case to the charts.
def takeBatch (t : Tab) (d : Domain) (entries : List BatchEntry) (time : Millis) : Pass :=
  let sunk := d ∈ t.renderer.sinks
  t.pass (if sunk then [.batch t.renderer d entries] else []) (if sunk then 1 else 0)
    (t.batchPoints d entries time)

-- A single value goes to the chart of its series and to the legend there.
def takeValue? (t : Tab) (s : SeriesKey) (value : Sample) (time : Millis) : Option Pass :=
  (t.chart? s).map fun c =>
    let p : Point := ⟨time, value⟩
    t.pass [.surface c.key c.surface (c.append p).legendCall] 0 [(s, p)]

def setRange (t : Tab) (r : TimeRange) : Pass :=
  { t with range := r }.pass [] 0 []

-- Poll timers.

def seriesWithoutTimer (t : Tab) : List SeriesKey :=
  t.charts.keys.filter fun s => !t.seriesTimers.contains s

-- The targets that have no timer: the object and then its series.
def missingTargets (t : Tab) : List PollTarget :=
  (if t.objectTimer?.isNone then [.object t.key] else []) ++
    t.seriesWithoutTimer.map (.series t.key)

-- Keeps a timer, unless its target has one already or is a series without a chart.
def keepTimer? (t : Tab) (timer : Timer) : Option Tab :=
  match timer.target with
  | .object _   => if t.objectTimer?.isSome then none else some { t with objectTimer? := some timer }
  | .series _ s =>
    if t.hasChart s ∧ ¬t.seriesTimers.contains s then
      some { t with seriesTimers := t.seriesTimers.insert s timer }
    else none

def keepTimer (t : Tab) (timer : Timer) : Tab :=
  (t.keepTimer? timer).getD t

def timers (t : Tab) : List Timer :=
  t.objectTimer?.toList ++ t.seriesTimers.values

def timerCount (t : Tab) : Nat :=
  t.timers.length

def clearTimers (t : Tab) : Tab :=
  { t with objectTimer? := none, seriesTimers := ∅ }

end Tab
end FleetMonitor
