import FleetMonitor.Registry
import Mathlib.Data.List.DropRight

namespace FleetMonitor

namespace History

def appendAll (h : History) (ps : List Point) : History :=
  ps.foldl append h

variable {h : History} {p : Point} {ps qs : List Point}

@[simp]
theorem appendAll_nil : h.appendAll [] = h :=
  rfl

@[simp]
theorem appendAll_cons : h.appendAll (p :: ps) = (h.append p).appendAll ps :=
  rfl

theorem appendAll_append : h.appendAll (ps ++ qs) = (h.appendAll ps).appendAll qs :=
  List.foldl_append

theorem recent_appendAll : (h.appendAll ps).recent = (ps.reverse ++ h.recent).take h.capacity := by
  induction ps generalizing h with
  | nil => simp [List.take_of_length_le h.bounded]
  | cons p ps hi =>
    rw [appendAll_cons, hi]
    simp [append, List.take_append, List.take_take]

-- Of all points that were ever appended the last ones are kept.
theorem toList_appendAll : (h.appendAll ps).toList = (h.toList ++ ps).rtake h.capacity := by
  rw [toList, recent_appendAll, List.rtake_eq_reverse_take_reverse]
  simp [toList]

end History

namespace Chart

def appendAll (c : Chart) (ps : List Point) : Chart :=
  ps.foldl append c

-- The chart with the shared window, if there is one.
def alignTo (c : Chart) : Option Window → Chart
  | none   => c
  | some w => c.setWindow (some w)

variable {c : Chart} {p : Point} {ps : List Point} {w? : Option Window}

@[simp]
theorem appendAll_nil : c.appendAll [] = c :=
  rfl

@[simp]
theorem appendAll_cons : c.appendAll (p :: ps) = (c.append p).appendAll ps :=
  rfl

theorem history_appendAll : (c.appendAll ps).history = c.history.appendAll ps := by
  induction ps generalizing c with
  | nil => rfl
  | cons p ps hi => exact hi

theorem history_alignTo : (c.alignTo w?).history = c.history := by
  cases w? with
  | none   => rfl
  | some w => exact history_setWindow

theorem legend_alignTo : (c.alignTo w?).legend = c.legend := by
  cases w? with
  | none   => rfl
  | some w =>
    change (c.setWindow (some w)).legend = c.legend
    unfold setWindow
    split <;> rfl

end Chart

-- Two tabs that differ by no more than the contents of their charts, their range and the chart that
-- was touched last.
structure Tab.Frame (t t' : Tab) : Prop where
  key          : t'.key = t.key
  displayName  : t'.displayName = t.displayName
  capacity     : t'.capacity = t.capacity
  objectTimer? : t'.objectTimer? = t.objectTimer?
  seriesTimers : t'.seriesTimers = t.seriesTimers
  keys         : t'.charts.keys = t.charts.keys

namespace Tab

variable {t t' : Tab} {s s' : SeriesKey} {p : Point} {points points' : List (SeriesKey × Point)}

namespace Frame

theorem refl : Frame t t :=
  ⟨rfl, rfl, rfl, rfl, rfl, rfl⟩

theorem trans (f : Frame t₁ t₂) (g : Frame t₂ t₃) : Frame t₁ t₃ :=
  ⟨g.key.trans f.key, g.displayName.trans f.displayName, g.capacity.trans f.capacity,
    g.objectTimer?.trans f.objectTimer?, g.seriesTimers.trans f.seriesTimers, g.keys.trans f.keys⟩

theorem hasChart (f : Frame t t') : t'.hasChart s = t.hasChart s := by
  rw [Bool.eq_iff_iff, Tab.hasChart, Tab.hasChart, ← SortedMap.mem_keys_iff, f.keys,
    SortedMap.mem_keys_iff]

theorem timers (f : Frame t t') : t'.timers = t.timers := by
  simp [Tab.timers, f.objectTimer?, f.seriesTimers]

end Frame

theorem frame_append : Frame t (t.append s p) := by
  unfold append
  split
  · exact ⟨rfl, rfl, rfl, rfl, rfl, SortedMap.keys_modify⟩
  · exact .refl

theorem frame_appendAll : Frame t (t.appendAll points) := by
  induction points generalizing t with
  | nil => exact .refl
  | cons _ _ hi => exact frame_append.trans hi

theorem frame_align : Frame t t.align := by
  refine ⟨rfl, rfl, rfl, rfl, rfl, ?_⟩
  change (t.charts.align _ _).keys = _
  unfold Charts.align
  split
  · rfl
  · exact SortedMap.keys_map

theorem frame_pass {calls : List TabCall} {n : Nat} : Frame t (t.pass calls n points).tab :=
  frame_appendAll.trans <| frame_align.trans ⟨rfl, rfl, rfl, rfl, rfl, SortedMap.keys_map⟩

-- Charts.

-- The points that a list of points for several charts has for one of them.
def pointsOf (s : SeriesKey) (points : List (SeriesKey × Point)) : List Point :=
  points.filterMap fun (s', p) => if s' = s then some p else none

theorem pointsOf_append : pointsOf s (points ++ points') = pointsOf s points ++ pointsOf s points' :=
  List.filterMap_append

-- The window that the charts of the tab are to share.
def canonical? (t : Tab) : Option Window :=
  t.charts.canonical? t.range t.touched?

theorem hasChart_eq_isSome : t.hasChart s = (t.chart? s).isSome :=
  rfl

theorem chart?_append : (t.append s p).chart? s' =
    (t.chart? s').map fun c => if s = s' then c.append p else c := by
  unfold append
  split
  case isTrue =>
    simp only [chart?, SortedMap.find?_modify, Std.compare_eq_iff_eq]
    by_cases h : s = s'
    case pos => simp [h]
    case neg => simp [h, Ne.symm h]
  case isFalse hc =>
    have hn : t.chart? s = none := by simpa [hasChart_eq_isSome] using hc
    by_cases h : s = s'
    case pos => simp [← h, hn]
    case neg => simp [h]

theorem chart?_appendAll : (t.appendAll points).chart? s =
    (t.chart? s).map (·.appendAll (pointsOf s points)) := by
  induction points generalizing t with
  | nil => simp [appendAll, pointsOf]
  | cons sp points hi =>
    have ⟨s', p⟩ := sp
    change ((t.append s' p).appendAll points).chart? s = _
    rw [hi, chart?_append, Option.map_map]
    congr 1
    funext c
    by_cases e : s' = s <;> simp [pointsOf, e]

theorem chart?_align : t.align.chart? s = (t.chart? s).map (·.alignTo t.canonical?) := by
  have ha : t.align.chart? s = (t.charts.align t.range t.touched?).find? s := rfl
  rw [ha, Charts.align, canonical?]
  cases t.charts.canonical? t.range t.touched? with
  | none   => simp [Chart.alignTo, chart?]
  | some w => exact SortedMap.find?_map

theorem chart?_repaint : t.repaint.chart? s = (t.chart? s).map Chart.repaint :=
  SortedMap.find?_map

-- Tabs that differ by no more than their charts, and not by these.
theorem eq_of_chart? (h : t' = { t with charts := t'.charts }) (hc : ∀ s, t'.chart? s = t.chart? s) :
    t' = t := by
  rw [h, SortedMap.ext_find? hc]

-- Histories.

def history? (t : Tab) (s : SeriesKey) : Option History :=
  (t.chart? s).map Chart.history

theorem isSome_history? : (t.history? s).isSome = t.hasChart s := by
  simp [history?, hasChart, SortedMap.contains, chart?]

theorem history?_append : (t.append s p).history? s' =
    (t.history? s').map fun h => if s = s' then h.append p else h := by
  rw [history?, history?, chart?_append, Option.map_map, Option.map_map]
  congr 1
  funext c
  by_cases h : s = s' <;> simp [h, Chart.append]

theorem history?_appendAll : (t.appendAll points).history? s =
    (t.history? s).map (·.appendAll (pointsOf s points)) := by
  rw [history?, history?, chart?_appendAll, Option.map_map, Option.map_map]
  congr 1
  funext c
  exact Chart.history_appendAll

theorem history?_align : t.align.history? s = t.history? s := by
  rw [history?, history?, chart?_align, Option.map_map]
  congr 1
  funext c
  exact Chart.history_alignTo

theorem history?_repaint : t.repaint.history? s = t.history? s := by
  rw [history?, history?, chart?_repaint, Option.map_map]
  rfl

theorem history?_pass {calls : List TabCall} {n : Nat} : (t.pass calls n points).tab.history? s =
    (t.history? s).map (·.appendAll (pointsOf s points)) :=
  history?_repaint.trans <| history?_align.trans history?_appendAll

end Tab
end FleetMonitor
