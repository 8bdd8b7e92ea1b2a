import FleetMonitor.Proofs.Feeds

namespace FleetMonitor

namespace Chart

-- What a surface shows of its chart after a redraw.
structure Picture where
  surface : Surface
  history : History
  window? : Option Window

def picture (c : Chart) : Picture :=
  ⟨c.surface, c.history, c.window?⟩

-- The chart when a pass is about to draw it.
def updated (c : Chart) (ps : List Point) (w? : Option Window) : Chart :=
  (c.appendAll ps).alignTo w?

-- Two charts of the same series on the same surface.
structure Frame (c c' : Chart) : Prop where
  key     : c'.key = c.key
  surface : c'.surface = c.surface
  options : c'.options = c.options

variable {c : Chart} {ps : List Point} {w? : Option Window}

theorem Frame.trans (f : Frame c₁ c₂) (g : Frame c₂ c₃) : Frame c₁ c₃ :=
  ⟨g.key.trans f.key, g.surface.trans f.surface, g.options.trans f.options⟩

theorem frame_appendAll : Frame c (c.appendAll ps) := by
  induction ps generalizing c with
  | nil => exact ⟨rfl, rfl, rfl⟩
  | cons p ps hi =>
    have h : Frame c (c.append p) := ⟨rfl, rfl, rfl⟩
    exact h.trans hi

theorem frame_alignTo : Frame c (c.alignTo w?) := by
  cases w? with
  | none   => exact ⟨rfl, rfl, rfl⟩
  | some w =>
    change Frame c (c.setWindow (some w))
    unfold setWindow
    split <;> exact ⟨rfl, rfl, rfl⟩

theorem frame_updated : Frame c (c.updated ps w?).repaint :=
  frame_appendAll.trans <| frame_alignTo.trans ⟨rfl, rfl, rfl⟩

theorem window?_appendAll : (c.appendAll ps).window? = c.window? := by
  induction ps generalizing c with
  | nil => rfl
  | cons p ps hi => exact hi

theorem dirty_appendAll : (c.appendAll ps).dirty = (c.dirty || !ps.isEmpty) := by
  induction ps generalizing c with
  | nil => simp
  | cons p ps hi =>
    rw [appendAll_cons, hi, dirty_append]
    simp

theorem window?_alignTo : (c.alignTo w?).window? = w?.or c.window? := by
  cases w? with
  | none   => rfl
  | some w => exact window?_setWindow

theorem dirty_setWindow : (c.setWindow w?).dirty = (c.dirty || w? ≠ c.window?) := by
  unfold setWindow
  by_cases h : c.window? = w?
  · simp [h]
  · simp [h, Ne.symm h]

theorem dirty_alignTo :
    (c.alignTo w?).dirty = (c.dirty || (c.alignTo w?).window? ≠ c.window?) := by
  cases w? with
  | none => simp [alignTo]
  | some w =>
    change (c.setWindow (some w)).dirty = (c.dirty || (c.setWindow (some w)).window? ≠ c.window?)
    rw [window?_setWindow, dirty_setWindow]

theorem window?_updated : (c.updated ps w?).window? = w?.or c.window? := by
  rw [updated, window?_alignTo, window?_appendAll]

theorem history_updated : (c.updated ps w?).history = c.history.appendAll ps := by
  rw [updated, history_alignTo, history_appendAll]

-- A chart that is not marked is marked just by a point or another window.
theorem dirty_updated_iff (h : c.dirty = false) : (c.updated ps w?).dirty ↔
    ps ≠ [] ∨ (c.updated ps w?).window? ≠ c.window? := by
  rw [updated, dirty_alignTo, dirty_appendAll, window?_appendAll, h]
  simp

theorem alignTo_eq_self (h : w?.or c.window? = c.window?) : c.alignTo w? = c := by
  cases w? with
  | none   => rfl
  | some w => exact if_pos h.symm

theorem repaint_eq_self (h : c.dirty = false) : c.repaint = c := by
  cases c
  simp_all [repaint]

end Chart

open Chart (Picture)

namespace TabCall

-- What is shown on the surface of a series by a call.
def picture? (s : SeriesKey) : TabCall → Option Picture
  | surface s' screen (.redraw h w?) => if s' = s then some ⟨screen, h, w?⟩ else none
  | _                                => none

def pictures (s : SeriesKey) (calls : List TabCall) : List Picture :=
  calls.filterMap (picture? s)

variable {s : SeriesKey} {call : TabCall} {calls : List TabCall} {c : Chart}

theorem picture?_eq_none (h : ¬call.isRedraw) : call.picture? s = none := by
  unfold isRedraw at h
  unfold picture?
  split <;> simp_all

theorem pictures_eq_nil (h : ∀ call ∈ calls, ¬call.isRedraw) : pictures s calls = [] :=
  List.filterMap_eq_nil_iff.mpr fun call hm => picture?_eq_none (h call hm)

theorem pictures_repaintCalls : pictures s (c.repaintCalls.map (.surface c.key c.surface)) =
    if c.key = s ∧ c.dirty then [c.picture] else [] := by
  unfold Chart.repaintCalls
  by_cases hd : c.dirty
  case neg => simp [hd, pictures]
  case pos => by_cases hk : c.key = s <;> simp [hd, hk, pictures, picture?, Chart.picture]

end TabCall

namespace Tab

variable {t : Tab} {s : SeriesKey} {calls : List TabCall} {n : Nat} {points : List (SeriesKey × Point)}
  {f : Feed} {c : Chart}

-- The shared window depends on no more than the range, the chart that was touched last and the
-- newest point there.
theorem canonical?_eq : t.canonical? =
    match t.range with
    | .fixed w     => some w
    | .follow span =>
      (t.touched?.bind t.history?).bind fun h => h.last?.map fun p => .ending span p.time := by
  unfold canonical? Charts.canonical?
  cases t.range with
  | fixed w     => rfl
  | follow span =>
    cases t.touched? with
    | none   => rfl
    | some s =>
      simp only [Option.bind_some, history?, chart?]
      cases t.charts.find? s <;> rfl

theorem canonical?_pass : (t.pass calls n points).tab.canonical? = (t.appendAll points).canonical? := by
  have hh : (t.pass calls n points).tab.history? = (t.appendAll points).history? :=
    funext fun _ => history?_repaint.trans history?_align
  rw [canonical?_eq, canonical?_eq, hh]
  rfl

theorem chart?_pass : (t.pass calls n points).tab.chart? s =
    (t.chart? s).map fun c =>
      (c.updated (pointsOf s points) (t.pass calls n points).tab.canonical?).repaint := by
  have hr : (t.pass calls n points).tab.chart? s = ((t.appendAll points).align.chart? s).map _ :=
    chart?_repaint
  rw [hr, chart?_align, chart?_appendAll, canonical?_pass, Option.map_map, Option.map_map]
  rfl

-- The charts that a pass is about to draw.
theorem chart?_align_appendAll : (t.appendAll points).align.chart? s =
    (t.chart? s).map (·.updated (pointsOf s points) (t.appendAll points).canonical?) := by
  rw [chart?_align, chart?_appendAll, Option.map_map]
  rfl

theorem pictures_repaintCalls (hk : ∀ s c, t.chart? s = some c → c.key = s) :
    TabCall.pictures s t.repaintCalls =
      ((t.chart? s).map fun c => if c.dirty then [c.picture] else []).getD [] := by
  have hn : ∀ s' c, t.charts.find? s' = some c → s' ≠ s →
      (c.repaintCalls.map (.surface c.key c.surface)).filterMap (TabCall.picture? s) = [] := by
    intro s' c hc hs
    have hs : ¬(c.key = s ∧ c.dirty) := fun h => hs (hk s' c hc ▸ h.left)
    exact TabCall.pictures_repaintCalls.trans (if_neg hs)
  have he := SortedMap.filterMap_flatMap_values hn
  rw [TabCall.pictures, repaintCalls, he, chart?]
  cases hc : t.charts.find? s with
  | none   => rfl
  | some c =>
    have hd := TabCall.pictures_repaintCalls (s := s) (c := c)
    rw [if_congr (and_iff_right (hk s c hc)) rfl rfl] at hd
    exact hd

theorem countP_repaintCalls : t.repaintCalls.countP TabCall.isRedraw = t.charts.dirtyCount := by
  unfold repaintCalls Charts.dirtyCount
  induction t.charts.values with
  | nil => rfl
  | cons c cs hi =>
    rw [List.flatMap_cons, List.countP_append, hi, List.countP_cons]
    by_cases hd : c.dirty <;> simp [Chart.repaintCalls, hd, TabCall.isRedraw, Nat.add_comm]

-- A pass that asks for nothing else draws every chart that got a point or another window.
theorem pictures_pass (hk : ∀ s c, t.chart? s = some c → c.key = s)
    (hr : ∀ call ∈ calls, ¬call.isRedraw) :
    TabCall.pictures s (t.pass calls n points).calls = ((t.chart? s).map fun c =>
      let c' := c.updated (pointsOf s points) (t.pass calls n points).tab.canonical?
      if c'.dirty then [c'.picture] else []).getD [] := by
  have ha : ∀ s, (t.appendAll points).align.chart? s = (t.chart? s).map fun c =>
      c.updated (pointsOf s points) (t.pass calls n points).tab.canonical? := fun s =>
    canonical?_pass ▸ chart?_align_appendAll
  have hk' : ∀ s c, (t.appendAll points).align.chart? s = some c → c.key = s := by
    intro s c' hc'
    rw [ha] at hc'
    obtain ⟨c, hm, rfl⟩ := Option.map_eq_some_iff.mp hc'
    exact Chart.frame_updated.key.trans (hk s c hm)
  have hc : (t.pass calls n points).calls = calls ++ (t.appendAll points).align.repaintCalls := rfl
  rw [hc, TabCall.pictures, List.filterMap_append]
  change TabCall.pictures s calls ++ TabCall.pictures s _ = _
  rw [TabCall.pictures_eq_nil hr, pictures_repaintCalls hk', ha, Option.map_map]
  rfl

theorem countP_pass (hr : ∀ call ∈ calls, ¬call.isRedraw) :
    (t.pass calls n points).calls.countP TabCall.isRedraw =
      (t.pass calls n points).delivery.redrawn := by
  have hc : calls.countP TabCall.isRedraw = 0 := List.countP_eq_zero.mpr hr
  have hp : (t.pass calls n points).calls = calls ++ (t.appendAll points).align.repaintCalls := rfl
  rw [hp, List.countP_append, hc, countP_repaintCalls, Nat.zero_add]
  rfl

-- The chart that was touched last.

def TouchesPoint (t : Tab) : Prop :=
  ∀ s, t.touched? = some s → ∃ h, t.history? s = some h ∧ h.last? ≠ none

theorem touchesPoint_append {p : Point} (h : t.TouchesPoint) : (t.append s p).TouchesPoint := by
  intro s' hs
  rw [history?_append]
  unfold append at hs
  split at hs
  case isTrue hc =>
    obtain rfl : s = s' := Option.some.inj hs
    rw [← isSome_history?, Option.isSome_iff_exists] at hc
    obtain ⟨h₀, hh⟩ := hc
    exact ⟨h₀.append p, by simp [hh], by simp⟩
  case isFalse hc =>
    obtain ⟨h₀, hh, hl⟩ := h s' hs
    have hn : s ≠ s' := by
      rintro rfl
      simp [← isSome_history?, hh] at hc
    exact ⟨h₀, by simp [hh, hn], hl⟩

theorem touchesPoint_appendAll (h : t.TouchesPoint) : (t.appendAll points).TouchesPoint := by
  induction points generalizing t with
  | nil => exact h
  | cons _ _ hi => exact hi (touchesPoint_append h)

theorem touchesPoint_pass (h : t.TouchesPoint) : (t.pass calls n points).tab.TouchesPoint := by
  intro s hs
  have hh : (t.pass calls n points).tab.history? s = (t.appendAll points).history? s :=
    history?_repaint.trans history?_align
  rw [hh]
  exact touchesPoint_appendAll h s hs

-- What becomes of a chart by a feed. It gets the points that are for it and may get another window,
-- unless nothing comes of the feed.
theorem chart?_feed {c' : Chart} (h : (t.feed f).chart? s = some c') : ∃ c, t.chart? s = some c ∧
    (c' = c ∧ f.points s = [] ∨ ∃ w?, c' = (c.updated (f.points s) w?).repaint) := by
  unfold feed at h
  generalize ht : t.take? f = p? at h
  have hf : t.Takes f p? := ht ▸ takes
  cases hf with
  | nothing hn =>
    replace h : t.chart? s = some c' := h
    exact ⟨c', h, .inl ⟨rfl, hn s (by rw [hasChart_eq_isSome, h]; rfl)⟩⟩
  | pass calls n points _ _ hp =>
    rw [Option.map_some, Option.getD_some, chart?_pass, chart?_ranged] at h
    obtain ⟨c, hc, rfl⟩ := Option.map_eq_some_iff.mp h
    rw [hp s (by rw [hasChart_eq_isSome, hc]; rfl)]
    exact ⟨c, hc, .inr ⟨_, rfl⟩⟩

-- What holds of a tab between two passes.
structure Settled (t : Tab) : Prop where
  key     : ∀ s c, t.chart? s = some c → c.key = s
  clean   : ∀ s c, t.chart? s = some c → c.dirty = false
  touched : t.TouchesPoint

-- The calls that a feed asks for.
def feedCalls (t : Tab) (f : Feed) : List TabCall :=
  ((t.take? f).map Pass.calls).getD []

end Tab

namespace Tab

-- What a feed asks for: it tells the renderer, shows a value next to the legend of its chart, or
-- draws a chart with the points that it has got.
inductive Asks (t : Tab) (f : Feed) : TabCall → Prop
  | snapshot : Asks t f (.snapshot r data time)
  | batch : Asks t f (.batch r d entries)
  | legend (hf : f = .value s y time) (hc : t.chart? s = some c) :
    Asks t f (.surface c.key c.surface (.legend y))
  | redraw (hc : t.chart? s = some c) :
    Asks t f (.surface c.key c.surface (.redraw (c.history.appendAll (f.points s)) w?))

variable {t : Tab} {calls : List TabCall} {call : TabCall} {n : Nat}
  {points : List (SeriesKey × Point)} {f : Feed}

theorem asks_of_mem_pass (hm : call ∈ (t.pass calls n points).calls)
    (hc : ∀ call ∈ calls, t.Asks f call)
    (hp : ∀ s, t.hasChart s → pointsOf s points = f.points s) : t.Asks f call := by
  cases List.mem_append.mp hm with
  | inl hm => exact hc call hm
  | inr hm =>
    obtain ⟨c', hv, hm⟩ := List.mem_flatMap.mp hm
    obtain ⟨s, hs⟩ := SortedMap.mem_values_iff.mp hv
    replace hs : (t.appendAll points).align.chart? s = some c' := hs
    rw [chart?_align_appendAll] at hs
    obtain ⟨c, ht, rfl⟩ := Option.map_eq_some_iff.mp hs
    have hf : Chart.Frame c (c.updated (pointsOf s points) (t.appendAll points).canonical?) :=
      Chart.frame_appendAll.trans Chart.frame_alignTo
    unfold Chart.repaintCalls at hm
    split at hm
    case isFalse => contradiction
    case isTrue =>
      obtain rfl := List.mem_singleton.mp hm
      rw [hf.key, hf.surface, Chart.history_updated, hp s (by simp [hasChart_eq_isSome, ht])]
      exact .redraw ht

theorem asks_of_mem_feedCalls (hm : call ∈ t.feedCalls f) : t.Asks f call := by
  cases f with
  | snapshot =>
    refine asks_of_mem_pass hm (fun call hm => ?_) fun s hs => pointsOf_snapshotPoints hs
    obtain rfl := List.mem_singleton.mp hm
    exact .snapshot
  | batch =>
    refine asks_of_mem_pass hm (fun call hm => ?_) fun s hs => pointsOf_batchPoints hs
    split at hm
    · obtain rfl := List.mem_singleton.mp hm
      exact .batch
    · contradiction
  | range r =>
    have h : Asks { t with range := r } (.range r) call :=
      asks_of_mem_pass hm (by simp) fun _ _ => rfl
    cases h with
    | snapshot  => exact .snapshot
    | batch     => exact .batch
    | legend hf => contradiction
    | redraw hc => exact .redraw hc
  | value s y time =>
    cases hc : t.chart? s with
    | none   => simp [feedCalls, take?, takeValue?, hc] at hm
    | some c =>
      simp only [feedCalls, take?, takeValue?, hc, Option.map_some, Option.getD_some] at hm
      refine asks_of_mem_pass hm (fun call hm => ?_) fun s' _ => ?_
      · obtain rfl := List.mem_singleton.mp hm
        exact .legend rfl hc
      · by_cases h : s = s' <;> simp [pointsOf, Feed.points, h]

end Tab

-- What becomes of a chart that was not marked when it gets some points, and what is drawn of it.
structure Chart.Shows (c : Chart) (ps : List Point) (c' : Chart) (ds : List Picture) : Prop where
  frame   : Frame c c'
  clean   : c'.dirty = false
  history : c'.history = c.history.appendAll ps
  drawn   : ds = if ps ≠ [] ∨ c'.window? ≠ c.window? then [c'.picture] else []

namespace Chart

variable {c c' : Chart} {ps : List Point} {w? : Option Window} {ds : List Picture}

theorem Shows.refl (h : c.dirty = false) : c.Shows [] c [] :=
  ⟨⟨rfl, rfl, rfl⟩, h, rfl, by simp⟩

theorem shows_updated (h : c.dirty = false) : c.Shows ps (c.updated ps w?).repaint
    (if (c.updated ps w?).dirty then [(c.updated ps w?).picture] else []) where
  frame   := frame_updated
  clean   := rfl
  history := history_updated
  drawn   := by
    have hd : (c.updated ps w?).dirty ↔ ps ≠ [] ∨ (c.updated ps w?).window? ≠ c.window? :=
      dirty_updated_iff h
    exact ite_congr (propext hd) (fun _ => rfl) (fun _ => rfl)

end Chart

namespace Tab.Settled

variable {t : Tab} {s : SeriesKey} {calls : List TabCall} {n : Nat} {points : List (SeriesKey × Point)}
  {f : Feed} {c : Chart}

theorem ranged (h : t.Settled) : (t.ranged f).Settled := by
  cases f <;> exact ⟨h.key, h.clean, h.touched⟩

theorem pass (h : t.Settled) : (t.pass calls n points).tab.Settled where
  key s c' hc := by
    rw [chart?_pass] at hc
    obtain ⟨c, hm, rfl⟩ := Option.map_eq_some_iff.mp hc
    exact Chart.frame_updated.key.trans (h.key s c hm)
  clean s c' hc := by
    rw [chart?_pass] at hc
    obtain ⟨c, _, rfl⟩ := Option.map_eq_some_iff.mp hc
    rfl
  touched := touchesPoint_pass h.touched

theorem feed (h : t.Settled) : (t.feed f).Settled := by
  unfold Tab.feed
  generalize ht : t.take? f = p?
  have hf : t.Takes f p? := ht ▸ takes
  cases hf with
  | pass    => exact h.ranged.pass
  | nothing => exact h

-- Nothing is opened or drawn for a series without a chart.
theorem unshown_feed (h : t.Settled) (hc : t.chart? s = none) :
    (t.feed f).chart? s = none ∧ TabCall.pictures s (t.feedCalls f) = [] := by
  unfold Tab.feed feedCalls
  generalize ht : t.take? f = p?
  have hf : t.Takes f p? := ht ▸ takes
  cases hf with
  | nothing => exact ⟨hc, rfl⟩
  | pass calls n points hr =>
    have hc' : (t.ranged f).chart? s = none := chart?_ranged.trans hc
    simp only [Option.map_some, Option.getD_some]
    rw [chart?_pass, pictures_pass h.ranged.key hr, hc']
    exact ⟨rfl, rfl⟩

-- Every chart of the tab shows the points that the feed has for it.
theorem shows_feed (h : t.Settled) (hc : t.chart? s = some c) : ∃ c',
    (t.feed f).chart? s = some c' ∧
      c.Shows (f.points s) c' (TabCall.pictures s (t.feedCalls f)) := by
  have hs : t.hasChart s := by simp [hasChart_eq_isSome, hc]
  unfold Tab.feed feedCalls
  generalize ht : t.take? f = p?
  have hf : t.Takes f p? := ht ▸ takes
  cases hf with
  | nothing hn =>
    rw [hn s hs]
    exact ⟨c, hc, .refl (h.clean s c hc)⟩
  | pass calls n points hr _ hp =>
    have hc' : (t.ranged f).chart? s = some c := chart?_ranged.trans hc
    simp only [Option.map_some, Option.getD_some]
    rw [chart?_pass, pictures_pass h.ranged.key hr, hc', hp s hs]
    exact ⟨_, rfl, Chart.shows_updated (h.clean s c hc)⟩

end Tab.Settled
end FleetMonitor
